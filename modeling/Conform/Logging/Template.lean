import Conform.Constraint
import Conform.Logging.Directive

/-!
# Templates of log lines

A template is text with directives in it, which stand for parts of a record.  Two percent signs
stand for one.
-/

namespace Conform

/-- Text with directives in it. -/
structure Template where
  text : String

namespace Template

/-- What a directive looks like. -/
def form : Pattern where
  source := .text "%\\(\\w+\\)[#0+ -]*(\\*|\\d+)?(\\.(\\*|\\d+))?[diouxefgcrsa%]"
  flags := { ignoreCase := true }

/-- The template of a text, which has to hold at least one directive. -/
def ofText (text : String) : Attempt Template := do
  if ← form.occursIn text then return ⟨text⟩ else throw (.malformedFormat text)

/-- A piece of a template. -/
inductive Piece where
  | literal (c : Char)
  | part (directive : Directive)

/-- The pieces of a text, if all its directives can be read; `skip` is the number of characters that
belong to the directive before. -/
def piecesOf : Nat → List Char → Option (List Piece)
  | _, [] => some []
  | skip + 1, _ :: rest => piecesOf skip rest
  | 0, '%' :: rest =>
    match rest with
    | '%' :: _ => (piecesOf 1 rest).map (.literal '%' :: ·)
    | _ => do
      let (directive, after) ← Directive.read? rest
      return .part directive :: (← piecesOf (rest.length - after.length) rest)
  | 0, c :: rest => (piecesOf 0 rest).map (.literal c :: ·)

/-- The text of a piece, if the parts have it. -/
def Piece.fill (parts : List (String × RecordPart)) : Piece → Option String
  | .literal c => some c.toString
  | .part directive => do directive.show? (← parts.lookup directive.name)

/-- The line of a record, if the template asks only for parts that it has. -/
def fill (template : Template) (parts : List (String × RecordPart)) : Option String := do
  return String.join (← (← piecesOf 0 template.text.toList).mapM (·.fill parts))

end Template

end Conform
