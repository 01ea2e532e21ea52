import Conform.Fault
import Conform.Number.Shortest
import Conform.Text.Quoted

/-!
# The literal form of values

Messages show values in a literal form: quoted text, bracketed containers, named parts of records.
`Value.plain` is the same except that a text, a symbol and an enumeration member stand for
themselves.  Only a whole number that is too long to be written has no literal form.
-/

namespace Conform

/-- The digits of a whole number, within the limit. -/
def writeInt (n : Int) : Attempt String :=
  if withinDigitLimit n then .ok (wholeText n) else .error .digitsToWrite

/-- The text of a truth value. -/
def boolText (flag : Bool) : String := if flag then "True" else "False"

/-- Brackets around texts with commas between them. -/
def bracketed (opening closing : String) (texts : List String) : String :=
  opening ++ joinWith ", " texts ++ closing

/-- Members in round brackets; a single one is followed by a comma. -/
def tupled : List String → String
  | [only] => "(" ++ only ++ ",)"
  | texts => bracketed "(" ")" texts

/-- A named record with its parts. -/
def recordText (name : String) (parts : List (String × String)) : String :=
  bracketed (name ++ "(") ")" (parts.map fun (part, text) => part ++ "=" ++ text)

namespace Pattern

/-- The source of a pattern between quotes. -/
def quotedSource (pattern : Pattern) : String :=
  match pattern.source with
  | .text source => quoted source
  | .bytes octets => quotedBytes octets

/-- How many characters of the quoted source of a pattern its literal form shows. -/
def shownLength : Nat := 200

/-- The literal form of a pattern. -/
def literal (pattern : Pattern) : String :=
  let source := String.ofList (pattern.quotedSource.toList.take shownLength)
  match pattern.flags.names with
  | [] => "re.compile(" ++ source ++ ")"
  | names => "re.compile(" ++ source ++ ", " ++ joinWith "|" names ++ ")"

end Pattern

namespace Kind

/-- The literal form of a kind. -/
def literal (kind : Kind) : String :=
  "<Kind." ++ kind.memberName ++ ": " ++ quoted kind.name ++ ">"

end Kind

mutual

/-- The literal form of a value. -/
def Value.literal : Value → Attempt String
  | .null => .ok "None"
  | .bool flag => .ok (boolText flag)
  | .int n => writeInt n
  | .float x => .ok x.text
  | .str text => .ok (quoted text)
  | .bytes octets => .ok (quotedBytes octets)
  | .bytearray octets => .ok ("bytearray(" ++ quotedBytes octets ++ ")")
  | .list items => do return bracketed "[" "]" (← Value.literals items)
  | .tuple items => do return tupled (← Value.literals items)
  | .set items => do
    match ← Value.literals items with
    | [] => return "set()"
    | texts => return bracketed "\x7b" "\x7d" texts
  | .frozenset items => do
    match ← Value.literals items with
    | [] => return "frozenset()"
    | texts => return bracketed "frozenset(\x7b" "\x7d)" texts
  | .map entries => do return bracketed "\x7b" "\x7d" (← Value.entryLiterals entries)
  | .symbol name => .ok ("Symbol(" ++ quoted name ++ ")")
  | .member family name payload => do
    return "<" ++ family ++ "." ++ name ++ ": " ++ (← payload.literal) ++ ">"
  | .enumeration name _ => .ok ("<enum " ++ quoted name ++ ">")
  | .pattern pattern => .ok pattern.literal
  | .type type => .ok ("<class " ++ quoted type.qualifiedName ++ ">")
  | .spec node => node.literal
  | .violation record => record.literal
  | .ok value => do return recordText "Ok" [("value", ← value.literal)]
  | .err reason => do return recordText "Err" [("error", ← reason.literal)]
  | .target object => .ok ("<" ++ object.name ++ ">")
  | .schema _ schema => schema.literal

/-- The literal forms of values. -/
def Value.literals : List Value → Attempt (List String)
  | [] => .ok []
  | value :: rest => do return (← value.literal) :: (← Value.literals rest)

/-- The literal forms of the entries of a mapping. -/
def Value.entryLiterals : List (Value × Value) → Attempt (List String)
  | [] => .ok []
  | (key, value) :: rest => do
    let keyText ← key.literal
    let valueText ← value.literal
    return (keyText ++ ": " ++ valueText) :: (← Value.entryLiterals rest)

/-- The literal form of a type specification. -/
def TypeSpec.literal : TypeSpec → Attempt String
  | .primitive kind => .ok (recordText "Primitive" [("kind", kind.literal)])
  | .unknownKind kind => do return recordText "Primitive" [("kind", ← kind.literal)]
  | .array inner minItems maxItems => do
    return recordText "ArrayType" [("inner", ← inner.literal),
      ("min_items", ← minItems.literal), ("max_items", ← maxItems.literal)]
  | .union alternatives => do
    return recordText "UnionType" [("alternatives", tupled (← TypeSpec.literals alternatives))]
  | .rawUnion alternatives => do
    return recordText "UnionType" [("alternatives", ← alternatives.literal)]
  | .tuple elements => do
    return recordText "TupleType" [("elements", tupled (← TypeSpec.literals elements))]
  | .rawTuple elements => do return recordText "TupleType" [("elements", ← elements.literal)]
  | .map key value => do
    return recordText "MapType" [("key", ← key.literal), ("value", ← value.literal)]
  | .ref target => do return recordText "RefType" [("target", ← target.literal)]
  | .raw component => component.literal

/-- The literal forms of type specifications. -/
def TypeSpec.literals : List TypeSpec → Attempt (List String)
  | [] => .ok []
  | spec :: rest => do return (← spec.literal) :: (← TypeSpec.literals rest)

/-- The literal form of a violation record. -/
def Violation.literal : Violation → Attempt String
  | ⟨path, code, message, context⟩ => do
    return recordText "ValidationError" [("path", tupled (← Value.literals path)),
      ("code", ← code.literal), ("message", ← message.literal), ("context", ← context.literal)]

/-- The literal form of a schema: its title, the names of its fields and its strictness. -/
def Schema.literal : Schema → Attempt String
  | ⟨fields, title, _, strict, _, _⟩ => do
    let titleText ← if title.truthy then do pure (" " ++ (← title.literal)) else pure ""
    let names := bracketed "[" "]" (fields.map fun field => quoted field.name)
    return "<Schema" ++ titleText ++ " fields=" ++ names ++ " strict=" ++ boolText strict ++ ">"

end

namespace Value

/-- The plain text of a value: a text or symbol itself, a member by its qualified name, anything
else in its literal form. -/
def plain : Value → Attempt String
  | .str text => .ok text
  | .symbol name => .ok name
  | .member family name _ => .ok (family ++ "." ++ name)
  | other => other.literal

/-- The literal form of a list of texts. -/
def literalTexts (texts : List String) : String := bracketed "[" "]" (texts.map quoted)

end Value

end Conform
