import Conform.Value.Access
import Conform.Violation.Basic

/-!
# Violations as text

One line per violation, the account of a whole rejection, and the table that shows violations to a
reader.
-/

namespace Conform

namespace Violation

/-- The places of a path joined by a separator, which has to be text. -/
def joinPlaces (separator : Value) (path : Path) : Attempt String :=
  match separator with
  | .str text => do return joinWith text (← placeTexts path)
  | .bytes _ | .bytearray _ => do
    let _ ← placeTexts path
    throw .notText
  | .type .text | .type .bytes => .error .unsupported
  | _ => .error .missingAttribute

/-- The line of a violation: its path and its message, or the message alone. -/
def format (includePath : Bool) (separator : Value) (violation : Violation) : Attempt Value :=
  if includePath && !violation.path.isEmpty then do
    let place ← joinPlaces separator violation.path
    return .str (place ++ ": " ++ (← violation.message.plain))
  else .ok violation.message

/-- The line of a violation with its path, places joined by points. -/
def line (violation : Violation) : Attempt Value := violation.format true (.str ".")

/-- The lines of violations, which have to be text. -/
def lines (includePath : Bool) (separator : Value) (violations : List Violation) :
    Attempt String := do
  let lines ← violations.mapM (format includePath separator)
  let texts ← lines.mapM fun line =>
    match line with
    | .str text => Except.ok text
    | _ => Except.error Fault.notText
  return joinWith "\n" texts

/-- The account of a rejection. -/
def account (violations : List Violation) : Attempt String :=
  match violations with
  | [] => .ok "Validation failed"
  | [violation] => do return "Validation failed: " ++ (← (← violation.line).plain)
  | _ => do
    return s!"Validation failed with {violations.length} errors:\n" ++
      (← lines true (.str ".") violations)

end Violation

/-- A titled table of texts. -/
structure Panel where
  title : String
  headers : List String
  rows : List (String × String × String)

namespace Panel

/-- The headers of a table of violations. -/
def violationHeaders : List String := ["Path", "Code", "Message"]

/-- The text in a cell, which is empty where there is nothing to show. -/
def cell (value : Value) : Attempt String :=
  match value with
  | .str text => .ok text
  | .null => .ok ""
  | _ => .error .unrenderable

/-- The row of a violation. -/
def row (violation : Violation) : Attempt (String × String × String) := do
  let place := joinWith "." (← Violation.placeTexts violation.path)
  let code ← cell violation.code
  let message ← cell violation.message
  return (if place = "" then "(root)" else place, code, message)

/-- The table of violations, with a title of its own if one is given. -/
def ofViolations (violations : List Violation) (title : Value) : Attempt Panel := do
  let rows ← violations.mapM row
  let heading := s!"Validation failed: {violations.length} error(s)"
  let heading ← if title.truthy then do pure ((← title.plain) ++ " - " ++ heading) else pure heading
  return ⟨"[bold red]" ++ heading ++ "[/bold red]", violationHeaders, rows⟩

end Panel

end Conform
