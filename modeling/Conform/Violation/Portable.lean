import Conform.Value.Equality
import Conform.Violation.Basic

/-!
# Portable violations

A violation as a mapping of plain data and back.  Places are written as text; on the way back, text
made of ASCII digits alone becomes an index.
-/

namespace Conform

namespace Violation

/-- The mapping of a violation. -/
def toPortable (violation : Violation) : Attempt Value := do
  let places ← placeTexts violation.path
  let code ← violation.code.plain
  let entries : List (String × Value) :=
    [("path", .ofStrings places), ("code", .str code), ("message", violation.message)]
  return .record
    (entries ++ if violation.context.isNull then [] else [("context", violation.context)])

/-- Why a value is no portable violation. -/
inductive PortableFlaw where
  | notMapping
  | missing (field : String)
  | malformed (field expected : String)

namespace PortableFlaw

/-- The wording of a flaw. -/
def message : PortableFlaw → String
  | .notMapping => "expected a mapping"
  | .missing field => "missing '" ++ field ++ "' field"
  | .malformed field expected => "invalid '" ++ field ++ "' field, expected " ++ expected

end PortableFlaw

/-- The place that a member of a portable path stands for. -/
def restorePlace (place : Value) : Attempt Value :=
  match place with
  | .str text =>
    let digits := text.toList
    if !digits.isEmpty && digits.all Digits.isDigit then
      if digitLimit < digits.length then .error (.digitsToRead digits.length)
      else .ok (.int (Digits.read digits))
    else .ok (.str text)
  | other => .ok other

/-- The path of a portable violation. -/
def portablePath (entries : Entries) : Except PortableFlaw (List Value) :=
  match entries.getText "path" with
  | .null => .error (.missing "path")
  | .list places | .tuple places => .ok places
  | _ => .error (.malformed "path" "list")

/-- A text of a portable violation. -/
def portableText (entries : Entries) (field : String) : Except PortableFlaw String :=
  match entries.getText field with
  | .null => .error (.missing field)
  | .str text => .ok text
  | _ => .error (.malformed field "string")

/-- The details of a portable violation, which may be absent. -/
def portableContext (entries : Entries) : Except PortableFlaw Value :=
  match entries.getText "context" with
  | .null => .ok .null
  | .map details => .ok (.map details)
  | _ => .error (.malformed "context" "mapping")

/-- The parts of a portable violation, as far as they have the right form. -/
def portableParts (entries : Entries) :
    Except PortableFlaw (List Value × String × String × Value) := do
  let path ← portablePath entries
  let code ← portableText entries "code"
  let message ← portableText entries "message"
  let context ← portableContext entries
  return (path, code, message, context)

/-- The violation of a mapping, or the reason why it is none. -/
def ofPortable (data : Value) : Attempt (Except PortableFlaw Violation) :=
  match data with
  | .map entries =>
    match portableParts entries with
    | .error flaw => .ok (.error flaw)
    | .ok (path, code, message, context) => do
      let places ← path.mapM restorePlace
      return .ok ⟨places, .str code, .str message, context⟩
  | _ => .ok (.error .notMapping)

end Violation

end Conform
