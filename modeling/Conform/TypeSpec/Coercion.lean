import Conform.Environment
import Conform.Number.Numeral
import Conform.TypeSpec.Form
import Conform.Violation.Basic

/-!
# Coercion

Conversions that are tried before a check when the caller asks for them.  The list of conversions is
closed: a value that is not on it is refused.  Mappings, tuples, references and the unrestricted
kind pass values through, so that their verdict stays with the check.
-/

namespace Conform

/-- A check of a value that lies at a path. -/
abbrev Checker := Value → Path → Attempt (Verdict Value)

namespace Check

/-- Check the members of a sequence in order, at consecutive indices; the accepted values and all
violations. -/
def members (path : Path) : Nat → List (Checker × Value) → Attempt (List Value × List Violation)
  | _, [] => .ok ([], [])
  | index, (checker, item) :: rest => do
    let verdict ← checker item (path ++ [.int index])
    let (values, violations) ← members path (index + 1) rest
    match verdict with
    | .accepted value => return (value :: values, violations)
    | .rejected found => return (values, found ++ violations)

/-- The first verdict that accepts, of checks tried in order. -/
def firstAccepted (value : Value) (path : Path) : List Checker → Attempt (Option Value)
  | [] => .ok none
  | checker :: rest => do
    match ← checker value path with
    | .accepted result => return some result
    | .rejected _ => firstAccepted value path rest

/-- The verdict on a whole, given what became of its parts. -/
def conclude (build : List Value → Value) (parts : List Value × List Violation) : Verdict Value :=
  if parts.2.isEmpty then .accepted (build parts.1) else .rejected parts.2

end Check

namespace Coercion

/-- The whole number of an integer text, within the digit limit. -/
def readInteger (chars : List Char) : Attempt Int :=
  let (negative, digits) := Whole.splitSign chars
  if digitLimit < digits.length then .error (.digitsToRead digits.length)
  else
    let size : Int := Digits.read digits
    .ok (if negative then -size else size)

/-- A refusal, for the given reason. -/
def refuse (spec : TypeSpec) (value : Value) (path : Path) (reason : String) :
    Attempt (Verdict Value) := do
  return .rejected [.notCoercible path (← spec.describe) value.sortName reason]

/-- Accept a value. -/
def accept (value : Value) : Attempt (Verdict Value) := .ok (.accepted value)

/-- Convert to text. -/
def toText (spec : TypeSpec) (value : Value) (path : Path) : Attempt (Verdict Value) :=
  match value with
  | .str text => accept (.str text)
  | .bool flag => accept (.str (if flag then "true" else "false"))
  | .int n => do accept (.str (← writeInt n))
  | .float x => accept (.str x.text)
  | .symbol name => accept (.str name)
  | .member _ name _ => accept (.str name)
  | _ => refuse spec value path "unsupported conversion"

/-- Convert to a whole number. -/
def toInteger (spec : TypeSpec) (value : Value) (path : Path) : Attempt (Verdict Value) :=
  match value with
  | .int n => accept (.int n)
  | .str text =>
    if Numeral.isInteger text.toList then do accept (.int (← readInteger text.toList))
    else refuse spec value path "invalid integer format"
  | _ => refuse spec value path "unsupported conversion"

/-- Accept the double nearest to a whole number, if there is one. -/
def acceptNearest : Option Double → Attempt (Verdict Value)
  | some x => accept (.float x)
  | none => .error .doubleRange

/-- Convert to a double. -/
def toFloat (spec : TypeSpec) (value : Value) (path : Path) : Attempt (Verdict Value) :=
  match value with
  | .float x => accept (.float x)
  | .int n => acceptNearest (Double.ofInt? n)
  | .str text =>
    if Numeral.isDecimal text.toList then accept (.float (Double.readDecimal text.toList))
    else refuse spec value path "invalid float format"
  | _ => refuse spec value path "unsupported conversion"

/-- Convert to a truth value. -/
def toBoolean (spec : TypeSpec) (value : Value) (path : Path) : Attempt (Verdict Value) :=
  match value with
  | .bool flag => accept (.bool flag)
  | .str "true" => accept (.bool true)
  | .str "false" => accept (.bool false)
  | _ => refuse spec value path "expected 'true' or 'false'"

/-- Convert to an atom: a text becomes the symbol of that name only when it exists. -/
def toAtom (env : Environment) (spec : TypeSpec) (value : Value) (path : Path) :
    Attempt (Verdict Value) :=
  match value with
  | .symbol _ | .member .. => accept value
  | .str text =>
    if env.knows text then accept (.symbol text)
    else refuse spec value path "atom does not exist"
  | _ => refuse spec value path "unsupported conversion"

/-- Convert to a primitive kind. -/
def toKind (env : Environment) (kind : Kind) : Checker := fun value path =>
  match kind with
  | .any | .map => accept value
  | .string => toText (.primitive kind) value path
  | .integer => toInteger (.primitive kind) value path
  | .float => toFloat (.primitive kind) value path
  | .boolean => toBoolean (.primitive kind) value path
  | .atom => toAtom env (.primitive kind) value path

/-- Convert to a kind that is none: to an atom, unless it equals one of the kinds that pass values
through. -/
def toUnknownKind (env : Environment) (kind : Value) : Checker :=
  if kind == .str Kind.any.name || kind == .str Kind.map.name then fun value _ => accept value
  else toAtom env (.unknownKind kind)

/-- Convert every member of a sequence; other values pass through. -/
def toArray (inner : Checker) : Checker := fun value path =>
  match value.items? with
  | none => accept value
  | some items => do
    return Check.conclude .list (← Check.members path 0 (items.map fun item => (inner, item)))

/-- Convert to the first alternative that can. -/
def toUnion (spec : TypeSpec) (alternatives : List Checker) : Checker := fun value path => do
  match ← Check.firstAccepted value path alternatives with
  | some result => accept result
  | none => refuse spec value path "no type in union could coerce value"

/-- Convert to the first alternative that can, of those that stand in a raw union. -/
def toRawUnion (spec : TypeSpec) (alternatives : Attempt (List Checker)) : Checker :=
  fun value path => do toUnion spec (← alternatives) value path

end Coercion

mutual

/-- Convert a value to a type, as far as conversions go. -/
def TypeSpec.coerce (env : Environment) : TypeSpec → Checker
  | .primitive kind => Coercion.toKind env kind
  | .unknownKind kind => Coercion.toUnknownKind env kind
  | .array inner _ _ => Coercion.toArray (TypeSpec.coerce env inner)
  | .union alternatives =>
    Coercion.toUnion (.union alternatives) (TypeSpec.coercers env alternatives)
  | .rawUnion alternatives =>
    Coercion.toRawUnion (.rawUnion alternatives) (alternatives.memberCoercers env)
  | .tuple _ | .rawTuple _ | .map .. | .ref _ | .raw _ => fun value _ => Coercion.accept value

/-- The conversions to several types. -/
def TypeSpec.coercers (env : Environment) : List TypeSpec → List Checker
  | [] => []
  | spec :: rest => TypeSpec.coerce env spec :: TypeSpec.coercers env rest

/-- The conversions to the components that a value yields. -/
def Value.memberCoercers (env : Environment) : Value → Attempt (List Checker)
  | .list items | .tuple items | .set items | .frozenset items =>
    .ok (Value.eachCoercer env items)
  | .map entries => .ok (Value.keyCoercers env entries)
  | other => do return (← other.elements).map fun _ value _ => Coercion.accept value

/-- The conversions to values as components. -/
def Value.eachCoercer (env : Environment) : List Value → List Checker
  | [] => []
  | .spec spec :: rest => TypeSpec.coerce env spec :: Value.eachCoercer env rest
  | _ :: rest => (fun value _ => Coercion.accept value) :: Value.eachCoercer env rest

/-- The conversions to the keys of entries as components. -/
def Value.keyCoercers (env : Environment) : List (Value × Value) → List Checker
  | [] => []
  | (.spec spec, _) :: rest => TypeSpec.coerce env spec :: Value.keyCoercers env rest
  | _ :: rest => (fun value _ => Coercion.accept value) :: Value.keyCoercers env rest

end

/-- The conversions to several types are those to each of them. -/
@[simp] theorem TypeSpec.coercers_eq_map (env : Environment) (specs : List TypeSpec) :
    TypeSpec.coercers env specs = specs.map (TypeSpec.coerce env) := by
  induction specs with
  | nil => rfl
  | cons spec rest ih => rw [coercers, ih, List.map_cons]

end Conform
