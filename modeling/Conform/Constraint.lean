import Conform.Pattern.Search
import Conform.Value.Access
import Conform.Violation.Basic

/-!
# Constraints

A constraint is a name and a bound, checked against a value that already has its type.  A violated
constraint gives one violation whose code is the name of the constraint.  A constraint that does not
apply to the sort of the value or of the bound is satisfied.
-/

namespace Conform

/-- Whether a list occurs in another without gaps. -/
def occursIn {α : Type} [BEq α] (part : List α) : List α → Bool
  | [] => part.isEmpty
  | first :: rest => part.isPrefixOf (first :: rest) || occursIn part rest

namespace Pattern

/-- The fault of a refused pattern. -/
def faultOf : Regex.Refusal → Fault
  | .malformed => .malformedPattern
  | .repetitionRange => .repetitionRange
  | .digitsToRead length => .digitsToRead length
  | .conflictingSettings => .conflictingSettings
  | .lookbehindRange => .lookbehindRange
  | .reversedGroup => .reversedGroup

/-- The pattern of a text, which has to be well-formed. -/
def ofText (source : String) (flags : Flags) : Attempt Pattern :=
  (compile source flags).mapError faultOf

/-- Whether a pattern occurs in a text, or the fault of a malformed one.  A pattern of bytes cannot
be sought in a text. -/
def occursIn (pattern : Pattern) (text : String) : Attempt Bool :=
  match pattern.source with
  | .text source => (search source pattern.flags text).mapError faultOf
  | .bytes _ => .error .unsupported

end Pattern

namespace Value

/-- Whether a number occurs among bytes. -/
def numberWithin (bytes : List UInt8) (n : Int) : Attempt Bool :=
  if 0 ≤ n ∧ n < 256 then .ok (bytes.any fun octet => (octet.toNat : Int) == n)
  else .error .byteRange

/-- Whether bytes hold a number, or other bytes as a part; nothing for other values. -/
def withinOctets (value : Value) (octets : List UInt8) : Attempt (Option Bool) :=
  match value with
  | .int n => do return some (← numberWithin octets n)
  | .bool flag => do return some (← numberWithin octets (if flag then 1 else 0))
  | .bytes part | .bytearray part => .ok (some (Conform.occursIn part octets))
  | _ => .ok none

/-- Whether a value can be looked up in a set: it can be a member, or it is a set that stands for an
equal one that can. -/
def isSought (value : Value) : Bool :=
  match value with
  | .set _ => true
  | _ => value.hashable

/-- Whether a value is a member of an enumeration. -/
def isMember : Value → Bool
  | .member .. => true
  | _ => false

/-- Whether a value is among those that a collection holds, being identical or equal to one of them;
nothing when it cannot be asked. -/
def within? (value allowed : Value) : Attempt (Option Bool) :=
  let found (items : List Value) : Bool := items.any fun item => item == value
  match allowed with
  | .list items | .tuple items => .ok (some (found items))
  | .set items | .frozenset items => .ok (if value.isSought then some (found items) else none)
  | .map entries => .ok (if value.hashable then some (Entries.has entries value) else none)
  | .enumeration name members =>
    .ok (if value.isMember then
      some (found (members.map fun (label, payload) => .member name label payload)) else none)
  | .str text =>
    match value with
    | .str part => .ok (some (Conform.occursIn part.toList text.toList))
    | _ => .ok none
  | .bytes octets | .bytearray octets => value.withinOctets octets
  | _ => .ok none

/-- The length of a text or sequence, with the unit it is counted in. -/
def sized? : Value → Option (Nat × String)
  | .str text => some (text.length, "characters")
  | .list items | .tuple items => some (items.length, "items")
  | _ => none

/-- The pattern that a bound of a format stands for. -/
def asPattern? : Value → Option Pattern
  | .str source => some ⟨.text source, {}⟩
  | .pattern expression => some expression
  | _ => none

end Value

namespace Constraint

/-- A message, unless a condition holds. -/
def unlessHolds (holds : Bool) (message : Attempt String) : Attempt (Option String) :=
  if holds then .ok none else do return some (← message)

/-- The number of a bound that is one. -/
def numbered (bound : Value) (check : Number → Attempt (Option String)) : Attempt (Option String) :=
  match bound.number? with
  | some number => check number
  | none => .ok none

/-- Compare a length with the bound. -/
def checkLength (holds : Number → Number → Bool) (leading : String) (bound value : Value) :
    Attempt (Option String) :=
  match value.sized? with
  | some (length, unit) => numbered bound fun limit =>
    unlessHolds (holds (.whole length) limit) do return leading ++ (← bound.plain) ++ " " ++ unit
  | none => .ok none

/-- Compare a number of items with the bound. -/
def checkItems (holds : Number → Number → Bool) (leading : String) (bound value : Value) :
    Attempt (Option String) :=
  match value.items? with
  | some items => numbered bound fun limit =>
    unlessHolds (holds (.whole items.length) limit) do return leading ++ (← bound.plain) ++ " items"
  | none => .ok none

/-- Compare a number with the bound. -/
def checkNumber (holds : Number → Number → Bool) (leading : String) (bound value : Value) :
    Attempt (Option String) :=
  match value.number? with
  | some number => numbered bound fun limit =>
    unlessHolds (holds number limit) do return leading ++ (← bound.plain)
  | none => .ok none

/-- Search a text for the pattern. -/
def checkFormat (bound value : Value) : Attempt (Option String) :=
  match value.text?, bound.asPattern? with
  | some text, some pattern => do
    unlessHolds (← pattern.occursIn text)
      (return "does not match required format " ++ pattern.quotedSource)
  | _, _ => .ok none

/-- Look for the value among the allowed ones. -/
def checkChoices (allowed value : Value) : Attempt (Option String) := do
  match ← value.within? allowed with
  | some false =>
    return some ("must be one of " ++ (← (Value.list (← allowed.elements)).literal))
  | _ => return none

/-- What a value does against a constraint, if anything. -/
def message (key : ConstraintKey) (bound value : Value) : Attempt (Option String) :=
  match key with
  | .minLength => checkLength (fun n limit => limit.le n) "must be at least " bound value
  | .maxLength => checkLength (fun n limit => n.le limit) "must be at most " bound value
  | .minItems => checkItems (fun n limit => limit.le n) "must have at least " bound value
  | .maxItems => checkItems (fun n limit => n.le limit) "must have at most " bound value
  | .gt => checkNumber (fun n limit => limit.lt n) "must be greater than " bound value
  | .gteq => checkNumber (fun n limit => limit.le n) "must be greater than or equal to " bound value
  | .lt => checkNumber (fun n limit => n.lt limit) "must be less than " bound value
  | .lteq => checkNumber (fun n limit => n.le limit) "must be less than or equal to " bound value
  | .format => checkFormat bound value
  | .choices => checkChoices bound value

/-- The bound as it is shown in details: a pattern by its source. -/
def shownBound : Value → Value
  | .pattern expression => expression.sourceValue
  | bound => bound

/-- Check one constraint. -/
def check (constraint : Constraint) (value : Value) (path : Path) : Attempt (Option Violation) := do
  let (key, bound) := constraint
  match ← message key bound value with
  | none => return none
  | some text =>
    return some (.detailed path key.name text
      [("constraint", .str key.name), ("limit", shownBound bound)])

/-- Check a constraint given by name; one of a name that does not exist is satisfied. -/
def checkNamed (constraint : String × Value) (value : Value) (path : Path) :
    Attempt (Option Violation) :=
  match ConstraintKey.ofName? constraint.1 with
  | some key => check (key, constraint.2) value path
  | none => .ok none

/-- The violations of constraints, in their order. -/
def violations (constraints : List Constraint) (value : Value) (path : Path) :
    Attempt (List Violation) :=
  match constraints with
  | [] => .ok []
  | constraint :: rest => do
    let found ← check constraint value path
    return found.toList ++ (← violations rest value path)

/-- Check all constraints, in their order. -/
def checkAll (constraints : List Constraint) (value : Value) (path : Path) :
    Attempt (Verdict Value) := do
  match ← violations constraints value path with
  | [] => return .accepted value
  | found => return .rejected found

/-- The constraints of a list of names and bounds; names of no constraint are left out. -/
def ofNamed (named : List (String × Value)) : List Constraint :=
  named.filterMap fun (name, bound) => (ConstraintKey.ofName? name).map fun key => (key, bound)

end Constraint

end Conform
