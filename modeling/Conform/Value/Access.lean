import Conform.Fault
import Conform.Value.Equality

/-!
# Taking values apart

Reading a value as a sequence, as a mapping or as something with members, with the fault that
arises when it is none.
-/

namespace Conform.Value

/-- The members of a value that has members. -/
def elements (value : Value) : Attempt (List Value) :=
  match value.elements? with
  | some items => .ok items
  | none => .error .notIterable

/-- The number of members of a value that has members. -/
def length (value : Value) : Attempt Nat :=
  match value.length? with
  | some count => .ok count
  | none => .error .unsupported

/-- Why a value that is no mapping has no entries: the data type of mappings knows of them, but has
none of its own. -/
def entriesFault : Value → Fault
  | .type .mapping => .unsupported
  | _ => .missingAttribute

/-- The entries of a mapping. -/
def entries (value : Value) : Attempt Entries :=
  match value.entries? with
  | some entries => .ok entries
  | none => .error value.entriesFault

/-- A value that can be a key. -/
def asKey (value : Value) : Attempt Value :=
  if value.hashable then .ok value else .error .unhashable

/-- Store the pairs of a sequence as entries, counting from the given index. -/
def entriesOfPairs (entries : Entries) (index : Nat) : List Value → Attempt Entries
  | [] => .ok entries
  | pair :: rest =>
    match pair.elements? with
    | none => .error .notIterable
    | some [key, value] => do
      let key ← key.asKey
      entriesOfPairs (entries.put key value) (index + 1) rest
    | some items => .error (.malformedEntry index items.length)

/-- The entries of a mapping, or of a sequence of pairs. -/
def asEntries (value : Value) : Attempt Entries :=
  match value with
  | .map entries => .ok entries
  | other => do entriesOfPairs [] 0 (← other.elements)

/-- The entries of a value; none when it counts as false. -/
def entriesIfAny (value : Value) : Attempt Entries :=
  if value.truthy then value.asEntries else .ok []

/-- The member of a sequence at an index, or the value of a mapping under the index as a key. -/
def member? (value : Value) (index : Nat) : Attempt Value :=
  match value with
  | .map entries =>
    match Entries.get? entries (.int index) with
    | some found => .ok found
    | none => .error .missingKey
  | .set _ | .frozenset _ => .error .unsupported
  | .enumeration .. => .error .missingKey
  | other => do
    match (← other.elements)[index]? with
    | some found => return found
    | none => throw .indexRange

/-- Whether a value offers to validate others. -/
def validates : Value → Bool
  | .target _ | .schema .. => true
  | _ => false

end Conform.Value
