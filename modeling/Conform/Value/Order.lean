import Conform.Fault
import Conform.Value.Equality

/-!
# Order of values

Numbers and truth values are ordered by size, texts by code points, bytes and sequences of one sort
by their first difference, sets by proper inclusion.  Other pairs of values have no order.
-/

namespace Conform

mutual

/-- Whether a value precedes another, if the two have an order. -/
def Value.precedes? : Value → Value → Option Bool
  | .str a, .str b => some (decide (a < b))
  | .bytes a, b | .bytearray a, b => b.octets?.map fun b => decide (a < b)
  | .list a, .list b => Value.allPrecede? a b
  | .tuple a, .tuple b => Value.allPrecede? a b
  | .set a, b | .frozenset a, b =>
    b.setMembers?.map fun b => Value.allWithin a b && !b.all (Value.anySame a)
  | a, b =>
    match a.numeric?, b.numeric? with
    | some x, some y => some (x.lt y)
    | _, _ => none
termination_by structural a => a

/-- Whether a sequence precedes another at their first difference. -/
def Value.allPrecede? : List Value → List Value → Option Bool
  | [], [] => some false
  | [], _ :: _ => some true
  | _ :: _, [] => some false
  | a :: as, b :: bs => if a == b then Value.allPrecede? as bs else Value.precedes? a b
termination_by structural a => a

end

namespace Value

/-- Put a value in front of the first one that it precedes. -/
def insertSorted (value : Value) : List Value → Attempt (List Value)
  | [] => .ok [value]
  | first :: rest =>
    match value.precedes? first with
    | none => .error .unordered
    | some true => .ok (value :: first :: rest)
    | some false => do return first :: (← insertSorted value rest)

/-- The values in ascending order, if each two that meet have an order. -/
def sorted (values : List Value) : Attempt (List Value) :=
  values.foldlM (fun done value => insertSorted value done) []

end Value

end Conform
