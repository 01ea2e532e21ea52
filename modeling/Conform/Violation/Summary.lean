import Conform.Value.Access
import Conform.Violation.Basic

/-!
# Collections of violations

Grouping, filtering and counting violations.  Groups stand in the order of their first members, and
keys are compared by the equality of values.
-/

namespace Conform

namespace Violation

/-- The record with a base path in front, if one is given. -/
def withRoot (violation : Violation) (root : Value) : Attempt Violation :=
  if root.truthy then do return violation.under (← root.elements) else .ok violation

/-- The record with further details. -/
def withDetails (violation : Violation) (details : Entries) : Attempt Violation := do
  let context ← violation.context.entriesIfAny
  return { violation with context := .map (context.putAll details) }

/-- The path that a value stands for: nothing, one place, or a sequence of places. -/
def pathOf : Value → Path
  | .null => []
  | .list places | .tuple places => places
  | place => [place]

/-- A record at the path that a value stands for. -/
def make (path code message context : Value) : Violation := ⟨pathOf path, code, message, context⟩

/-- Put a violation into the group of its key, or into a new last group. -/
def addToGroup (violation : Violation) (key : Value) :
    List (Value × List Violation) → List (Value × List Violation)
  | [] => [(key, [violation])]
  | (other, members) :: rest =>
    if other == key then (other, members ++ [violation]) :: rest
    else (other, members) :: addToGroup violation key rest

/-- Group violations by a key, which has to be one that mappings can hold. -/
def groupBy (keyOf : Violation → Value) (violations : List Violation) :
    Attempt (List (Value × List Violation)) :=
  violations.foldlM
    (fun groups violation => do
      return addToGroup violation (← (keyOf violation).asKey) groups) []

/-- Group violations by path. -/
def groupByPath (violations : List Violation) : Attempt (List (Value × List Violation)) :=
  groupBy (fun violation => .tuple violation.path) violations

/-- Group violations by code. -/
def groupByCode (violations : List Violation) : Attempt (List (Value × List Violation)) :=
  groupBy Violation.code violations

/-- The violations of a code. -/
def filterByCode (violations : List Violation) (code : Value) : List Violation :=
  violations.filter fun violation => violation.code.equal code

/-- Whether a path begins with places. -/
def startsWith (path places : Path) : Bool :=
  places.length ≤ path.length && Value.tuple (path.take places.length) == .tuple places

/-- The violations at or below a path. -/
def filterByRoot (violations : List Violation) (root : Value) : Attempt (List Violation) :=
  match violations with
  | [] => .ok []
  | _ => do
    let _ ← root.length
    let places ← root.elements
    return violations.filter fun violation => startsWith violation.path places

/-- The first `count` members of a value whose members have places. -/
def leading (target : Value) (count : Nat) : Attempt (List Value) :=
  match target with
  | .map _ | .set _ | .frozenset _ | .enumeration .. => .error .unsupported
  | other => do return (← other.elements).take count

/-- The better of the best violation so far and the next one, as an answer for a path: the one with
the longer path that the given one begins with. -/
def betterFor (target : Value) (best : Option Violation) (violation : Violation) :
    Attempt (Option Violation) := do
  let length ← target.length
  if violation.path.length ≤ length then
    let places ← leading target violation.path.length
    if Value.tuple places == .tuple violation.path then
      match best with
      | none => return some violation
      | some other =>
        return if other.path.length < violation.path.length then some violation else some other
    else return best
  else return best

/-- The violation that says most about a path: the first of those with the longest path that the
given one begins with. -/
def mostSpecific (violations : List Violation) (target : Value) : Attempt (Option Violation) :=
  violations.foldlM (betterFor target) none

/-- Count one more under a key. -/
def countKey (counts : Entries) (key : Value) : Entries :=
  match counts.get? key with
  | some (.int n) => counts.put key (.int (n + 1))
  | _ => counts.put key (.int 1)

/-- How many violations each code has. -/
def countCodes (violations : List Violation) : Attempt Entries :=
  violations.foldlM (fun counts violation => do return countKey counts (← violation.code.asKey)) []

/-- The distinct paths, in order. -/
def affectedPaths (violations : List Violation) : List Value :=
  violations.foldl
    (fun paths violation =>
      let path := Value.tuple violation.path
      if paths.any fun other => other == path then paths else paths ++ [path]) []

/-- Counts and affected paths of violations. -/
def summarize (violations : List Violation) : Attempt Value := do
  let counts ← countCodes violations
  return .record [
    ("total_errors", .int violations.length),
    ("error_codes", .list (counts.map Prod.fst)),
    ("affected_paths", .list (affectedPaths violations)),
    ("by_code", .map counts)]

end Violation

end Conform
