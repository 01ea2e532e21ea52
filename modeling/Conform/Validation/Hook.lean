import Conform.Environment

/-!
# Hooks that relate the values of a record

Hooks that review a validated record as a whole: one that fills values in, one that carries a value
over to another key, and one that asks two values to be equal.
-/

namespace Conform.Hook

/-- The entries of a record. -/
def entriesOf (record : Value) : Entries := record.entries?.getD []

/-- Put entries into the record. -/
def merge (added : Value) (wrapped : Bool) (record : Value) : HookOutcome :=
  .returning wrapped (.map ((entriesOf record).putAll (entriesOf added)))

/-- Put the value under one key under another one as well; it has to be there. -/
def copy (source goal record : Value) : HookOutcome :=
  .keyed [source]
    (match (entriesOf record).get? source with
    | some found => .keyed [goal] (.returned (.map ((entriesOf record).put goal found)))
    | none => .raised "KeyError" source.literal)

/-- Accept the record if the values under two keys are equal, and end as given otherwise. -/
def requireEqual (first second : Value) (refusal : Unit → HookOutcome) (record : Value) :
    HookOutcome :=
  .keyed [first, second]
    (let value (key : Value) : Value := ((entriesOf record).get? key).getD .null
    if (value first).equal (value second) then .returned (.ok record) else refusal ())

end Conform.Hook
