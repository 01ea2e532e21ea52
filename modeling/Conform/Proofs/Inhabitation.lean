import Conform.Proofs.Canonical

/-!
# Inhabitation

Which values inhabit a type, by recursion on the type alone, and how an accepted value reads.  The
check of a type without references accepts exactly its inhabitants and gives back their reading,
unless it comes upon a violated bound on a number of items that is too long to be written: the
violation cannot be worded then, and the check ends in a fault.
-/

namespace Conform

/-! ## Inhabitants and readings -/

namespace TypeSpec

/-- Whether a number reaches a lower bound, if there is one. -/
def atLeast (bound : Value) (count : Nat) : Bool :=
  match bound with
  | .int least => decide (least ≤ count)
  | _ => true

/-- Whether a number keeps to an upper bound, if there is one. -/
def atMost (bound : Value) (count : Nat) : Bool :=
  match bound with
  | .int most => decide (count ≤ most)
  | _ => true

/-- Whether a bound is short enough to be written. -/
def isWritable (bound : Value) : Bool :=
  match bound with
  | .int n => withinDigitLimit n
  | _ => true

/-- Whether a number of items lies within the bounds of an array type. -/
def boundsAllow (minItems maxItems : Value) (count : Nat) : Bool :=
  atLeast minItems count && atMost maxItems count

/-- Whether a number of items violates a bound that is too long to be written. -/
def boundsStall (minItems maxItems : Value) (count : Nat) : Bool :=
  (!atLeast minItems count && !isWritable minItems) ||
    (!atMost maxItems count && !isWritable maxItems)

/-- Whether the bounds of an array type are short enough to be written. -/
def hasWritableBounds : TypeSpec → Bool
  | .array _ minItems maxItems => isWritable minItems && isWritable maxItems
  | _ => true

end TypeSpec

mutual

/-- Whether a value inhabits a type. -/
def TypeSpec.admits : TypeSpec → Value → Bool
  | .primitive kind, value => kind.admits value
  | .array inner minItems maxItems, value =>
    match value.items? with
    | some items =>
      items.all (TypeSpec.admits inner) && TypeSpec.boundsAllow minItems maxItems items.length
    | none => false
  | .union alternatives, value => TypeSpec.someAdmits alternatives value
  | .tuple elements, value =>
    match value.items? with
    | some items => TypeSpec.eachAdmits elements items
    | none => false
  | .map key value, data =>
    match data.entries? with
    | some entries =>
      entries.all fun entry => TypeSpec.admits key entry.1 && TypeSpec.admits value entry.2
    | none => false
  | _, _ => false
termination_by structural spec => spec

/-- Whether a value inhabits one of several types. -/
def TypeSpec.someAdmits : List TypeSpec → Value → Bool
  | [], _ => false
  | spec :: rest, value => TypeSpec.admits spec value || TypeSpec.someAdmits rest value
termination_by structural specs => specs

/-- Whether there are as many values as types, each inhabiting the type at its place. -/
def TypeSpec.eachAdmits : List TypeSpec → List Value → Bool
  | [], [] => true
  | spec :: specs, item :: items => TypeSpec.admits spec item && TypeSpec.eachAdmits specs items
  | _, _ => false
termination_by structural specs => specs

end

mutual

/-- Whether the check of a value comes upon a violated bound that is too long to be written.  Bounds
are looked at when all items are accepted, alternatives up to the first that accepts. -/
def TypeSpec.stalls : TypeSpec → Value → Bool
  | .array inner minItems maxItems, value =>
    match value.items? with
    | some items =>
      items.any (TypeSpec.stalls inner) ||
        (items.all inner.admits && TypeSpec.boundsStall minItems maxItems items.length)
    | none => false
  | .union alternatives, value => TypeSpec.firstStalls alternatives value
  | .tuple elements, value =>
    match value.items? with
    | some items => decide (items.length = elements.length) && TypeSpec.someStalls elements items
    | none => false
  | .map key value, data =>
    match data.entries? with
    | some entries =>
      entries.any fun entry => TypeSpec.stalls key entry.1 || TypeSpec.stalls value entry.2
    | none => false
  | _, _ => false
termination_by structural spec => spec

/-- Whether one of the alternatives up to the first that accepts a value comes upon such a bound. -/
def TypeSpec.firstStalls : List TypeSpec → Value → Bool
  | [], _ => false
  | spec :: rest, value =>
    TypeSpec.stalls spec value || (!spec.admits value && TypeSpec.firstStalls rest value)
termination_by structural specs => specs

/-- Whether one of the types comes upon such a bound in the value at its place. -/
def TypeSpec.someStalls : List TypeSpec → List Value → Bool
  | spec :: specs, item :: items =>
    TypeSpec.stalls spec item || TypeSpec.someStalls specs items
  | _, _ => false
termination_by structural specs => specs

end

mutual

/-- How a type reads a value: sequences become lists where an array type reads them and tuples where
a tuple type does, and everything else stays as it is.  A union reads as its first alternative that
the value inhabits. -/
def TypeSpec.reading : TypeSpec → Value → Value
  | .array inner _ _, value =>
    match value.items? with
    | some items => .list (items.map (TypeSpec.reading inner))
    | none => value
  | .union alternatives, value => TypeSpec.firstReading alternatives value
  | .tuple elements, value =>
    match value.items? with
    | some items => .tuple (TypeSpec.readings elements items)
    | none => value
  | .map key value, data =>
    match data.entries? with
    | some entries =>
      .map (entries.map fun entry => (TypeSpec.reading key entry.1, TypeSpec.reading value entry.2))
    | none => data
  | _, value => value
termination_by structural spec => spec

/-- How the first of the types that a value inhabits reads it. -/
def TypeSpec.firstReading : List TypeSpec → Value → Value
  | [], value => value
  | spec :: rest, value =>
    if spec.admits value then TypeSpec.reading spec value else TypeSpec.firstReading rest value
termination_by structural specs => specs

/-- How types read the values at their places. -/
def TypeSpec.readings : List TypeSpec → List Value → List Value
  | spec :: specs, item :: items => TypeSpec.reading spec item :: TypeSpec.readings specs items
  | _, _ => []
termination_by structural specs => specs

end

/-! ## Writable bounds -/

theorem lt_digitBound {n : Nat} (small : n ≤ digitLimit) : n < digitBound := by
  unfold digitBound
  generalize digitLimit = limit at small
  exact Nat.lt_of_le_of_lt small (Nat.lt_pow_self (by decide))

@[simp] theorem withinDigitLimit_of_le {n : Nat} (small : n ≤ digitLimit) :
    withinDigitLimit n = true := by
  rw [withinDigitLimit, Int.natAbs_natCast]
  exact decide_eq_true (lt_digitBound small)

@[simp] theorem withinDigitLimit_digitBound : withinDigitLimit digitBound = false := by
  rw [withinDigitLimit, Int.natAbs_natCast]
  exact decide_eq_false (Nat.lt_irrefl digitBound)

theorem TypeSpec.boundsStall_of_writable {minItems maxItems : Value} (count : Nat)
    (minWritable : isWritable minItems = true) (maxWritable : isWritable maxItems = true) :
    boundsStall minItems maxItems count = false := by
  simp [boundsStall, minWritable, maxWritable]

mutual

/-- The check of a type whose bounds can be written comes upon no other bound. -/
theorem TypeSpec.stalls_of_writable : (spec : TypeSpec) →
    spec.everywhere TypeSpec.hasWritableBounds = true → (value : Value) → spec.stalls value = false
  | .primitive _, _, _ => rfl
  | .unknownKind _, _, _ | .rawUnion _, _, _ | .rawTuple _, _, _ => rfl
  | .ref _, _, _ => rfl
  | .raw _, _, _ => rfl
  | .array inner minItems maxItems, writable, value => by
      simp only [TypeSpec.everywhere_array, TypeSpec.hasWritableBounds,
        Bool.and_eq_true] at writable
      have innerFlows := TypeSpec.stalls_of_writable inner writable.2
      simp only [TypeSpec.stalls]
      cases value.items? with
      | none => rfl
      | some items =>
          have itemsFlow : items.any inner.stalls = false :=
            List.any_eq_false.mpr fun item _ => by rw [innerFlows item]; exact Bool.false_ne_true
          dsimp only
          rw [itemsFlow, TypeSpec.boundsStall_of_writable _ writable.1.1 writable.1.2,
            Bool.and_false, Bool.or_self]
  | .union alternatives, writable, value => by
      simp only [TypeSpec.everywhere_union, Bool.and_eq_true] at writable
      exact (TypeSpec.stallsNowhere_of_writable alternatives writable.2).1 value
  | .tuple elements, writable, value => by
      simp only [TypeSpec.everywhere_tuple, Bool.and_eq_true] at writable
      have elementsFlow := (TypeSpec.stallsNowhere_of_writable elements writable.2).2
      simp only [TypeSpec.stalls]
      cases value.items? with
      | none => rfl
      | some items =>
          dsimp only
          rw [elementsFlow items, Bool.and_false]
  | .map key value, writable, data => by
      simp only [TypeSpec.everywhere_map, Bool.and_eq_true] at writable
      have keyFlows := TypeSpec.stalls_of_writable key writable.2.1
      have valueFlows := TypeSpec.stalls_of_writable value writable.2.2
      simp only [TypeSpec.stalls]
      cases data.entries? with
      | none => rfl
      | some entries =>
          refine List.any_eq_false.mpr fun entry _ => ?_
          rw [keyFlows entry.1, valueFlows entry.2]
          exact Bool.false_ne_true

/-- Neither alternatives nor elements whose bounds can be written come upon another bound. -/
theorem TypeSpec.stallsNowhere_of_writable : (specs : List TypeSpec) →
    TypeSpec.allEverywhere TypeSpec.hasWritableBounds specs = true →
    (∀ value, TypeSpec.firstStalls specs value = false) ∧
      ∀ items, TypeSpec.someStalls specs items = false
  | [], _ => ⟨fun _ => rfl, fun _ => rfl⟩
  | spec :: rest, writable => by
      simp only [TypeSpec.allEverywhere_cons, Bool.and_eq_true] at writable
      have flows := TypeSpec.stalls_of_writable spec writable.1
      obtain ⟨firstFlows, othersFlow⟩ := TypeSpec.stallsNowhere_of_writable rest writable.2
      constructor
      · intro value
        simp [TypeSpec.firstStalls, flows, firstFlows]
      · intro items
        cases items with
        | nil => rfl
        | cons item others => simp [TypeSpec.someStalls, flows, othersFlow]

end

/-! ## Outcomes foretold -/

/-- What can be said of a check before it is made. -/
structure Forecast where
  /-- It comes upon a violated bound that cannot be written. -/
  stalls : Bool
  /-- The value is an inhabitant. -/
  admits : Bool
  /-- How the value reads. -/
  reading : Value

/-- An outcome is the foretold one: a fault, or the reading of an inhabitant, or a rejection that
says why. -/
inductive Settled : Attempt (Verdict Value) → Forecast → Prop where
  | stalled {admits : Bool} {reading : Value} :
      Settled (.error .digitsToWrite) ⟨true, admits, reading⟩
  | accepted {reading : Value} : Settled (.ok (.accepted reading)) ⟨false, true, reading⟩
  | rejected {first : Violation} {rest : List Violation} {reading : Value} :
      Settled (.ok (.rejected (first :: rest))) ⟨false, false, reading⟩

namespace Settled

variable {outcome : Attempt (Verdict Value)} {forecast : Forecast}
variable {stalls admits : Bool} {reading : Value}

/-- A settled check accepts exactly an inhabitant without such a bound, as its reading. -/
theorem eq_accepted_iff (settled : Settled outcome forecast) (result : Value) :
    outcome = .ok (.accepted result) ↔
      (forecast.admits = true ∧ forecast.stalls = false) ∧ result = forecast.reading := by
  cases settled with
  | stalled => simp
  | accepted => simp [eq_comm]
  | rejected => simp

theorem verdict (settled : Settled outcome ⟨false, admits, reading⟩) :
    ∃ verdict, outcome = .ok verdict ∧ (admits = true → verdict = .accepted reading) ∧
      (admits = false → verdict.violations ≠ []) := by
  cases settled with
  | accepted => exact ⟨_, rfl, fun _ => rfl, by simp⟩
  | rejected => exact ⟨_, rfl, by simp, fun _ => List.cons_ne_nil _ _⟩

end Settled

namespace TypeSpec

/-- What can be said of the check of a value against a type. -/
def forecast (spec : TypeSpec) (value : Value) : Forecast :=
  ⟨spec.stalls value, spec.admits value, spec.reading value⟩

end TypeSpec

end Conform
