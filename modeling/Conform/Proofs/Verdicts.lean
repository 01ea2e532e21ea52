import Conform.Proofs.Inhabitation

/-!
# Checks that reach a verdict

The fault in which the check of a value against a type without references ends, if it ends in one,
by recursion on the type and the value alone.  Only two things keep a check from its verdict: a
violated bound on a number of items that is too long to be written, and a key of a mapping that, as
its type reads it, is no key any more.  The verdict accepts the reading of an inhabitant and says
why it rejects all else.  Each way of putting checkers together keeps that.
-/

namespace Conform

/-! ## The fault of a check -/

/-- The fault of a violated bound that is too long to be written. -/
def Check.boundFault? (stalls : Bool) : Option Fault :=
  if stalls then some .digitsToWrite else none

/-- The fault in which the check of an entry ends: that of its key, or of its value, or that of an
accepted entry whose key cannot be one as it reads. -/
def Check.entryFault? (keyFault valueFault : Option Fault) (admits : Bool) (key : Value) :
    Option Fault :=
  keyFault.or <| valueFault.or <| if admits && !key.hashable then some .unhashable else none

mutual

/-- The fault in which the check of a value against a type ends, if it ends in one.  Bounds are
looked at when all items are accepted, alternatives up to the first that accepts. -/
def TypeSpec.fault? : TypeSpec → Value → Option Fault
  | .array inner minItems maxItems, value =>
    match value.items? with
    | some items =>
      (items.findSome? (TypeSpec.fault? inner)).or <|
        Check.boundFault?
          (items.all inner.admits && TypeSpec.boundsStall minItems maxItems items.length)
    | none => none
  | .union alternatives, value => TypeSpec.firstFault? alternatives value
  | .tuple elements, value =>
    match value.items? with
    | some items =>
      if items.length = elements.length then TypeSpec.eachFault? elements items else none
    | none => none
  | .map key value, data =>
    match data.entries? with
    | some entries =>
      entries.findSome? fun entry =>
        Check.entryFault? (TypeSpec.fault? key entry.1) (TypeSpec.fault? value entry.2)
          (key.admits entry.1 && value.admits entry.2) (key.reading entry.1)
    | none => none
  | _, _ => none
termination_by structural spec => spec

/-- The first fault among the alternatives up to the first that accepts a value. -/
def TypeSpec.firstFault? : List TypeSpec → Value → Option Fault
  | [], _ => none
  | spec :: rest, value =>
    (TypeSpec.fault? spec value).or
      (if spec.admits value then none else TypeSpec.firstFault? rest value)
termination_by structural specs => specs

/-- The first fault among the checks of values against the types at their places. -/
def TypeSpec.eachFault? : List TypeSpec → List Value → Option Fault
  | spec :: specs, item :: items =>
    (TypeSpec.fault? spec item).or (TypeSpec.eachFault? specs items)
  | _, _ => none
termination_by structural specs => specs

end

/-! ## Outcomes foretold -/

namespace Check

/-- An outcome is the foretold one: a fault, or what an inhabitant gives, or else a refusal. -/
inductive Ends {α : Type} (given : α) (Refusal : α → Prop) :
    (fault? : Option Fault) → (admits : Bool) → Attempt α → Prop where
  | fault {fault : Fault} {admits : Bool} : Ends given Refusal (some fault) admits (.error fault)
  | given : Ends given Refusal none true (.ok given)
  | refusal {result : α} (refuses : Refusal result) : Ends given Refusal none false (.ok result)

namespace Ends

variable {α β : Type} {given : α} {Refusal : α → Prop} {fault? : Option Fault} {admits : Bool}
variable {outcome : Attempt α}

theorem eq_error_iff (ends : Ends given Refusal fault? admits outcome) (fault : Fault) :
    outcome = .error fault ↔ fault? = some fault := by
  cases ends with
  | fault => simp
  | given => simp
  | refusal => simp

theorem eq_ok_iff (ends : Ends given Refusal fault? admits outcome) :
    (∃ result, outcome = .ok result) ↔ fault? = none := by
  cases ends with
  | fault => simp
  | given => simp
  | refusal => simp

theorem eq_ok (ends : Ends given Refusal fault? admits outcome) (none : fault? = none) :
    (admits = true → outcome = .ok given) ∧
      (admits = false → ∃ result, outcome = .ok result ∧ Refusal result) := by
  cases ends with
  | fault => cases none
  | given => exact ⟨fun _ => rfl, nofun⟩
  | refusal refuses => exact ⟨nofun, fun _ => ⟨_, rfl, refuses⟩⟩

theorem map (ends : Ends given Refusal fault? admits outcome) {next : α → β} {made : β}
    {Refusal' : β → Prop} (gives : next given = made)
    (refuses : ∀ result, Refusal result → Refusal' (next result)) :
    Ends made Refusal' fault? admits (outcome >>= fun result => .ok (next result)) := by
  subst gives
  cases ends with
  | fault => exact .fault
  | given => exact .given
  | refusal refused => exact .refusal (refuses _ refused)

end Ends

/-- A verdict that says why it rejects. -/
def Rejects (verdict : Verdict Value) : Prop := verdict.violations ≠ []

end Check

/-- The check of a value by a checker ends as a type foretells. -/
def TypeSpec.Foretells (spec : TypeSpec) (checker : Checker) (value : Value) : Prop :=
  ∀ path, Check.Ends (.accepted (spec.reading value)) Check.Rejects (spec.fault? value)
    (spec.admits value) (checker value path)

theorem Settled.ends {outcome : Attempt (Verdict Value)} {stalls admits : Bool} {reading : Value}
    (settled : Settled outcome ⟨stalls, admits, reading⟩) :
    Check.Ends (.accepted reading) Check.Rejects (Check.boundFault? stalls) admits outcome := by
  cases settled with
  | stalled => exact .fault
  | accepted => exact .given
  | rejected => exact .refusal (List.cons_ne_nil _ _)

namespace TypeSpec

theorem length_of_eachAdmits {specs : List TypeSpec} {items : List Value}
    (admits : eachAdmits specs items = true) : items.length = specs.length := by
  induction specs generalizing items with
  | nil =>
      cases items with
      | nil => rfl
      | cons item others => cases admits
  | cons spec rest ih =>
      cases items with
      | nil => cases admits
      | cons item others =>
          simp only [eachAdmits, Bool.and_eq_true] at admits
          exact congrArg Nat.succ (ih admits.2)

end TypeSpec

/-! ## Bounds on the number of items -/

@[simp] theorem Number.whole_le_whole (m n : Int) :
    (Number.whole m).le (.whole n) = decide (m ≤ n) := by
  simp only [Number.le, Number.lt, Number.eq]
  rcases Int.lt_trichotomy m n with less | equal | greater
  · simp [less, Int.le_of_lt less]
  · simp [equal]
  · have notLess : ¬m < n := by omega
    have notEqual : m ≠ n := by omega
    have notLeq : ¬m ≤ n := by omega
    simp [notLess, notEqual, notLeq]

namespace Constraint

theorem checkItems_list (holds : Number → Number → Bool) (leading : String) (bound : Int)
    (items : List Value) :
    checkItems holds leading (.int bound) (.list items) =
      if holds (.whole items.length) (.whole bound) then .ok none
      else if withinDigitLimit bound then .ok (some (leading ++ wholeText bound ++ " items"))
      else .error .digitsToWrite := by
  simp only [checkItems, Value.items?, numbered, Value.number?, unlessHolds, Value.plain,
    Value.literal, writeInt]
  split
  · rfl
  · split <;> rfl

@[simp] theorem violations_append (first rest : List Constraint) (value : Value) (path : Path) :
    violations (first ++ rest) value path =
      violations first value path >>= fun found =>
        violations rest value path >>= fun more => .ok (found ++ more) := by
  induction first with
  | nil =>
      show violations rest value path = violations rest value path >>= fun more => .ok more
      cases violations rest value path <;> rfl
  | cons constraint others ih =>
      simp only [List.cons_append, violations, ih]
      cases check constraint value path with
      | error fault => rfl
      | ok found =>
          cases violations others value path with
          | error fault => rfl
          | ok more =>
              cases violations rest value path with
              | error fault => rfl
              | ok last => simp [bind, Except.bind, pure, Except.pure]

end Constraint

/-- What became of a bound is the foretold outcome: a fault, nothing, or one violation. -/
inductive BoundSettled : (stalls allows : Bool) → Attempt (List Violation) → Prop where
  | stalled {allows : Bool} : BoundSettled true allows (.error .digitsToWrite)
  | allowed : BoundSettled false true (.ok [])
  | violated {violation : Violation} : BoundSettled false false (.ok [violation])

/-- Two settled bounds settle the value that they bound. -/
theorem BoundSettled.both {leastStalls leastAllows mostStalls mostAllows : Bool}
    {least most : Attempt (List Violation)}
    (leastSettled : BoundSettled leastStalls leastAllows least)
    (mostSettled : BoundSettled mostStalls mostAllows most) (value : Value) :
    Settled
      (least >>= (fun found => most >>= fun more => .ok (found ++ more)) >>= fun found =>
        match found with
        | [] => .ok (.accepted value)
        | found => .ok (.rejected found))
      ⟨leastStalls || mostStalls, leastAllows && mostAllows, value⟩ := by
  cases leastSettled with
  | stalled => exact .stalled
  | allowed =>
      cases mostSettled with
      | stalled => exact .stalled
      | allowed => exact .accepted
      | violated => exact .rejected
  | violated =>
      cases mostSettled with
      | stalled => exact .stalled
      | allowed | violated => exact .rejected

namespace Check

/-- A single bound is settled by the number of items. -/
theorem bound_settled (key : ConstraintKey) (holds : Number → Number → Bool) (leading : String)
    (allows : Bool) (worded : ∀ bound value,
      Constraint.message key bound value = Constraint.checkItems holds leading bound value)
    {bound : Value} (isBound : bound.isBound = true) {items : List Value}
    (absent : bound = .null → allows = true)
    (present : ∀ n, bound = .int n → holds (.whole items.length) (.whole n) = allows)
    (path : Path) :
    BoundSettled (!allows && !TypeSpec.isWritable bound) allows
      (Constraint.violations (if bound.isNull then [] else [(key, bound)]) (.list items) path) := by
  cases bound with
  | null =>
      rw [absent rfl]
      exact .allowed
  | int n =>
      simp only [Value.isNull, Bool.false_eq_true, if_false, Constraint.violations,
        Constraint.check, worded, Constraint.checkItems_list, present n rfl, TypeSpec.isWritable]
      cases allows with
      | true => exact .allowed
      | false =>
          cases withinDigitLimit n with
          | true => exact .violated
          | false => exact .stalled
  | _ => cases isBound

theorem bounds_settled {minItems maxItems : Value} (minBound : minItems.isBound = true)
    (maxBound : maxItems.isBound = true) (items : List Value) (path : Path) :
    Settled (Constraint.checkAll (TypeSpec.boundConstraints minItems maxItems) (.list items) path)
      ⟨TypeSpec.boundsStall minItems maxItems items.length,
        TypeSpec.boundsAllow minItems maxItems items.length, .list items⟩ := by
  have least := bound_settled .minItems (fun n limit => limit.le n) "must have at least "
    (TypeSpec.atLeast minItems items.length) (fun _ _ => rfl) minBound
    (fun absent => by rw [absent]; rfl)
    (fun n present => by rw [present, Number.whole_le_whole]; rfl) path
  have most := bound_settled .maxItems (fun n limit => n.le limit) "must have at most "
    (TypeSpec.atMost maxItems items.length) (fun _ _ => rfl) maxBound
    (fun absent => by rw [absent]; rfl)
    (fun n present => by rw [present, Number.whole_le_whole]; rfl) path
  rw [Constraint.checkAll, TypeSpec.boundConstraints, Constraint.violations_append]
  exact least.both most (.list items)

/-! ## Composite types -/

theorem kind_settled (kind : Kind) (value : Value) (path : Path) :
    Settled (Check.kind kind value path) ⟨false, kind.admits value, value⟩ := by
  unfold Check.kind
  cases kind.admits value with
  | true => exact .accepted
  | false => exact .rejected

theorem members_cons {path : Path} {index : Nat} {checker : Checker} {item : Value}
    {rest : List (Checker × Value)} :
    members path index ((checker, item) :: rest) =
      checker item (path ++ [.int index]) >>= fun verdict =>
        members path (index + 1) rest >>= fun others =>
          match verdict with
          | .accepted value => .ok (value :: others.1, others.2)
          | .rejected found => .ok (others.1, found ++ others.2) := rfl

/-- A member in front of others, which are checked in any case. -/
theorem members_cons_ends {path : Path} {index : Nat} {checker : Checker} {item reading : Value}
    {rest : List (Checker × Value)} {readings : List Value} {headFault restFault : Option Fault}
    {headAdmits restAdmits : Bool}
    (head : Ends (.accepted reading) Rejects headFault headAdmits
      (checker item (path ++ [.int index])))
    (tail : Ends (readings, []) (fun parts => parts.2 ≠ []) restFault restAdmits
      (members path (index + 1) rest)) :
    Ends (reading :: readings, []) (fun parts => parts.2 ≠ []) (headFault.or restFault)
      (headAdmits && restAdmits) (members path index ((checker, item) :: rest)) := by
  rw [members_cons]
  generalize checker item (path ++ [.int index]) = outcome at head
  generalize members path (index + 1) rest = others at tail
  cases head with
  | fault => exact .fault
  | given =>
      cases tail with
      | fault => exact .fault
      | given => exact .given
      | refusal said => exact .refusal said
  | @refusal verdict said =>
      cases verdict with
      | accepted value => exact absurd rfl said
      | rejected found =>
          have joined : ∀ more : List Violation, found ++ more ≠ [] := fun more =>
            List.append_ne_nil_of_left_ne_nil said more
          cases tail with
          | fault => exact .fault
          | given | refusal _ => exact .refusal (joined _)

theorem items_ends {inner : TypeSpec} {checker : Checker} {items : List Value}
    (each : ∀ item ∈ items, inner.Foretells checker item) (path : Path) (index : Nat) :
    Ends (items.map inner.reading, []) (fun parts => parts.2 ≠ []) (items.findSome? inner.fault?)
      (items.all inner.admits) (members path index (items.map fun item => (checker, item))) := by
  induction items generalizing index with
  | nil => exact .given
  | cons item rest ih =>
      obtain ⟨first, others⟩ := List.forall_mem_cons.mp each
      have first := first (path ++ [.int index])
      have collected := members_cons_ends first (ih others (index + 1))
      have faults : (item :: rest).findSome? inner.fault? =
          (inner.fault? item).or (rest.findSome? inner.fault?) := by
        rw [List.findSome?_cons]
        cases inner.fault? item <;> rfl
      rw [faults, List.all_cons]
      exact collected

/-- An array ends as foretold: by its items, and when all are accepted by the bounds on their
number. -/
theorem array_foretold {inner : TypeSpec} {checker : Checker} {minItems maxItems value : Value}
    (minBound : minItems.isBound = true) (maxBound : maxItems.isBound = true)
    (each : ∀ items, value.items? = some items → ∀ item ∈ items, inner.Foretells checker item) :
    (TypeSpec.array inner minItems maxItems).Foretells
      (Check.array checker (TypeSpec.boundConstraints minItems maxItems)) value := by
  intro path
  simp only [Check.array, TypeSpec.fault?, TypeSpec.admits, TypeSpec.reading]
  cases listed : value.items? with
  | none => exact .refusal (List.cons_ne_nil _ _)
  | some items =>
      dsimp only
      have checked := items_ends (each items listed) path 0
      have bounded := (bounds_settled minBound maxBound (items.map inner.reading) path).ends
      rw [List.length_map] at bounded
      generalize members path 0 (items.map fun item => (checker, item)) = outcome at checked
      generalize items.findSome? inner.fault? = itemFault at checked
      generalize items.all inner.admits = admits at checked
      cases checked with
      | fault => exact .fault
      | given => exact bounded
      | @refusal parts said =>
          obtain ⟨values, violations⟩ := parts
          cases violations with
          | nil => exact absurd rfl said
          | cons first rest => exact .refusal said

theorem conclude_rejects {build : List Value → Value} {parts : List Value × List Violation}
    (said : parts.2 ≠ []) : Rejects (conclude build parts) := by
  obtain ⟨values, violations⟩ := parts
  cases violations with
  | nil => exact absurd rfl said
  | cons first rest => exact said

/-- A tuple of the right length ends as its elements do; any other is refused. -/
theorem tuple_foretold {elements : List TypeSpec} {checkers : List Checker} {value : Value}
    (sameLength : checkers.length = elements.length)
    (each : ∀ items, value.items? = some items → ∀ path,
      items.length = elements.length →
      Ends (TypeSpec.readings elements items, []) (fun parts => parts.2 ≠ [])
        (TypeSpec.eachFault? elements items) (TypeSpec.eachAdmits elements items)
        (members path 0 (checkers.zip items))) :
    (TypeSpec.tuple elements).Foretells (Check.tuple checkers) value := by
  intro path
  simp only [Check.tuple, TypeSpec.fault?, TypeSpec.admits, TypeSpec.reading]
  cases listed : value.items? with
  | none => exact .refusal (List.cons_ne_nil _ _)
  | some items =>
      dsimp only
      by_cases arity : items.length = elements.length
      · rw [sameLength, if_pos arity, if_pos arity]
        exact (each items listed path arity).map rfl fun _ => conclude_rejects
      · have refuses : TypeSpec.eachAdmits elements items = false :=
          Bool.eq_false_iff.mpr fun admits => arity (TypeSpec.length_of_eachAdmits admits)
        rw [sameLength, if_neg arity, if_neg arity, refuses]
        exact .refusal (List.cons_ne_nil _ _)

/-- An alternative in front of others, which are tried when it refuses. -/
theorem firstAccepted_cons_ends {checker : Checker} {checkers : List Checker}
    {value reading later : Value} {path : Path} {headFault restFault : Option Fault}
    {headAdmits restAdmits : Bool}
    (head : Ends (.accepted reading) Rejects headFault headAdmits (checker value path))
    (tail : Ends (some later) (fun found => found = none) restFault restAdmits
      (firstAccepted value path checkers)) :
    Ends (some (if headAdmits then reading else later)) (fun found => found = none)
      (headFault.or (if headAdmits then none else restFault)) (headAdmits || restAdmits)
      (firstAccepted value path (checker :: checkers)) := by
  simp only [firstAccepted]
  generalize checker value path = outcome at head
  cases head with
  | fault => exact .fault
  | given => exact .given
  | @refusal verdict said =>
      cases verdict with
      | accepted value => exact absurd rfl said
      | rejected found => exact tail

/-- A union ends as its alternatives do, and when none accepts it has a name to refuse by. -/
theorem union_foretold {alternatives : List TypeSpec} {checkers : List Checker} {value : Value}
    {text : String}
    (tried : ∀ path, Ends (some (TypeSpec.firstReading alternatives value))
      (fun found => found = none) (TypeSpec.firstFault? alternatives value)
      (TypeSpec.someAdmits alternatives value) (firstAccepted value path checkers)) :
    (TypeSpec.union alternatives).Foretells (Check.union (.ok text) checkers) value := by
  intro path
  have tried := tried path
  simp only [Check.union, TypeSpec.fault?, TypeSpec.admits, TypeSpec.reading]
  generalize firstAccepted value path checkers = outcome at tried
  generalize TypeSpec.firstFault? alternatives value = fault? at tried
  generalize TypeSpec.someAdmits alternatives value = admits at tried
  cases tried with
  | fault => exact .fault
  | given => exact .given
  | refusal missed =>
      subst missed
      exact .refusal (List.cons_ne_nil _ _)

/-! ## Mappings -/

theorem entries_of_accepted {newKey newValue : Value}
    (keyAccepted : keyChecker k (path ++ [keyLabel position]) = .ok (.accepted newKey))
    (valueAccepted : valueChecker v (path ++ [k]) = .ok (.accepted newValue))
    (hashable : newKey.hashable = true) :
    entries keyChecker valueChecker path position ((k, v) :: rest) done =
      entries keyChecker valueChecker path (position + 1) rest (done.put newKey newValue) := by
  have keyed : newKey.asKey = .ok newKey := by rw [Value.asKey, if_pos hashable]
  simp only [entries, keyAccepted, valueAccepted, bind, Except.bind, keyed, pure, Except.pure,
    Verdict.violations, List.nil_append]
  cases entries keyChecker valueChecker path (position + 1) rest (done.put newKey newValue) <;> rfl

theorem entries_of_rejected {keyVerdict valueVerdict : Verdict Value}
    (keyChecked : keyChecker k (path ++ [keyLabel position]) = .ok keyVerdict)
    (valueChecked : valueChecker v (path ++ [k]) = .ok valueVerdict)
    (rejected : keyVerdict.violations ++ valueVerdict.violations ≠ []) :
    entries keyChecker valueChecker path position ((k, v) :: rest) done =
      entries keyChecker valueChecker path (position + 1) rest done >>= fun result =>
        .ok (result.1, (keyVerdict.violations ++ valueVerdict.violations) ++ result.2) := by
  simp only [entries, keyChecked, valueChecked, List.append_assoc]
  cases keyVerdict with
  | rejected _ => rfl
  | accepted _ =>
      cases valueVerdict with
      | rejected _ => rfl
      | accepted _ => exact absurd rfl rejected

/-- An entry in front of others, which are checked in any case unless it ends in a fault. -/
theorem entries_cons_ends {newKey newValue : Value} {given other : Entries}
    {keyFault valueFault restFault : Option Fault} {keyAdmits valueAdmits restAdmits : Bool}
    (keyEnds : Ends (.accepted newKey) Rejects keyFault keyAdmits
      (keyChecker k (path ++ [keyLabel position])))
    (valueEnds : Ends (.accepted newValue) Rejects valueFault valueAdmits
      (valueChecker v (path ++ [k])))
    (stored : keyAdmits = true → newKey.hashable = true →
      Ends (given, []) (fun result => result.2 ≠ []) restFault restAdmits
        (entries keyChecker valueChecker path (position + 1) rest (done.put newKey newValue)))
    (left : Ends (other, []) (fun result => result.2 ≠ []) restFault restAdmits
      (entries keyChecker valueChecker path (position + 1) rest done)) :
    Ends (given, []) (fun result => result.2 ≠ [])
      ((entryFault? keyFault valueFault (keyAdmits && valueAdmits) newKey).or restFault)
      ((keyAdmits && valueAdmits) && restAdmits)
      (entries keyChecker valueChecker path position ((k, v) :: rest) done) := by
  -- What the entry that is not accepted says stands in front of what the others say.
  have rejected {keyVerdict valueVerdict : Verdict Value}
      (keyChecked : keyChecker k (path ++ [keyLabel position]) = .ok keyVerdict)
      (valueChecked : valueChecker v (path ++ [k]) = .ok valueVerdict)
      (said : keyVerdict.violations ++ valueVerdict.violations ≠ []) :
      Ends (given, []) (fun result => result.2 ≠ []) restFault false
        (entries keyChecker valueChecker path position ((k, v) :: rest) done) := by
    rw [entries_of_rejected keyChecked valueChecked said]
    generalize entries keyChecker valueChecker path (position + 1) rest done = others at left
    cases left with
    | fault => exact .fault
    | given | refusal _ => exact .refusal (List.append_ne_nil_of_left_ne_nil said _)
  generalize keyChecked : keyChecker k (path ++ [keyLabel position]) = keyOutcome at keyEnds
  generalize valueChecked : valueChecker v (path ++ [k]) = valueOutcome at valueEnds
  cases keyEnds with
  | fault =>
      simp only [entries, keyChecked]
      exact .fault
  | given =>
      cases valueEnds with
      | fault =>
          simp only [entries, keyChecked, valueChecked]
          exact .fault
      | given =>
          cases hashable : newKey.hashable with
          | true =>
              rw [entries_of_accepted keyChecked valueChecked hashable]
              simp only [entryFault?, hashable]
              exact stored rfl hashable
          | false =>
              have keyed : newKey.asKey = .error .unhashable := by
                rw [Value.asKey, if_neg (Bool.eq_false_iff.mp hashable)]
              simp only [entries, keyChecked, valueChecked, bind, Except.bind, keyed, entryFault?,
                hashable]
              exact .fault
      | refusal said =>
          exact rejected keyChecked valueChecked (List.append_ne_nil_of_right_ne_nil _ said)
  | refusal said =>
      cases valueEnds with
      | fault =>
          simp only [entries, keyChecked, valueChecked]
          exact .fault
      | given | refusal _ =>
          exact rejected keyChecked valueChecked (List.append_ne_nil_of_left_ne_nil said _)

/-- What is known of an entry: its key and its value are checked as foretold, and a key that is
still a key as its type reads it stays as it is. -/
structure EntryForetold (keyType valueType : TypeSpec) (keyChecker valueChecker : Checker)
    (entry : Value × Value) : Prop where
  key : keyType.Foretells keyChecker entry.1
  value : valueType.Foretells valueChecker entry.2
  kept : keyType.admits entry.1 = true → (keyType.reading entry.1).hashable = true →
    keyType.reading entry.1 = entry.1

/-- The entries of a mapping end as foretold.  They stay distinct, since a key that is still a key
stays as it is, and are stored in order. -/
theorem entries_ends {key value : TypeSpec} {keyChecker valueChecker : Checker} {found : Entries}
    (each : ∀ entry ∈ found, EntryForetold key value keyChecker valueChecker entry)
    (distinct : found.Pairwise fun earlier later => (earlier.1 == later.1) = false)
    {done : Entries}
    (fresh : ∀ earlier ∈ done, ∀ entry ∈ found, (earlier.1 == entry.1) = false)
    (path : Path) (position : Nat) :
    Ends (done ++ found.map fun entry => (key.reading entry.1, value.reading entry.2), [])
      (fun result => result.2 ≠ [])
      (found.findSome? fun entry => entryFault? (key.fault? entry.1) (value.fault? entry.2)
        (key.admits entry.1 && value.admits entry.2) (key.reading entry.1))
      (found.all fun entry => key.admits entry.1 && value.admits entry.2)
      (entries keyChecker valueChecker path position found done) := by
  induction found generalizing done position with
  | nil =>
      rw [List.map_nil, List.append_nil]
      exact .given
  | cons entry rest ih =>
      obtain ⟨⟨keyForetold, valueForetold, kept⟩, others⟩ := List.forall_mem_cons.mp each
      obtain ⟨fromHere, restDistinct⟩ := List.pairwise_cons.mp distinct
      have restFresh : ∀ earlier ∈ done, ∀ entry ∈ rest, (earlier.1 == entry.1) = false :=
        fun earlier member entry among => fresh earlier member entry (List.mem_cons_of_mem _ among)
      have faults (fault? : Value × Value → Option Fault) :
          (entry :: rest).findSome? fault? = (fault? entry).or (rest.findSome? fault?) := by
        rw [List.findSome?_cons]
        cases fault? entry <;> rfl
      rw [faults, List.all_cons]
      refine entries_cons_ends (keyForetold _) (valueForetold _) ?stored
        (ih others restDistinct restFresh (position + 1))
      intro admits hashable
      have same := kept admits hashable
      have last : done.put (key.reading entry.1) (value.reading entry.2) =
          done ++ [(key.reading entry.1, value.reading entry.2)] := by
        refine Entries.put_of_fresh fun earlier member => ?_
        rw [same]
        exact fresh earlier member entry List.mem_cons_self
      rw [last, List.map_cons, List.append_cons]
      refine ih others restDistinct ?_ (position + 1)
      intro earlier member later among
      rcases List.mem_append.mp member with old | new
      · exact restFresh earlier old later among
      · cases List.mem_singleton.mp new
        rw [same]
        exact fromHere later among

theorem map_foretold {key value : TypeSpec} {keyChecker valueChecker : Checker} {data : Value}
    (each : ∀ found, data = .map found → ∀ entry ∈ found,
      EntryForetold key value keyChecker valueChecker entry)
    (formed : data.wellFormed = true) :
    (TypeSpec.map key value).Foretells (Check.map keyChecker valueChecker) data := by
  intro path
  cases data with
  | map found =>
      have checked := entries_ends (each found rfl) (Value.wellFormed_map.mp formed).1
        (fun _ among => absurd among List.not_mem_nil) path 0
      refine checked.map rfl fun result said => ?_
      obtain ⟨done, violations⟩ := result
      cases violations with
      | nil => exact absurd rfl said
      | cons first rest => exact said
  | _ => exact .refusal (List.cons_ne_nil _ _)

end Check

/-! ## Keys -/

mutual

/-- A type reads a value that can be a key as it is, if it holds no array type or the value can
still be a key as it is read. -/
theorem TypeSpec.reading_of_hashable : (spec : TypeSpec) → (value : Value) →
    spec.admits value = true → value.hashable = true →
    spec.isArrayFree = true ∨ (spec.reading value).hashable = true → spec.reading value = value
  | .primitive _, _, _, _, _ => rfl
  | .unknownKind _, _, _, _, _ => rfl
  | .ref _, _, _, _, _ => rfl
  | .raw _, _, _, _, _ => rfl
  | .array inner _ _, value, admits, _, keeps => by
      rcases keeps with arrayFree | hashable
      · cases arrayFree
      · cases value with
        | list items | tuple items => cases hashable
        | _ => rfl
  | .union alternatives, value, admits, hashable, keeps => by
      simp only [TypeSpec.isArrayFree, TypeSpec.everywhere_union, Bool.and_eq_true] at keeps
      exact TypeSpec.firstReading_of_hashable alternatives value admits hashable
        (keeps.imp_left And.right)
  | .tuple elements, value, admits, hashable, keeps => by
      simp only [TypeSpec.isArrayFree, TypeSpec.everywhere_tuple, Bool.and_eq_true] at keeps
      cases value with
      | list items => cases hashable
      | tuple items =>
          have kept := TypeSpec.readings_of_hashable elements items admits
            (Value.hashable_tuple.mp hashable) (keeps.imp And.right Value.hashable_tuple.mp)
          exact congrArg Value.tuple kept
      | _ => rfl
  | .map _ _, value, _, hashable, _ => by
      cases value with
      | map entries => cases hashable
      | _ => rfl

/-- The first alternative that a value inhabits reads it so too. -/
theorem TypeSpec.firstReading_of_hashable : (specs : List TypeSpec) → (value : Value) →
    TypeSpec.someAdmits specs value = true → value.hashable = true →
    TypeSpec.allEverywhere TypeSpec.isArrayFreeNode specs = true ∨
      (TypeSpec.firstReading specs value).hashable = true →
    TypeSpec.firstReading specs value = value
  | [], _, _, _, _ => rfl
  | spec :: rest, value, admits, hashable, keeps => by
      simp only [TypeSpec.allEverywhere_cons, Bool.and_eq_true] at keeps
      simp only [TypeSpec.someAdmits, TypeSpec.firstReading] at admits keeps ⊢
      cases first : spec.admits value with
      | true =>
          rw [first] at keeps
          exact TypeSpec.reading_of_hashable spec value first hashable (keeps.imp_left And.left)
      | false =>
          rw [first] at admits keeps
          exact TypeSpec.firstReading_of_hashable rest value admits hashable
            (keeps.imp_left And.right)

theorem TypeSpec.readings_of_hashable : (specs : List TypeSpec) → (items : List Value) →
    TypeSpec.eachAdmits specs items = true → (∀ item ∈ items, item.hashable = true) →
    TypeSpec.allEverywhere TypeSpec.isArrayFreeNode specs = true ∨
      (∀ item ∈ TypeSpec.readings specs items, item.hashable = true) →
    TypeSpec.readings specs items = items
  | [], [], _, _, _ => rfl
  | [], _ :: _, admits, _, _ => nomatch admits
  | _ :: _, [], admits, _, _ => nomatch admits
  | spec :: specs, item :: items, admits, hashable, keeps => by
      simp only [TypeSpec.allEverywhere_cons, Bool.and_eq_true] at keeps
      simp only [TypeSpec.eachAdmits, Bool.and_eq_true] at admits
      obtain ⟨itemHashable, othersHashable⟩ := List.forall_mem_cons.mp hashable
      have kept := keeps.imp_right List.forall_mem_cons.mp
      rw [TypeSpec.readings,
        TypeSpec.reading_of_hashable spec item admits.1 itemHashable (kept.imp And.left And.left),
        TypeSpec.readings_of_hashable specs items admits.2 othersHashable
          (kept.imp And.right And.right)]

end

/-! ## The check of a type -/

/-- A canonical type without references. -/
structure TypeSpec.Regular (spec : TypeSpec) : Prop where
  canonical : spec.isCanonical = true
  closed : spec.isClosed = true

namespace TypeSpec.Regular

theorem bounds {inner : TypeSpec} {minItems maxItems : Value}
    (regular : (TypeSpec.array inner minItems maxItems).Regular) :
    minItems.isBound = true ∧ maxItems.isBound = true := by
  have canonical := regular.canonical
  simp only [isCanonical, everywhere_array, isCanonicalNode, Bool.and_eq_true] at canonical
  exact canonical.1

theorem inner {inner : TypeSpec} {minItems maxItems : Value}
    (regular : (TypeSpec.array inner minItems maxItems).Regular) : inner.Regular := by
  obtain ⟨canonical, closed⟩ := regular
  simp only [isCanonical, isClosed, everywhere_array, Bool.and_eq_true] at canonical closed
  exact ⟨canonical.2, closed.2⟩

theorem alternative {alternatives : List TypeSpec}
    (regular : (TypeSpec.union alternatives).Regular) : ∀ spec ∈ alternatives, spec.Regular := by
  obtain ⟨canonical, closed⟩ := regular
  simp only [isCanonical, isClosed, everywhere_union, Bool.and_eq_true, allEverywhere_iff]
    at canonical closed
  exact fun spec among => ⟨canonical.2 spec among, closed.2 spec among⟩

theorem element {elements : List TypeSpec} (regular : (TypeSpec.tuple elements).Regular) :
    ∀ spec ∈ elements, spec.Regular := by
  obtain ⟨canonical, closed⟩ := regular
  simp only [isCanonical, isClosed, everywhere_tuple, Bool.and_eq_true, allEverywhere_iff]
    at canonical closed
  exact fun spec among => ⟨canonical.2 spec among, closed.2 spec among⟩

theorem parts {key value : TypeSpec} (regular : (TypeSpec.map key value).Regular) :
    key.Regular ∧ value.Regular := by
  obtain ⟨canonical, closed⟩ := regular
  simp only [isCanonical, isClosed, everywhere_map, Bool.and_eq_true] at canonical closed
  exact ⟨⟨canonical.2.1, closed.2.1⟩, canonical.2.2, closed.2.2⟩

end TypeSpec.Regular

@[simp] theorem TypeSpec.length_checkers (env : Environment) (specs : List TypeSpec) :
    (TypeSpec.checkers env specs).length = specs.length := by
  induction specs with
  | nil => rfl
  | cons spec rest ih => exact congrArg Nat.succ ih

mutual

/-- The check of a regular type ends as foretold. -/
theorem TypeSpec.check_foretold (env : Environment) : (spec : TypeSpec) → spec.Regular →
    (value : Value) → value.wellFormed = true → spec.Foretells (spec.check env) value
  | .primitive kind, _, value, _ => fun path => (Check.kind_settled kind value path).ends
  | .array inner _ _, regular, _, formed =>
      Check.array_foretold regular.bounds.1 regular.bounds.2 fun _ listed item among =>
        TypeSpec.check_foretold env inner regular.inner item
          (Value.wellFormed_of_items listed formed item among)
  | .union alternatives, regular, value, formed => by
      obtain ⟨text, described⟩ :=
        TypeSpec.describe_eq_ok (.union alternatives) regular.canonical
      rw [TypeSpec.check, described]
      exact Check.union_foretold
        (TypeSpec.firstAccepted_ends env alternatives regular.alternative value formed)
  | .tuple elements, regular, _, formed =>
      Check.tuple_foretold (TypeSpec.length_checkers env elements) fun items listed path =>
        TypeSpec.members_ends env elements regular.element items
          (Value.wellFormed_of_items listed formed) path 0
  | .map key value, regular, data, formed => by
      refine Check.map_foretold ?_ formed
      rintro found rfl ⟨k, v⟩ among
      obtain ⟨hashable, keyFormed, valueFormed⟩ := (Value.wellFormed_map.mp formed).2 _ among
      constructor
      case key => exact TypeSpec.check_foretold env key regular.parts.1 k keyFormed
      case value => exact TypeSpec.check_foretold env value regular.parts.2 v valueFormed
      case kept =>
        intro admits keeps
        exact TypeSpec.reading_of_hashable key k admits hashable (.inr keeps)
  | .ref _, regular, _, _ => nomatch regular.closed
  | .unknownKind _, regular, _, _ | .rawUnion _, regular, _, _ | .rawTuple _, regular, _, _
  | .raw _, regular, _, _ => nomatch regular.canonical

theorem TypeSpec.firstAccepted_ends (env : Environment) : (specs : List TypeSpec) →
    (∀ spec ∈ specs, spec.Regular) → (value : Value) → value.wellFormed = true → (path : Path) →
    Check.Ends (some (TypeSpec.firstReading specs value)) (fun found => found = none)
      (TypeSpec.firstFault? specs value) (TypeSpec.someAdmits specs value)
      (Check.firstAccepted value path (TypeSpec.checkers env specs))
  | [], _, _, _, _ => .refusal rfl
  | spec :: rest, regular, value, formed, path => by
      obtain ⟨first, others⟩ := List.forall_mem_cons.mp regular
      exact Check.firstAccepted_cons_ends (TypeSpec.check_foretold env spec first value formed path)
        (TypeSpec.firstAccepted_ends env rest others value formed path)

theorem TypeSpec.members_ends (env : Environment) : (specs : List TypeSpec) →
    (∀ spec ∈ specs, spec.Regular) → (items : List Value) →
    (∀ item ∈ items, item.wellFormed = true) → (path : Path) → (index : Nat) →
    items.length = specs.length →
    Check.Ends (TypeSpec.readings specs items, []) (fun parts => parts.2 ≠ [])
      (TypeSpec.eachFault? specs items) (TypeSpec.eachAdmits specs items)
      (Check.members path index ((TypeSpec.checkers env specs).zip items))
  | [], _, [], _, _, _, _ => .given
  | [], _, _ :: _, _, _, _, sameLength => nomatch sameLength
  | _ :: _, _, [], _, _, _, sameLength => nomatch sameLength
  | spec :: specs, regular, item :: items, formed, path, index, sameLength => by
      obtain ⟨first, others⟩ := List.forall_mem_cons.mp regular
      obtain ⟨itemFormed, restFormed⟩ := List.forall_mem_cons.mp formed
      exact Check.members_cons_ends (TypeSpec.check_foretold env spec first item itemFormed _)
        (TypeSpec.members_ends env specs others items restFormed path (index + 1)
          (Nat.succ.inj sameLength))

end

/-! ## Where the faults come from -/

/-- The faults that the check of a type can end in, each with what in the type makes it possible. -/
inductive TypeSpec.FaultSource (spec : TypeSpec) : Fault → Prop where
  | bound (unwritable : spec.everywhere TypeSpec.hasWritableBounds = false) :
      FaultSource spec .digitsToWrite
  | key (regrown : spec.keepsKeys = false) : FaultSource spec .unhashable

theorem TypeSpec.FaultSource.of_component {component spec : TypeSpec} {fault : Fault}
    (source : component.FaultSource fault)
    (whole : ∀ holds, component.everywhere holds = false → spec.everywhere holds = false) :
    spec.FaultSource fault := by
  cases source with
  | bound unwritable => exact .bound (whole _ unwritable)
  | key regrown => exact .key (whole _ regrown)

theorem TypeSpec.allEverywhere_eq_false {holds : TypeSpec → Bool} {specs : List TypeSpec}
    {spec : TypeSpec} (among : spec ∈ specs) (fails : spec.everywhere holds = false) :
    TypeSpec.allEverywhere holds specs = false := by
  refine Bool.eq_false_iff.mpr fun all => ?_
  exact Bool.false_ne_true (fails.symm.trans (TypeSpec.allEverywhere_iff.mp all spec among))

mutual

/-- The check of a well-formed value ends in no fault without a source in the type. -/
theorem TypeSpec.source_of_fault? : (spec : TypeSpec) → (value : Value) → value.wellFormed = true →
    {fault : Fault} → spec.fault? value = some fault → spec.FaultSource fault
  | .array inner minItems maxItems, value, formed, fault, ends => by
      simp only [TypeSpec.fault?] at ends
      cases listed : value.items? with
      | none =>
          rw [listed] at ends
          cases ends
      | some items =>
          rw [listed] at ends
          rcases Option.or_eq_some_iff.mp ends with ofItem | ⟨_, ofBounds⟩
          · obtain ⟨item, among, ends⟩ := List.exists_of_findSome?_eq_some ofItem
            have itemFormed := Value.wellFormed_of_items listed formed item among
            refine (TypeSpec.source_of_fault? inner item itemFormed ends).of_component ?_
            intro holds fails
            rw [TypeSpec.everywhere_array, fails, Bool.and_false]
          · obtain ⟨stalls, wrote⟩ := Option.ite_none_right_eq_some.mp ofBounds
            cases wrote
            refine .bound (Bool.eq_false_iff.mpr fun writable => ?_)
            simp only [TypeSpec.everywhere_array, TypeSpec.hasWritableBounds, Bool.and_eq_true]
              at writable
            rw [TypeSpec.boundsStall_of_writable _ writable.1.1 writable.1.2, Bool.and_false]
              at stalls
            cases stalls
  | .union alternatives, value, formed, fault, ends => by
      obtain ⟨spec, among, source⟩ :=
        TypeSpec.source_of_firstFault? alternatives value formed ends
      refine source.of_component fun holds fails => ?_
      rw [TypeSpec.everywhere_union, TypeSpec.allEverywhere_eq_false among fails, Bool.and_false]
  | .tuple elements, value, formed, fault, ends => by
      simp only [TypeSpec.fault?] at ends
      cases listed : value.items? with
      | none =>
          rw [listed] at ends
          cases ends
      | some items =>
          rw [listed] at ends
          obtain ⟨_, ofElement⟩ := Option.ite_none_right_eq_some.mp ends
          obtain ⟨spec, among, source⟩ := TypeSpec.source_of_eachFault? elements items
            (Value.wellFormed_of_items listed formed) ofElement
          refine source.of_component fun holds fails => ?_
          rw [TypeSpec.everywhere_tuple, TypeSpec.allEverywhere_eq_false among fails,
            Bool.and_false]
  | .map key value, data, formed, fault, ends => by
      cases data with
      | map found =>
          obtain ⟨⟨k, v⟩, among, ends⟩ := List.exists_of_findSome?_eq_some ends
          obtain ⟨hashable, keyFormed, valueFormed⟩ :=
            (Value.wellFormed_map.mp formed).2 _ among
          rcases Option.or_eq_some_iff.mp ends with ofKey | ⟨_, others⟩
          · refine (TypeSpec.source_of_fault? key k keyFormed ofKey).of_component ?_
            intro holds fails
            rw [TypeSpec.everywhere_map, fails, Bool.false_and, Bool.and_false]
          rcases Option.or_eq_some_iff.mp others with ofValue | ⟨_, ofStoring⟩
          · refine (TypeSpec.source_of_fault? value v valueFormed ofValue).of_component ?_
            intro holds fails
            rw [TypeSpec.everywhere_map, fails, Bool.and_false, Bool.and_false]
          · obtain ⟨regrown, stored⟩ := Option.ite_none_right_eq_some.mp ofStoring
            cases stored
            obtain ⟨admits, unhashable⟩ := Bool.and_eq_true_iff.mp regrown
            have keyAdmits := (Bool.and_eq_true_iff.mp admits).1
            refine .key (Bool.eq_false_iff.mpr fun keeps => ?_)
            have arrayFree : key.isArrayFree = true := (Bool.and_eq_true_iff.mp keeps).1
            rw [TypeSpec.reading_of_hashable key k keyAdmits hashable (.inl arrayFree), hashable]
              at unhashable
            cases unhashable
      | _ => cases ends
  | .primitive _, _, _, _, ends => nomatch ends
  | .unknownKind _, _, _, _, ends => nomatch ends
  | .ref _, _, _, _, ends => nomatch ends
  | .rawUnion _, _, _, _, ends | .rawTuple _, _, _, _, ends | .raw _, _, _, _, ends => nomatch ends

theorem TypeSpec.source_of_firstFault? : (specs : List TypeSpec) → (value : Value) →
    value.wellFormed = true → {fault : Fault} → TypeSpec.firstFault? specs value = some fault →
    ∃ spec ∈ specs, spec.FaultSource fault
  | [], _, _, _, ends => nomatch ends
  | spec :: rest, value, formed, fault, ends => by
      rcases Option.or_eq_some_iff.mp ends with ofFirst | ⟨_, ofRest⟩
      · exact ⟨spec, List.mem_cons_self, TypeSpec.source_of_fault? spec value formed ofFirst⟩
      · cases admits : spec.admits value with
        | true =>
            rw [admits] at ofRest
            cases ofRest
        | false =>
            rw [admits] at ofRest
            obtain ⟨other, among, source⟩ :=
              TypeSpec.source_of_firstFault? rest value formed ofRest
            exact ⟨other, List.mem_cons_of_mem _ among, source⟩

theorem TypeSpec.source_of_eachFault? : (specs : List TypeSpec) → (items : List Value) →
    (∀ item ∈ items, item.wellFormed = true) → {fault : Fault} →
    TypeSpec.eachFault? specs items = some fault → ∃ spec ∈ specs, spec.FaultSource fault
  | [], [], _, _, ends => nomatch ends
  | [], _ :: _, _, _, ends => nomatch ends
  | _ :: _, [], _, _, ends => nomatch ends
  | spec :: specs, item :: items, formed, fault, ends => by
      obtain ⟨itemFormed, restFormed⟩ := List.forall_mem_cons.mp formed
      rcases Option.or_eq_some_iff.mp ends with ofFirst | ⟨_, ofRest⟩
      · exact ⟨spec, List.mem_cons_self, TypeSpec.source_of_fault? spec item itemFormed ofFirst⟩
      · obtain ⟨other, among, source⟩ :=
          TypeSpec.source_of_eachFault? specs items restFormed ofRest
        exact ⟨other, List.mem_cons_of_mem _ among, source⟩

end

/-- The check of a regular type returns exactly when it comes upon no fault.  Its verdict then
accepts an inhabitant as it reads and rejects all else for a reason.  Faults come from bounds that
cannot be written and from keys that are read as arrays only, so that there are none without
those. -/
theorem TypeSpec.check_returns_iff (env : Environment) (spec : TypeSpec)
    (canonical : spec.isCanonical = true) (closed : spec.isClosed = true) (value : Value)
    (formed : value.wellFormed = true) (path : Path) :
    ((∃ verdict, spec.check env value path = .ok verdict) ↔ spec.fault? value = none) ∧
      (∀ fault, spec.check env value path = .error fault ↔ spec.fault? value = some fault) ∧
      (∀ verdict, spec.check env value path = .ok verdict →
        (spec.admits value = true → verdict = .accepted (spec.reading value)) ∧
          (spec.admits value = false → ∃ first rest, verdict = .rejected (first :: rest))) ∧
      (∀ fault, spec.fault? value = some fault → spec.FaultSource fault) ∧
      (spec.everywhere TypeSpec.hasWritableBounds = true → spec.keepsKeys = true →
        spec.fault? value = none) := by
  have ends := spec.check_foretold env ⟨canonical, closed⟩ value formed path
  refine ⟨ends.eq_ok_iff, ends.eq_error_iff, fun verdict returned => ?_,
    fun fault => spec.source_of_fault? value formed, fun writable keeps => ?_⟩
  · obtain ⟨accepts, rejects⟩ := ends.eq_ok (ends.eq_ok_iff.mp ⟨verdict, returned⟩)
    refine ⟨fun admits => ?_, fun refuses => ?_⟩
    · exact Except.ok.inj (returned.symm.trans (accepts admits))
    · obtain ⟨result, rejected, said⟩ := rejects refuses
      cases returned.symm.trans rejected
      cases verdict with
      | accepted value => exact absurd rfl said
      | rejected violations =>
          obtain ⟨first, rest, rfl⟩ := List.exists_cons_of_ne_nil said
          exact ⟨first, rest, rfl⟩
  · cases foretold : spec.fault? value with
    | none => rfl
    | some fault =>
        cases spec.source_of_fault? value formed foretold with
        | bound unwritable => cases writable.symm.trans unwritable
        | key regrown => cases keeps.symm.trans regrown

/-- Keys may be read by an array type, as long as none of them is an array: the rebuilt mapping has
the same keys. -/
theorem TypeSpec.check_returns_of_mixed_keys :
    let key := TypeSpec.union [.array (.primitive .any) .null .null, .primitive .string]
    let spec := TypeSpec.map key (.array (.primitive .integer) .null .null)
    let data := Value.map [(.str "low", .tuple [.int 1]), (.str "high", .list [])]
    spec.check .bare data [] =
      .ok (.accepted (.map [(.str "low", .list [.int 1]), (.str "high", .list [])])) := by
  intro key spec data
  obtain ⟨returns, -, verdicts, -⟩ := spec.check_returns_iff .bare rfl rfl data rfl []
  obtain ⟨verdict, returned⟩ := returns.mpr rfl
  rw [returned, (verdicts verdict returned).1 rfl]
  rfl

/-- Not every check returns: a tuple is a key of a mapping, and its reading as an array is none. -/
theorem TypeSpec.check_faults_of_array_key :
    ¬ ∀ (env : Environment) (spec : TypeSpec), spec.isCanonical = true → spec.isClosed = true →
      ∀ (value : Value), value.wellFormed = true → ∀ (path : Path),
        ∃ verdict, spec.check env value path = .ok verdict := by
  intro holds
  let spec := TypeSpec.map (.array (.primitive .any) .null .null) (.primitive .any)
  let data := Value.map [(.tuple [.int 1, .int 2], .int 3)]
  obtain ⟨verdict, returned⟩ := holds .bare spec rfl rfl data rfl []
  cases returned

end Conform
