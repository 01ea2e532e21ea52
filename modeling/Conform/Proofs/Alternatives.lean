import Conform.Proofs.Attainment

/-!
# The alternative that a union converts to

A union converts a value to the first of its alternatives that does not refuse it, and leaves to the
check whether what that alternative makes is of the union.  It is, if the conversion of the
alternative holds to the end: kinds of scalars convert, and what is passed through on the way is
accepted as it stands.  An alternative that passes a value through although it does not accept it
hides those behind it.
-/

namespace Conform

/-! ## Conversions that hold to the end -/

mutual

/-- A conversion holds to the end: it meets scalars where kinds of scalars are asked for, sequences
of as many items as arrays may have, and elsewhere only what the type accepts as it stands; and a
union on the way takes an alternative of which this is true. -/
def TypeSpec.Holds (env : Environment) : TypeSpec → Value → Prop
  | .primitive kind, value => kind.isScalar = true ∨ kind.admits value = true
  | .array inner minItems maxItems, value => ∃ items, value.items? = some items ∧
    TypeSpec.boundsAllow minItems maxItems items.length = true ∧
    ∀ item ∈ items, TypeSpec.Holds env inner item
  | .union alternatives, value => TypeSpec.HoldsFirst env alternatives value
  | spec, value => ∃ result, (spec.check env).Accepts value result

/-- The conversion to the first of several types to which a value can be converted holds to the
end. -/
def TypeSpec.HoldsFirst (env : Environment) : List TypeSpec → Value → Prop
  | [], _ => True
  | spec :: rest, value =>
    (TypeSpec.Holds env spec value ∧ ∃ made, (spec.coerce env).Accepts value made) ∨
      (TypeSpec.HoldsFirst env rest value ∧ ∀ made, ¬ (spec.coerce env).Accepts value made)

end

namespace Check

theorem array_admits {inner : Checker} (evident : inner.Evident) {minItems maxItems : Value}
    (minBound : minItems.isBound = true) (maxBound : maxItems.isBound = true)
    {items : List Value} (allowed : TypeSpec.boundsAllow minItems maxItems items.length = true)
    (each : ∀ item ∈ items, inner.Admits item) :
    (Check.array inner (TypeSpec.boundConstraints minItems maxItems)).Admits (.list items) := by
  intro path violations rejected
  simp only [Check.array, Value.items?] at rejected
  obtain ⟨⟨values, found⟩, checked, concluded⟩ := Attempt.bind_eq_ok_iff.mp rejected
  cases found with
  | nil =>
      have sameLength : items.length = values.length := (items_accepted evident checked).length_eq
      rw [sameLength] at allowed
      have settled := bounds_settled minBound maxBound values path
      rw [allowed] at settled
      change Constraint.checkAll _ (.list values) path = _ at concluded
      rw [concluded] at settled
      generalize TypeSpec.boundsStall minItems maxItems values.length = stalls at settled
      cases settled
  | cons violation others =>
      obtain ⟨part, among, place, reasons, refuses⟩ :=
        exists_refused_of_members checked (List.cons_ne_nil violation others)
      obtain ⟨item, itemAmong, rfl⟩ := List.mem_map.mp among
      exact each item itemAmong place reasons refuses

theorem union_admits {description : Attempt String} {alternatives : List Checker}
    {checker : Checker} (among : checker ∈ alternatives) {value : Value}
    (admits : checker.Admits value) : (Check.union description alternatives).Admits value := by
  intro path violations rejected
  obtain ⟨found, tried, concluded⟩ := Attempt.bind_eq_ok_iff.mp rejected
  cases found with
  | some result => cases concluded
  | none =>
      obtain ⟨reasons, refuses⟩ := refused_of_firstAccepted tried checker among
      exact admits path reasons refuses

end Check

theorem Checker.Rooted.admits_of_accepts {checker : Checker} (rooted : checker.Rooted)
    {value result : Value} (accepts : checker.Accepts value result) : checker.Admits value := by
  intro path violations rejected
  rw [rooted.anywhere accepts path] at rejected
  cases rejected

mutual

/-- What a conversion makes that holds to the end is not rejected by the check of the type. -/
theorem TypeSpec.admits_of_holds (env : Environment) : (spec : TypeSpec) →
    spec.isCanonical = true → {value made : Value} → spec.Holds env value →
    (spec.coerce env).Accepts value made → (spec.check env).Admits made
  | .primitive kind, _, value, made, holds, ⟨_, converted⟩ => by
      have admits : kind.admits made = true := by
        rcases holds with scalar | admits
        · exact (Coercion.toKind_reaches scalar converted).admits
        · rw [TypeSpec.coerce, Coercion.toKind_of_admits env admits] at converted
          cases converted
          exact admits
      apply (Check.kind_rooted kind).admits_of_accepts
      exact ⟨[], if_pos admits⟩
  | .array inner minItems maxItems, canonical, value, made, ⟨items, listed, allowed, hold⟩,
      ⟨_, converted⟩ => by
      obtain ⟨bounds, innerCanonical⟩ := Bool.and_eq_true_iff.mp canonical
      obtain ⟨minBound, maxBound⟩ := Bool.and_eq_true_iff.mp bounds
      obtain ⟨values, rfl, each⟩ :=
        Coercion.toArray_accepted (inner.coerce_evident env) listed converted
      apply Check.array_admits (inner.check_evident env) minBound maxBound
      · rwa [← each.length_eq]
      · apply forall_mem_of_forall₂
        refine ((List.forall₂_and_left _ _).mpr ⟨hold, each⟩).imp ?_
        intro item other both
        exact TypeSpec.admits_of_holds env inner innerCanonical both.1 both.2
  | .union alternatives, canonical, value, made, holds, ⟨path, converted⟩ => by
      obtain ⟨found, tried, concluded⟩ := Attempt.bind_eq_ok_iff.mp converted
      cases found with
      | none => exact absurd concluded (Coercion.refuse_ne_accepted _ _ _ _ _)
      | some first =>
          cases concluded
          obtain ⟨checker, among, admits⟩ := TypeSpec.exists_admits_of_holdsFirst env alternatives
            (Bool.and_eq_true_iff.mp canonical).2 holds tried
          exact Check.union_admits among admits
  | .tuple elements, _, _, _, ⟨_, accepts⟩, ⟨_, converted⟩ => by
      cases converted
      exact ((TypeSpec.tuple elements).check_rooted env).admits_of_accepts accepts
  | .map key item, _, _, _, ⟨_, accepts⟩, ⟨_, converted⟩ => by
      cases converted
      exact ((TypeSpec.map key item).check_rooted env).admits_of_accepts accepts
  | .ref target, _, _, _, ⟨_, accepts⟩, ⟨_, converted⟩ => by
      cases converted
      exact ((TypeSpec.ref target).check_rooted env).admits_of_accepts accepts
  | .unknownKind _, canonical, _, _, _, _
  | .rawUnion _, canonical, _, _, _, _ | .rawTuple _, canonical, _, _, _, _
  | .raw _, canonical, _, _, _, _ =>
      nomatch canonical

theorem TypeSpec.exists_admits_of_holdsFirst (env : Environment) : (specs : List TypeSpec) →
    TypeSpec.allEverywhere TypeSpec.isCanonicalNode specs = true → {value made : Value} →
    TypeSpec.HoldsFirst env specs value → {path : Path} →
    Check.firstAccepted value path (TypeSpec.coercers env specs) = .ok (some made) →
    ∃ checker ∈ TypeSpec.checkers env specs, checker.Admits made
  | [], _, _, _, _, _, converted => nomatch converted
  | spec :: rest, canonical, value, made, holds, path, converted => by
      obtain ⟨first, others⟩ := Bool.and_eq_true_iff.mp canonical
      obtain ⟨verdict, tried, concluded⟩ := Attempt.bind_eq_ok_iff.mp converted
      cases verdict with
      | accepted result =>
          cases concluded
          rcases holds with ⟨holds, _⟩ | ⟨_, refuses⟩
          · exact ⟨_, List.mem_cons_self,
            TypeSpec.admits_of_holds env spec first holds ⟨path, tried⟩⟩
          · exact absurd ⟨path, tried⟩ (refuses made)
      | rejected violations =>
          rcases holds with ⟨_, other, accepts⟩ | ⟨holds, _⟩
          · rw [(spec.coerce_rooted env).anywhere accepts path] at tried
            cases tried
          · obtain ⟨checker, among, admits⟩ :=
              TypeSpec.exists_admits_of_holdsFirst env rest others holds concluded
            exact ⟨checker, List.mem_cons_of_mem _ among, admits⟩

end

/-! ## The alternative that is taken -/

namespace TypeSpec

/-- The conversion to the first of several types that does not refuse a value is that at a place,
and it makes another value. -/
structure Takes (env : Environment) (specs : List TypeSpec) (value : Value) (place : Nat)
    (taken : TypeSpec) (made : Value) : Prop where
  alternative : specs[place]? = some taken
  refused : ∀ earlier ∈ specs.take place, ∃ violations,
    earlier.coerce env value [] = .ok (.rejected violations)
  converts : (taken.coerce env).Accepts value made

variable {env : Environment} {specs : List TypeSpec} {value made : Value} {place : Nat}
  {taken : TypeSpec}

theorem exists_takes (alternative : specs[place]? = some taken)
    (converts : (taken.coerce env).Accepts value made)
    (returns : ∀ earlier ∈ specs.take place, ∃ verdict,
      earlier.coerce env value [] = .ok verdict) :
    ∃ first ≤ place, ∃ other result, Takes env specs value first other result := by
  induction specs generalizing place with
  | nil => cases alternative
  | cons spec rest ih =>
      cases place with
      | zero => exact ⟨0, Nat.le_refl 0, taken, made, alternative, List.forall_mem_nil _, converts⟩
      | succ place =>
          obtain ⟨⟨verdict, tried⟩, others⟩ := List.forall_mem_cons.mp returns
          cases verdict with
          | accepted result =>
              exact ⟨0, Nat.zero_le _, spec, result, rfl, List.forall_mem_nil _, [], tried⟩
          | rejected violations =>
              obtain ⟨first, before, other, result, takes⟩ := ih alternative others
              refine ⟨first + 1, Nat.succ_le_succ before, other, result, takes.alternative, ?_,
                takes.converts⟩
              exact List.forall_mem_cons.mpr ⟨⟨violations, tried⟩, takes.refused⟩

theorem Takes.firstAccepted (takes : Takes env specs value place taken made) (path : Path) :
    Check.firstAccepted value path (coercers env specs) = .ok (some made) := by
  induction specs generalizing place with
  | nil => cases takes.alternative
  | cons spec rest ih =>
      cases place with
      | zero =>
          cases takes.alternative
          rw [coercers, Check.firstAccepted, (taken.coerce_rooted env).anywhere takes.converts path]
          rfl
      | succ place =>
          obtain ⟨⟨violations, refused⟩, others⟩ := List.forall_mem_cons.mp takes.refused
          obtain ⟨reasons, refusedHere⟩ := (spec.coerce_rooted env).rejects_anywhere refused path
          rw [coercers, Check.firstAccepted, refusedHere]
          exact ih ⟨takes.alternative, others, takes.converts⟩

theorem Takes.holdsFirst (takes : Takes env specs value place taken made)
    (holds : taken.Holds env value) : HoldsFirst env specs value := by
  induction specs generalizing place with
  | nil => trivial
  | cons spec rest ih =>
      cases place with
      | zero =>
          cases takes.alternative
          exact .inl ⟨holds, made, takes.converts⟩
      | succ place =>
          obtain ⟨⟨violations, refused⟩, others⟩ := List.forall_mem_cons.mp takes.refused
          refine .inr ⟨ih ⟨takes.alternative, others, takes.converts⟩, fun result accepts => ?_⟩
          rw [(spec.coerce_rooted env).anywhere accepts []] at refused
          cases refused

theorem union_accepts_iff {path : Path} {verdict : Verdict Value}
    (checked : (TypeSpec.union specs).check env value path = .ok verdict) :
    (∃ kept, verdict = .accepted kept) ↔
      ∃ spec ∈ specs, ∃ kept, (spec.check env).Accepts value kept := by
  have checked : Check.union (TypeSpec.union specs).describe (checkers env specs) value path =
    .ok verdict := checked
  rw [checkers_eq_map] at checked
  constructor
  · intro accepted
    obtain ⟨kept, rfl⟩ := accepted
    obtain ⟨checker, among, accepts⟩ :=
      Check.exists_accepts_of_firstAccepted (Check.union_accepted checked)
    obtain ⟨spec, specAmong, rfl⟩ := List.mem_map.mp among
    exact ⟨spec, specAmong, kept, accepts⟩
  · intro accepted
    obtain ⟨spec, among, kept, accepts⟩ := accepted
    cases verdict with
    | accepted result => exact ⟨result, rfl⟩
    | rejected violations =>
        have admits := (spec.check_rooted env).admits_of_accepts accepts
        exact absurd checked (Check.union_admits (List.mem_map_of_mem among) admits path violations)

/-! ## The law -/

/-- What becomes of a value that is converted to a union, when the alternative at a place could
convert it and that at an earlier place, or at the same, is taken. -/
structure UnionConversion (env : Environment) (specs : List TypeSpec) (value : Value)
    (place first : Nat) (taken : TypeSpec) (made : Value) : Prop where
  /-- The first alternative that does not refuse is taken. -/
  takes : Takes env specs value first taken made
  /-- The union makes what the alternative makes. -/
  coerced : ∀ path, (TypeSpec.union specs).coerce env value path = .ok (.accepted made)
  /-- If the union reaches a verdict on what was made, then it accepts it exactly when an
  alternative does. -/
  accepted_iff : ∀ path verdict, (TypeSpec.union specs).check env made path = .ok verdict →
    ((∃ kept, verdict = .accepted kept) ↔
      ∃ spec ∈ specs, ∃ kept, (spec.check env).Accepts made kept)
  /-- In particular if no earlier alternative was taken, or one whose conversion holds to the
  end. -/
  accepted : first = place ∨ taken.Holds env value →
    ∀ path verdict, (TypeSpec.union specs).check env made path = .ok verdict →
    ∃ kept, verdict = .accepted kept
  /-- A union of plain types whose bounds can be written reaches a verdict. -/
  returns : (TypeSpec.union specs).Plain →
    (TypeSpec.union specs).everywhere hasWritableBounds = true → value.wellFormed = true →
    ∀ path, ∃ verdict, (TypeSpec.union specs).check env made path = .ok verdict

/-- If an alternative can convert a value to one that it accepts, and no conversion before it ends
in a fault, then the union converts the value as well, by the first alternative that does not refuse
it. -/
theorem exists_unionConversion (env : Environment) (specs : List TypeSpec)
    (canonical : (TypeSpec.union specs).isCanonical = true) (value : Value) (place : Nat)
    (spec : TypeSpec) (alternative : specs[place]? = some spec) (converted result : Value)
    (converts : (spec.coerce env).Accepts value converted)
    (accepts : (spec.check env).Accepts converted result)
    (returns : ∀ earlier ∈ specs.take place, ∃ verdict,
      earlier.coerce env value [] = .ok verdict) :
    ∃ first ≤ place, ∃ taken made, UnionConversion env specs value place first taken made := by
  obtain ⟨first, before, taken, made, takes⟩ := exists_takes alternative converts returns
  have coerced (path : Path) :
      (TypeSpec.union specs).coerce env value path = .ok (.accepted made) := by
    rw [coerce, Coercion.toUnion, takes.firstAccepted path]
    rfl
  refine ⟨first, before, taken, made, ?_⟩
  constructor
  case takes => exact takes
  case coerced => exact coerced
  case accepted_iff => exact fun path verdict checked => union_accepts_iff checked
  case accepted =>
    intro kept path verdict checked
    rcases kept with rfl | holds
    · apply (union_accepts_iff checked).mpr
      -- The alternative that is taken is the given one, so that it makes the given value.
      cases alternative.symm.trans takes.alternative
      have same := (spec.coerce_rooted env).anywhere takes.converts []
      rw [(spec.coerce_rooted env).anywhere converts []] at same
      cases same
      exact ⟨spec, List.mem_of_getElem? alternative, result, accepts⟩
    · have admits := admits_of_holds env (.union specs) canonical (takes.holdsFirst holds)
        ⟨[], coerced []⟩
      cases verdict with
      | accepted result => exact ⟨result, rfl⟩
      | rejected violations => exact absurd checked (admits path violations)
  case returns =>
    intro plain writable formed path
    have madeFormed : made.wellFormed = true :=
      ((TypeSpec.union specs).coerce_follows env).fits formed (coerced [])
    have settled := check_settled env (.union specs) plain made madeFormed path
    rw [forecast, stalls_of_writable _ writable] at settled
    obtain ⟨verdict, checked, _⟩ := settled.verdict
    exact ⟨verdict, checked⟩

/-- Numerals are converted to whole numbers although an array of texts would take them as they are:
the array of numbers stands before it, and the truth values before that refuse them. -/
theorem exists_unionConversion_of_numerals :
    let specs : List TypeSpec := [.array (.primitive .boolean) .null .null,
      .array (.primitive .integer) .null .null, .array (.primitive .string) .null .null]
    let numerals : Value := .tuple [.str "1", .str "2"]
    let numbers : Value := .list [.int 1, .int 2]
    (TypeSpec.union specs).coerce .bare numerals [] = .ok (.accepted numbers) ∧
      ∃ first ≤ 2, ∃ taken made, UnionConversion .bare specs numerals 2 first taken made := by
  intro specs numerals numbers
  refine ⟨rfl, ?_⟩
  apply exists_unionConversion .bare specs rfl numerals 2 _ rfl (.list [.str "1", .str "2"])
    (.list [.str "1", .str "2"]) ⟨[], rfl⟩ ⟨[], rfl⟩
  intro earlier among
  simp only [specs, List.take_succ_cons, List.take_zero, List.mem_cons, List.not_mem_nil,
    or_false] at among
  rcases among with rfl | rfl
  · exact ⟨_, rfl⟩
  · exact ⟨_, rfl⟩

/-- A union need not accept what it makes of a value, although one of its alternatives could convert
the value: mappings come first and pass a numeral through, which they do not accept. -/
theorem union_hides_alternative :
    ¬ ∀ (env : Environment) (specs : List TypeSpec),
      (TypeSpec.union specs).isCanonical = true → (TypeSpec.union specs).isClosed = true →
      ∀ value : Value,
        (∃ spec ∈ specs, ∃ converted result, (spec.coerce env).Accepts value converted ∧
          (spec.check env).Accepts converted result) →
        ∃ made kept, ((TypeSpec.union specs).coerce env).Accepts value made ∧
          ((TypeSpec.union specs).check env).Accepts made kept := by
  intro holds
  let specs : List TypeSpec := [.primitive .map, .primitive .integer]
  have possible : ∃ spec ∈ specs, ∃ converted result,
      (spec.coerce .bare).Accepts (.str "5") converted ∧
        (spec.check .bare).Accepts converted result :=
    ⟨.primitive .integer, by simp [specs], .int 5, .int 5, ⟨[], rfl⟩, [], rfl⟩
  obtain ⟨made, kept, converted, accepted⟩ := holds .bare specs rfl rfl (.str "5") possible
  have passed : (TypeSpec.union specs).coerce .bare (.str "5") [] =
    .ok (.accepted (.str "5")) := rfl
  rw [((TypeSpec.union specs).coerce_rooted .bare).anywhere converted []] at passed
  cases passed
  have checked := ((TypeSpec.union specs).check_rooted .bare).anywhere accepted []
  cases checked

end TypeSpec

end Conform
