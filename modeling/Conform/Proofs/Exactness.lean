import Conform.Proofs.Verdicts

/-!
# Exactness of the check of a type

The check of a plain type, one without references whose keys hold no array type, ends as
`TypeSpec.forecast` foretells from the type and the value alone: the only fault it can end in is
that of a violated bound, since its keys stay keys.
-/

namespace Conform

/-! ## The fault of a violated bound -/

namespace Check

@[simp] theorem boundFault?_or (first second : Bool) :
    (boundFault? first).or (boundFault? second) = boundFault? (first || second) := by
  cases first <;> rfl

theorem findSome?_eq_boundFault? {α : Type} {fault? : α → Option Fault} {stalls : α → Bool}
    {items : List α} (each : ∀ item ∈ items, fault? item = boundFault? (stalls item)) :
    items.findSome? fault? = boundFault? (items.any stalls) := by
  induction items with
  | nil => rfl
  | cons item rest ih =>
      obtain ⟨first, others⟩ := List.forall_mem_cons.mp each
      rw [List.findSome?_cons, List.any_cons, first, ih others]
      cases stalls item <;> rfl

end Check

mutual

/-- The check of a plain type ends in the fault of a violated bound or in none. -/
theorem TypeSpec.fault?_eq_of_keepsKeys : (spec : TypeSpec) → spec.keepsKeys = true →
    (value : Value) → value.wellFormed = true →
    spec.fault? value = Check.boundFault? (spec.stalls value)
  | .primitive _, _, _, _ => rfl
  | .unknownKind _, _, _, _ => rfl
  | .ref _, _, _, _ => rfl
  | .rawUnion _, _, _, _ | .rawTuple _, _, _, _ | .raw _, _, _, _ => rfl
  | .array inner _ _, keeps, value, formed => by
      simp only [TypeSpec.keepsKeys, TypeSpec.everywhere_array, Bool.and_eq_true] at keeps
      simp only [TypeSpec.fault?, TypeSpec.stalls]
      cases listed : value.items? with
      | none => rfl
      | some items =>
          have each : ∀ item ∈ items, inner.fault? item = Check.boundFault? (inner.stalls item) :=
            fun item among => TypeSpec.fault?_eq_of_keepsKeys inner keeps.2 item
              (Value.wellFormed_of_items listed formed item among)
          dsimp only
          rw [Check.findSome?_eq_boundFault? each, Check.boundFault?_or]
  | .union alternatives, keeps, value, formed => by
      simp only [TypeSpec.keepsKeys, TypeSpec.everywhere_union, Bool.and_eq_true] at keeps
      exact TypeSpec.firstFault?_eq_of_keepsKeys alternatives keeps.2 value formed
  | .tuple elements, keeps, value, formed => by
      simp only [TypeSpec.keepsKeys, TypeSpec.everywhere_tuple, Bool.and_eq_true] at keeps
      simp only [TypeSpec.fault?, TypeSpec.stalls]
      cases listed : value.items? with
      | none => rfl
      | some items =>
          dsimp only
          rw [TypeSpec.eachFault?_eq_of_keepsKeys elements keeps.2 items
            (Value.wellFormed_of_items listed formed)]
          by_cases arity : items.length = elements.length
          · rw [if_pos arity, decide_eq_true arity, Bool.true_and]
          · rw [if_neg arity, decide_eq_false arity, Bool.false_and]
            rfl
  | .map key value, keeps, data, formed => by
      simp only [TypeSpec.keepsKeys, TypeSpec.everywhere_map, Bool.and_eq_true] at keeps
      obtain ⟨arrayFree, keyKeeps, valueKeeps⟩ := keeps
      cases data with
      | map found =>
          have each : ∀ entry ∈ found,
              Check.entryFault? (key.fault? entry.1) (value.fault? entry.2)
                  (key.admits entry.1 && value.admits entry.2) (key.reading entry.1) =
                Check.boundFault? (key.stalls entry.1 || value.stalls entry.2) := by
            intro entry among
            obtain ⟨hashable, keyFormed, valueFormed⟩ :=
              (Value.wellFormed_map.mp formed).2 entry among
            have stored : (key.admits entry.1 && value.admits entry.2 &&
                !(key.reading entry.1).hashable) = false := by
              cases admits : key.admits entry.1 with
              | false => rfl
              | true =>
                  rw [TypeSpec.reading_of_hashable key entry.1 admits hashable (.inl arrayFree),
                    hashable, Bool.not_true, Bool.and_false]
            rw [Check.entryFault?, stored, if_neg Bool.false_ne_true, Option.or_none,
              TypeSpec.fault?_eq_of_keepsKeys key keyKeeps entry.1 keyFormed,
              TypeSpec.fault?_eq_of_keepsKeys value valueKeeps entry.2 valueFormed,
              Check.boundFault?_or]
          simp only [TypeSpec.fault?, TypeSpec.stalls, Value.entries?]
          exact Check.findSome?_eq_boundFault? each
      | _ => rfl

theorem TypeSpec.firstFault?_eq_of_keepsKeys : (specs : List TypeSpec) →
    TypeSpec.allEverywhere TypeSpec.keepsKeysNode specs = true → (value : Value) →
    value.wellFormed = true →
    TypeSpec.firstFault? specs value = Check.boundFault? (TypeSpec.firstStalls specs value)
  | [], _, _, _ => rfl
  | spec :: rest, keeps, value, formed => by
      simp only [TypeSpec.allEverywhere_cons, Bool.and_eq_true] at keeps
      rw [TypeSpec.firstFault?, TypeSpec.firstStalls, ← Check.boundFault?_or,
        TypeSpec.fault?_eq_of_keepsKeys spec keeps.1 value formed,
        TypeSpec.firstFault?_eq_of_keepsKeys rest keeps.2 value formed]
      cases spec.admits value <;> rfl

theorem TypeSpec.eachFault?_eq_of_keepsKeys : (specs : List TypeSpec) →
    TypeSpec.allEverywhere TypeSpec.keepsKeysNode specs = true → (items : List Value) →
    (∀ item ∈ items, item.wellFormed = true) →
    TypeSpec.eachFault? specs items = Check.boundFault? (TypeSpec.someStalls specs items)
  | [], _, _, _ => rfl
  | _ :: _, _, [], _ => rfl
  | spec :: specs, keeps, item :: items, formed => by
      simp only [TypeSpec.allEverywhere_cons, Bool.and_eq_true] at keeps
      obtain ⟨itemFormed, restFormed⟩ := List.forall_mem_cons.mp formed
      rw [TypeSpec.eachFault?, TypeSpec.someStalls, ← Check.boundFault?_or,
        TypeSpec.fault?_eq_of_keepsKeys spec keeps.1 item itemFormed,
        TypeSpec.eachFault?_eq_of_keepsKeys specs keeps.2 items restFormed]

end

/-! ## The check of a plain type -/

/-- A canonical type without references, whose keys hold no array type. -/
structure TypeSpec.Plain (spec : TypeSpec) : Prop where
  canonical : spec.isCanonical = true
  closed : spec.isClosed = true
  keepsKeys : spec.keepsKeys = true

theorem Settled.of_ends {outcome : Attempt (Verdict Value)} {stalls admits : Bool} {reading : Value}
    (ends : Check.Ends (.accepted reading) Check.Rejects (Check.boundFault? stalls) admits
      outcome) :
    Settled outcome ⟨stalls, admits, reading⟩ := by
  cases stalls with
  | true =>
      cases ends with
      | fault => exact .stalled
  | false =>
      cases ends with
      | given => exact .accepted
      | @refusal verdict said =>
          cases verdict with
          | accepted value => exact absurd rfl said
          | rejected violations =>
              obtain ⟨first, rest, rfl⟩ := List.exists_cons_of_ne_nil said
              exact .rejected

theorem TypeSpec.check_settled (env : Environment) (spec : TypeSpec) (plain : spec.Plain)
    (value : Value) (formed : value.wellFormed = true) (path : Path) :
    Settled (spec.check env value path) (spec.forecast value) := by
  have ends := spec.check_foretold env ⟨plain.canonical, plain.closed⟩ value formed path
  rw [spec.fault?_eq_of_keepsKeys plain.keepsKeys value formed] at ends
  exact .of_ends ends

/-- The check of a plain type accepts exactly the inhabitants that do not lead it upon a violated
bound too long to be written, and gives back their reading.  There is no such value when all bounds
can be written. -/
theorem TypeSpec.check_eq_accepted_iff (env : Environment) (spec : TypeSpec)
    (canonical : spec.isCanonical = true) (closed : spec.isClosed = true)
    (keepsKeys : spec.keepsKeys = true) (value : Value) (formed : value.wellFormed = true)
    (path : Path) :
    (∀ result, spec.check env value path = .ok (.accepted result) ↔
      (spec.admits value = true ∧ spec.stalls value = false) ∧ result = spec.reading value) ∧
    (spec.everywhere TypeSpec.hasWritableBounds = true → spec.stalls value = false) :=
  ⟨(spec.check_settled env ⟨canonical, closed, keepsKeys⟩ value formed path).eq_accepted_iff,
    fun writable => spec.stalls_of_writable writable value⟩

/-- A list within bounds is accepted: the nested tuple, which an array type reads, becomes a
list. -/
theorem TypeSpec.check_eq_accepted_of_nested :
    let inner := TypeSpec.union [.primitive .integer, .array (.primitive .any) .null .null]
    let spec := TypeSpec.array inner .null (.int 2)
    spec.check .bare (.list [.int 7, .tuple [.null]]) [] =
      .ok (.accepted (.list [.int 7, .list [.null]])) := by
  intro inner spec
  have short : withinDigitLimit 2 = true := withinDigitLimit_of_le (n := 2) (by decide)
  have writable : spec.everywhere TypeSpec.hasWritableBounds = true := by
    simp only [spec, inner, everywhere_array, everywhere_union, hasWritableBounds, isWritable,
      short]
    rfl
  have exactly :=
    spec.check_eq_accepted_iff .bare rfl rfl rfl (.list [.int 7, .tuple [.null]]) rfl []
  exact (exactly.1 _).mpr ⟨⟨rfl, exactly.2 writable⟩, rfl⟩

/-- Not every inhabitant is accepted: the message on the violated bound of the first alternative
cannot be written. -/
theorem TypeSpec.check_not_accepted_of_admits :
    ¬ ∀ (env : Environment) (spec : TypeSpec), spec.isCanonical = true → spec.isClosed = true →
      spec.keepsKeys = true → ∀ (value : Value), value.wellFormed = true → ∀ (path : Path),
        (∃ result, spec.check env value path = .ok (.accepted result)) ↔
          spec.admits value = true := by
  intro holds
  obtain ⟨bound, tooLong, above⟩ : ∃ bound : Nat, withinDigitLimit bound = false ∧ 1 < bound :=
    ⟨digitBound, withinDigitLimit_digitBound, lt_digitBound (by decide)⟩
  let integers (minItems : Value) : TypeSpec := .array (.primitive .integer) minItems .null
  let spec : TypeSpec := .union [integers (.int bound), integers .null]
  have isBound : (Value.int bound).isBound = true := decide_eq_true (Int.natCast_nonneg bound)
  have canonical : spec.isCanonical = true := by
    simp only [spec, integers, isCanonical, everywhere_union, allEverywhere_cons, everywhere_array,
      isCanonicalNode, isBound]
    rfl
  have admits : spec.admits (.list [.int 1]) = true := Bool.or_eq_true_iff.mpr (.inr rfl)
  have few : atLeast (.int bound) 1 = false := decide_eq_false (by omega)
  have boundStalls : boundsStall (.int bound) .null 1 = true := by
    simp only [boundsStall, few, isWritable, tooLong]
    rfl
  have stalls : spec.stalls (.list [.int 1]) = true := by
    have first : (integers (.int bound)).stalls (.list [.int 1]) = true := boundStalls
    exact Bool.or_eq_true_iff.mpr (.inl first)
  obtain ⟨result, accepted⟩ :=
    (holds .bare spec canonical rfl rfl (.list [.int 1]) rfl []).mpr admits
  have settled := spec.check_settled .bare ⟨canonical, rfl, rfl⟩ (.list [.int 1]) rfl []
  have flows := ((settled.eq_accepted_iff result).mp accepted).1.2
  exact Bool.false_ne_true (flows.symm.trans stalls)

end Conform
