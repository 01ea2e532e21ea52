import Conform.Value.Equality

/-!
# Equality of keys

Comparing values with members that can be repeated or reordered is no equivalence on all values.  At
values that can be keys of mappings it is one all the same: it is symmetric there, and what equals a
key equals the same values.  That is what storing a value under a key and looking it up again rest
on.  What equals a key need not be a key, as bytes that can grow equal those that cannot.
-/

namespace Conform

/-! ## Lawful equalities -/

/-- An equality is lawful at a thing: it is symmetric there, and what equals the thing equals the
same things, from either side. -/
structure KeyLaw {α : Type} (same : α → α → Bool) (a : α) : Prop where
  comm : ∀ b, same a b = same b a
  congr : ∀ b, same a b = true → ∀ c, same a c = same b c
  right : ∀ b, same a b = true → ∀ c, same c a = same c b

namespace KeyLaw

variable {α β : Type} {same : α → α → Bool} {samePart : β → β → Bool}

theorem of_lawful [BEq α] [LawfulBEq α] (a : α) : KeyLaw (· == ·) a where
  comm _ := Bool.beq_comm
  congr b equal c := by rw [eq_of_beq equal]
  right b equal c := by rw [eq_of_beq equal]

theorem of_view (view : α → β) {a : α} (law : KeyLaw samePart (view a)) :
    KeyLaw (fun a b => samePart (view a) (view b)) a where
  comm b := law.comm (view b)
  congr b equal c := law.congr (view b) equal (view c)
  right b equal c := law.right (view b) equal (view c)

/-- Comparing pairs part by part is lawful where both comparisons are. -/
theorem pair {a : α} {b : β} (first : KeyLaw same a) (second : KeyLaw samePart b) :
    KeyLaw (fun p q => same p.1 q.1 && samePart p.2 q.2) (a, b) where
  comm := by
    rintro ⟨c, d⟩
    simp [first.comm c, second.comm d]
  congr := by
    rintro ⟨c, d⟩ equal ⟨e, f⟩
    obtain ⟨firstEqual, secondEqual⟩ := Bool.and_eq_true_iff.mp equal
    simp [first.congr c firstEqual, second.congr d secondEqual]
  right := by
    rintro ⟨c, d⟩ equal ⟨e, f⟩
    obtain ⟨firstEqual, secondEqual⟩ := Bool.and_eq_true_iff.mp equal
    simp [first.right c firstEqual, second.right d secondEqual]

/-- Things of which a part is seen are compared lawfully where the parts are, if they equal nothing
of which no part is seen. -/
theorem seen {view : α → Option β} {a : α} {part : β} (law : KeyLaw samePart part)
    (found : view a = some part)
    (forth : ∀ a p, view a = some p → ∀ b, same a b = (view b).any (samePart p))
    (back : ∀ a p, view a = some p → ∀ b, same b a = (view b).any (samePart · p)) :
    KeyLaw same a where
  comm := by
    intro b
    rw [forth a part found, back a part found]
    cases view b with
    | none => rfl
    | some other => exact law.comm other
  congr := by
    intro b equal c
    rw [forth a part found] at equal
    obtain ⟨other, otherFound, equal⟩ := (Option.any_eq_true _ _).mp equal
    rw [forth a part found, forth b other otherFound]
    cases view c with
    | none => rfl
    | some third => exact law.congr other equal third
  right := by
    intro b equal c
    rw [forth a part found] at equal
    obtain ⟨other, otherFound, equal⟩ := (Option.any_eq_true _ _).mp equal
    rw [back a part found, back b other otherFound]
    cases view c with
    | none => rfl
    | some third => exact law.right other equal third

/-- What a constructor makes is compared lawfully where its part is, if it equals nothing else. -/
theorem wrapped {part : β} (law : KeyLaw samePart part) (wrap : β → α)
    (inside : ∀ p q, same (wrap p) (wrap q) = samePart p q)
    (apart : ∀ p b,
      (∃ q, b = wrap q) ∨ (same (wrap p) b = false ∧ same b (wrap p) = false)) :
    KeyLaw same (wrap part) where
  comm := by
    intro b
    rcases apart part b with ⟨q, rfl⟩ | ⟨here, there⟩
    · rw [inside, inside, law.comm]
    · rw [here, there]
  congr := by
    intro b equal c
    rcases apart part b with ⟨q, rfl⟩ | ⟨differs, _⟩
    · rw [inside] at equal
      rcases apart part c with ⟨r, rfl⟩ | ⟨here, _⟩
      · rw [inside, inside, law.congr q equal]
      · rcases apart q c with ⟨r, rfl⟩ | ⟨other, _⟩
        · rw [inside, inside, law.congr q equal]
        · rw [here, other]
    · exact absurd (differs.symm.trans equal) Bool.false_ne_true
  right := by
    intro b equal c
    rcases apart part b with ⟨q, rfl⟩ | ⟨differs, _⟩
    · rw [inside] at equal
      rcases apart part c with ⟨r, rfl⟩ | ⟨_, there⟩
      · rw [inside, inside, law.right q equal]
      · rcases apart q c with ⟨r, rfl⟩ | ⟨_, other⟩
        · rw [inside, inside, law.right q equal]
        · rw [there, other]
    · exact absurd (differs.symm.trans equal) Bool.false_ne_true

/-- Comparing members in any order is lawful where comparing each of them is. -/
theorem members {sameAll : List α → List α → Bool} {as : List α}
    (spec : ∀ as bs, sameAll as bs = true ↔
      (∀ a ∈ as, ∃ b ∈ bs, same a b = true) ∧ ∀ b ∈ bs, ∃ a ∈ as, same a b = true)
    (each : ∀ a ∈ as, KeyLaw same a) : KeyLaw sameAll as where
  comm := by
    intro bs
    rw [Bool.eq_iff_iff, spec, spec, and_comm]
    have turned : ∀ a ∈ as, ∀ b, same a b = true ↔ same b a = true :=
      fun a among b => by rw [(each a among).comm b]
    grind
  congr := by
    intro bs equal cs
    obtain ⟨forth, back⟩ := (spec as bs).mp equal
    have turned : ∀ a ∈ as, ∀ b, same a b = true → ∀ c, same a c = true ↔ same b c = true :=
      fun a among b equal c => by rw [(each a among).congr b equal c]
    rw [Bool.eq_iff_iff, spec, spec]
    grind
  right := by
    intro bs equal cs
    obtain ⟨forth, back⟩ := (spec as bs).mp equal
    have turned : ∀ a ∈ as, ∀ b, same a b = true → ∀ c, same c a = true ↔ same c b = true :=
      fun a among b equal c => by rw [(each a among).right b equal c]
    rw [Bool.eq_iff_iff, spec, spec]
    grind

end KeyLaw

/-! ## Numbers -/

namespace Number

theorem ofInt_injective : Function.Injective Place.ofInt := by
  intro m n same
  have positive : 0 < Double.gridOne := by
    unfold Double.gridOne
    generalize Double.gridExponent = exponent
    exact Nat.two_pow_pos exponent
  exact Int.eq_of_mul_eq_mul_right (Int.natCast_ne_zero.mpr (Nat.ne_of_gt positive))
    (Place.finite.inj same)

/-- Numbers are equal when they have the same place on the extended line. -/
theorem eq_iff (a b : Number) :
    a.eq b = true ↔ ∃ place, a.place? = some place ∧ b.place? = some place := by
  cases a with
  | whole m =>
      cases b with
      | whole n => simp [eq, place?, ofInt_injective.eq_iff, @eq_comm Int]
      | real y =>
          simp only [eq]
          cases place? (.real y) <;> simp [place?, @eq_comm Place]
  | real x =>
      simp only [eq]
      cases place? (.real x) <;> cases b.place? <;> simp [@eq_comm Place]

theorem eq_comm (a b : Number) : a.eq b = b.eq a := by
  rw [Bool.eq_iff_iff, eq_iff, eq_iff]
  simp [and_comm]

theorem eq_congr {a b : Number} (same : a.eq b = true) (c : Number) : a.eq c = b.eq c := by
  obtain ⟨place, here, there⟩ := (eq_iff a b).mp same
  rw [Bool.eq_iff_iff, eq_iff, eq_iff, here, there]

/-- Whether two numbers are identical or equal. -/
def same : Number → Number → Bool
  | .real x, .real y => Value.sameDouble x y
  | a, b => a.eq b

theorem same_iff (a b : Number) : a.same b = true ↔ a = b ∨ a.eq b = true := by
  cases a <;> cases b <;>
    simp +contextual [same, Value.sameDouble, Value.equalDouble, eq]

/-- Identity or equality of numbers is lawful at every number. -/
theorem same_keyLaw (a : Number) : KeyLaw same a where
  comm b := by rw [Bool.eq_iff_iff, same_iff, same_iff, @Eq.comm _ a, a.eq_comm]
  congr b equal c := by
    rcases (same_iff a b).mp equal with rfl | equal
    · rfl
    · have turned : b.eq a = true := (b.eq_comm a).trans equal
      have self : b.eq b = true := (eq_congr equal b).symm.trans equal
      rw [Bool.eq_iff_iff, same_iff, same_iff, eq_congr equal c]
      grind
  right b equal c := by
    rcases (same_iff a b).mp equal with rfl | equal
    · rfl
    · have turned : b.eq a = true := (b.eq_comm a).trans equal
      have self : b.eq b = true := (eq_congr equal b).symm.trans equal
      rw [Bool.eq_iff_iff, same_iff, same_iff, c.eq_comm a, c.eq_comm b, eq_congr equal c]
      grind

end Number

/-! ## Values -/

namespace Value

theorem same_of_numeric (a : Value) (x : Number) (number : a.numeric? = some x) (b : Value) :
    a.same b = b.numeric?.any x.same := by
  cases a <;> cases number <;> cases b <;> rfl

theorem same_numeric (a : Value) (x : Number) (number : a.numeric? = some x) (b : Value) :
    b.same a = b.numeric?.any (·.same x) := by
  cases a <;> cases number <;> cases b <;> rfl

theorem number_keyLaw {a : Value} {x : Number} (number : a.numeric? = some x) :
    KeyLaw same a :=
  x.same_keyLaw.seen number same_of_numeric same_numeric

theorem octets_keyLaw {a : Value} {octets : List UInt8} (found : a.octets? = some octets) :
    KeyLaw same a := by
  refine (KeyLaw.of_lawful octets).seen found ?_ ?_
  · intro a p found b
    cases a <;> cases found <;> cases b <;> first | rfl | exact Bool.beq_comm
  · intro a p found b
    cases a <;> cases found <;> cases b <;> first | rfl | exact Bool.beq_comm

@[simp] theorem allWithin_iff {as bs : List Value} :
    allWithin as bs = true ↔ ∀ a ∈ as, ∃ b ∈ bs, a.same b = true := by
  induction as with
  | nil => simp [allWithin]
  | cons a as ih => simp [allWithin, ih]

@[simp] theorem anySame_iff {as : List Value} {b : Value} :
    anySame as b = true ↔ ∃ a ∈ as, a.same b = true := by
  induction as with
  | nil => simp [anySame]
  | cons a as ih => simp [anySame, ih]

theorem set_keyLaw {a : Value} {items : List Value} (found : a.setMembers? = some items)
    (each : ∀ item ∈ items, KeyLaw same item) : KeyLaw same a := by
  have law : KeyLaw (fun as bs => allWithin as bs && bs.all (anySame as)) items := by
    refine KeyLaw.members (fun as bs => ?_) each
    simp
  refine law.seen found ?_ ?_
  · intro a p found b
    cases a <;> cases found <;> cases b <;> rfl
  · intro a p found b
    cases a <;> cases found <;> cases b <;> rfl

end Value

@[simp] theorem isNone_or {first second : Option String} :
    (first.or second).isNone = (first.isNone && second.isNone) := by
  cases first <;> rfl

theorem Value.str_keyLaw (text : String) : KeyLaw Value.same (.str text) := by
  refine (KeyLaw.of_lawful text).wrapped Value.str (fun _ _ => rfl) fun _ b => ?_
  cases b with
  | str other => exact .inl ⟨other, rfl⟩
  | _ => exact .inr ⟨rfl, rfl⟩

namespace TypeSpec

/-- What the kind of a primitive node is compared as. -/
def kind? : TypeSpec → Option Value
  | .primitive kind => some (.str kind.name)
  | .unknownKind kind => some kind
  | _ => none

theorem beq_name (a b : Kind) : (a == b) = (Value.str a.name).same (.str b.name) := by
  cases a <;> cases b <;> rfl

/-- A primitive node equals a primitive node of an equal kind. -/
theorem same_of_kind (a : TypeSpec) (kind : Value) (found : a.kind? = some kind) (b : TypeSpec) :
    a.same b = b.kind?.any kind.same := by
  cases a with
  | primitive a =>
      cases found
      cases b with
      | primitive b => exact beq_name a b
      | unknownKind b => cases b <;> first | rfl | exact Bool.beq_comm
      | _ => rfl
  | unknownKind =>
      cases found
      cases b with
      | primitive b => cases kind <;> rfl
      | _ => rfl
  | _ => cases found

theorem same_kind (a : TypeSpec) (kind : Value) (found : a.kind? = some kind) (b : TypeSpec) :
    b.same a = b.kind?.any (·.same kind) := by
  cases other : b.kind? with
  | some otherKind =>
      rw [same_of_kind b otherKind other a, found]
      rfl
  | none =>
      cases a <;> cases found <;> cases b <;> first | rfl | cases other

end TypeSpec

mutual

/-- Equality of values is lawful at keys. -/
theorem Value.keyLaw : (value : Value) → value.hashable = true →
    KeyLaw Value.same value
  | .null, _ => by
      refine (KeyLaw.of_lawful ()).wrapped (fun _ => Value.null) (fun _ _ => rfl)
        fun _ b => ?_
      cases b with
      | null => exact .inl ⟨(), rfl⟩
      | _ => exact .inr ⟨rfl, rfl⟩
  | .bool _, _ | .int _, _ | .float _, _ => Value.number_keyLaw rfl
  | .str text, _ => Value.str_keyLaw text
  | .bytes _, _ => Value.octets_keyLaw rfl
  | .tuple items, hashable => by
      refine (Value.all_keyLaw items hashable).wrapped Value.tuple (fun _ _ => rfl)
        fun _ b => ?_
      cases b with
      | tuple others => exact .inl ⟨others, rfl⟩
      | _ => exact .inr ⟨rfl, rfl⟩
  | .symbol name, _ =>
      (KeyLaw.of_lawful name).wrapped Value.symbol (fun _ _ => rfl) fun _ b => by
        cases b with
        | symbol other => exact .inl ⟨other, rfl⟩
        | _ => exact .inr ⟨rfl, rfl⟩
  | .frozenset _, hashable => Value.set_keyLaw rfl (Value.each_keyLaw _ hashable)
  | .enumeration name members, _ => by
      have law := @KeyLaw.of_view (String × List (String × Value)) _ _ Prod.fst (name, members)
        (.of_lawful _)
      refine law.wrapped (fun part => Value.enumeration part.1 part.2) (fun _ _ => rfl)
        fun _ b => ?_
      cases b with
      | enumeration n m => exact .inl ⟨(n, m), rfl⟩
      | _ => exact .inr ⟨rfl, rfl⟩
  | .member enumeration name payload, _ => by
      have law := @KeyLaw.of_view (String × String × Value) _ _ (fun part => (part.1, part.2.1))
        (enumeration, name, payload) (.of_lawful _)
      refine law.wrapped (fun part => Value.member part.1 part.2.1 part.2.2) (fun _ _ => rfl)
        fun _ b => ?_
      cases b with
      | member e n p => exact .inl ⟨(e, n, p), rfl⟩
      | _ => exact .inr ⟨rfl, rfl⟩
  | .pattern pattern, _ =>
      (KeyLaw.of_lawful pattern).wrapped Value.pattern (fun _ _ => rfl) fun _ b => by
        cases b with
        | pattern other => exact .inl ⟨other, rfl⟩
        | _ => exact .inr ⟨rfl, rfl⟩
  | .type type, _ =>
      (KeyLaw.of_lawful type).wrapped Value.type (fun _ _ => rfl) fun _ b => by
        cases b with
        | type other => exact .inl ⟨other, rfl⟩
        | _ => exact .inr ⟨rfl, rfl⟩
  | .spec spec, hashable => by
      refine (TypeSpec.keyLaw spec hashable).wrapped Value.spec (fun _ _ => rfl)
        fun _ b => ?_
      cases b with
      | spec other => exact .inl ⟨other, rfl⟩
      | _ => exact .inr ⟨rfl, rfl⟩
  | .violation record, hashable => by
      refine (Violation.keyLaw record hashable).wrapped Value.violation (fun _ _ => rfl)
        fun _ b => ?_
      cases b with
      | violation other => exact .inl ⟨other, rfl⟩
      | _ => exact .inr ⟨rfl, rfl⟩
  | .ok value, hashable =>
      (Value.keyLaw value hashable).wrapped Value.ok (fun _ _ => rfl) fun _ b => by
        cases b with
        | ok other => exact .inl ⟨other, rfl⟩
        | _ => exact .inr ⟨rfl, rfl⟩
  | .err reason, hashable =>
      (Value.keyLaw reason hashable).wrapped Value.err (fun _ _ => rfl) fun _ b => by
        cases b with
        | err other => exact .inl ⟨other, rfl⟩
        | _ => exact .inr ⟨rfl, rfl⟩
  | .target target, _ =>
      (KeyLaw.of_lawful target).wrapped Value.target (fun _ _ => rfl) fun _ b => by
        cases b with
        | target other => exact .inl ⟨other, rfl⟩
        | _ => exact .inr ⟨rfl, rfl⟩
  | .schema handle schema, _ => by
      have law := @KeyLaw.of_view (Nat × Schema) _ _ Prod.fst (handle, schema) (.of_lawful _)
      refine law.wrapped (fun part => Value.schema part.1 part.2) (fun _ _ => rfl)
        fun _ b => ?_
      cases b with
      | schema h s => exact .inl ⟨(h, s), rfl⟩
      | _ => exact .inr ⟨rfl, rfl⟩
  | .bytearray _, hashable | .list _, hashable | .set _, hashable | .map _, hashable =>
      nomatch hashable

theorem Value.each_keyLaw : (values : List Value) → (Value.firstUnhashable? values).isNone = true →
    ∀ value ∈ values, KeyLaw Value.same value
  | [], _ => List.forall_mem_nil _
  | value :: rest, hashable => by
      have parts := Bool.and_eq_true_iff.mp (isNone_or.symm.trans hashable)
      exact List.forall_mem_cons.mpr
        ⟨Value.keyLaw value parts.1, Value.each_keyLaw rest parts.2⟩

/-- Equality of lists of values is lawful at lists of keys. -/
theorem Value.all_keyLaw : (values : List Value) → (Value.firstUnhashable? values).isNone = true →
    KeyLaw Value.allSame values
  | [], _ =>
      (KeyLaw.of_lawful ()).wrapped (fun _ => []) (fun _ _ => rfl) fun _ values => by
        cases values with
        | nil => exact .inl ⟨(), rfl⟩
        | cons => exact .inr ⟨rfl, rfl⟩
  | value :: rest, hashable => by
      have parts := Bool.and_eq_true_iff.mp (isNone_or.symm.trans hashable)
      have law := (Value.keyLaw value parts.1).pair (Value.all_keyLaw rest parts.2)
      refine law.wrapped (fun part => part.1 :: part.2) (fun _ _ => rfl)
        fun _ values => ?_
      cases values with
      | nil => exact .inr ⟨rfl, rfl⟩
      | cons other others => exact .inl ⟨(other, others), rfl⟩

/-- Equality of type specifications is lawful at keys. -/
theorem TypeSpec.keyLaw : (spec : TypeSpec) → spec.unhashable?.isNone = true →
    KeyLaw TypeSpec.same spec
  | .primitive kind, _ =>
      (Value.str_keyLaw kind.name).seen rfl TypeSpec.same_of_kind TypeSpec.same_kind
  | .unknownKind kind, hashable =>
      (Value.keyLaw kind hashable).seen rfl TypeSpec.same_of_kind TypeSpec.same_kind
  | .array inner minItems maxItems, hashable => by
      have parts := Bool.and_eq_true_iff.mp (isNone_or.symm.trans hashable)
      have bounds := Bool.and_eq_true_iff.mp (isNone_or.symm.trans parts.2)
      have law := ((TypeSpec.keyLaw inner parts.1).pair (Value.keyLaw minItems bounds.1)).pair
        (Value.keyLaw maxItems bounds.2)
      refine law.wrapped (fun part => TypeSpec.array part.1.1 part.1.2 part.2) (fun _ _ => rfl)
        fun _ b => ?_
      cases b with
      | array i lo hi => exact .inl ⟨((i, lo), hi), rfl⟩
      | _ => exact .inr ⟨rfl, rfl⟩
  | .union alternatives, hashable => by
      refine (TypeSpec.all_keyLaw alternatives hashable).wrapped TypeSpec.union (fun _ _ => rfl)
        fun _ b => ?_
      cases b with
      | union others => exact .inl ⟨others, rfl⟩
      | _ => exact .inr ⟨rfl, rfl⟩
  | .rawUnion alternatives, hashable => by
      refine (Value.keyLaw alternatives hashable).wrapped TypeSpec.rawUnion (fun _ _ => rfl)
        fun _ b => ?_
      cases b with
      | rawUnion other => exact .inl ⟨other, rfl⟩
      | _ => exact .inr ⟨rfl, rfl⟩
  | .rawTuple elements, hashable => by
      refine (Value.keyLaw elements hashable).wrapped TypeSpec.rawTuple (fun _ _ => rfl)
        fun _ b => ?_
      cases b with
      | rawTuple other => exact .inl ⟨other, rfl⟩
      | _ => exact .inr ⟨rfl, rfl⟩
  | .tuple elements, hashable => by
      refine (TypeSpec.all_keyLaw elements hashable).wrapped TypeSpec.tuple (fun _ _ => rfl)
        fun _ b => ?_
      cases b with
      | tuple others => exact .inl ⟨others, rfl⟩
      | _ => exact .inr ⟨rfl, rfl⟩
  | .map key value, hashable => by
      have parts := Bool.and_eq_true_iff.mp (isNone_or.symm.trans hashable)
      have law := (TypeSpec.keyLaw key parts.1).pair (TypeSpec.keyLaw value parts.2)
      refine law.wrapped (fun part => TypeSpec.map part.1 part.2) (fun _ _ => rfl)
        fun _ b => ?_
      cases b with
      | map k v => exact .inl ⟨(k, v), rfl⟩
      | _ => exact .inr ⟨rfl, rfl⟩
  | .ref target, hashable => by
      refine (Value.keyLaw target hashable).wrapped TypeSpec.ref (fun _ _ => rfl)
        fun _ b => ?_
      cases b with
      | ref other => exact .inl ⟨other, rfl⟩
      | _ => exact .inr ⟨rfl, rfl⟩
  | .raw component, hashable => by
      refine (Value.keyLaw component hashable).wrapped TypeSpec.raw (fun _ _ => rfl)
        fun _ b => ?_
      cases b with
      | raw other => exact .inl ⟨other, rfl⟩
      | _ => exact .inr ⟨rfl, rfl⟩

/-- Equality of lists of type specifications is lawful at lists of keys. -/
theorem TypeSpec.all_keyLaw : (specs : List TypeSpec) →
    (TypeSpec.firstUnhashable? specs).isNone = true →
    KeyLaw TypeSpec.allSame specs
  | [], _ =>
      (KeyLaw.of_lawful ()).wrapped (fun _ => []) (fun _ _ => rfl) fun _ specs => by
        cases specs with
        | nil => exact .inl ⟨(), rfl⟩
        | cons => exact .inr ⟨rfl, rfl⟩
  | spec :: rest, hashable => by
      have parts := Bool.and_eq_true_iff.mp (isNone_or.symm.trans hashable)
      have law := (TypeSpec.keyLaw spec parts.1).pair (TypeSpec.all_keyLaw rest parts.2)
      refine law.wrapped (fun part => part.1 :: part.2) (fun _ _ => rfl)
        fun _ specs => ?_
      cases specs with
      | nil => exact .inr ⟨rfl, rfl⟩
      | cons other others => exact .inl ⟨(other, others), rfl⟩

theorem Violation.keyLaw : (record : Violation) → record.unhashable?.isNone = true →
    KeyLaw Violation.same record
  | ⟨path, code, message, context⟩, hashable => by
      have parts := Bool.and_eq_true_iff.mp (isNone_or.symm.trans hashable)
      have others := Bool.and_eq_true_iff.mp (isNone_or.symm.trans parts.2)
      have last := Bool.and_eq_true_iff.mp (isNone_or.symm.trans others.2)
      have law := (((Value.all_keyLaw path parts.1).pair (Value.keyLaw code others.1)).pair
        (Value.keyLaw message last.1)).pair (Value.keyLaw context last.2)
      refine law.wrapped (fun part => Violation.mk part.1.1.1 part.1.1.2 part.1.2 part.2)
        (fun _ _ => rfl) fun _ b => ?_
      cases b with
      | mk p c m x => exact .inl ⟨(((p, c), m), x), rfl⟩

end

/-! ## Looking up and storing -/

namespace Value

theorem beq_comm {a : Value} (hashable : a.hashable = true) (b : Value) : (a == b) = (b == a) :=
  (a.keyLaw hashable).comm b

theorem beq_congr {a b : Value} (hashable : a.hashable = true) (same : (a == b) = true)
    (c : Value) : (a == c) = (b == c) :=
  (a.keyLaw hashable).congr b same c

theorem beq_right_congr {a b : Value} (hashable : a.hashable = true) (same : (a == b) = true)
    (c : Value) : (c == a) = (c == b) :=
  (a.keyLaw hashable).right b same c

end Value

namespace Entries

variable {key other : Value} (entries : Entries)

theorem get?_congr (hashable : key.hashable = true) (same : (key == other) = true) :
    entries.get? key = entries.get? other := by
  simp [get?, Value.beq_right_congr hashable same]

/-- Putting a value under a key changes what is found under keys equal to it, and nothing else. -/
@[simp] theorem get?_put (hashable : key.hashable = true) (value : Value) :
    (entries.put key value).get? other =
      if key == other then some value else entries.get? other := by
  induction entries with
  | nil =>
      simp only [put, get?, List.find?_cons, List.find?_nil]
      cases key == other <;> rfl
  | cons entry rest ih =>
      obtain ⟨k, v⟩ := entry
      simp only [put, get?, List.find?_cons] at ih ⊢
      cases same : k == key with
      | true =>
          have stored : (key == k) = true := (Value.beq_comm hashable k).trans same
          rw [if_pos rfl, List.find?_cons, ← Value.beq_congr hashable stored]
          cases key == other <;> rfl
      | false =>
          rw [if_neg Bool.false_ne_true, List.find?_cons]
          cases found : k == other with
          | false => exact ih
          | true =>
              -- The other key is not this one, as the one in front of it equals only the other.
              have differs : (key == other) = false := by
                apply Bool.eq_false_iff.mpr
                intro equal
                rw [Value.beq_right_congr hashable equal, found] at same
                cases same
              rw [differs]
              rfl

end Entries

end Conform
