import Conform.Proofs.Conversions

/-!
# Conversions that reach their type

The kinds that have conversions are those of scalars.  A conversion to a type that asks for scalars,
or for arrays of them to any depth, leaves nothing to the check: what it makes of aligned sequences
is of the type, with scalars where scalars were and lists of the same lengths around them.
-/

namespace Conform

/-! ## Types of scalars -/

mutual

/-- Whether a type asks for a scalar: of one kind, or of any of several. -/
def TypeSpec.isScalar : TypeSpec → Bool
  | .primitive kind => kind.isScalar
  | .union alternatives => !alternatives.isEmpty && TypeSpec.allScalar alternatives
  | _ => false

/-- Whether several types all ask for scalars. -/
def TypeSpec.allScalar : List TypeSpec → Bool
  | [] => true
  | spec :: rest => spec.isScalar && TypeSpec.allScalar rest

end

/-- Whether a type asks for a scalar, or for arrays of scalars without bounds, to any depth. -/
def TypeSpec.isTable : TypeSpec → Bool
  | .array inner .null .null => inner.isTable
  | spec => spec.isScalar

/-- A value holds a list or a tuple wherever a type asks for an array. -/
def TypeSpec.Aligned : TypeSpec → Value → Prop
  | .array inner _ _, value =>
    ∃ items, value.items? = some items ∧ ∀ item ∈ items, inner.Aligned item
  | _, _ => True

/-- Two values have the same nesting: they are sequences of equal lengths with members of the same
nesting, or neither is a sequence. -/
inductive Value.SameNesting : Value → Value → Prop where
  | single {value other : Value} (plain : value.items? = none) (otherPlain : other.items? = none) :
      Value.SameNesting value other
  | sequence {value other : Value} {items others : List Value} (listed : value.items? = some items)
      (otherListed : other.items? = some others)
      (each : List.Forall₂ Value.SameNesting items others) : Value.SameNesting value other

/-! ## Types of scalars are canonical and decisive -/

mutual

theorem TypeSpec.isCanonical_of_isScalar : (spec : TypeSpec) → spec.isScalar = true →
    spec.isCanonical = true
  | .primitive _, _ => rfl
  | .union alternatives, scalar => by
      obtain ⟨some, each⟩ := Bool.and_eq_true_iff.mp scalar
      exact Bool.and_eq_true_iff.mpr ⟨some, TypeSpec.allCanonical_of_allScalar alternatives each⟩
  | .array _ _ _, scalar | .tuple _, scalar | .map _ _, scalar | .ref _, scalar
  | .unknownKind _, scalar
  | .rawUnion _, scalar | .rawTuple _, scalar | .raw _, scalar => nomatch scalar

theorem TypeSpec.allCanonical_of_allScalar : (specs : List TypeSpec) →
    TypeSpec.allScalar specs = true →
    TypeSpec.allEverywhere TypeSpec.isCanonicalNode specs = true
  | [], _ => rfl
  | spec :: rest, scalar => by
      obtain ⟨first, others⟩ := Bool.and_eq_true_iff.mp scalar
      exact Bool.and_eq_true_iff.mpr ⟨TypeSpec.isCanonical_of_isScalar spec first,
        TypeSpec.allCanonical_of_allScalar rest others⟩

end

/-- A checker accepts a value as it is, or it rejects it. -/
def Checker.Decides (checker : Checker) : Prop :=
  ∀ value path, checker value path = .ok (.accepted value) ∨
    ∃ violations, checker value path = .ok (.rejected violations)

namespace Check

theorem kind_decides (kind : Kind) : (Check.kind kind).Decides := by
  intro value path
  unfold Check.kind
  split
  · exact .inl rfl
  · exact .inr ⟨_, rfl⟩

theorem firstAccepted_decided {checkers : List Checker}
    (decide : ∀ checker ∈ checkers, checker.Decides) (value : Value) (path : Path) :
    firstAccepted value path checkers = .ok (some value) ∨
      firstAccepted value path checkers = .ok none := by
  induction checkers with
  | nil => exact .inr rfl
  | cons checker rest ih =>
      obtain ⟨first, others⟩ := List.forall_mem_cons.mp decide
      rcases first value path with accepted | ⟨violations, rejected⟩
      · left
        rw [firstAccepted, accepted]
        rfl
      · rw [firstAccepted, rejected]
        exact ih others

theorem union_decides {description : Attempt String} {text : String}
    (described : description = .ok text) {alternatives : List Checker}
    (decide : ∀ checker ∈ alternatives, checker.Decides) :
    (Check.union description alternatives).Decides := by
  intro value path
  subst described
  rw [Check.union]
  rcases firstAccepted_decided decide value path with found | none
  · left
    rw [found]
    rfl
  · right
    rw [none]
    exact ⟨_, rfl⟩

end Check

mutual

theorem TypeSpec.check_decides (env : Environment) : (spec : TypeSpec) → spec.isScalar = true →
    (spec.check env).Decides
  | .primitive kind, _ => Check.kind_decides kind
  | .union alternatives, scalar => by
      obtain ⟨text, described⟩ := TypeSpec.describe_eq_ok (.union alternatives)
        (TypeSpec.isCanonical_of_isScalar _ scalar)
      exact Check.union_decides described
        (TypeSpec.checkers_decide env alternatives (Bool.and_eq_true_iff.mp scalar).2)
  | .array _ _ _, scalar | .tuple _, scalar | .map _ _, scalar | .ref _, scalar
  | .unknownKind _, scalar
  | .rawUnion _, scalar | .rawTuple _, scalar | .raw _, scalar => nomatch scalar

theorem TypeSpec.checkers_decide (env : Environment) : (specs : List TypeSpec) →
    TypeSpec.allScalar specs = true →
    ∀ checker ∈ TypeSpec.checkers env specs, checker.Decides
  | [], _ => List.forall_mem_nil _
  | spec :: rest, scalar => by
      obtain ⟨first, others⟩ := Bool.and_eq_true_iff.mp scalar
      exact List.forall_mem_cons.mpr
        ⟨TypeSpec.check_decides env spec first, TypeSpec.checkers_decide env rest others⟩

end

/-! ## What conversions make -/

/-- What a conversion made is accepted by a check as it is, and nests as the value did. -/
structure Checker.Attains (checker : Checker) (value made : Value) : Prop where
  accepted : ∀ path, checker made path = .ok (.accepted made)
  nested : value.SameNesting made

mutual

/-- A conversion to a type of scalars attains the type. -/
theorem TypeSpec.scalar_attained (env : Environment) : (spec : TypeSpec) →
    spec.isScalar = true → {value made : Value} → (spec.coerce env).Accepts value made →
    (spec.check env).Attains value made
  | .primitive kind, scalar, _, _, ⟨_, converted⟩ => by
      have reaches := Coercion.toKind_reaches scalar converted
      constructor
      case accepted =>
        intro path
        rw [TypeSpec.check, Check.kind, if_pos reaches.admits]
      case nested => exact .single reaches.plain (Kind.items?_of_admits scalar reaches.admits)
  | .union alternatives, scalar, _, _, ⟨path, converted⟩ => by
      obtain ⟨found, tried, concluded⟩ := Attempt.bind_eq_ok_iff.mp converted
      cases found with
      | none => exact absurd concluded (Coercion.refuse_ne_accepted _ _ _ _ _)
      | some first =>
          cases concluded
          obtain ⟨accepted, nested⟩ := TypeSpec.scalars_attained env alternatives
            (Bool.and_eq_true_iff.mp scalar).2 tried
          constructor
          case accepted =>
            intro place
            rw [TypeSpec.check, Check.union, accepted]
            rfl
          case nested => exact nested
  | .array _ _ _, scalar, _, _, _ | .tuple _, scalar, _, _, _ | .map _ _, scalar, _, _, _
  | .ref _, scalar, _, _, _ | .unknownKind _, scalar, _, _, _
  | .rawUnion _, scalar, _, _, _ | .rawTuple _, scalar, _, _, _ | .raw _, scalar, _, _, _ =>
      nomatch scalar

/-- A conversion to the first of several types of scalars attains it, and the checks before it
decide on what it makes: should one of them accept it, then as it is. -/
theorem TypeSpec.scalars_attained (env : Environment) : (specs : List TypeSpec) →
    TypeSpec.allScalar specs = true → {value made : Value} → {path : Path} →
    Check.firstAccepted value path (TypeSpec.coercers env specs) = .ok (some made) →
    (∀ place, Check.firstAccepted made place (TypeSpec.checkers env specs) = .ok (some made)) ∧
      value.SameNesting made
  | [], _, _, _, _, converted => nomatch converted
  | spec :: rest, scalar, value, made, path, converted => by
      obtain ⟨first, others⟩ := Bool.and_eq_true_iff.mp scalar
      obtain ⟨verdict, tried, concluded⟩ := Attempt.bind_eq_ok_iff.mp converted
      cases verdict with
      | accepted result =>
          cases concluded
          obtain ⟨accepted, nested⟩ := TypeSpec.scalar_attained env spec first ⟨path, tried⟩
          refine ⟨fun place => ?_, nested⟩
          rw [TypeSpec.checkers, Check.firstAccepted, accepted]
          rfl
      | rejected violations =>
          obtain ⟨accepted, nested⟩ := TypeSpec.scalars_attained env rest others concluded
          refine ⟨fun place => ?_, nested⟩
          rw [TypeSpec.checkers, Check.firstAccepted]
          rcases TypeSpec.check_decides env spec first made place with here | ⟨reasons, rejected⟩
          · rw [here]
            rfl
          · rw [rejected]
            exact accepted place

end

theorem TypeSpec.isTable_array {inner : TypeSpec} {minItems maxItems : Value}
    (table : (TypeSpec.array inner minItems maxItems).isTable = true) :
    minItems = .null ∧ maxItems = .null ∧ inner.isTable = true := by
  unfold isTable at table
  split at table
  case h_1 same =>
    cases same
    exact ⟨rfl, rfl, table⟩
  case h_2 => cases table

/-- Conversions of items that attain the type of the items attain the array of it. -/
theorem Coercion.array_attained {conversion inner : Checker} (evident : conversion.Evident)
    (rooted : inner.Rooted) {value made : Value} {items : List Value}
    (listed : value.items? = some items)
    (each : ∀ item ∈ items, ∀ other, conversion.Accepts item other → inner.Attains item other)
    (converted : (toArray conversion).Accepts value made) :
    (Check.array inner []).Attains value made := by
  obtain ⟨path, converted⟩ := converted
  obtain ⟨values, rfl, itemsConverted⟩ := toArray_accepted evident listed converted
  have attained : List.Forall₂ inner.Attains items values :=
    ((List.forall₂_and_left _ _).mpr ⟨each, itemsConverted⟩).imp
      fun item other both => both.1 other both.2
  have accepted : List.Forall₂ inner.Accepts values values := by
    rw [List.forall₂_same]
    exact forall_mem_of_forall₂ (attained.imp fun _ _ attains => ⟨[], attains.accepted []⟩)
  constructor
  case accepted =>
    intro place
    simp only [Check.array, Value.items?, members_of_items rooted accepted, Attempt.ok_bind]
    rfl
  case nested => exact .sequence listed rfl (attained.imp fun _ _ attains => attains.nested)

theorem TypeSpec.table_attained (env : Environment) : (spec : TypeSpec) → spec.isTable = true →
    {value made : Value} → spec.Aligned value → (spec.coerce env).Accepts value made →
    (spec.check env).Attains value made
  | .array inner minItems maxItems, table, value, made, aligned, converted => by
      obtain ⟨rfl, rfl, innerTable⟩ := TypeSpec.isTable_array table
      obtain ⟨items, listed, itemsAligned⟩ := aligned
      exact Coercion.array_attained (inner.coerce_evident env) (inner.check_rooted env) listed
        (fun item among _ => TypeSpec.table_attained env inner innerTable (itemsAligned item among))
        converted
  | .primitive kind, table, _, _, _, converted =>
      TypeSpec.scalar_attained env (.primitive kind) table converted
  | .union alternatives, table, _, _, _, converted =>
      TypeSpec.scalar_attained env (.union alternatives) table converted
  | .tuple _, table, _, _, _, _ | .map _ _, table, _, _, _, _ | .ref _, table, _, _, _, _
  | .unknownKind _, table, _, _, _, _
  | .rawUnion _, table, _, _, _, _ | .rawTuple _, table, _, _, _, _ | .raw _, table, _, _, _, _ =>
      nomatch table

theorem TypeSpec.isCanonical_of_isTable : (spec : TypeSpec) → spec.isTable = true →
    spec.isCanonical = true
  | .array inner minItems maxItems, table => by
      obtain ⟨rfl, rfl, innerTable⟩ := TypeSpec.isTable_array table
      exact TypeSpec.isCanonical_of_isTable inner innerTable
  | .primitive _, _ => rfl
  | .union alternatives, table => TypeSpec.isCanonical_of_isScalar (.union alternatives) table
  | .tuple _, table | .map _ _, table | .ref _, table | .unknownKind _, table
  | .rawUnion _, table | .rawTuple _, table | .raw _, table => nomatch table

/-- What a conversion makes of a value that is aligned with a table is accepted as it is and nests
as the value did.  A table without unions leaves nothing to convert in what it accepts: the
conversion gives what the check gives. -/
theorem TypeSpec.coerce_table (env : Environment) (spec : TypeSpec) (table : spec.isTable = true)
    (value : Value) (aligned : spec.Aligned value) :
    (∀ made, (spec.coerce env).Accepts value made →
      (∀ path, spec.check env made path = .ok (.accepted made)) ∧ value.SameNesting made) ∧
    (spec.convertsPlainly = true → ∀ result, (spec.check env).Accepts value result →
      ∀ path, spec.coerce env value path = .ok (.accepted result)) := by
  have attained (made : Value) (converted : (spec.coerce env).Accepts value made) :=
    TypeSpec.table_attained env spec table aligned converted
  constructor
  · intro made converted
    exact ⟨(attained made converted).accepted, (attained made converted).nested⟩
  · intro plain result accepts path
    obtain ⟨made, converted, _, place, again⟩ := TypeSpec.coerce_carries env spec
      (TypeSpec.isCanonical_of_isTable spec table)
      (spec.faithful_of_convertsPlainly env plain value)
      accepts
    have same := (attained made converted).accepted place
    rw [again] at same
    cases same
    exact (spec.coerce_rooted env).anywhere converted path

/-- Numerals and truth values in nested sequences are converted place by place, the first kind that
can convert each of them taking it; and a table of whole numbers is left as the check reads it. -/
theorem TypeSpec.coerce_table_of_rows :
    let mixed : TypeSpec := .array (.array (.union [.primitive .integer, .primitive .boolean])
      .null .null) .null .null
    let numbers : TypeSpec := .array (.array (.primitive .integer) .null .null) .null .null
    let rows : Value := .tuple [.list [.str "-7", .str "true"], .tuple [], .list [.int 2]]
    let made : Value := .list [.list [.int (-7), .bool true], .list [], .list [.int 2]]
    (mixed.check .bare made [] = .ok (.accepted made) ∧ rows.SameNesting made) ∧
      numbers.coerce .bare (.tuple [.tuple [.int 1], .list []]) [] =
        .ok (.accepted (.list [.list [.int 1], .list []])) := by
  intro mixed numbers rows made
  have rowsAligned : mixed.Aligned rows := by
    refine ⟨_, rfl, ?_⟩
    intro row among
    simp only [List.mem_cons, List.not_mem_nil, or_false] at among
    rcases among with rfl | rfl | rfl <;> exact ⟨_, rfl, fun _ _ => trivial⟩
  have numbersAligned : numbers.Aligned (.tuple [.tuple [.int 1], .list []]) := by
    refine ⟨_, rfl, ?_⟩
    intro row among
    simp only [List.mem_cons, List.not_mem_nil, or_false] at among
    rcases among with rfl | rfl <;> exact ⟨_, rfl, fun _ _ => trivial⟩
  have converted := (mixed.coerce_table .bare rfl rows rowsAligned).1 made ⟨[], rfl⟩
  refine ⟨⟨converted.1 [], converted.2⟩, ?_⟩
  exact (numbers.coerce_table .bare rfl _ numbersAligned).2 rfl _ ⟨[], rfl⟩ []

end Conform
