import Conform.Proofs.Conversions
import Conform.Proofs.Enforcement
import Conform.Proofs.Lookups

/-!
# Bounds on the number of items

A field of arrays can have bounds on their number of items among its options, or in its type.  A
definition moves the former into the type, so that both are written the same.  There they are
checked with the type and before the other constraints, on the list that the items were read into; a
value is accepted with the same result as if all constraints had been checked on what the unbounded
type accepts.
-/

namespace Conform

namespace Constraint

variable {constraints : List Constraint} {value result : Value} {path : Path}

theorem violations_eq_nil_of_each
    (each : ∀ constraint ∈ constraints, check constraint value path = .ok none) :
    violations constraints value path = .ok [] := by
  induction constraints with
  | nil => rfl
  | cons constraint rest ih =>
      obtain ⟨first, others⟩ := List.forall_mem_cons.mp each
      simp only [violations, first, ih others]
      rfl

@[simp] theorem checkAll_eq_accepted_iff :
    checkAll constraints value path = .ok (.accepted result) ↔
      result = value ∧ ∀ constraint ∈ constraints, check constraint value path = .ok none := by
  constructor
  · intro accepted
    obtain ⟨same, satisfied⟩ := satisfied_of_checkAll accepted
    exact ⟨same, fun constraint among => satisfied constraint among path⟩
  · rintro ⟨rfl, each⟩
    simp only [checkAll, violations_eq_nil_of_each each]
    rfl

end Constraint

namespace Check

variable {value result : Value} {path : Path}

@[simp] theorem constrained_eq_accepted_iff {checker : Checker} {constraints : List Constraint} :
    Check.constrained checker constraints value path = .ok (.accepted result) ↔
      checker value path = .ok (.accepted result) ∧
        ∀ constraint ∈ constraints, Constraint.check constraint result path = .ok none := by
  constructor
  · intro accepted
    obtain ⟨checked, passed⟩ := constrained_accepted accepted
    exact ⟨checked, (Constraint.checkAll_eq_accepted_iff.mp passed).2⟩
  · rintro ⟨checked, satisfied⟩
    rw [Check.constrained, checked]
    exact Constraint.checkAll_eq_accepted_iff.mpr ⟨rfl, satisfied⟩

/-- The bounds of an array are checked on the list that it becomes without them. -/
theorem array_eq_accepted_iff {inner : Checker} {bounds : List Constraint} :
    Check.array inner bounds value path = .ok (.accepted result) ↔
      Check.array inner [] value path = .ok (.accepted result) ∧
        ∀ bound ∈ bounds, Constraint.check bound result path = .ok none := by
  simp only [Check.array]
  cases value.items? with
  | none => exact iff_of_false nofun fun both => nomatch both.1
  | some items =>
      dsimp only
      cases members path 0 (items.map fun item => (inner, item)) with
      | error fault => exact iff_of_false nofun fun both => nomatch both.1
      | ok parts =>
          simp only [Attempt.ok_bind]
          cases conclude .list parts with
          | rejected violations => exact iff_of_false nofun fun both => nomatch both.1
          | accepted built =>
              simp only [Constraint.checkAll_eq_accepted_iff, List.not_mem_nil, false_implies,
                implies_true, and_true]
              constructor
              · rintro ⟨rfl, satisfied⟩
                exact ⟨rfl, satisfied⟩
              · rintro ⟨rfl, satisfied⟩
                exact ⟨rfl, satisfied⟩

end Check

/-! ## Options -/

namespace Entries

variable {options : Entries}

theorem get?_filter {keep : Value → Bool} {name : String} (kept : keep (.str name) = true) :
    get? (options.filter fun option => keep option.1) (.str name) = options.get? (.str name) := by
  rw [get?, get?, List.find?_filter]
  congr 2
  funext option
  cases same : option.1 == .str name with
  | false => simp
  | true =>
      rw [Value.beq_str_iff.mp same, kept]
      rfl

/-- The options that bound the number of items. -/
def itemBounds (options : Entries) : Entries :=
  options.filter fun option => TypeSpec.namesBound option.1

/-- The options that do not bound the number of items. -/
def besidesBounds (options : Entries) : Entries :=
  options.filter fun option => !TypeSpec.namesBound option.1

@[simp] theorem get?_besidesBounds {name : String}
    (other : TypeSpec.namesBound (.str name) = false) :
    options.besidesBounds.get? (.str name) = options.get? (.str name) :=
  @get?_filter options (fun key => !TypeSpec.namesBound key) name (congrArg not other)

@[simp] theorem getText_besidesBounds {name : String}
    (other : TypeSpec.namesBound (.str name) = false) :
    options.besidesBounds.getText name = options.getText name := by
  rw [getText, get?_besidesBounds other]
  rfl

@[simp] theorem getText_itemBounds {name : String}
    (bound : TypeSpec.namesBound (.str name) = true) :
    options.itemBounds.getText name = options.getText name := by
  rw [getText, itemBounds, get?_filter bound]
  rfl

end Entries

namespace FieldSpec

variable {options : Entries} {name : String}

theorem mem_of_mem_constraintsOf {key : ConstraintKey} {bound : Value}
    (among : (key, bound) ∈ constraintsOf options) : (.str key.name, bound) ∈ options := by
  obtain ⟨⟨optionKey, value⟩, optionAmong, read⟩ := List.mem_filterMap.mp among
  obtain ⟨text, spelled, read⟩ := Option.bind_eq_some_iff.mp read
  obtain ⟨constraint, known, same⟩ := Option.bind_eq_some_iff.mp read
  cases same
  rw [ConstraintKey.name_of_ofName? known]
  cases optionKey with
  | str other =>
      cases spelled
      exact optionAmong
  | _ => cases spelled

theorem namesBound_eq (key : Value) : TypeSpec.namesBound key =
    (key.constraintKey? == some .minItems || key.constraintKey? == some .maxItems) := by
  rw [← Value.beq_name, ← Value.beq_name]
  rfl

@[simp] theorem constraintsOf_besidesBounds : constraintsOf options.besidesBounds =
    (constraintsOf options).filter fun constraint => !isItemBound constraint := by
  induction options with
  | nil => rfl
  | cons option rest ih =>
      obtain ⟨key, bound⟩ := option
      rw [Entries.besidesBounds] at ih ⊢
      rw [constraintsOf_cons, List.filter_append, ← ih, List.filter_cons, namesBound_eq]
      cases known : key.constraintKey? with
      | none => simp [constraintsOf_cons, known]
      | some constraint =>
          cases constraint <;> simp [constraintsOf_cons, known, isItemBound]

@[simp] theorem boundOr_eq_getText (key : ConstraintKey) :
    boundOr (constraintsOf options) key .null = options.getText key.name := by
  rw [Entries.getText, get?_name, boundOr]
  cases (constraintsOf options).find? fun constraint => constraint.1 == key <;> rfl

/-- Bounds among constraints are moved into an array type without bounds. -/
theorem foldBounds_unbounded {inner folded : TypeSpec} {constraints kept : List Constraint}
    (moved : foldBounds (.array inner .null .null) constraints = .ok (folded, kept)) :
    folded = .array inner (boundOr constraints .minItems .null)
      (boundOr constraints .maxItems .null) ∧
      kept = constraints.filter (fun constraint => !isItemBound constraint) ∧
      (boundOr constraints .minItems .null).isBound = true ∧
      (boundOr constraints .maxItems .null).isBound = true := by
  simp only [foldBounds] at moved
  split at moved
  case isTrue =>
    obtain ⟨checked, same⟩ := Attempt.then_eq_ok_iff.mp moved
    cases same
    have admissible := (TypeSpec.checkForm_eq_ok_iff _).mp checked
    simp only [TypeSpec.isAdmissible_array, Bool.and_eq_true] at admissible
    exact ⟨rfl, rfl, admissible.1.1, admissible.1.2⟩
  case isFalse unbound =>
    cases moved
    have others : ∀ constraint ∈ constraints, isItemBound constraint = false := by
      simpa using unbound
    have absent (key : ConstraintKey) (counts : ∀ bound, isItemBound (key, bound) = true) :
        boundOr constraints key .null = .null := by
      have none : constraints.find? (fun constraint => constraint.1 == key) = none := by
        rw [List.find?_eq_none]
        rintro ⟨found, bound⟩ among same
        cases eq_of_beq same
        exact Bool.false_ne_true ((others _ among).symm.trans (counts bound))
      rw [boundOr, none]
    have least := absent .minItems fun _ => rfl
    have most := absent .maxItems fun _ => rfl
    rw [least, most]
    refine ⟨rfl, ?_, rfl, rfl⟩
    rw [List.filter_eq_self.mpr]
    intro constraint among
    exact congrArg not (others constraint among)

theorem mem_constraintsOf_iff (distinct : options.Distinct) {key : ConstraintKey} {bound : Value} :
    (key, bound) ∈ constraintsOf options ↔ options.get? (.str key.name) = some bound := by
  constructor
  · intro among
    exact Entries.get?_of_mem distinct (mem_of_mem_constraintsOf among)
  · intro found
    rw [get?_name] at found
    obtain ⟨⟨sameKey, sameBound⟩, first, rfl⟩ := Option.map_eq_some_iff.mp found
    have hit := List.find?_some first
    cases eq_of_beq hit
    exact List.mem_of_find?_eq_some first

theorem check_null_bound {key : ConstraintKey} (counts : isItemBound (key, .null) = true)
    (value : Value) (path : Path) : Constraint.check (key, .null) value path = .ok none := by
  have ignored (holds : Number → Number → Bool) (leading : String) :
      Constraint.checkItems holds leading .null value = .ok none := by
    unfold Constraint.checkItems
    cases value.items? <;> rfl
  rw [Constraint.check_eq_none_iff]
  cases key with
  | minItems => exact ignored (fun n limit => limit.le n) "must have at least "
  | maxItems => exact ignored (fun n limit => n.le limit) "must have at most "
  | _ => cases counts

/-- Among options with distinct keys, a bound that is moved into a type is violated exactly if the
constraint among the options is. -/
theorem bound_satisfied_iff (distinct : options.Distinct) {key : ConstraintKey}
    (counts : isItemBound (key, .null) = true) {value : Value} {path : Path} :
    (∀ bound ∈ (if (options.getText key.name).isNull then []
        else [(key, options.getText key.name)] : List Constraint),
      Constraint.check bound value path = .ok none) ↔
    ∀ bound, (key, bound) ∈ constraintsOf options →
      Constraint.check (key, bound) value path = .ok none := by
  have moved (given : Option Value) :
      (∀ bound ∈ (if (given.getD .null).isNull then [] else [(key, given.getD .null)] :
          List Constraint), Constraint.check bound value path = .ok none) ↔
        ∀ bound, given = some bound → Constraint.check (key, bound) value path = .ok none := by
    cases given with
    | none => simp [Value.isNull]
    | some bound =>
        simp only [Option.getD_some, Option.some.injEq, forall_eq']
        split
        case isTrue null =>
          cases bound with
          | null => simp [check_null_bound counts]
          | _ => cases null
        case isFalse => simp
  simp only [mem_constraintsOf_iff distinct]
  exact moved (options.get? (.str key.name))

/-- The constraints among options with distinct keys are those that are moved into a type, and the
others. -/
theorem constraints_satisfied_iff (distinct : options.Distinct) {value : Value} {path : Path} :
    ((∀ bound ∈
      TypeSpec.boundConstraints (options.getText "min_items") (options.getText "max_items"),
        Constraint.check bound value path = .ok none) ∧
      ∀ constraint ∈ constraintsOf options.besidesBounds,
        Constraint.check constraint value path = .ok none) ↔
    ∀ constraint ∈ constraintsOf options, Constraint.check constraint value path = .ok none := by
  have least := @bound_satisfied_iff options distinct .minItems rfl value path
  have most := @bound_satisfied_iff options distinct .maxItems rfl value path
  rw [TypeSpec.boundConstraints, List.forall_mem_append, constraintsOf_besidesBounds]
  constructor
  · rintro ⟨⟨few, many⟩, others⟩ ⟨key, bound⟩ among
    cases counts : isItemBound (key, bound) with
    | false => exact others _ (List.mem_filter.mpr ⟨among, congrArg not counts⟩)
    | true =>
        cases key with
        | minItems => exact least.mp few bound among
        | maxItems => exact most.mp many bound among
        | _ => cases counts
  · intro each
    refine ⟨⟨least.mpr fun bound => each _, most.mpr fun bound => each _⟩, ?_⟩
    exact fun constraint among => each constraint (List.mem_of_mem_filter among)

end FieldSpec

/-! ## Fields of arrays -/

/-- A field of arrays keeps the meaning of the bounds among its options, and has them in its
type. -/
structure Field.FoldsBounds (env : Environment) (name inner : Value) (options : Entries)
    (items : TypeSpec) (field : Field) : Prop where
  /-- The field accepts what arrays without bounds accept, with the same result, if that violates
  none of the constraints among the options. -/
  accepts_iff : ∀ value path result,
    field.check env value path = .ok (.accepted result) ↔
      (TypeSpec.array items .null .null).check env value path = .ok (.accepted result) ∧
        ∀ constraint ∈ FieldSpec.constraintsOf options,
          Constraint.check constraint result path = .ok none
  /-- The same field is defined with its bounds in the type instead. -/
  rewritten : Field.ofSpec (.tuple [name, .tuple [.str "array", inner, .map options.itemBounds],
    .map options.besidesBounds]) = .ok field

namespace Field

variable {name inner : Value} {options : Entries} {field : Field}

/-- A field of arrays whose type has no bounds of its own. -/
theorem array_of_ofSpec
    (defined : Field.ofSpec (.tuple [name, .tuple [.str "array", inner], .map options]) =
      .ok field) :
    ∃ items, inner.toSpec = .ok items ∧
      field.type = .array items (options.getText "min_items") (options.getText "max_items") ∧
      field.constraints = FieldSpec.constraintsOf options.besidesBounds ∧
      (options.getText "min_items").isBound = true ∧
      (options.getText "max_items").isBound = true := by
  obtain ⟨spec, resolved, moved⟩ := ((Field.ofSpec_eq_ok_iff rfl).mp defined).typed
  simp only [Value.toSpec] at resolved
  obtain ⟨items, itemsRead, same⟩ := Attempt.bind_eq_ok_iff.mp resolved
  cases same
  obtain ⟨typed, kept, least, most⟩ := FieldSpec.foldBounds_unbounded moved
  rw [FieldSpec.boundOr_eq_getText] at least most
  rw [FieldSpec.boundOr_eq_getText, FieldSpec.boundOr_eq_getText] at typed
  rw [← FieldSpec.constraintsOf_besidesBounds] at kept
  exact ⟨items, itemsRead, typed, kept, least, most⟩

@[simp] theorem resolveRequired_besidesBounds (name : String) :
    FieldSpec.resolveRequired name options.besidesBounds =
      FieldSpec.resolveRequired name options := by
  have required := @Entries.get?_besidesBounds options "required" rfl
  have optional := @Entries.get?_besidesBounds options "optional" rfl
  have default := @Entries.get?_besidesBounds options "default" rfl
  simp [FieldSpec.resolveRequired, required, optional, default, Entries.getText]

/-- A field of arrays is defined as well with its bounds in the type. -/
theorem ofSpec_bounds_in_type
    (defined : Field.ofSpec (.tuple [name, .tuple [.str "array", inner], .map options]) =
      .ok field) :
    Field.ofSpec (.tuple [name, .tuple [.str "array", inner, .map options.itemBounds],
      .map options.besidesBounds]) = .ok field := by
  obtain ⟨items, itemsRead, typed, kept, least, most⟩ := array_of_ofSpec defined
  have defines := (Field.ofSpec_eq_ok_iff rfl).mp defined
  rw [← Entries.getText_itemBounds rfl] at least most
  rw [← @Entries.getText_itemBounds options "min_items" rfl,
    ← @Entries.getText_itemBounds options "max_items" rfl] at typed
  have known : ∀ option ∈ options.itemBounds, TypeSpec.namesBound option.1 = true :=
    fun option among => (List.mem_filter.mp among).2
  have read :
    (Value.tuple [.str "array", inner, .map options.itemBounds]).toSpec = .ok field.type := by
    rw [typed]
    exact (Value.Denotes.boundedArray known (Value.toSpec_eq_ok_iff.mp itemsRead) least most).toSpec
  apply (Field.ofSpec_eq_ok_iff rfl).mpr
  constructor
  case named => exact defines.named
  case known =>
    apply FieldSpec.checkOptions_eq_ok_iff.mpr
    intro option among
    exact FieldSpec.checkOptions_eq_ok_iff.mp defines.known option (List.mem_of_mem_filter among)
  case typed =>
    refine ⟨field.type, read, ?_⟩
    rw [← kept]
    exact (settled_of_ofSpec defined).folded
  case required => rw [resolveRequired_besidesBounds, defines.required]
  case choices =>
    apply FieldSpec.checkChoices_eq_ok_iff.mpr
    rw [Entries.get?_besidesBounds rfl]
    exact FieldSpec.checkChoices_eq_ok_iff.mp defines.choices
  case description => rw [Entries.getText_besidesBounds rfl, defines.description]
  case sample => rw [Entries.getText_besidesBounds rfl, defines.sample]
  case default => rw [Entries.getText_besidesBounds rfl, defines.default]

/-- Moving the bounds on the number of items into the type of a field preserves what the field
accepts, and defines the field that has them in its type. -/
theorem foldsBounds (env : Environment) (distinct : options.Distinct)
    (defined : Field.ofSpec (.tuple [name, .tuple [.str "array", inner], .map options]) =
      .ok field) :
    ∃ items, inner.toSpec = .ok items ∧ FoldsBounds env name inner options items field := by
  obtain ⟨items, itemsRead, typed, kept, -, -⟩ := array_of_ofSpec defined
  refine ⟨items, itemsRead, ?_, ofSpec_bounds_in_type defined⟩
  intro value path result
  rw [Field.check_eq, Check.constrained_eq_accepted_iff, typed, kept]
  simp only [TypeSpec.check]
  rw [Check.array_eq_accepted_iff, and_assoc, FieldSpec.constraints_satisfied_iff distinct]
  exact Iff.rfl

/-- Bounds stand around another constraint among the options, and the items are read into lists
before all of them are checked. -/
theorem foldsBounds_of_mixed_options :
    let inner : Value := .tuple [.str "array", .str "string"]
    let rows : Value := .list [.list [.str "a"], .list [.str "b"]]
    let least : Value × Value := (.str "min_items", .int 1)
    let most : Value × Value := (.str "max_items", .int 2)
    let others : Entries :=
      [(.str "optional", .bool true), (.str "choices", .list [rows, .list []])]
    let options : Entries := most :: (others ++ [least])
    let field : Field :=
      ⟨"rows", .array (.array (.primitive .string) .null .null) (.int 1) (.int 2),
      false, [(.choices, .list [rows, .list []])], .null, .null, .null⟩
    options.Distinct ∧
    Field.ofSpec (.tuple [.str "rows", .tuple [.str "array", inner], .map options]) = .ok field ∧
    Field.ofSpec (.tuple [.str "rows", .tuple [.str "array", inner, .map [most, least]],
      .map others]) = .ok field ∧
    field.check .bare (.tuple [.tuple [.str "a"], .tuple [.str "b"]]) [] =
      .ok (.accepted rows) := by
  intro inner rows least most others options field
  have distinct : options.Distinct := by decide
  have defined : Field.ofSpec (.tuple [.str "rows", .tuple [.str "array", inner], .map options]) =
      .ok field := rfl
  obtain ⟨items, itemsRead, folds⟩ := foldsBounds .bare distinct defined
  cases itemsRead
  refine ⟨distinct, defined, folds.rewritten, (folds.accepts_iff _ _ _).mpr ⟨rfl, ?_⟩⟩
  have given : FieldSpec.constraintsOf options =
    [(.maxItems, .int 2), (.choices, .list [rows, .list []]), (.minItems, .int 1)] := rfl
  rw [given]
  simp only [List.forall_mem_cons]
  exact ⟨rfl, rfl, rfl, List.forall_mem_nil _⟩

end Field

end Conform
