import Conform.Proofs.CompactForm
import Conform.Proofs.Soundness

/-!
# Schemas are rebuilt from their field tuples

`Schema.fieldSpecs` and `Schema.define` are different functions: a definition resolves types,
settles which fields are required and moves the bounds on the number of items into array types.
What it leaves in a field is gathered in `Field.Settled`: a settled field is defined again by its
own tuple.
-/

namespace Conform

open FieldSpec

/-! ## Lookup among options -/

@[simp] theorem Entries.get?_append (first second : Entries) (key : Value) :
    (first ++ second).get? key = (first.get? key).or (second.get? key) := by
  simp only [Entries.get?, List.find?_append]
  cases first.find? fun entry => entry.1 == key <;> rfl

@[simp] theorem Entries.has_eq_isSome_get? (entries : Entries) (key : Value) :
    entries.has key = (entries.get? key).isSome := by
  simp [Entries.has, Entries.get?, List.isSome_find?]

namespace ConstraintKey

@[simp] theorem ofName?_name (key : ConstraintKey) : ofName? key.name = some key := by
  cases key <;> rfl

theorem name_of_ofName? {name : String} {key : ConstraintKey} (known : ofName? name = some key) :
    key.name = name := by
  unfold ofName? at known
  split at known <;> first | (cases known; rfl) | cases known

end ConstraintKey

/-- The constraint that a key of options names, if it names one. -/
def Value.constraintKey? (key : Value) : Option ConstraintKey :=
  key.text?.bind ConstraintKey.ofName?

/-- A key is the name of a constraint exactly when it names that constraint. -/
theorem Value.beq_name (key : Value) (constraint : ConstraintKey) :
    (key == .str constraint.name) = (key.constraintKey? == some constraint) := by
  have spelled : (key == .str constraint.name) = (key.text? == some constraint.name) := by
    cases key <;> rfl
  rw [spelled, Value.constraintKey?, Bool.eq_iff_iff, beq_iff_eq, beq_iff_eq]
  cases key.text? with
  | none => simp
  | some name =>
      constructor
      · rintro ⟨⟩
        exact ConstraintKey.ofName?_name constraint
      · intro known
        rw [ConstraintKey.name_of_ofName? known]

namespace FieldSpec

@[simp] theorem constraintsOf_append (first second : Entries) :
    constraintsOf (first ++ second) = constraintsOf first ++ constraintsOf second :=
  List.filterMap_append

@[simp] theorem constraintsOf_ofTexts (constraints : List Constraint) :
    constraintsOf (Entries.ofTexts (constraints.map fun (key, bound) => (key.name, bound))) =
      constraints := by
  simp [constraintsOf, Entries.ofTexts, Value.text?]

@[simp] theorem constraintsOf_cons (key bound : Value) (rest : Entries) :
    constraintsOf ((key, bound) :: rest) =
      (key.constraintKey?.map fun constraint => (constraint, bound)).toList ++
        constraintsOf rest := by
  cases text : key.text? with
  | none => simp [constraintsOf, Value.constraintKey?, text]
  | some name =>
      cases known : ConstraintKey.ofName? name <;>
        simp [constraintsOf, Value.constraintKey?, text, known]

/-- The bound under the name of a constraint is that of the first such constraint. -/
theorem get?_name (options : Entries) (key : ConstraintKey) :
    options.get? (.str key.name) =
      ((constraintsOf options).find? fun constraint => constraint.1 == key).map Prod.snd := by
  induction options with
  | nil => rfl
  | cons option rest ih =>
      obtain ⟨name, bound⟩ := option
      simp only [Entries.get?, Value.beq_name] at ih ⊢
      simp only [List.find?_cons, constraintsOf_cons]
      cases name.constraintKey? with
      | none => exact ih
      | some found =>
          simp only [Option.map_some, Option.toList_some, List.cons_append, List.nil_append,
            List.find?_cons, Option.some_beq_some]
          cases found == key with
          | true => rfl
          | false => exact ih

end FieldSpec

/-! ## Settled fields -/

/-- What a definition leaves in a field. -/
structure Field.Settled (field : Field) : Prop where
  /-- The name is an identifier. -/
  named : isIdentifier field.name = true
  /-- The type passes the check of ready-made nodes. -/
  admissible : field.type.isAdmissible = true
  /-- A field with a default may be absent. -/
  optional : field.hasDefault = true → field.required = false
  /-- Choices are a collection. -/
  choices : ∀ allowed, field.constraints.find? (fun constraint => constraint.1 == .choices) =
    some allowed → isCollection allowed.2 = true
  /-- There are no bounds left to move into the type. -/
  folded : foldBounds field.type field.constraints = .ok (field.type, field.constraints)

namespace FieldSpec

@[simp] theorem checkName_eq_ok_iff {value : Value} {name : String} :
    checkName value = .ok name ↔ value = .str name ∧ isIdentifier name = true := by
  unfold checkName
  split
  case h_1 text =>
    split
    case isTrue identifier =>
      constructor
      · rintro ⟨⟩
        exact ⟨rfl, identifier⟩
      · rintro ⟨⟨⟩, _⟩
        rfl
    case isFalse other =>
      simp only [DefinitionFlaw.refuse_ne_ok, false_iff]
      rintro ⟨⟨⟩, identifier⟩
      exact other identifier
  case h_2 other =>
    simp only [DefinitionFlaw.refuse_ne_ok, false_iff]
    rintro ⟨rfl, _⟩
    exact other name rfl

@[simp] theorem checkOptions_eq_ok_iff {name : String} {options : Entries} :
    checkOptions name options = .ok () ↔ ∀ option ∈ options, isOption option.1 = true := by
  have unknown : (options.map Prod.fst).filter (fun key => !isOption key) = [] ↔
      ∀ option ∈ options, isOption option.1 = true := by simp
  rw [← unknown]
  unfold checkOptions
  split
  case h_1 none => exact ⟨fun _ => none, fun _ => rfl⟩
  case h_2 found some =>
    exact ⟨fun checked => absurd checked (DefinitionFlaw.refuse_ne_ok _ _),
      fun none => absurd none some⟩

@[simp] theorem resolveType_eq_ok_iff {name : String} {type : Value} {spec : TypeSpec} :
    resolveType name type = .ok spec ↔ type.toSpec = .ok spec := by
  unfold resolveType
  split <;> simp_all [DefinitionFlaw.refuse_ne_ok]

@[simp] theorem checkChoices_eq_ok_iff {name : String} {options : Entries} :
    checkChoices name options = .ok () ↔
      ∀ allowed, options.get? (.str "choices") = some allowed → isCollection allowed = true := by
  unfold checkChoices
  split <;> simp_all [DefinitionFlaw.refuse_ne_ok]

/-- What is required has no default. -/
theorem default_of_required {name : String} {options : Entries}
    (resolved : resolveRequired name options = .ok true) :
    (options.getText "default").isNull = true := by
  have guarded : ∀ {flag refused : Bool} {flaw : DefinitionFlaw},
      (if flag && refused then flaw.refuse else .ok flag : Attempt Bool) = .ok true →
        refused = false := by
    intro flag refused flaw passed
    cases refused with
    | false => rfl
    | true => cases flag <;> simp [DefinitionFlaw.refuse_ne_ok] at passed
  unfold resolveRequired at resolved
  dsimp only at resolved
  split at resolved
  case isTrue => exact absurd resolved (DefinitionFlaw.refuse_ne_ok _ _)
  case isFalse => simpa using guarded resolved

@[simp] theorem foldBounds_nil (type : TypeSpec) : foldBounds type [] = .ok (type, []) := by
  cases type <;> rfl

variable {type folded : TypeSpec} {constraints kept : List Constraint}

/-- Bounds are moved into array types only, after a check; the other constraints stay. -/
theorem foldBounds_cases (moved : foldBounds type constraints = .ok (folded, kept)) :
    (folded = type ∧ kept = constraints) ∨
      ∃ inner minItems maxItems, folded = .array inner minItems maxItems ∧
        folded.checkForm = .ok () ∧
        kept = constraints.filter fun constraint => !isItemBound constraint := by
  unfold foldBounds at moved
  split at moved
  case h_1 inner minItems maxItems =>
    split at moved
    case isTrue =>
      obtain ⟨checked, same⟩ := Attempt.then_eq_ok_iff.mp moved
      cases same
      exact .inr ⟨_, _, _, rfl, checked, rfl⟩
    case isFalse =>
      cases moved
      exact .inl ⟨rfl, rfl⟩
  case h_2 =>
    cases moved
    exact .inl ⟨rfl, rfl⟩

theorem foldBounds_again (moved : foldBounds type constraints = .ok (folded, kept)) :
    foldBounds folded kept = .ok (folded, kept) := by
  obtain ⟨rfl, rfl⟩ | ⟨inner, minItems, maxItems, rfl, _, rfl⟩ := foldBounds_cases moved
  · exact moved
  · simp [foldBounds]

theorem admissible_of_foldBounds (admissible : type.isAdmissible = true)
    (moved : foldBounds type constraints = .ok (folded, kept)) : folded.isAdmissible = true := by
  obtain ⟨rfl, _⟩ | ⟨_, _, _, _, checked, _⟩ := foldBounds_cases moved
  · exact admissible
  · exact folded.checkForm_eq_ok_iff.mp checked

theorem choices_of_foldBounds (moved : foldBounds type constraints = .ok (folded, kept)) :
    kept.find? (fun constraint => constraint.1 == .choices) =
      constraints.find? fun constraint => constraint.1 == .choices := by
  obtain ⟨_, rfl⟩ | ⟨_, _, _, _, _, rfl⟩ := foldBounds_cases moved
  · rfl
  · rw [List.find?_filter]
    congr 1
    funext constraint
    obtain ⟨key, bound⟩ := constraint
    cases key <;> rfl

end FieldSpec

/-- What a name, a type and options have to be for a field to be defined by them. -/
structure FieldSpec.Defines (name type : Value) (options : Entries) (field : Field) : Prop where
  named : checkName name = .ok field.name
  known : checkOptions field.name options = .ok ()
  typed : ∃ spec, type.toSpec = .ok spec ∧
    foldBounds spec (constraintsOf options) = .ok (field.type, field.constraints)
  required : resolveRequired field.name options = .ok field.required
  choices : checkChoices field.name options = .ok ()
  description : field.description = options.getText "description"
  sample : field.sample = options.getText "example"
  default : field.default = options.getText "default"

/-- A field tuple defines a field exactly if every step of its definition does its part. -/
theorem Field.ofSpec_eq_ok_iff {spec name type : Value} {options : Entries} {field : Field}
    (parts : split spec = .ok (name, type, options)) :
    Field.ofSpec spec = .ok field ↔ Defines name type options field := by
  constructor
  · intro defined
    simp only [Field.ofSpec, parts, Attempt.ok_bind] at defined
    obtain ⟨text, named, defined⟩ := Attempt.bind_eq_ok_iff.mp defined
    obtain ⟨known, defined⟩ := Attempt.then_eq_ok_iff.mp defined
    obtain ⟨spec, resolved, defined⟩ := Attempt.bind_eq_ok_iff.mp defined
    obtain ⟨flag, required, defined⟩ := Attempt.bind_eq_ok_iff.mp defined
    obtain ⟨choices, defined⟩ := Attempt.then_eq_ok_iff.mp defined
    obtain ⟨⟨folded, kept⟩, moved, same⟩ := Attempt.bind_eq_ok_iff.mp defined
    cases same
    exact ⟨named, known, ⟨spec, resolveType_eq_ok_iff.mp resolved, moved⟩, required, choices,
      rfl, rfl, rfl⟩
  · rintro ⟨named, known, ⟨spec, resolved, moved⟩, required, choices, description, sample, default⟩
    simp only [Field.ofSpec, parts, named, known, resolveType_eq_ok_iff.mpr resolved, required,
      choices, moved, ← description, ← sample, ← default, Attempt.ok_bind]
    cases field
    rfl

/-- The field that a field tuple defines is settled. -/
theorem Field.settled_of_ofSpec {spec : Value} {field : Field}
    (defined : Field.ofSpec spec = .ok field) : field.Settled := by
  obtain ⟨⟨name, type, options⟩, parts, _⟩ := Attempt.bind_eq_ok_iff.mp defined
  have defines := (ofSpec_eq_ok_iff parts).mp defined
  obtain ⟨resolved, read, moved⟩ := defines.typed
  refine ⟨(checkName_eq_ok_iff.mp defines.named).2, ?admissible, ?optional, ?choices,
    foldBounds_again moved⟩
  case admissible =>
    exact admissible_of_foldBounds (type.denotes_of_toSpec read).isAdmissible moved
  case optional =>
    intro given
    have settled := defines.required
    cases required : field.required with
    | false => rfl
    | true =>
        rw [required] at settled
        simp [Field.hasDefault, defines.default, default_of_required settled] at given
  case choices =>
    intro allowed first
    apply checkChoices_eq_ok_iff.mp defines.choices
    rw [show "choices" = ConstraintKey.choices.name from rfl, get?_name,
      ← choices_of_foldBounds moved, first]
    rfl

/-! ## The options of a settled field -/

namespace Schema

/-- The options of a field tuple that are no constraints. -/
def plainOptionsOf (field : Field) : Entries :=
  (if field.hasDefault then [(.str "default", field.default)]
    else [(.str "required", .bool field.required)]) ++
  ((if field.description.isNull then [] else [(.str "description", field.description)]) ++
  (if field.sample.isNull then [] else [(.str "example", field.sample)]))

/-- The constraints of a field as options. -/
def boundsOf (field : Field) : Entries :=
  Entries.ofTexts (field.constraints.map fun (key, bound) => (key.name, bound))

theorem optionsOf_eq (field : Field) :
    optionsOf field = boundsOf field ++ plainOptionsOf field := by
  simp [optionsOf, boundsOf, plainOptionsOf]

variable (field : Field)

@[simp] theorem get?_optionsOf {name : String} (plain : ConstraintKey.ofName? name = none) :
    (optionsOf field).get? (.str name) = (plainOptionsOf field).get? (.str name) := by
  have unbound : (boundsOf field).get? (.str name) = none := by
    rw [boundsOf, Entries.get?_ofTexts, List.lookup_eq_none_iff]
    intro entry among
    obtain ⟨⟨key, bound⟩, _, rfl⟩ := List.mem_map.mp among
    rw [bne_iff_ne]
    rintro rfl
    cases (ConstraintKey.ofName?_name key).symm.trans plain
  rw [optionsOf_eq, Entries.get?_append, unbound, Option.none_or]

@[simp] theorem get?_default : (optionsOf field).get? (.str "default") =
    if field.hasDefault then some field.default else none := by
  rw [get?_optionsOf field rfl, plainOptionsOf]
  split <;> split <;> split <;> rfl

@[simp] theorem get?_required : (optionsOf field).get? (.str "required") =
    if field.hasDefault then none else some (.bool field.required) := by
  rw [get?_optionsOf field rfl, plainOptionsOf]
  split <;> split <;> split <;> rfl

@[simp] theorem get?_optional : (optionsOf field).get? (.str "optional") = none := by
  rw [get?_optionsOf field rfl, plainOptionsOf]
  split <;> split <;> split <;> rfl

theorem getText_of_unlessNull {options : Entries} {name : String} {value : Value}
    (found : options.get? (.str name) = if value.isNull then none else some value) :
    options.getText name = value := by
  rw [Entries.getText, found]
  cases value <;> rfl

@[simp] theorem getText_default : (optionsOf field).getText "default" = field.default := by
  apply getText_of_unlessNull
  rw [get?_default, Field.hasDefault]
  cases field.default.isNull <;> rfl

@[simp] theorem getText_description :
    (optionsOf field).getText "description" = field.description := by
  apply getText_of_unlessNull
  rw [get?_optionsOf field rfl, plainOptionsOf]
  split <;> split <;> split <;> rfl

@[simp] theorem getText_example : (optionsOf field).getText "example" = field.sample := by
  apply getText_of_unlessNull
  rw [get?_optionsOf field rfl, plainOptionsOf]
  split <;> split <;> split <;> rfl

@[simp] theorem constraintsOf_optionsOf : constraintsOf (optionsOf field) = field.constraints := by
  have none : constraintsOf (plainOptionsOf field) = [] := by
    rw [plainOptionsOf]
    split <;> split <;> split <;> rfl
  rw [optionsOf_eq, constraintsOf_append, none, List.append_nil]
  exact constraintsOf_ofTexts field.constraints

theorem isOption_optionsOf : ∀ option ∈ optionsOf field, isOption option.1 = true := by
  rw [optionsOf_eq, List.forall_mem_append]
  constructor
  · intro option among
    simp only [boundsOf, Entries.ofTexts, List.map_map, List.mem_map] at among
    obtain ⟨constraint, _, rfl⟩ := among
    simp [isOption]
  · rw [plainOptionsOf]
    simp only [List.forall_mem_append]
    refine ⟨?_, ?_, ?_⟩ <;> split <;> simp [isOption, plainOptions]

variable {field}

/-- The options of a settled field say again whether it is required. -/
theorem resolveRequired_optionsOf (settled : field.Settled) (name : String) :
    resolveRequired name (optionsOf field) = .ok field.required := by
  have optional := settled.optional
  simp only [resolveRequired, get?_required, get?_optional, Entries.has_eq_isSome_get?,
    get?_default, getText_default]
  rw [Field.hasDefault] at optional ⊢
  cases absent : field.default.isNull with
  | false =>
      rw [optional (congrArg not absent)]
      rfl
  | true => cases field.required <;> rfl

/-- A settled field is defined by its own field tuple. -/
theorem ofSpec_fieldSpec (settled : field.Settled) :
    Field.ofSpec (.tuple [.str field.name, .spec field.type, .map (optionsOf field)]) =
      .ok field := by
  have read : (Value.spec field.type).toSpec = .ok field.type :=
    (Value.Denotes.node (field.type.checkForm_eq_ok_iff.mpr settled.admissible)).toSpec
  have choices : checkChoices field.name (optionsOf field) = .ok () := by
    apply checkChoices_eq_ok_iff.mpr
    intro allowed found
    rw [show "choices" = ConstraintKey.choices.name from rfl, get?_name,
      constraintsOf_optionsOf] at found
    obtain ⟨constraint, first, rfl⟩ := Option.map_eq_some_iff.mp found
    exact settled.choices constraint first
  apply (Field.ofSpec_eq_ok_iff rfl).mpr
  constructor
  case named => exact checkName_eq_ok_iff.mpr ⟨rfl, settled.named⟩
  case known => exact checkOptions_eq_ok_iff.mpr (isOption_optionsOf field)
  case typed => exact ⟨field.type, read, constraintsOf_optionsOf field ▸ settled.folded⟩
  case required => exact resolveRequired_optionsOf settled field.name
  case choices => exact choices
  case description => exact (getText_description field).symm
  case sample => exact (getText_example field).symm
  case default => exact (getText_default field).symm

/-! ## Whole schemas -/

/-- The fields that field tuples define are settled. -/
theorem settled_of_fieldsOfSpecs {specs : List Value} {done fields : List Field}
    (before : ∀ field ∈ done, field.Settled) (defined : fieldsOfSpecs done specs = .ok fields) :
    ∀ field ∈ fields, field.Settled := by
  induction specs generalizing done with
  | nil =>
      cases defined
      exact before
  | cons spec rest ih =>
      obtain ⟨field, fieldDefined, others⟩ := Attempt.bind_eq_ok_iff.mp defined
      split at others
      case isTrue => exact absurd others (DefinitionFlaw.refuse_ne_ok _ _)
      case isFalse =>
        refine ih ?_ others
        exact List.forall_mem_append.mpr
          ⟨before, List.forall_mem_singleton.mpr (Field.settled_of_ofSpec fieldDefined)⟩

/-- Field tuples that define fields of distinct names define them one after another. -/
theorem fieldsOfSpecs_of_each {done fields : List Field} {specs : List Value}
    (each : List.Forall₂ (fun spec field => Field.ofSpec spec = .ok field) specs fields)
    (distinct : ((done ++ fields).map Field.name).Nodup) :
    fieldsOfSpecs done specs = .ok (done ++ fields) := by
  induction each generalizing done with
  | nil => simp [fieldsOfSpecs]
  | @cons spec field specs rest first others ih =>
      have unused : (done.any fun other => other.name == field.name) = false := by
        rw [List.map_append, List.nodup_append'] at distinct
        rw [List.any_eq_false]
        intro other among same
        exact distinct.2.2 (List.mem_map_of_mem among)
          (beq_iff_eq.mp same ▸ List.mem_map_of_mem List.mem_cons_self)
      rw [List.append_cons] at distinct ⊢
      simp only [fieldsOfSpecs, first, Attempt.ok_bind, unused]
      exact ih distinct

theorem fieldsOfSpecs_fieldSpecs {done fields : List Field}
    (settled : ∀ field ∈ fields, field.Settled)
    (distinct : ((done ++ fields).map Field.name).Nodup) :
    fieldsOfSpecs done (fields.map fun field =>
      .tuple [.str field.name, .spec field.type, .map (optionsOf field)]) =
        .ok (done ++ fields) := by
  refine fieldsOfSpecs_of_each ?_ distinct
  rw [List.forall₂_map_left_iff, List.forall₂_same]
  exact fun field among => ofSpec_fieldSpec (settled field among)

/-- The fields of a defined schema are those that the members of the definition define. -/
theorem fieldsOfSpecs_of_define {specs : Value} {settings : Settings} {schema : Schema}
    (defined : define specs settings = .ok schema) :
    ∃ members, specs.elements = .ok members ∧ fieldsOfSpecs [] members = .ok schema.fields := by
  simp only [define] at defined
  split at defined
  case isTrue => exact absurd defined (DefinitionFlaw.refuse_ne_ok _ _)
  case isFalse =>
    obtain ⟨hook, _, others⟩ := Attempt.bind_eq_ok_iff.mp defined
    obtain ⟨members, listed, others⟩ := Attempt.bind_eq_ok_iff.mp others
    obtain ⟨fields, fieldsDefined, others⟩ := Attempt.bind_eq_ok_iff.mp others
    obtain ⟨metadata, _, same⟩ := Attempt.bind_eq_ok_iff.mp others
    cases same
    exact ⟨members, listed, fieldsDefined⟩

theorem settled_of_define {specs : Value} {settings : Settings} {schema : Schema}
    (defined : define specs settings = .ok schema) : ∀ field ∈ schema.fields, field.Settled := by
  obtain ⟨members, _, fieldsDefined⟩ := fieldsOfSpecs_of_define defined
  have none : ∀ field ∈ ([] : List Field), field.Settled := List.forall_mem_nil _
  exact settled_of_fieldsOfSpecs none fieldsDefined

theorem fieldsOfSpecs_of_defined {specs : Value} {settings : Settings} {schema : Schema}
    (defined : define specs settings = .ok schema) :
    fieldsOfSpecs [] schema.fieldSpecs = .ok schema.fields :=
  fieldsOfSpecs_fieldSpecs (settled_of_define defined) (distinct_of_define defined)

/-- A list of field tuples defines a schema when its settings can be taken. -/
theorem define_list {specs : List Value} {settings : Settings} {fields : List Field}
    {hook : Option Nat} {metadata : Entries} (fieldsDefined : fieldsOfSpecs [] specs = .ok fields)
    (hooked : resolveHook settings.hook = .ok hook)
    (annotated : (settings.metadata.getD .null).entriesIfAny = .ok metadata) :
    define (.list specs) settings = .ok {
      fields, hook, metadata
      title := settings.title.getD .null
      description := settings.description.getD .null
      strict := (settings.strict.getD (.bool false)).truthy } := by
  have listed : (Value.list specs).elements = .ok specs := rfl
  simp [define, isForeignList, hooked, listed, fieldsDefined, annotated]

/-- The field tuples of a defined schema define a schema with the same fields, in the same order. -/
theorem define_fieldSpecs {specs : Value} {settings : Settings} {schema : Schema}
    (defined : define specs settings = .ok schema) :
    ∃ rebuilt, define (.list schema.fieldSpecs) {} = .ok rebuilt ∧
      rebuilt.fields = schema.fields :=
  ⟨_, define_list (fieldsOfSpecs_of_defined defined) rfl rfl, rfl⟩

/-- A schema is rebuilt, with bounds that were moved into a type, a default, constraints in their
order and an example. -/
theorem define_fieldSpecs_of_folded :
    let tags : Value := .tuple [.str "tags", .tuple [.str "array", .str "string"], .map [
      (.str "max_items", .int 3), (.str "required", .bool false), (.str "min_items", .int 1),
      (.str "default", .list [.str "none"])]]
    let score : Value := .tuple [.str "score", .str "float", .map [
      (.str "lteq", .int 10), (.str "optional", .null), (.str "default", .null),
      (.str "gt", .int 0), (.str "example", .int 5)]]
    ∃ schema rebuilt, define (.list [tags, score]) {} = .ok schema ∧
      define (.list schema.fieldSpecs) {} = .ok rebuilt ∧ rebuilt.fields = schema.fields ∧
      schema.fields.map Field.constraints = [[], [(.lteq, .int 10), (.gt, .int 0)]] := by
  intro tags score
  let schema : Schema := ⟨[
    ⟨"tags", .array (.primitive .string) (.int 1) (.int 3), false, [], .null, .null,
      .list [.str "none"]⟩,
    ⟨"score", .primitive .float, true, [(.lteq, .int 10), (.gt, .int 0)], .null, .int 5, .null⟩],
    .null, .null, false, none, []⟩
  have defined : define (.list [tags, score]) {} = .ok schema := rfl
  obtain ⟨rebuilt, again, same⟩ := define_fieldSpecs defined
  exact ⟨schema, rebuilt, defined, again, same, rfl⟩

/-- Extending a defined schema by nothing gives the schema. -/
theorem extend_nil {specs : Value} {settings : Settings} {schema : Schema}
    (defined : define specs settings = .ok schema) : schema.extend (.list []) {} = .ok schema := by
  have again : fieldsOfSpecs [] (schema.fieldSpecs ++ []) = .ok schema.fields := by
    rw [List.append_nil]
    exact fieldsOfSpecs_of_defined defined
  have hooked : resolveHook (schema.hook.map .behaviour) = .ok schema.hook := by
    cases schema.hook <;> rfl
  have annotated : (Value.map schema.metadata).entriesIfAny = .ok schema.metadata := by
    cases schema.metadata <;> rfl
  have built := @define_list _ (Settings.orElse {} schema.settings) _ _ _ again hooked annotated
  cases schema
  exact built

end Schema

end Conform
