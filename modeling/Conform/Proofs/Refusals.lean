import Conform.Proofs.Extension
import Conform.Proofs.FormFlaws
import Conform.Proofs.ItemBounds
import Mathlib.Data.List.Induction

/-!
# How definitions are refused

The steps of the definition of a field look for one flaw after another, and field tuples are taken
in their order: `Field.FirstObstacle` and `Schema.FirstObstacle` are the obstacles at which a
definition stops.  It is then refused, unless no account of the obstacle can be given.
-/

namespace Conform

/-! ## Obstacles in field tuples -/

namespace FieldSpec

/-- The keys among the options of a field that are no field options. -/
def unknownOptions (options : Entries) : List Value :=
  (options.map Prod.fst).filter fun key => !isOption key

/-- A field tuple has a name, a type and options that can be looked into. -/
structure Legible (spec : Value) (name : String) (type : Value) (options : Entries) : Prop where
  apart : split spec = .ok (.str name, type, options)
  named : isIdentifier name = true
  known : unknownOptions options = []

/-- An array type with the bounds that the constraints of a field give it. -/
def rebound (inner : TypeSpec) (minItems maxItems : Value) (constraints : List Constraint) :
    TypeSpec :=
  .array inner (boundOr constraints .minItems minItems) (boundOr constraints .maxItems maxItems)

end FieldSpec

open FieldSpec

/-- The obstacle that is met first in a field tuple, in the order in which its name, its options,
its type, its presence, its choices and its bounds are looked into. -/
inductive Field.FirstObstacle (spec : Value) : Obstacle → Prop where
  | form (other : ¬(split spec).Returns) : FirstObstacle spec (.flawed (.fieldForm spec))
  | name {name type : Value} {options : Entries} (apart : split spec = .ok (name, type, options))
      (other : ∀ text, name = .str text → isIdentifier text = false) :
      FirstObstacle spec (.flawed (.fieldName name))
  | options {name : String} {type : Value} {options : Entries}
      (apart : split spec = .ok (.str name, type, options)) (named : isIdentifier name = true)
      (unknown : unknownOptions options ≠ []) :
      FirstObstacle spec (.flawed (.fieldOptions name (unknownOptions options)))
  | type {name : String} {type : Value} {options : Entries} {obstacle : Obstacle}
      (legible : Legible spec name type options) (ofType : type.FirstObstacle obstacle) :
      FirstObstacle spec obstacle
  | presence {name : String} {type : Value} {options : Entries} {resolved : TypeSpec}
      {flaw : DefinitionFlaw} (legible : Legible spec name type options)
      (denoted : type.Denotes resolved)
      (either : flaw = .requiredAndOptional name ∨ flaw = .requiredWithDefault name)
      (refused : resolveRequired name options = flaw.refuse) : FirstObstacle spec (.flawed flaw)
  | choices {name : String} {type allowed : Value} {options : Entries} {resolved : TypeSpec}
      (legible : Legible spec name type options) (denoted : type.Denotes resolved)
      (present : (resolveRequired name options).Returns)
      (given : options.get? (.str "choices") = some allowed)
      (other : isCollection allowed = false) :
      FirstObstacle spec (.flawed (.choicesForm name allowed))
  | bounds {name : String} {type minItems maxItems : Value} {options : Entries}
      {inner : TypeSpec} {obstacle : Obstacle} (legible : Legible spec name type options)
      (denoted : type.Denotes (.array inner minItems maxItems))
      (present : (resolveRequired name options).Returns)
      (chosen : checkChoices name options = .ok ())
      (bounded : (constraintsOf options).any isItemBound = true)
      (ofBounds : (Value.spec (rebound inner minItems maxItems
        (constraintsOf options))).FirstObstacle obstacle) : FirstObstacle spec obstacle

namespace FieldSpec

theorem split_endsBy {spec : Value} (other : ¬(split spec).Returns) :
    (split spec).EndsBy (.flawed (.fieldForm spec)) := by
  unfold split at other ⊢
  split at other
  · exact absurd ⟨_, rfl⟩ other
  · exact absurd ⟨_, rfl⟩ other
  · exact Attempt.endsBy_refuse _

theorem checkName_endsBy {name : Value}
    (other : ∀ text, name = .str text → isIdentifier text = false) :
    (checkName name).EndsBy (.flawed (.fieldName name)) := by
  unfold checkName
  split
  case h_1 text =>
    rw [if_neg (Bool.eq_false_iff.mp (other text rfl))]
    exact Attempt.endsBy_refuse _
  case h_2 => exact Attempt.endsBy_refuse _

theorem checkOptions_endsBy {name : String} {options : Entries}
    (unknown : unknownOptions options ≠ []) :
    (checkOptions name options).EndsBy (.flawed (.fieldOptions name (unknownOptions options))) := by
  unfold checkOptions
  split
  case h_1 none => exact absurd none unknown
  case h_2 => exact Attempt.endsBy_refuse _

theorem checkOptions_of_known {options : Entries} (known : unknownOptions options = [])
    (name : String) : checkOptions name options = .ok () := by
  unfold checkOptions
  unfold unknownOptions at known
  rw [known]

theorem resolveType_endsBy {type : Value} {obstacle : Obstacle} (name : String)
    (ofType : type.FirstObstacle obstacle) : (resolveType name type).EndsBy obstacle := by
  unfold resolveType
  generalize read : type.toSpec = attempt
  have ends : attempt.EndsBy obstacle := read ▸ ofType.endsBy
  cases ends with
  | told written account => exact .told written _
  | untold unwritten =>
      obtain rfl | rfl | rfl := obstacle.account_within _ unwritten <;> exact .untold unwritten

theorem resolveRequired_cases (name : String) (options : Entries) :
    (resolveRequired name options).Returns ∨ ∃ flaw : DefinitionFlaw,
      (flaw = .requiredAndOptional name ∨ flaw = .requiredWithDefault name) ∧
        resolveRequired name options = flaw.refuse := by
  unfold resolveRequired
  dsimp only
  split
  case isTrue => exact .inr ⟨_, .inl rfl, rfl⟩
  case isFalse =>
    split
    all_goals
      split
      case isTrue => exact .inr ⟨_, .inr rfl, rfl⟩
      case isFalse => exact .inl ⟨_, rfl⟩

theorem checkChoices_endsBy {name : String} {options : Entries} {allowed : Value}
    (given : options.get? (.str "choices") = some allowed) (other : isCollection allowed = false) :
    (checkChoices name options).EndsBy (.flawed (.choicesForm name allowed)) := by
  simp only [checkChoices, given, other]
  exact Attempt.endsBy_refuse _

variable {inner : TypeSpec} {minItems maxItems : Value} {constraints : List Constraint}

theorem foldBounds_of_bounded (bounded : constraints.any isItemBound = true) :
    foldBounds (.array inner minItems maxItems) constraints =
      (Value.spec (rebound inner minItems maxItems constraints)).toSpec >>= fun folded =>
        .ok (folded, constraints.filter fun constraint => !isItemBound constraint) := by
  simp only [foldBounds, bounded, if_true, Value.toSpec]
  rw [← rebound]
  cases (rebound inner minItems maxItems constraints).checkForm <;> rfl

theorem foldBounds_returns_or_stops (type : TypeSpec) (constraints : List Constraint) :
    (foldBounds type constraints).Returns ∨ ∃ inner minItems maxItems obstacle,
      type = .array inner minItems maxItems ∧ constraints.any isItemBound = true ∧
        (Value.spec (rebound inner minItems maxItems constraints)).FirstObstacle obstacle := by
  cases type with
  | array inner minItems maxItems =>
      by_cases bounded : constraints.any isItemBound = true
      · rw [foldBounds_of_bounded bounded, Attempt.returns_map_iff]
        exact (Value.toSpec_reports _).total.imp_right fun ⟨obstacle, ofBounds⟩ =>
          ⟨inner, minItems, maxItems, obstacle, rfl, bounded, ofBounds⟩
      · exact .inl ⟨_, by rw [foldBounds, if_neg bounded]⟩
  | _ => exact .inl ⟨_, rfl⟩

end FieldSpec

namespace Field

/-- The definition of a legible field tuple goes on with its type. -/
theorem exists_build_of_legible {spec type : Value} {name : String} {options : Entries}
    (legible : Legible spec name type options) :
    ∃ build : Bool → TypeSpec × List Constraint → Field, Field.ofSpec spec =
      resolveType name type >>= fun resolved =>
        resolveRequired name options >>= fun flag =>
          checkChoices name options >>= fun _ =>
            foldBounds resolved (constraintsOf options) >>= fun folded =>
              .ok (build flag folded) := by
  have named : checkName (.str name) = .ok name := checkName_eq_ok_iff.mpr ⟨rfl, legible.named⟩
  refine ⟨fun flag folded => {
    name, type := folded.1, required := flag, constraints := folded.2
    description := options.getText "description"
    sample := options.getText "example"
    default := options.getText "default" }, ?_⟩
  rw [Field.ofSpec, legible.apart, Attempt.ok_bind]
  simp [named, checkOptions_of_known legible.known]

/-- The first obstacle in a field tuple ends its definition. -/
theorem FirstObstacle.endsBy {spec : Value} {obstacle : Obstacle}
    (first : FirstObstacle spec obstacle) : (Field.ofSpec spec).EndsBy obstacle := by
  cases first with
  | form other => exact (split_endsBy other).bind _
  | name apart other =>
      rw [Field.ofSpec, apart]
      exact (checkName_endsBy other).bind _
  | options apart named unknown =>
      rw [Field.ofSpec, apart, Attempt.ok_bind]
      simp only [checkName_eq_ok_iff.mpr ⟨rfl, named⟩, Attempt.ok_bind]
      exact (checkOptions_endsBy unknown).bind _
  | type legible ofType =>
      obtain ⟨build, steps⟩ := exists_build_of_legible legible
      rw [steps]
      exact (resolveType_endsBy _ ofType).bind _
  | presence legible denoted _ refused =>
      obtain ⟨build, steps⟩ := exists_build_of_legible legible
      rw [steps, resolveType_eq_ok_iff.mpr denoted.toSpec, Attempt.ok_bind, refused]
      exact (Attempt.endsBy_refuse _).bind _
  | choices legible denoted present given other =>
      obtain ⟨build, steps⟩ := exists_build_of_legible legible
      obtain ⟨flag, present⟩ := present
      rw [steps, resolveType_eq_ok_iff.mpr denoted.toSpec, Attempt.ok_bind, present,
        Attempt.ok_bind]
      exact (checkChoices_endsBy given other).bind _
  | bounds legible denoted present chosen bounded ofBounds =>
      obtain ⟨build, steps⟩ := exists_build_of_legible legible
      obtain ⟨flag, present⟩ := present
      rw [steps, resolveType_eq_ok_iff.mpr denoted.toSpec, Attempt.ok_bind, present,
        Attempt.ok_bind, chosen, Attempt.ok_bind, foldBounds_of_bounded bounded]
      exact (ofBounds.endsBy.bind _).bind _

/-- A field tuple whose name and options are in order defines a field, or has a first obstacle. -/
theorem total_of_legible {spec type : Value} {name : String} {options : Entries}
    (legible : Legible spec name type options) :
    (Field.ofSpec spec).Returns ∨ ∃ obstacle, FirstObstacle spec obstacle := by
  obtain ⟨resolved, read⟩ | ⟨obstacle, ofType⟩ := type.toSpec_reports.total
  · have denoted := type.denotes_of_toSpec read
    obtain present | ⟨flaw, either, refused⟩ := resolveRequired_cases name options
    · by_cases chosen : checkChoices name options = .ok ()
      · obtain ⟨folded, moved⟩ | ⟨inner, minItems, maxItems, obstacle, rfl, bounded, ofBounds⟩ :=
          foldBounds_returns_or_stops resolved (constraintsOf options)
        · obtain ⟨flag, present⟩ := present
          obtain ⟨build, steps⟩ := exists_build_of_legible legible
          left
          rw [steps, resolveType_eq_ok_iff.mpr read, Attempt.ok_bind, present, Attempt.ok_bind,
            chosen, Attempt.ok_bind, moved]
          exact ⟨_, rfl⟩
        · exact .inr ⟨obstacle, .bounds legible denoted present chosen bounded ofBounds⟩
      · have wrong := mt checkChoices_eq_ok_iff.mpr chosen
        push Not at wrong
        obtain ⟨allowed, given, other⟩ := wrong
        exact .inr ⟨_, .choices legible denoted present given (Bool.eq_false_iff.mpr other)⟩
    · exact .inr ⟨_, .presence legible denoted either refused⟩
  · exact .inr ⟨obstacle, .type legible ofType⟩

theorem ofSpec_reports (spec : Value) : (Field.ofSpec spec).Reports (FirstObstacle spec) where
  exact _ := FirstObstacle.endsBy
  total := by
    by_cases apart : (split spec).Returns
    · obtain ⟨⟨nameValue, type, options⟩, apart⟩ := apart
      by_cases named : (checkName nameValue).Returns
      · obtain ⟨name, named⟩ := named
        obtain ⟨rfl, identifier⟩ := checkName_eq_ok_iff.mp named
        by_cases known : unknownOptions options = []
        · exact total_of_legible ⟨apart, identifier, known⟩
        · exact .inr ⟨_, .options apart identifier known⟩
      · refine .inr ⟨_, .name apart ?_⟩
        rintro text rfl
        by_contra identifier
        exact named ⟨text, checkName_eq_ok_iff.mpr ⟨rfl, eq_true_of_ne_false identifier⟩⟩
    · exact .inr ⟨_, .form apart⟩

end Field

namespace Schema

/-- The obstacle that is met first in a list of field tuples: the first one in the first tuple that
defines no field, or that it defines a field whose name is taken. -/
inductive FirstObstacle : List Value → Obstacle → Prop where
  | field {before after : List Value} {spec : Value} {obstacle : Obstacle}
      (earlier : (fieldsOfSpecs [] before).Returns) (ofField : Field.FirstObstacle spec obstacle) :
      FirstObstacle (before ++ spec :: after) obstacle
  | duplicate {before after : List Value} {spec : Value} {fields : List Field} {field : Field}
      (earlier : fieldsOfSpecs [] before = .ok fields) (defined : Field.ofSpec spec = .ok field)
      (taken : ∃ other ∈ fields, other.name = field.name) :
      FirstObstacle (before ++ spec :: after) (.flawed (.duplicateField field.name))

theorem FirstObstacle.append {specs : List Value} {obstacle : Obstacle}
    (first : FirstObstacle specs obstacle) (more : List Value) :
    FirstObstacle (specs ++ more) obstacle := by
  cases first with
  | field earlier ofField =>
      rw [List.append_assoc]
      exact .field earlier ofField
  | duplicate earlier defined taken =>
      rw [List.append_assoc]
      exact .duplicate earlier defined taken

theorem FirstObstacle.endsBy {specs : List Value} {obstacle : Obstacle}
    (first : FirstObstacle specs obstacle) : (fieldsOfSpecs [] specs).EndsBy obstacle := by
  cases first with
  | field earlier ofField =>
      obtain ⟨fields, earlier⟩ := earlier
      rw [fieldsOfSpecs_append, earlier, Attempt.ok_bind]
      exact ofField.endsBy.bind _
  | @duplicate _ _ _ fields field earlier defined taken =>
      have again : (fields.any fun other => other.name == field.name) = true := by simpa using taken
      rw [fieldsOfSpecs_append, earlier, Attempt.ok_bind, fieldsOfSpecs, defined, Attempt.ok_bind,
        if_pos again]
      exact Attempt.endsBy_refuse _

/-- Field tuples define fields, or the first obstacle in them ends the definition. -/
theorem fieldsOfSpecs_reports (specs : List Value) :
    (fieldsOfSpecs [] specs).Reports (FirstObstacle specs) where
  exact _ := FirstObstacle.endsBy
  total := by
    induction specs using List.reverseRecOn with
    | nil => exact .inl ⟨[], rfl⟩
    | append_singleton before spec ih =>
        obtain ⟨fields, earlier⟩ | ⟨obstacle, first⟩ := ih
        · obtain ⟨field, defined⟩ | ⟨obstacle, ofField⟩ := (Field.ofSpec_reports spec).total
          · by_cases taken : ∃ other ∈ fields, other.name = field.name
            · exact .inr ⟨_, .duplicate earlier defined taken⟩
            · have fresh : (fields.any fun other => other.name == field.name) = false := by
                simpa using taken
              left
              refine ⟨fields ++ [field], ?_⟩
              rw [fieldsOfSpecs_append, earlier, Attempt.ok_bind, fieldsOfSpecs, defined,
                Attempt.ok_bind, fresh]
              rfl
          · exact .inr ⟨obstacle, .field ⟨fields, earlier⟩ ofField⟩
        · exact .inr ⟨obstacle, first.append [spec]⟩

theorem define_list_reports (specs : List Value) :
    (define (.list specs) {}).Reports (FirstObstacle specs) := by
  have steps : define (.list specs) {} = fieldsOfSpecs [] specs >>= fun fields => .ok {
      fields, hook := none, metadata := [], title := .null, description := .null
      strict := false } := rfl
  have reports := fieldsOfSpecs_reports specs
  rw [steps]
  refine ⟨?_, fun obstacle first => first.endsBy.bind _⟩
  exact reports.total.imp_left Attempt.returns_map_iff.mpr

end Schema

/-! ## Definitions without oddities -/

mutual

/-- What is read from a form that can be shown can be shown. -/
theorem Value.Denotes.isShowable {form : Value} {spec : TypeSpec} :
    form.Denotes spec → form.isShowable = true → spec.isShowable = true
  | .node _, shown => shown
  | .name _, _ => rfl
  | @Value.Denotes.dataType named _ known, _ => by cases named <;> cases known <;> rfl
  | .array items, shown => by
      simp only [Value.isShowable, Value.allShowable, Bool.true_and, Bool.and_true] at shown
      simp [TypeSpec.isShowable, Value.isShowable, items.isShowable shown]
  | .boundedArray _ items _ _, shown => by
      simp only [Value.isShowable, Value.allShowable, Bool.true_and, Bool.and_true,
        Bool.and_eq_true] at shown
      simp [TypeSpec.isShowable, Value.isShowable_getText shown.2, items.isShowable shown.1]
  | @Value.Denotes.union form _ _ listed each _, shown => by
      simp only [Value.isShowable, Value.allShowable, Bool.true_and, Bool.and_true] at shown
      exact each.allShowable (Value.allShowable_of_items listed shown)
  | .tuple listed each, shown => by
      simp only [Value.isShowable, Value.allShowable, Bool.true_and, Bool.and_true] at shown
      exact each.allShowable (Value.allShowable_of_items listed shown)
  | .map ofKey ofValue, shown | .mapOfPair ofKey ofValue, shown => by
      simp only [Value.isShowable, Value.allShowable, Bool.true_and, Bool.and_true,
        Bool.and_eq_true] at shown
      simp [TypeSpec.isShowable, ofKey.isShowable shown.1, ofValue.isShowable shown.2]
  | .ref _, shown => shown

theorem Value.DenoteAll.allShowable {forms : List Value} {specs : List TypeSpec} :
    Value.DenoteAll forms specs → Value.allShowable forms = true →
      TypeSpec.allShowable specs = true
  | .nil, _ => rfl
  | .cons first rest, shown => by
      obtain ⟨firstShown, restShown⟩ := Bool.and_eq_true_iff.mp shown
      simp [TypeSpec.allShowable, first.isShowable firstShown, rest.allShowable restShown]

end

namespace FieldSpec

theorem shown_of_split {spec name type : Value} {options : Entries}
    (apart : split spec = .ok (name, type, options)) (shown : spec.isShowable = true) :
    name.isShowable = true ∧ type.isShowable = true ∧ Value.entriesShowable options = true := by
  unfold split at apart
  split at apart
  case h_1 =>
    cases apart
    simpa [Value.isShowable, Value.allShowable, Value.entriesShowable] using shown
  case h_2 =>
    cases apart
    simpa [Value.isShowable, Value.allShowable] using shown
  case h_3 => exact absurd apart (DefinitionFlaw.refuse_ne_ok _ _)

theorem isShowable_boundOr {options : Entries} {other : Value}
    (shown : Value.entriesShowable options = true) (otherShown : other.isShowable = true)
    (key : ConstraintKey) : (boundOr (constraintsOf options) key other).isShowable = true := by
  unfold boundOr
  split
  case h_1 _ bound found =>
    have among := mem_of_mem_constraintsOf (List.mem_of_find?_eq_some found)
    exact (Value.entriesShowable_iff.mp shown _ among).2
  case h_2 => exact otherShown

/-- The bounds that a field gives an array type are all that can be wrong with it. -/
theorem isTold_of_rebound {inner : TypeSpec} {minItems maxItems : Value} {obstacle : Obstacle}
    {constraints : List Constraint} (admissible : inner.isAdmissible = true)
    (shown : (rebound inner minItems maxItems constraints).isShowable = true)
    (ofBounds : (Value.spec (rebound inner minItems maxItems constraints)).FirstObstacle obstacle) :
    obstacle.isTold = true := by
  cases ofBounds with
  | early found =>
      obtain ⟨name, rfl⟩ := TypeSpec.exists_bound_of_flaw found
      exact shown
  | unlisted _ unlisted => cases unlisted
  | @part _ part before after _ _ _ parts earlier within =>
      have innerRead : (Value.spec inner).toSpec.Returns :=
        ⟨inner, (Value.Denotes.node (inner.checkForm_eq_ok_iff.mpr admissible)).toSpec⟩
      have only : part = .spec inner := by
        change [Value.spec inner] = before ++ part :: after at parts
        exact List.mem_singleton.mp (parts ▸ List.mem_append_cons_self)
      exact absurd innerRead (only ▸ within).endsBy.not_returns
  | late _ _ _ found => cases found

end FieldSpec

/-- In a field tuple that can be shown, with a type that is accountable, each obstacle can be
told. -/
theorem Field.FirstObstacle.isTold {spec : Value} {obstacle : Obstacle}
    (first : FirstObstacle spec obstacle) (shown : spec.isShowable = true)
    (accountable : ∀ name type options, split spec = .ok (name, type, options) →
      type.Accountable) : obstacle.isTold = true := by
  cases first with
  | form other => exact shown
  | name apart other => exact (shown_of_split apart shown).1
  | options apart identifier unknown =>
      refine Value.allShowable_iff.mpr fun key among => ?_
      obtain ⟨option, listed, rfl⟩ := List.mem_map.mp (List.mem_of_mem_filter among)
      exact (Value.entriesShowable_iff.mp (shown_of_split apart shown).2.2 option listed).1
  | type legible ofType => exact ofType.isTold (accountable _ _ _ legible.apart)
  | presence legible denoted either refused => obtain rfl | rfl := either <;> rfl
  | choices legible denoted present given other =>
      exact Value.isShowable_of_get? (shown_of_split legible.apart shown).2.2 given
  | bounds legible denoted _ _ _ ofBounds =>
      obtain ⟨-, typeShown, optionsShown⟩ := shown_of_split legible.apart shown
      have admissible := denoted.isAdmissible
      have resolvedShown := denoted.isShowable typeShown
      simp only [TypeSpec.isAdmissible_array, TypeSpec.isShowable, Bool.and_eq_true]
        at admissible resolvedShown
      refine isTold_of_rebound admissible.2 ?_ ofBounds
      simp [rebound, TypeSpec.isShowable, resolvedShown,
        isShowable_boundOr optionsShown resolvedShown.2.1,
        isShowable_boundOr optionsShown resolvedShown.2.2]

theorem Schema.FirstObstacle.isTold {specs : List Value} {obstacle : Obstacle}
    (first : FirstObstacle specs obstacle) (shown : Value.allShowable specs = true)
    (accountable : ∀ spec ∈ specs, ∀ name type options, split spec = .ok (name, type, options) →
      type.Accountable) : obstacle.isTold = true := by
  cases first with
  | @field before after spec _ _ ofField =>
      have among : spec ∈ before ++ spec :: after := List.mem_append_cons_self
      exact ofField.isTold (Value.allShowable_iff.mp shown spec among) (accountable spec among)
  | duplicate => rfl

/-- A definition is orderly when it returns or is refused.  A form is read, and a list of field
tuples defines a schema, unless there is a first obstacle, which ends the operation: with a refusal
if an account of it can be given, and else with the fault of the account, which is one of three.  So
the definition is orderly exactly if the first obstacle can be told, and it always is where the
values at hand can be shown, options are named by texts, and components can be told. -/
theorem definitions_orderly_iff (form : Value) (specs : List Value) :
    (form.toSpec.Reports form.FirstObstacle ∧
      (form.toSpec.Orderly ↔ ∀ obstacle, form.FirstObstacle obstacle → obstacle.isTold = true) ∧
      (∀ fault, form.toSpec = .error fault → (∃ account, fault = .malformedDefinition account) ∨
        fault = .unordered ∨ fault = .digitsToWrite ∨ fault = .notIterable) ∧
      (form.Accountable → form.toSpec.Orderly)) ∧
    (Schema.define (.list specs) {}).Reports (Schema.FirstObstacle specs) ∧
    ((Schema.define (.list specs) {}).Orderly ↔
      ∀ obstacle, Schema.FirstObstacle specs obstacle → obstacle.isTold = true) ∧
    (∀ fault, Schema.define (.list specs) {} = .error fault →
      (∃ account, fault = .malformedDefinition account) ∨
        fault = .unordered ∨ fault = .digitsToWrite ∨ fault = .notIterable) ∧
    (Value.allShowable specs = true →
      (∀ spec ∈ specs, ∀ name type options, split spec = .ok (name, type, options) →
        type.Accountable) →
      (Schema.define (.list specs) {}).Orderly) := by
  constructor
  · have reports := form.toSpec_reports
    exact ⟨reports, reports.orderly_iff, reports.within, fun accountable =>
      reports.orderly_iff.mpr fun obstacle first => first.isTold accountable⟩
  · have reports := Schema.define_list_reports specs
    exact ⟨reports, reports.orderly_iff, reports.within, fun shown accountable =>
      reports.orderly_iff.mpr fun obstacle first => first.isTold shown accountable⟩

/-- Not every definition is orderly: unknown options of which one is named by a number have no order
in which they could be listed, and a number or null yields no components of a union or a tuple. -/
theorem definitions_not_orderly_of_mixed_options :
    (¬ ∀ form : Value, form.toSpec.Orderly) ∧
      (¬ ∀ specs : List Value, (Schema.define (.list specs) {}).Orderly) ∧
      ¬ (Value.spec (.rawUnion (.int 5))).toSpec.Orderly ∧
      ¬ (Value.spec (.rawTuple .null)).toSpec.Orderly := by
  let form :=
    Value.tuple [.str "array", .str "integer", .map [(.int 1, .int 2), (.str "x", .int 3)]]
  have escapes : ∀ {α : Type} {attempt : Attempt α} (fault : Fault), attempt = .error fault →
      (∀ account, fault ≠ .malformedDefinition account) → ¬attempt.Orderly := by
    rintro α _ fault rfl other (⟨result, ⟨⟩⟩ | ⟨account, ⟨⟩⟩)
    exact other account rfl
  refine ⟨fun holds => ?_, fun holds => ?_, ?_, ?_⟩
  · exact escapes .unordered (by rfl) nofun (holds form)
  · exact escapes .unordered (by rfl) nofun (holds [.tuple [.str "sizes", form]])
  · exact escapes .notIterable (by rfl) nofun
  · exact escapes .notIterable (by rfl) nofun

end Conform
