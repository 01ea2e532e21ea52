import Conform.Proofs.Locations
import Conform.Proofs.Series

/-!
# Codes that are text

A rejection by a schema is summed up by the codes of its violations, which have to be text for that.
The violations of types, of constraints and of conversions have codes that are text, and a nested
schema sums up its own rejections.  Other codes come from opaque targets only, which hand on records
of their own.
-/

namespace Conform

/-- Whatever an answer rejects for, has a code that is text. -/
def Attempt.Coded (answer : Attempt (Verdict Value)) : Prop :=
  ∀ found, answer = .ok (.rejected found) → ∀ violation ∈ found, violation.HasTextCode

/-- Whatever a check rejects for, has a code that is text. -/
def Checker.Coded (checker : Checker) : Prop := ∀ value path, (checker value path).Coded

namespace Attempt

theorem coded_error (fault : Fault) : Coded (.error fault) := nofun

theorem coded_accepted (result : Value) : Coded (.ok (.accepted result)) := nofun

theorem coded_rejected {found : List Violation}
    (each : ∀ violation ∈ found, violation.HasTextCode) : Coded (.ok (.rejected found)) := by
  rintro _ ⟨⟩
  exact each

theorem coded_single {violation : Violation} (text : violation.HasTextCode) :
    Coded (.ok (.rejected [violation])) :=
  coded_rejected (List.forall_mem_singleton.mpr text)

/-- The last step of a sequence says why it rejects. -/
theorem coded_bind {α : Type} {attempt : Attempt α} {next : α → Attempt (Verdict Value)}
    (each : ∀ value, attempt = .ok value → (next value).Coded) : (attempt >>= next).Coded := by
  intro found rejected
  obtain ⟨value, first, concluded⟩ := Attempt.bind_eq_ok_iff.mp rejected
  exact each value first found concluded

end Attempt

open Attempt

/-- The codes of reported violations are text. -/
theorem Checker.Coded.of_reports {checker : Checker} (coded : checker.Coded) {value : Value}
    {path : Path} {violation : Violation} (reports : checker.Reports value path violation) :
    violation.HasTextCode := by
  obtain ⟨found, rejected, among⟩ := reports
  exact coded value path found rejected violation among

/-! ## Constraints -/

/-- The code of a violated constraint is its name. -/
theorem Constraint.hasTextCode_of_check {constraint : Constraint} {value : Value} {path : Path}
    {violation : Violation} (violated : check constraint value path = .ok (some violation)) :
    violation.HasTextCode := by
  obtain ⟨text, said, shown⟩ := Attempt.bind_eq_ok_iff.mp violated
  cases text with
  | none => cases shown
  | some text =>
      cases shown
      exact ⟨constraint.1.name, rfl⟩

theorem Constraint.checkAll_coded (constraints : List Constraint) :
    Checker.Coded (checkAll constraints) := by
  intro value path
  refine coded_bind fun found checked => ?_
  cases found with
  | nil => exact coded_accepted value
  | cons first rest =>
      refine coded_rejected fun violation among => ?_
      obtain ⟨_, _, violated⟩ := exists_check_of_violations checked violation among
      exact hasTextCode_of_check violated

/-! ## Types -/

namespace Check

theorem conclude_coded (build : List Value → Value) {parts : List Value × List Violation}
    (each : ∀ violation ∈ parts.2, violation.HasTextCode) : Coded (.ok (conclude build parts)) := by
  unfold conclude
  split
  · exact coded_accepted _
  · exact coded_rejected each

theorem hasTextCode_of_members {parts : List (Checker × Value)}
    (each : ∀ part ∈ parts, part.1.Coded) {path : Path} {index : Nat}
    {done : List Value × List Violation} (checked : members path index parts = .ok done) :
    ∀ violation ∈ done.2, violation.HasTextCode := by
  intro violation among
  obtain ⟨position, checker, item, held, reports⟩ := (members_reports checked).2 violation among
  exact (each _ (List.mem_of_getElem? held)).of_reports reports

theorem hasTextCode_of_items {checker : Checker} (coded : checker.Coded) {items : List Value}
    {path : Path} {index : Nat} {done : List Value × List Violation}
    (checked : members path index (items.map fun item => (checker, item)) = .ok done) :
    ∀ violation ∈ done.2, violation.HasTextCode := by
  refine hasTextCode_of_members (fun part among => ?_) checked
  obtain ⟨item, _, rfl⟩ := List.mem_map.mp among
  exact coded

theorem kind_coded (kind : Kind) : (Check.kind kind).Coded := by
  intro value path
  simp only [Check.kind]
  split
  · exact coded_accepted value
  · exact coded_single ⟨"type", rfl⟩

theorem unknownKind_coded (description : Attempt String) :
    (Check.unknownKind description).Coded := by
  intro value path
  simp only [Check.unknownKind]
  split
  · exact coded_accepted value
  · exact coded_bind fun _ _ => coded_single ⟨"type", rfl⟩

theorem array_coded {inner : Checker} (coded : inner.Coded) (bounds : List Constraint) :
    (Check.array inner bounds).Coded := by
  intro value path
  simp only [Check.array]
  cases value.items? with
  | none => exact coded_single ⟨"type", rfl⟩
  | some items =>
      refine coded_bind fun parts checked => ?_
      cases verdict : conclude .list parts with
      | accepted result => exact Constraint.checkAll_coded bounds result path
      | rejected violations =>
          have concluded := conclude_coded .list (hasTextCode_of_items coded checked)
          rw [verdict] at concluded
          exact concluded

theorem union_coded (description : Attempt String) (alternatives : List Checker) :
    (Check.union description alternatives).Coded := by
  intro value path
  refine coded_bind fun found _ => ?_
  cases found with
  | some result => exact coded_accepted result
  | none => exact coded_bind fun _ _ => coded_single ⟨"type", rfl⟩

theorem tuple_coded {elements : List Checker} (coded : ∀ checker ∈ elements, checker.Coded) :
    (Check.tuple elements).Coded := by
  intro value path
  simp only [Check.tuple]
  cases value.items? with
  | none => exact coded_single ⟨"type", rfl⟩
  | some items =>
      dsimp only
      split
      case isTrue =>
        refine coded_bind fun parts checked => conclude_coded .tuple ?_
        exact hasTextCode_of_members (fun part among => coded _ (List.of_mem_zip among).1) checked
      case isFalse => exact coded_single ⟨"tuple_size", rfl⟩

theorem rawTuple_error_coded (fault : Fault) : (Check.rawTuple (.error fault)).Coded := by
  intro value path
  simp only [Check.rawTuple]
  cases value.items? with
  | none => exact coded_single ⟨"type", rfl⟩
  | some items => exact coded_error fault

theorem map_coded {key value : Checker} (keyCoded : key.Coded) (valueCoded : value.Coded) :
    (Check.map key value).Coded := by
  intro data path
  cases data with
  | map found =>
      refine coded_bind ?_
      rintro ⟨done, violations⟩ checked
      have each : ∀ violation ∈ violations, violation.HasTextCode := by
        intro violation among
        obtain ⟨_, _, _, _, ofKey | ofValue⟩ := (entries_reports checked).2 violation among
        · exact keyCoded.of_reports ofKey
        · exact valueCoded.of_reports ofValue
      cases violations with
      | nil => exact coded_accepted _
      | cons first rest => exact coded_rejected each
  | _ => exact coded_single ⟨"type", rfl⟩

/-- A nested schema sums up its own rejections, and moving them changes no code. -/
theorem nested_coded (env : Environment) (schema : Schema) :
    (Check.nested (schema.check env)).Coded := by
  obtain ⟨fields, title, description, strict, hook, metadata⟩ := schema
  intro value path
  refine coded_bind fun verdict checked => ?_
  cases verdict with
  | accepted result => exact coded_accepted result
  | rejected violations =>
      exact coded_rejected (List.forall_mem_map.mpr (Record.coded_of_check checked))

theorem constrained_coded {checker : Checker} (coded : checker.Coded)
    (constraints : List Constraint) : (Check.constrained checker constraints).Coded := by
  intro value path
  refine coded_bind fun verdict checked => ?_
  cases verdict with
  | accepted result => exact Constraint.checkAll_coded constraints result path
  | rejected violations => exact coded_rejected (coded value path violations checked)

theorem coerced_coded {coercion checker : Checker} (coercionCoded : coercion.Coded)
    (coded : checker.Coded) : (Check.coerced coercion checker).Coded := by
  intro value path
  refine coded_bind fun verdict converted => ?_
  cases verdict with
  | accepted result => exact coded result path
  | rejected violations => exact coded_rejected (coercionCoded value path violations converted)

end Check

mutual

/-- The opaque targets that a type refers to, apart from those inside nested schemas. -/
def TypeSpec.targets : TypeSpec → List Target
  | .array inner _ _ => inner.targets
  | .union alternatives => TypeSpec.targetsOf alternatives
  | .tuple elements => TypeSpec.targetsOf elements
  | .rawUnion field | .rawTuple field => field.yieldedTargets
  | .map key value => key.targets ++ value.targets
  | .ref (.target object) => [object]
  | .primitive _ | .unknownKind _ | .ref _ | .raw _ => []

/-- The opaque targets that types refer to. -/
def TypeSpec.targetsOf : List TypeSpec → List Target
  | [] => []
  | spec :: rest => spec.targets ++ TypeSpec.targetsOf rest

/-- The opaque targets that the components refer to that a value yields. -/
def Value.yieldedTargets : Value → List Target
  | .list items | .tuple items | .set items | .frozenset items => Value.eachTarget items
  | .map entries => Value.keyTargets entries
  | _ => []

/-- The opaque targets that values as components refer to. -/
def Value.eachTarget : List Value → List Target
  | [] => []
  | .spec spec :: rest => spec.targets ++ Value.eachTarget rest
  | _ :: rest => Value.eachTarget rest

/-- The opaque targets that the keys of entries as components refer to. -/
def Value.keyTargets : List (Value × Value) → List Target
  | [] => []
  | (.spec spec, _) :: rest => spec.targets ++ Value.keyTargets rest
  | _ :: rest => Value.keyTargets rest

end

/-- The opaque targets that a type refers to report violations with codes that are text. -/
def TypeSpec.TargetsCoded (env : Environment) (spec : TypeSpec) : Prop :=
  ∀ object ∈ spec.targets, (Check.target env object).Coded

/-- A reference reports codes that are text if its target does. -/
theorem Value.checkAsTarget_coded (env : Environment) {target : Value}
    (coded : (TypeSpec.ref target).TargetsCoded env) : (target.checkAsTarget env).Coded := by
  cases target with
  | target object => exact coded object (List.mem_singleton.mpr rfl)
  | schema handle schema => exact Check.nested_coded env schema
  | _ =>
      intro value path
      exact coded_error _

theorem TypeSpec.mem_targetsOf {specs : List TypeSpec} {spec : TypeSpec} (among : spec ∈ specs)
    {object : Target} (refers : object ∈ spec.targets) : object ∈ TypeSpec.targetsOf specs := by
  induction specs with
  | nil => cases among
  | cons first rest ih =>
      rw [targetsOf, List.mem_append]
      obtain rfl | among := List.mem_cons.mp among
      · exact .inl refers
      · exact .inr (ih among)

@[simp] theorem Value.eachTarget_eq (items : List Value) :
    Value.eachTarget items = TypeSpec.targetsOf (items.map TypeSpec.ofValue) := by
  induction items with
  | nil => rfl
  | cons item rest ih => cases item <;> simp only [eachTarget, ih] <;> rfl

@[simp] theorem Value.keyTargets_eq (entries : Entries) :
    Value.keyTargets entries = TypeSpec.targetsOf (entries.map (TypeSpec.ofValue ·.1)) := by
  induction entries with
  | nil => rfl
  | cons entry rest ih =>
      obtain ⟨key, value⟩ := entry
      cases key <;> simp only [keyTargets, ih] <;> rfl

/-- A value yields the targets of its components. -/
theorem Value.mem_yieldedTargets {field : Value} {specs : List TypeSpec}
    (found : field.components = .ok specs) {spec : TypeSpec} (among : spec ∈ specs)
    {object : Target} (refers : object ∈ spec.targets) : object ∈ field.yieldedTargets := by
  have within := TypeSpec.mem_targetsOf among refers
  cases field with
  | list items | tuple items | set items | frozenset items =>
      cases found
      rw [yieldedTargets, eachTarget_eq]
      exact within
  | map entries =>
      rw [components_map] at found
      cases found
      rw [yieldedTargets, keyTargets_eq]
      exact within
  | str | bytes | bytearray | enumeration =>
      cases found
      obtain ⟨member, memberAmong, rfl⟩ := List.mem_map.mp among
      obtain ⟨_, _, rfl⟩ := List.mem_map.mp memberAmong
      cases refers
  | _ => cases found

/-- The check of a type reports codes that are text, if its targets do. -/
theorem TypeSpec.check_coded (env : Environment) (spec : TypeSpec) (coded : spec.TargetsCoded env) :
    (spec.check env).Coded := by
  induction spec using TypeSpec.induction with
  | primitive kind => exact Check.kind_coded kind
  | unknownKind kind => exact Check.unknownKind_coded _
  | array inner minItems maxItems ih => exact Check.array_coded (ih coded) _
  | union => exact Check.union_coded _ _
  | rawUnion field ih =>
      simp only [check]
      cases field.memberCheckers env with
      | error fault => exact fun _ _ => coded_error fault
      | ok checkers => exact Check.union_coded _ _
  | tuple elements ih =>
      exact Check.tuple_coded (forall_checkers fun spec among =>
        ih spec among fun object refers => coded object (mem_targetsOf among refers))
  | rawTuple field ih =>
      have each := Value.forall_memberCheckers fun specs found spec among =>
        ih specs found spec among fun object refers =>
          coded object (Value.mem_yieldedTargets found among refers)
      simp only [check]
      cases found : field.memberCheckers env with
      | error fault => exact Check.rawTuple_error_coded fault
      | ok checkers =>
          rw [Check.rawTuple_ok]
          exact Check.tuple_coded (each checkers found)
  | map key value keyIh valueIh =>
      have both := List.forall_mem_append.mp coded
      exact Check.map_coded (keyIh both.1) (valueIh both.2)
  | ref target => exact Value.checkAsTarget_coded env coded
  | raw component =>
      intro value path
      simp only [check, Check.raw, TypeSpec.refuse, DefinitionFlaw.refuse]
      split <;> exact coded_error _

/-! ## Conversions -/

namespace Coercion

theorem refuse_coded (spec : TypeSpec) (value : Value) (path : Path) (reason : String) :
    (refuse spec value path reason).Coded :=
  coded_bind fun _ _ => coded_single ⟨"coercion", rfl⟩

theorem toText_coded (spec : TypeSpec) : Checker.Coded (toText spec) := by
  intro value path
  unfold toText
  split
  case h_3 => exact coded_bind fun _ _ => coded_accepted _
  case h_7 => exact refuse_coded _ _ _ _
  all_goals exact coded_accepted _

theorem toInteger_coded (spec : TypeSpec) : Checker.Coded (toInteger spec) := by
  intro value path
  unfold toInteger
  split
  · exact coded_accepted _
  · split
    · exact coded_bind fun _ _ => coded_accepted _
    · exact refuse_coded _ _ _ _
  · exact refuse_coded _ _ _ _

theorem acceptNearest_coded (nearest : Option Double) : (acceptNearest nearest).Coded := by
  cases nearest with
  | some x => exact coded_accepted _
  | none => exact coded_error _

theorem toFloat_coded (spec : TypeSpec) : Checker.Coded (toFloat spec) := by
  intro value path
  unfold toFloat
  split
  · exact coded_accepted _
  · exact acceptNearest_coded _
  · split
    · exact coded_accepted _
    · exact refuse_coded _ _ _ _
  · exact refuse_coded _ _ _ _

theorem toBoolean_coded (spec : TypeSpec) : Checker.Coded (toBoolean spec) := by
  intro value path
  unfold toBoolean
  split
  case h_4 => exact refuse_coded _ _ _ _
  all_goals exact coded_accepted _

theorem toAtom_coded (env : Environment) (spec : TypeSpec) : Checker.Coded (toAtom env spec) := by
  intro value path
  unfold toAtom
  split
  · exact coded_accepted _
  · exact coded_accepted _
  · split
    · exact coded_accepted _
    · exact refuse_coded _ _ _ _
  · exact refuse_coded _ _ _ _

theorem toKind_coded (env : Environment) (kind : Kind) : (toKind env kind).Coded := by
  cases kind with
  | any | map => exact fun value _ => coded_accepted value
  | string => exact toText_coded _
  | integer => exact toInteger_coded _
  | float => exact toFloat_coded _
  | boolean => exact toBoolean_coded _
  | atom => exact toAtom_coded env _

theorem toArray_coded {inner : Checker} (coded : inner.Coded) : (toArray inner).Coded := by
  intro value path
  simp only [toArray]
  cases value.items? with
  | none => exact coded_accepted value
  | some items =>
      exact coded_bind fun parts checked =>
        Check.conclude_coded .list (Check.hasTextCode_of_items coded checked)

theorem toUnion_coded (spec : TypeSpec) (alternatives : List Checker) :
    (toUnion spec alternatives).Coded := by
  intro value path
  refine coded_bind fun found _ => ?_
  cases found with
  | some result => exact coded_accepted result
  | none => exact refuse_coded _ _ _ _

end Coercion

/-- A conversion reports codes that are text, whatever targets its type refers to. -/
theorem TypeSpec.coerce_coded (env : Environment) (spec : TypeSpec) : (spec.coerce env).Coded := by
  cases spec with
  | primitive kind => exact Coercion.toKind_coded env kind
  | unknownKind kind =>
      unfold TypeSpec.coerce Coercion.toUnknownKind
      split
      · exact fun value _ => coded_accepted value
      · exact Coercion.toAtom_coded env _
  | array inner minItems maxItems => exact Coercion.toArray_coded (inner.coerce_coded env)
  | union alternatives => exact Coercion.toUnion_coded _ _
  | rawUnion field =>
      simp only [coerce]
      cases field.memberCoercers env with
      | error fault => exact fun _ _ => coded_error fault
      | ok coercers => exact Coercion.toUnion_coded _ _
  | tuple | rawTuple | map | ref | raw => exact fun value _ => coded_accepted value

/-- The check of the values of a field reports codes that are text, if the targets of its type
do. -/
theorem Field.checkWith_coded {env : Environment} {field : Field}
    (coded : field.type.TargetsCoded env) (coerce : Bool) :
    (field.checkWith env coerce).Coded := by
  have plain : (field.check env).Coded := by
    rw [Field.check_eq]
    exact Check.constrained_coded (field.type.check_coded env coded) field.constraints
  unfold Field.checkWith
  split
  · exact Check.coerced_coded (field.type.coerce_coded env) plain
  · exact plain

end Conform
