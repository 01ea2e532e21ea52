import Conform.Proofs.Extension
import Conform.Validation.Single

/-!
# Records are assembled from single values

Values that come with a name and a type each can be validated one by one, every value as the only
field of a temporary record, or together as one record.  Both ways come down to the answers of the
same field checks, and the verdict on the record is assembled from the verdicts on the values: its
entries are the accepted values under their names, and its violations are those of the rejected
values, each with the name of its value in front of its path.
-/

namespace Conform

namespace Pairs

/-! ## Triples -/

/-- A value that comes with a name and a type, which could be those of a field. -/
structure Triple where
  name : String
  spec : Value
  value : Value
  type : TypeSpec
  identifier : isIdentifier name = true
  resolved : spec.toSpec = .ok type

namespace Triple

/-- The triple as an item of a list of values with types of their own. -/
def item (triple : Triple) : Value := .tuple [.str triple.name, triple.spec, triple.value]

/-- The tuple that defines a field for the value. -/
def fieldSpec (triple : Triple) : Value := .tuple [.str triple.name, triple.spec]

/-- The entry of the value in a record. -/
def entry (triple : Triple) : String × Value := (triple.name, triple.value)

/-- The field that is defined for the value. -/
def field (triple : Triple) : Field :=
  ⟨triple.name, triple.type, true, [], .null, .null, .null⟩

/-- The schema with the fields of triples. -/
def schema (triples : List Triple) : Schema := ⟨triples.map field, .null, .null, false, none, []⟩

variable (env : Environment) (coerce : Bool)

/-- The field with its check, after a conversion if asked for. -/
def rule (triple : Triple) : Rule := ⟨triple.field, triple.field.checkWith env coerce⟩

/-- The answer to the value alone, without a name in front of paths. -/
def answer (triple : Triple) : Attempt (Verdict Value) :=
  triple.field.checkWith env coerce triple.value []

/-- The verdict on the value alone: the answer to it, whose violations can be summed up. -/
def Judged (triple : Triple) (verdict : Verdict Value) : Prop :=
  triple.answer env coerce = .ok verdict ∧
    ∀ violation ∈ verdict.violations, violation.HasTextCode

end Triple

/-! ## Schemas for triples -/

namespace Triple

@[simp] theorem ofSpec_fieldSpec (triple : Triple) :
    Field.ofSpec triple.fieldSpec = .ok triple.field := by
  apply (Field.ofSpec_eq_ok_iff rfl).mpr
  constructor
  case named => exact FieldSpec.checkName_eq_ok_iff.mpr ⟨rfl, triple.identifier⟩
  case typed => exact ⟨triple.type, triple.resolved, FieldSpec.foldBounds_nil triple.type⟩
  all_goals rfl

theorem define_of_distinct {triples : List Triple} (distinct : (triples.map name).Nodup) :
    Schema.define (.list (triples.map fieldSpec)) {} = .ok (schema triples) := by
  have each : List.Forall₂ (fun spec field => Field.ofSpec spec = .ok field)
      (triples.map fieldSpec) (triples.map field) := by
    rw [List.forall₂_map_left_iff, List.forall₂_map_right_iff, List.forall₂_same]
    exact fun triple _ => triple.ofSpec_fieldSpec
  have names : (([] ++ triples.map field).map Field.name).Nodup := by
    rw [List.nil_append, List.map_map]
    exact distinct
  exact Schema.define_list (Schema.fieldsOfSpecs_of_each each names) rfl rfl

@[simp] theorem schemaOf_eq (triple : Triple) :
    Single.schemaOf (.str triple.name) triple.spec .null = .ok (schema [triple]) :=
  @define_of_distinct [triple] (List.nodup_singleton _)

end Triple

/-! ## The verdict on the record -/

variable {env : Environment} {coerce : Bool} {triples : List Triple}
  {verdicts : List (Verdict Value)}

/-- What verdicts on values gather for a record: the accepted values under their names, and the
violations of the others below these. -/
def gathered : List Triple → List (Verdict Value) → List (String × Value) × List Violation
  | triple :: triples, verdict :: verdicts =>
    Record.addVerdict triple.name (some (verdict.under [.str triple.name]))
      (gathered triples verdicts)
  | _, _ => ([], [])

theorem Triple.fieldVerdict_rule {triple : Triple} {data : Entries}
    (found : Record.lookup env data triple.name = some triple.value) :
    Record.fieldVerdict env data [] (triple.rule env coerce) =
      (triple.answer env coerce).map fun verdict => some (verdict.under [.str triple.name]) := by
  have below := triple.field.checkWith_rooted env coerce [.str triple.name] triple.value []
  have found : Record.lookup env data (triple.rule env coerce).field.name = some triple.value :=
    found
  simp only [Record.fieldVerdict, found]
  show (triple.field.checkWith env coerce triple.value ([.str triple.name] ++ []) >>= _) = _
  rw [below, Attempt.bind_map, answer]
  cases triple.field.checkWith env coerce triple.value [] <;> rfl

/-- The fields of triples gather what the answers to the values do, if there are answers to all. -/
theorem gather_eq_ok_iff {data : Entries}
    (found : ∀ triple ∈ triples, Record.lookup env data triple.name = some triple.value)
    {parts : List (String × Value) × List Violation} :
    Record.gather env data [] (triples.map (Triple.rule env coerce)) = .ok parts ↔
      ∃ verdicts, List.Forall₂ (fun triple verdict => triple.answer env coerce = .ok verdict)
        triples verdicts ∧ parts = gathered triples verdicts := by
  induction triples generalizing parts with
  | nil =>
      constructor
      · intro ended
        cases ended
        exact ⟨[], .nil, rfl⟩
      · rintro ⟨_, ⟨⟩, rfl⟩
        rfl
  | cons triple rest ih =>
      obtain ⟨first, others⟩ := List.forall_mem_cons.mp found
      simp only [List.map_cons, Record.gather, Triple.fieldVerdict_rule first, Attempt.bind_map,
        Attempt.bind_eq_ok_iff, ih others]
      constructor
      · rintro ⟨verdict, answered, _, ⟨verdicts, each, rfl⟩, same⟩
        cases same
        exact ⟨verdict :: verdicts, .cons answered each, rfl⟩
      · rintro ⟨_, answers, rfl⟩
        cases answers with
        | cons answered each => exact ⟨_, answered, _, ⟨_, each, rfl⟩, rfl⟩

theorem coded_gathered_iff (same : triples.length = verdicts.length) :
    (∀ violation ∈ (gathered triples verdicts).2, violation.HasTextCode) ↔
      ∀ verdict ∈ verdicts, ∀ violation ∈ verdict.violations, violation.HasTextCode := by
  induction triples generalizing verdicts with
  | nil =>
      cases List.length_eq_zero_iff.mp same.symm
      simp [gathered]
  | cons triple rest ih =>
      cases verdicts with
      | nil => cases same
      | cons verdict verdicts =>
          rw [List.forall_mem_cons, ← ih (Nat.succ.inj same)]
          cases verdict with
          | accepted value => simp [gathered, Record.addVerdict, Verdict.under, Verdict.violations]
          | rejected found =>
              simp only [gathered, Record.addVerdict, Verdict.under, Verdict.violations,
                List.forall_mem_append, List.forall_mem_map]
              rfl

theorem forall₂_judged_iff : List.Forall₂ (Triple.Judged env coerce) triples verdicts ↔
    List.Forall₂ (fun triple verdict => triple.answer env coerce = .ok verdict) triples verdicts ∧
      ∀ verdict ∈ verdicts, ∀ violation ∈ verdict.violations, violation.HasTextCode := by
  induction triples generalizing verdicts with
  | nil =>
      constructor
      · rintro ⟨⟩
        exact ⟨.nil, List.forall_mem_nil _⟩
      · rintro ⟨⟨⟩, _⟩
        exact .nil
  | cons triple rest ih =>
      constructor
      · rintro (_ | ⟨⟨answered, coded⟩, others⟩)
        obtain ⟨answers, othersCoded⟩ := ih.mp others
        exact ⟨.cons answered answers, List.forall_mem_cons.mpr ⟨coded, othersCoded⟩⟩
      · rintro ⟨_ | ⟨answered, answers⟩, all⟩
        obtain ⟨coded, othersCoded⟩ := List.forall_mem_cons.mp all
        exact .cons ⟨answered, coded⟩ (ih.mpr ⟨answers, othersCoded⟩)

namespace Triple

theorem lookup_record (distinct : (triples.map name).Nodup) :
    ∀ triple ∈ triples, Record.lookup env (Entries.ofTexts (triples.map entry)) triple.name =
      some triple.value := by
  have found : ∀ triple ∈ triples, (triples.map entry).lookup triple.name = some triple.value := by
    induction triples with
    | nil => exact List.forall_mem_nil _
    | cons first rest ih =>
        obtain ⟨fresh, restDistinct⟩ := List.nodup_cons.mp distinct
        refine List.forall_mem_cons.mpr ⟨List.lookup_cons_self, fun triple among => ?_⟩
        rw [← ih restDistinct triple among]
        exact Record.lookup_behind name fresh among
  intro triple among
  rw [Record.lookup, Entries.get?_ofTexts, found triple among]

end Triple

/-- The record of triples has a verdict exactly when all values have one, and it is the one that
these gather. -/
theorem outcome_record_iff (distinct : (triples.map Triple.name).Nodup) {setting : Value}
    {verdict : Verdict Value} :
    (validateNamed env (Triple.schema triples) (.record (triples.map Triple.entry))
        [("coerce", setting)]).outcome = .ok verdict ↔
      ∃ verdicts, List.Forall₂ (Triple.Judged env setting.truthy) triples verdicts ∧
        verdict = Record.concluded (gathered triples verdicts) := by
  have found := @Triple.lookup_record env triples distinct
  have rules : (Triple.schema triples).rulesWith env setting.truthy =
      triples.map (Triple.rule env setting.truthy) := List.map_map
  have complete : ∀ rule ∈ triples.map (Triple.rule env setting.truthy),
      rule.isMissing env (Entries.ofTexts (triples.map Triple.entry)) = false := by
    intro rule among
    obtain ⟨triple, tripleAmong, rfl⟩ := List.mem_map.mp among
    rw [Rule.isMissing, show (triple.rule env setting.truthy).field.name = triple.name from rfl,
      found triple tripleAmong]
    rfl
  have read : Options.ofNamed [("coerce", setting)] = .ok ⟨setting.truthy, none, [], false⟩ := rfl
  simp only [validateNamed, Run.outcome_bind, Run.outcome_lift, read, Attempt.ok_bind,
    Schema.outcome_validate, Schema.verdict, rules]
  show Record.check env (triples.map (Triple.rule env setting.truthy)) false none
    (.map (Entries.ofTexts (triples.map Triple.entry))) [] = .ok verdict ↔ _
  rw [Record.check_eq_ok_iff complete]
  simp only [gather_eq_ok_iff found, forall₂_judged_iff]
  constructor
  · rintro ⟨_, ⟨verdicts, answers, rfl⟩, coded, rfl⟩
    exact ⟨verdicts, ⟨answers, (coded_gathered_iff answers.length_eq).mp coded⟩, rfl⟩
  · rintro ⟨verdicts, ⟨answers, coded⟩, rfl⟩
    exact ⟨_, ⟨verdicts, answers, rfl⟩, (coded_gathered_iff answers.length_eq).mpr coded, rfl⟩

/-! ## The verdicts on the values -/

@[simp] theorem stripField_under (name : String) (violation : Violation) :
    Single.stripField (.str name) (violation.under [.str name]) = violation := by
  have same : (Value.str name == Value.str name) = true := beq_self_eq_true name
  cases violation
  simp [Single.stripField, Violation.under, same]

theorem unwrap_concluded {triple : Triple} {verdict : Verdict Value}
    (evident : verdict ≠ .rejected []) :
    Single.unwrap (.str triple.name) (Record.concluded (gathered [triple] [verdict])) =
      verdict := by
  cases verdict with
  | accepted value =>
      simp [gathered, Record.concluded, Record.addVerdict, Verdict.under, Single.unwrap,
        Value.record, Value.entries?, Entries.get?_ofTexts]
  | rejected found =>
      have nonempty : found ≠ [] := fun none => evident (congrArg _ none)
      have stripped : (found.map (Violation.under [.str triple.name])).map
          (Single.stripField (.str triple.name)) = found := by
        rw [List.map_map]
        exact List.map_id'' (stripField_under triple.name) found
      simp [gathered, Record.concluded, Record.addVerdict, Verdict.under, nonempty, Single.unwrap,
        stripped]

theorem Triple.Judged.evident {triple : Triple} {verdict : Verdict Value}
    (judged : triple.Judged env coerce verdict) : verdict ≠ .rejected [] := by
  rintro rfl
  exact triple.field.checkWith_evident env coerce triple.value [] judged.1

/-- A triple is validated on its own exactly when its value has a verdict. -/
@[simp] theorem outcome_validateItem_iff {triple : Triple} {setting : Value} {index : Nat}
    {verdict : Verdict Value} :
    (validateItem env [("coerce", setting)] index triple.item).outcome = .ok verdict ↔
      triple.Judged env setting.truthy verdict := by
  have distinct : ([triple].map Triple.name).Nodup := List.nodup_singleton _
  have alone : (validateItem env [("coerce", setting)] index triple.item).outcome =
      (validateValue env (.str triple.name) triple.spec triple.value .null
        [("coerce", setting)]).outcome := rfl
  have record : Value.map [(.str triple.name, triple.value)] =
    .record ([triple].map Triple.entry) :=
    rfl
  rw [alone]
  simp only [validateValue, Single.run, triple.schemaOf_eq, record, Run.outcome_bind,
    Run.outcome_lift, Run.outcome_pure, Attempt.ok_bind, Attempt.bind_eq_ok_iff, Except.ok.injEq,
    outcome_record_iff distinct]
  constructor
  · rintro ⟨_, ⟨_, _ | ⟨judged, _ | _⟩, rfl⟩, rfl⟩
    rwa [unwrap_concluded judged.evident]
  · intro judged
    exact ⟨_, ⟨[verdict], .cons judged .nil, rfl⟩, unwrap_concluded judged.evident⟩

/-- Triples are validated one by one exactly when all values have verdicts. -/
@[simp] theorem outcome_validateItems_iff {setting : Value} {start : Nat} :
    (validateItems env [("coerce", setting)] start (triples.map Triple.item)).outcome =
        .ok verdicts ↔
      List.Forall₂ (Triple.Judged env setting.truthy) triples verdicts := by
  induction triples generalizing start verdicts with
  | nil =>
      constructor
      · intro ended
        cases ended
        exact .nil
      · rintro ⟨⟩
        rfl
  | cons triple rest ih =>
      simp only [List.map_cons, validateItems, Run.outcome_bind, Run.outcome_pure,
        Attempt.bind_eq_ok_iff, outcome_validateItem_iff, ih, Except.ok.injEq]
      constructor
      · rintro ⟨verdict, judged, others, each, rfl⟩
        exact .cons judged each
      · rintro (_ | ⟨judged, each⟩)
        exact ⟨_, judged, _, each, rfl⟩

@[simp] theorem outcome_validatePairs_iff {setting : Value} {series : SeriesVerdict} :
    (validatePairs env (.list (triples.map Triple.item)) [("coerce", setting)]).outcome =
        .ok series ↔
      ∃ verdicts, List.Forall₂ (Triple.Judged env setting.truthy) triples verdicts ∧
        series = .ofVerdicts verdicts := by
  have listed : (Value.list (triples.map Triple.item)).elements = .ok (triples.map Triple.item) :=
    rfl
  have single : refuseRepeated ["items"] [("coerce", setting)] = .ok () := rfl
  simp [validatePairs, single, listed, Attempt.bind_eq_ok_iff, @eq_comm _ series]

/-! ## From a series to a record -/

/-- The path of a value in the record of triples: the name at its index. -/
def place (triples : List Triple) (index : Nat) : Path :=
  (triples[index]?.map fun triple => Value.str triple.name).toList

/-- The violations of a series below the names of its values, in the order of the series. -/
def joined (triples : List Triple) (failures : List (Nat × List Violation)) : List Violation :=
  failures.flatMap fun failure => failure.2.map (Violation.under (place triples failure.1))

/-- What a record of triples gathers as violations are those of the series. -/
theorem violations_gathered (front : List Triple) (same : triples.length = verdicts.length) :
    (gathered triples verdicts).2 =
      joined (front ++ triples) (SeriesVerdict.collect front.length verdicts).2 := by
  induction triples generalizing front verdicts with
  | nil =>
      cases List.length_eq_zero_iff.mp same.symm
      rfl
  | cons triple rest ih =>
      cases verdicts with
      | nil => cases same
      | cons verdict verdicts =>
          have others := ih (front ++ [triple]) (Nat.succ.inj same)
          rw [List.append_assoc, List.singleton_append, List.length_append] at others
          have here : place (front ++ triple :: rest) front.length = [.str triple.name] := by
            simp [place]
          cases verdict with
          | accepted value => exact others
          | rejected found =>
              show found.map _ ++ (gathered rest verdicts).2 = _
              rw [others]
              simp [joined, SeriesVerdict.collect, here]

theorem of_collect_eq_nil {start : Nat} (same : triples.length = verdicts.length)
    (none : (SeriesVerdict.collect start verdicts).2 = []) :
    (SeriesVerdict.collect start verdicts).1.length = triples.length ∧
      (gathered triples verdicts).1 =
        (triples.map Triple.name).zip (SeriesVerdict.collect start verdicts).1 := by
  induction triples generalizing start verdicts with
  | nil =>
      cases List.length_eq_zero_iff.mp same.symm
      exact ⟨rfl, rfl⟩
  | cons triple rest ih =>
      cases verdicts with
      | nil => cases same
      | cons verdict verdicts =>
          cases verdict with
          | rejected found => cases none
          | accepted value =>
              obtain ⟨length, values⟩ := ih (Nat.succ.inj same) none
              exact ⟨congrArg Nat.succ length, congrArg _ values⟩

/-- The verdict on the record of triples that a verdict on their series amounts to. -/
def together (triples : List Triple) : SeriesVerdict → Verdict Value
  | .accepted values => .accepted (.record ((triples.map Triple.name).zip values))
  | .rejected failures => .rejected (joined triples failures)

theorem failure_ne_nil (each : List.Forall₂ (Triple.Judged env coerce) triples verdicts) :
    ∀ failure ∈ (SeriesVerdict.collect 0 verdicts).2, failure.2 ≠ [] := by
  intro failure among
  obtain ⟨index, _, stands⟩ := SeriesVerdict.getElem?_of_failure among
  have inside : index < verdicts.length := (List.getElem?_eq_some_iff.mp stands).1
  have judged := each.get (by rwa [each.length_eq]) inside
  rw [List.get_eq_getElem, List.get_eq_getElem, (List.getElem?_eq_some_iff.mp stands).2] at judged
  exact fun none => judged.evident (congrArg _ none)

theorem concluded_gathered (each : List.Forall₂ (Triple.Judged env coerce) triples verdicts) :
    Record.concluded (gathered triples verdicts) = together triples (.ofVerdicts verdicts) := by
  have violations : (gathered triples verdicts).2 =
      joined triples (SeriesVerdict.collect 0 verdicts).2 := violations_gathered [] each.length_eq
  cases failures : (SeriesVerdict.collect 0 verdicts).2 with
  | nil =>
      obtain ⟨_, values⟩ := of_collect_eq_nil each.length_eq failures
      simp [Record.concluded, violations, values, failures, joined, together,
        SeriesVerdict.ofVerdicts]
  | cons failure others =>
      have nonempty : failure.2 ≠ [] :=
        failure_ne_nil each failure (failures ▸ List.mem_cons_self)
      simp [Record.concluded, violations, failures, joined, together, SeriesVerdict.ofVerdicts,
        nonempty]

theorem length_of_accepted (each : List.Forall₂ (Triple.Judged env coerce) triples verdicts)
    {values : List Value} (accepted : SeriesVerdict.ofVerdicts verdicts = .accepted values) :
    values.length = triples.length := by
  simp only [SeriesVerdict.ofVerdicts] at accepted
  split at accepted
  case isTrue none =>
    cases accepted
    exact (of_collect_eq_nil each.length_eq (List.isEmpty_iff.mp none)).1
  case isFalse => cases accepted

theorem values_of_record {names : List String} {values others : List Value}
    (length : values.length = names.length) (otherLength : others.length = names.length)
    (same : Value.record (names.zip values) = .record (names.zip others)) : values = others := by
  have texts : Entries.ofTexts (names.zip values) = .ofTexts (names.zip others) :=
    Value.map.inj same
  have zipped := congrArg (List.map Prod.snd) texts
  simp only [Entries.ofTexts, List.map_map, Function.comp_def] at zipped
  rwa [List.map_snd_zip (Nat.le_of_eq length), List.map_snd_zip (Nat.le_of_eq otherLength)]
    at zipped

/-- The failures of a series are in ascending order of their indices, from where it starts. -/
theorem ascending_collect (start : Nat) (verdicts : List (Verdict Value)) :
    ((SeriesVerdict.collect start verdicts).2.map Prod.fst).Pairwise (· < ·) ∧
      ∀ failure ∈ (SeriesVerdict.collect start verdicts).2,
        start ≤ failure.1 ∧ failure.1 < start + verdicts.length := by
  induction verdicts generalizing start with
  | nil => exact ⟨.nil, List.forall_mem_nil _⟩
  | cons verdict rest ih =>
      obtain ⟨ascending, within⟩ := ih (start + 1)
      have widened : ∀ failure ∈ (SeriesVerdict.collect (start + 1) rest).2,
          start ≤ failure.1 ∧ failure.1 < start + (rest.length + 1) := by
        intro failure among
        obtain ⟨least, greatest⟩ := within failure among
        omega
      cases verdict with
      | accepted value => exact ⟨ascending, widened⟩
      | rejected found =>
          have later : ∀ index ∈ (SeriesVerdict.collect (start + 1) rest).2.map Prod.fst,
              start < index := by
            intro index among
            obtain ⟨failure, failureAmong, rfl⟩ := List.mem_map.mp among
            exact (within failure failureAmong).1
          have first : start ≤ start ∧ start < start + (rest.length + 1) := by omega
          exact ⟨.cons later ascending, List.forall_mem_cons.mpr ⟨first, widened⟩⟩

/-- Validating triples one by one and validating the record of them under a schema agree. -/
structure Agreement (env : Environment) (triples : List Triple) (setting : Value)
    (schema : Schema) : Prop where
  /-- The series is accepted with the values with which the record is. -/
  accepts : ∀ values,
    (validatePairs env (.list (triples.map Triple.item)) [("coerce", setting)]).outcome =
        .ok (.accepted values) ↔
      values.length = triples.length ∧
        (validateNamed env schema (.record (triples.map Triple.entry))
            [("coerce", setting)]).outcome =
          .ok (.accepted (.record ((triples.map Triple.name).zip values)))
  /-- The record is rejected for the violations of the series, each below the name of its value. -/
  rejects : ∀ violations,
    (validateNamed env schema (.record (triples.map Triple.entry)) [("coerce", setting)]).outcome =
        .ok (.rejected violations) ↔
      ∃ failures,
        (validatePairs env (.list (triples.map Triple.item)) [("coerce", setting)]).outcome =
          .ok (.rejected failures) ∧ violations = joined triples failures
  /-- The failures of the series come in the order of the values. -/
  ordered : ∀ failures,
    (validatePairs env (.list (triples.map Triple.item)) [("coerce", setting)]).outcome =
        .ok (.rejected failures) →
      (failures.map Prod.fst).Pairwise (· < ·) ∧ ∀ failure ∈ failures, failure.1 < triples.length

/-- Triples of distinct names define a schema whose validation agrees with theirs one by one. -/
theorem exists_agreement (env : Environment) (triples : List Triple)
    (distinct : (triples.map Triple.name).Nodup) (setting : Value) :
    ∃ schema, Schema.define (.list (triples.map Triple.fieldSpec)) {} = .ok schema ∧
      Agreement env triples setting schema := by
  refine ⟨_, Triple.define_of_distinct distinct, ?_⟩
  constructor
  case accepts =>
    intro values
    rw [outcome_validatePairs_iff, outcome_record_iff distinct]
    constructor
    · rintro ⟨verdicts, each, accepted⟩
      refine ⟨length_of_accepted each accepted.symm, verdicts, each, ?_⟩
      rw [concluded_gathered each, ← accepted]
      rfl
    · rintro ⟨length, verdicts, each, accepted⟩
      rw [concluded_gathered each] at accepted
      refine ⟨verdicts, each, ?_⟩
      cases series : SeriesVerdict.ofVerdicts verdicts with
      | rejected failures =>
          rw [series] at accepted
          cases accepted
      | accepted others =>
          rw [series] at accepted
          have otherLength := length_of_accepted each series
          rw [← List.length_map Triple.name] at length otherLength
          rw [values_of_record length otherLength (Verdict.accepted.inj accepted)]
  case rejects =>
    intro violations
    simp only [outcome_validatePairs_iff, outcome_record_iff distinct]
    constructor
    · rintro ⟨verdicts, each, rejected⟩
      rw [concluded_gathered each] at rejected
      cases series : SeriesVerdict.ofVerdicts verdicts with
      | accepted values =>
          rw [series] at rejected
          cases rejected
      | rejected failures =>
          rw [series] at rejected
          exact ⟨failures, ⟨verdicts, each, series.symm⟩, Verdict.rejected.inj rejected⟩
    · rintro ⟨failures, ⟨verdicts, each, rejected⟩, rfl⟩
      refine ⟨verdicts, each, ?_⟩
      rw [concluded_gathered each, ← rejected]
      rfl
  case ordered =>
    intro failures validated
    obtain ⟨verdicts, each, rejected⟩ := outcome_validatePairs_iff.mp validated
    cases SeriesVerdict.failures_of_ofVerdicts rejected.symm
    obtain ⟨ascending, within⟩ := ascending_collect 0 verdicts
    refine ⟨ascending, fun failure among => ?_⟩
    have bounded := (within failure among).2
    rwa [Nat.zero_add, ← each.length_eq] at bounded

/-- Of three values the second is accepted after a conversion.  The name of the first occurs again
deeper in the path of its violation, and the third has two violations. -/
theorem exists_agreement_of_refusals :
    let scores : Triple := ⟨"a", .tuple [.str "map", .str "string", .str "integer"],
      .map [(.str "b", .int 1), (.str "a", .str "high")], .map (.primitive .string)
      (.primitive .integer), rfl, rfl⟩
    let count : Triple := ⟨"b", .str "integer", .str "12", .primitive .integer, rfl, rfl⟩
    let rows : Triple := ⟨"c", .tuple [.str "array", .str "boolean"],
      .list [.str "true", .str "maybe", .null], .array (.primitive .boolean) .null .null, rfl, rfl⟩
    let triples := [scores, count, rows]
    (triples.map Triple.name).Nodup ∧
    ∃ schema, Schema.define (.list (triples.map Triple.fieldSpec)) {} = .ok schema ∧
      ∃ violations, (validateNamed .bare schema (.record (triples.map Triple.entry))
          [("coerce", .bool true)]).outcome = .ok (.rejected violations) ∧
        violations.map Violation.path =
          [[.str "a", .str "a"], [.str "c", .int 1], [.str "c", .int 2]] := by
  intro scores count rows triples
  have distinct : (triples.map Triple.name).Nodup := by decide
  obtain ⟨schema, defined, agreement⟩ := exists_agreement .bare triples distinct (.bool true)
  let failures : List (Nat × List Violation) := [
    (0, [.wrongSort [.str "a"] "integer" "string"]),
    (2, [.notCoercible [.int 1] "boolean" "string" "expected 'true' or 'false'",
      .notCoercible [.int 2] "boolean" "null" "expected 'true' or 'false'"])]
  have refused : (validatePairs .bare (.list (triples.map Triple.item))
      [("coerce", .bool true)]).outcome = .ok (.rejected failures) := by
    dsimp only [triples, scores, count, rows, failures, List.map, Triple.item]
    rfl
  exact ⟨distinct, schema, defined, _, (agreement.rejects _).mpr ⟨failures, refused, rfl⟩, rfl⟩

end Pairs

end Conform
