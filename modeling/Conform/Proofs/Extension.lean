import Conform.Proofs.Rebuilding
import Conform.Proofs.Stages

/-!
# Extensions are conservative

An extension defines the fields of a schema anew from their own tuples and then the added ones, so
it exists exactly when the added fields can be defined and share no name with those before.  Without
strictness and without a hook the fields of a record are checked independently of each other, so
that what the schema says of a mapping is read off from what its extension says.
-/

namespace Conform

/-! ## Fields behind others -/

namespace Schema

@[simp] theorem fieldsOfSpecs_append (done : List Field) (specs more : List Value) :
    fieldsOfSpecs done (specs ++ more) =
      fieldsOfSpecs done specs >>= fun fields => fieldsOfSpecs fields more := by
  induction specs generalizing done with
  | nil => rfl
  | cons spec rest ih =>
      simp only [List.cons_append, fieldsOfSpecs]
      cases Field.ofSpec spec with
      | error fault => rfl
      | ok field =>
          simp only [Attempt.ok_bind]
          split
          case isTrue =>
            generalize refused : (DefinitionFlaw.duplicateField field.name).refuse = refusal
            cases refusal with
            | error fault => rfl
            | ok fields => exact absurd refused (DefinitionFlaw.refuse_ne_ok _ _)
          case isFalse => exact ih _

theorem exists_added_of_fieldsOfSpecs {done fields : List Field} {specs : List Value}
    (defined : fieldsOfSpecs done specs = .ok fields) : ∃ added, fields = done ++ added := by
  induction specs generalizing done with
  | nil =>
      cases defined
      exact ⟨[], (List.append_nil _).symm⟩
  | cons spec rest ih =>
      obtain ⟨field, _, others⟩ := Attempt.bind_eq_ok_iff.mp defined
      split at others
      case isTrue => exact absurd others (DefinitionFlaw.refuse_ne_ok _ _)
      case isFalse =>
        obtain ⟨added, rfl⟩ := ih others
        exact ⟨field :: added, List.append_assoc _ _ _⟩

@[simp] theorem any_name_iff {fields : List Field} {name : String} :
    (fields.any fun other => other.name == name) = true ↔ name ∈ fields.map Field.name := by
  simp [List.any_eq_true, List.mem_map]

/-- Behind other fields the same tuples define the same fields, unless a name is in use there. -/
theorem fieldsOfSpecs_behind_iff {front done all : List Field} {specs : List Value}
    (fresh : ∀ field ∈ done, field.name ∉ front.map Field.name) :
    fieldsOfSpecs (front ++ done) specs = .ok all ↔
      ∃ fields, fieldsOfSpecs done specs = .ok fields ∧
        (∀ field ∈ fields, field.name ∉ front.map Field.name) ∧ all = front ++ fields := by
  induction specs generalizing done with
  | nil =>
      simp only [fieldsOfSpecs, Except.ok.injEq]
      constructor
      · rintro rfl
        exact ⟨done, rfl, fresh, rfl⟩
      · rintro ⟨_, rfl, _, rfl⟩
        rfl
  | cons spec rest ih =>
      simp only [fieldsOfSpecs]
      cases Field.ofSpec spec with
      | error fault => simp
      | ok field =>
          simp only [Attempt.ok_bind, any_name_iff, List.map_append, List.mem_append]
          by_cases before : field.name ∈ front.map Field.name
          case pos =>
            -- In front the name is in use; on its own the tuple may pass, but its field is there.
            simp only [before, true_or, if_true, DefinitionFlaw.refuse_ne_ok, false_iff]
            rintro ⟨fields, defined, unused, _⟩
            split at defined
            case isTrue => exact DefinitionFlaw.refuse_ne_ok _ _ defined
            case isFalse =>
              obtain ⟨added, rfl⟩ := exists_added_of_fieldsOfSpecs defined
              have among : field ∈ done ++ [field] ++ added := by simp
              exact unused field among before
          case neg =>
            simp only [before, false_or]
            split
            case isTrue => simp [DefinitionFlaw.refuse_ne_ok]
            case isFalse =>
              rw [List.append_assoc]
              exact ih (List.forall_mem_append.mpr ⟨fresh, List.forall_mem_singleton.mpr before⟩)

theorem define_list_eq_ok_iff {specs : List Value} {settings : Settings} {hook : Option Nat}
    {metadata : Entries} {schema : Schema} (hooked : resolveHook settings.hook = .ok hook)
    (annotated : (settings.metadata.getD .null).entriesIfAny = .ok metadata) :
    define (.list specs) settings = .ok schema ↔
      ∃ fields, fieldsOfSpecs [] specs = .ok fields ∧ schema = {
        fields, hook, metadata
        title := settings.title.getD .null
        description := settings.description.getD .null
        strict := (settings.strict.getD (.bool false)).truthy } := by
  constructor
  · intro defined
    obtain ⟨members, listed, fieldsDefined⟩ := fieldsOfSpecs_of_define defined
    cases listed
    have same := (define_list fieldsDefined hooked annotated).symm.trans defined
    exact ⟨_, fieldsDefined, (Except.ok.inj same).symm⟩
  · rintro ⟨fields, fieldsDefined, rfl⟩
    exact define_list fieldsDefined hooked annotated

/-- An extension of a defined schema is the schema with further fields, which the added tuples
define on their own and whose names are new. -/
theorem extend_eq_ok_iff {specs : Value} {settings : Settings} {schema extension : Schema}
    (defined : define specs settings = .ok schema) (added : List Value) :
    schema.extend (.list added) {} = .ok extension ↔
      ∃ fields, fieldsOfSpecs [] added = .ok fields ∧
        (∀ field ∈ fields, field.name ∉ schema.fieldNames) ∧
        extension = { schema with fields := schema.fields ++ fields } := by
  have hooked : resolveHook (Settings.orElse {} schema.settings).hook = .ok schema.hook := by
    show resolveHook (schema.hook.map .behaviour) = .ok schema.hook
    cases schema.hook <;> rfl
  have annotated : ((Settings.orElse {} schema.settings).metadata.getD .null).entriesIfAny =
      .ok schema.metadata := by
    show (Value.map schema.metadata).entriesIfAny = .ok schema.metadata
    cases schema.metadata <;> rfl
  have behind (all : List Field) : fieldsOfSpecs schema.fields added = .ok all ↔
      ∃ fields, fieldsOfSpecs [] added = .ok fields ∧
        (∀ field ∈ fields, field.name ∉ schema.fields.map Field.name) ∧
        all = schema.fields ++ fields := by
    rw [← fieldsOfSpecs_behind_iff (List.forall_mem_nil _), List.append_nil]
  refine (define_list_eq_ok_iff hooked annotated).trans ?_
  rw [fieldsOfSpecs_append, fieldsOfSpecs_of_defined defined]
  simp only [Attempt.ok_bind, behind]
  constructor
  · rintro ⟨_, ⟨fields, fieldsDefined, unused, rfl⟩, rfl⟩
    exact ⟨fields, fieldsDefined, unused, rfl⟩
  · rintro ⟨fields, fieldsDefined, unused, rfl⟩
    exact ⟨_, ⟨fields, fieldsDefined, unused, rfl⟩, rfl⟩

end Schema

/-! ## Records of more fields -/

/-- The name below a root under which a violation lies. -/
def Violation.nameBelow? (root : Path) (violation : Violation) : Option String :=
  match violation.path.drop root.length with
  | .str name :: _ => some name
  | _ => none

/-- Whether a violation lies under one of the names below a root. -/
def Violation.liesUnder (root : Path) (names : List String) (violation : Violation) : Bool :=
  (violation.nameBelow? root).any names.contains

/-- The entries under names. -/
def Entries.restrict (entries : Entries) (names : List String) : Entries :=
  entries.filter fun entry => entry.1.text?.any names.contains

theorem Violation.liesUnder_of_path {root rest : Path} {names : List String} {name : String}
    {violation : Violation} (below : violation.path = root ++ .str name :: rest) :
    violation.liesUnder root names = names.contains name := by
  rw [liesUnder, nameBelow?, below, List.drop_left]
  rfl

namespace Record

variable {env : Environment} {data : Entries} {path : Path} {rules first second : List Rule}

/-- Fields are gathered one after another. -/
theorem gather_append :
    gather env data path (first ++ second) =
      gather env data path first >>= fun parts =>
        gather env data path second >>= fun others =>
          .ok (parts.1 ++ others.1, parts.2 ++ others.2) := by
  induction first with
  | nil =>
      simp only [List.nil_append, gather, Attempt.ok_bind]
      cases gather env data path second <;> rfl
  | cons rule rest ih =>
      simp only [List.cons_append, gather, ih]
      cases fieldVerdict env data path rule with
      | error fault => rfl
      | ok verdict =>
          cases gather env data path rest with
          | error fault => rfl
          | ok parts =>
              cases gather env data path second with
              | error fault => rfl
              | ok others =>
                  cases verdict with
                  | none => rfl
                  | some verdict =>
                      cases verdict with
                      | accepted value => rfl
                      | rejected found =>
                          simp [bind, Except.bind, pure, Except.pure, addVerdict]

theorem check_of_complete (complete : ∀ rule ∈ rules, rule.isMissing env data = false) :
    check env rules false none (.map data) path =
      gather env data path rules >>= fun parts =>
        match parts.2 with
        | [] => .ok (.accepted (.record parts.1))
        | found => codes found >>= fun _ => .ok (.rejected found) := by
  have none : rules.filter (Rule.isMissing env data) = [] :=
    List.filter_eq_nil_iff.mpr fun rule among missing => by
      rw [complete rule among] at missing
      cases missing
  simp only [check, stages, candidate, missing_rules, none, List.map_nil]
  cases gather env data path rules with
  | error fault => rfl
  | ok parts =>
      obtain ⟨values, violations⟩ := parts
      cases violations <;> rfl

/-- The verdict on a record for which the given entries and violations were gathered. -/
def concluded (parts : List (String × Value) × List Violation) : Verdict Value :=
  if parts.2.isEmpty then .accepted (.record parts.1) else .rejected parts.2

@[simp] theorem violations_concluded (values : List (String × Value))
    (violations : List Violation) :
    (concluded (values, violations)).violations = violations := by
  cases violations <;> rfl

@[simp] theorem concluded_eq_accepted_iff {values : List (String × Value)}
    {violations : List Violation} {result : Value} :
    concluded (values, violations) = .accepted result ↔
      violations = [] ∧ result = .record values := by
  cases violations <;> simp [concluded, eq_comm]

theorem check_eq_ok_iff (complete : ∀ rule ∈ rules, rule.isMissing env data = false)
    {verdict : Verdict Value} :
    check env rules false none (.map data) path = .ok verdict ↔
      ∃ parts, gather env data path rules = .ok parts ∧
        (∀ violation ∈ parts.2, violation.HasTextCode) ∧ verdict = concluded parts := by
  rw [check_of_complete complete, Attempt.bind_eq_ok_iff]
  apply exists_congr
  intro parts
  obtain ⟨values, violations⟩ := parts
  apply and_congr_right
  intro _
  cases violations with
  | nil => simp [concluded, eq_comm]
  | cons violation rest =>
      simp only [← exists_codes_iff, Attempt.bind_eq_ok_iff, ← exists_and_right]
      simp [concluded, eq_comm]

theorem name_of_mem_validated {entry : String × Value}
    (among : entry ∈ validated env data path rules) :
    entry.1 ∈ rules.map fun rule => rule.field.name := by
  obtain ⟨rule, ruleAmong, made⟩ := List.mem_filterMap.mp among
  refine List.mem_map.mpr ⟨rule, ruleAmong, ?_⟩
  unfold Rule.entry? at made
  split at made
  case h_1 =>
    cases made
    rfl
  case h_2 => cases made
  case h_3 =>
    split at made
    · cases made
      rfl
    · cases made

theorem below_of_mem_violations (rooted : ∀ rule ∈ rules, rule.check.Rooted) {violation : Violation}
    (among : violation ∈ rules.flatMap (Rule.violations env data path)) :
    ∃ name ∈ rules.map (fun rule => rule.field.name), ∃ rest,
      violation.path = path ++ .str name :: rest := by
  obtain ⟨rule, ruleAmong, reported⟩ := List.mem_flatMap.mp among
  exact ⟨_, List.mem_map_of_mem ruleAmong,
    Rule.below_of_violations (rooted rule ruleAmong) reported⟩

theorem filter_violations (rooted : ∀ rule ∈ first ++ second, rule.check.Rooted)
    {names : List String} (named : names = first.map fun rule => rule.field.name)
    (others : ∀ rule ∈ second, rule.field.name ∉ names) :
    ((first ++ second).flatMap (Rule.violations env data path)).filter
        (Violation.liesUnder path names) =
      first.flatMap (Rule.violations env data path) := by
  obtain ⟨firstRooted, secondRooted⟩ := List.forall_mem_append.mp rooted
  have kept : ∀ violation ∈ first.flatMap (Rule.violations env data path),
      violation.liesUnder path names = true := by
    intro violation among
    obtain ⟨name, nameAmong, rest, below⟩ := below_of_mem_violations firstRooted among
    rw [Violation.liesUnder_of_path below, named]
    exact List.contains_iff_mem.mpr nameAmong
  have dropped : ∀ violation ∈ second.flatMap (Rule.violations env data path),
      ¬ violation.liesUnder path names = true := by
    intro violation among
    obtain ⟨name, nameAmong, rest, below⟩ := below_of_mem_violations secondRooted among
    obtain ⟨rule, ruleAmong, rfl⟩ := List.mem_map.mp nameAmong
    rw [Violation.liesUnder_of_path below, List.contains_iff_mem]
    exact others rule ruleAmong
  rw [List.flatMap_append, List.filter_append, List.filter_eq_self.mpr kept,
    List.filter_eq_nil_iff.mpr dropped, List.append_nil]

/-- Of the entries of a validated record those under the names of the first fields come from the
first fields. -/
theorem restrict_validated {names : List String}
    (named : names = first.map fun rule => rule.field.name)
    (others : ∀ rule ∈ second, rule.field.name ∉ names) :
    (Entries.ofTexts (validated env data path (first ++ second))).restrict names =
      .ofTexts (validated env data path first) := by
  have kept : ∀ entry ∈ Entries.ofTexts (validated env data path first),
      (entry.1.text?.any names.contains) = true := by
    intro entry among
    obtain ⟨pair, pairAmong, rfl⟩ := List.mem_map.mp among
    rw [named]
    exact List.contains_iff_mem.mpr (name_of_mem_validated pairAmong)
  have dropped : ∀ entry ∈ Entries.ofTexts (validated env data path second),
      ¬ (entry.1.text?.any names.contains) = true := by
    intro entry among
    obtain ⟨pair, pairAmong, rfl⟩ := List.mem_map.mp among
    obtain ⟨rule, ruleAmong, same⟩ := List.mem_map.mp (name_of_mem_validated pairAmong)
    intro contained
    exact others rule ruleAmong (same ▸ List.contains_iff_mem.mp contained)
  have split : Entries.ofTexts (validated env data path (first ++ second)) =
      .ofTexts (validated env data path first) ++ .ofTexts (validated env data path second) := by
    rw [validated, List.filterMap_append]
    exact List.map_append
  rw [split, Entries.restrict, List.filter_append, List.filter_eq_self.mpr kept,
    List.filter_eq_nil_iff.mpr dropped, List.append_nil]

theorem below_of_check (rooted : ∀ rule ∈ rules, rule.check.Rooted)
    (complete : ∀ rule ∈ rules, rule.isMissing env data = false) {verdict : Verdict Value}
    (checked : check env rules false none (.map data) path = .ok verdict) :
    ∀ violation ∈ verdict.violations, ∃ name ∈ rules.map (fun rule => rule.field.name), ∃ rest,
      violation.path = path ++ .str name :: rest := by
  obtain ⟨⟨values, violations⟩, gathered, _, rfl⟩ := (check_eq_ok_iff complete).mp checked
  obtain ⟨_, rfl, rfl⟩ := gather_settled complete gathered
  rw [violations_concluded]
  exact fun violation among => below_of_mem_violations rooted among

/-- Without strictness and a hook, the verdict on the first of several fields is part of the verdict
on all of them, provided that no required field is absent. -/
theorem check_of_append (rooted : ∀ rule ∈ first ++ second, rule.check.Rooted)
    (complete : ∀ rule ∈ first ++ second, rule.isMissing env data = false)
    {names : List String} (named : names = first.map fun rule => rule.field.name)
    (others : ∀ rule ∈ second, rule.field.name ∉ names) {verdict : Verdict Value}
    (checked : check env (first ++ second) false none (.map data) path = .ok verdict) :
    ∃ part, check env first false none (.map data) path = .ok part ∧
      part.violations = verdict.violations.filter (Violation.liesUnder path names) ∧
      ∀ result, verdict = .accepted result → ∃ entries : Entries,
        result = .map entries ∧ part = .accepted (.map (entries.restrict names)) := by
  have firstComplete := (List.forall_mem_append.mp complete).1
  obtain ⟨⟨values, violations⟩, gathered, coded, rfl⟩ := (check_eq_ok_iff complete).mp checked
  obtain ⟨_, rfl, rfl⟩ := gather_settled complete gathered
  rw [gather_append] at gathered
  obtain ⟨⟨firstValues, firstViolations⟩, firstGathered, _⟩ := Attempt.bind_eq_ok_iff.mp gathered
  obtain ⟨_, rfl, rfl⟩ := gather_settled firstComplete firstGathered
  have filtered : ((first ++ second).flatMap (Rule.violations env data path)).filter
      (Violation.liesUnder path names) = first.flatMap (Rule.violations env data path) :=
    filter_violations rooted named others
  -- Violations of the first fields are violations of all, so that their codes are text as well.
  have firstCoded : ∀ violation ∈ first.flatMap (Rule.violations env data path),
      violation.HasTextCode := by
    intro violation among
    rw [← filtered] at among
    exact coded violation (List.mem_of_mem_filter among)
  refine ⟨_, (check_eq_ok_iff firstComplete).mpr ⟨_, firstGathered, firstCoded, rfl⟩, ?_, ?_⟩
  · rw [violations_concluded, violations_concluded]
    exact filtered.symm
  · intro result accepted
    obtain ⟨none, rfl⟩ := concluded_eq_accepted_iff.mp accepted
    have firstNone : first.flatMap (Rule.violations env data path) = [] := by
      rw [← filtered, none, List.filter_nil]
    refine ⟨_, rfl, concluded_eq_accepted_iff.mpr ⟨firstNone, ?_⟩⟩
    rw [restrict_validated named others]
    rfl

end Record

/-! ## The law -/

namespace Schema

/-- What a schema says of mappings is read off from what an extension of it says. -/
structure ConservedBy (env : Environment) (schema extension : Schema) : Prop where
  /-- What the extension accepts the schema accepts, with the entries under its own names. -/
  accepts : ∀ data coerce path result,
    (validate env extension (.map data) ⟨coerce, none, path, false⟩).outcome =
      .ok (.accepted result) →
    ∃ entries : Entries, result = .map entries ∧
      (validate env schema (.map data) ⟨coerce, none, path, false⟩).outcome =
        .ok (.accepted (.map (entries.restrict schema.fieldNames)))
  /-- If no required field of the extension is absent, then every violation that the extension
  reports lies below the name of a field, and the schema reports those under its own names. -/
  reports : ∀ data coerce path verdict,
    (∀ field ∈ extension.fields, field.required = true →
      (Record.lookup env data field.name).isSome = true) →
    (validate env extension (.map data) ⟨coerce, none, path, false⟩).outcome = .ok verdict →
    (∀ violation ∈ verdict.violations, ∃ name ∈ extension.fieldNames, ∃ rest,
      violation.path = path ++ .str name :: rest) ∧
    ∃ part, (validate env schema (.map data) ⟨coerce, none, path, false⟩).outcome = .ok part ∧
      part.violations = verdict.violations.filter (Violation.liesUnder path schema.fieldNames)

/-- A schema that asks neither for strictness nor for a hook has its part in every verdict of a
schema with further fields of new names, provided that no required field is absent. -/
theorem verdict_of_append {env : Environment} {schema : Schema} (lenient : schema.strict = false)
    (hookFree : schema.hook = none) {fields : List Field}
    (unused : ∀ field ∈ fields, field.name ∉ schema.fieldNames) {data : Entries} {coerce : Bool}
    {path : Path} {verdict : Verdict Value}
    (complete : ∀ rule ∈ { schema with fields := schema.fields ++ fields }.rulesWith env coerce,
      rule.isMissing env data = false)
    (checked : { schema with fields := schema.fields ++ fields }.verdict env (.map data)
      ⟨coerce, none, path, false⟩ = .ok verdict) :
    ∃ part, schema.verdict env (.map data) ⟨coerce, none, path, false⟩ = .ok part ∧
      part.violations = verdict.violations.filter (Violation.liesUnder path schema.fieldNames) ∧
      ∀ result, verdict = .accepted result → ∃ entries : Entries,
        result = .map entries ∧ part = .accepted (.map (entries.restrict schema.fieldNames)) := by
  have rooted := rulesWith_rooted env coerce { schema with fields := schema.fields ++ fields }
  have named : schema.fieldNames =
      (schema.rulesWith env coerce).map fun rule => rule.field.name := by
    rw [rulesWith, List.map_map]
    rfl
  have others : ∀ rule ∈ fields.map (fun field => Rule.mk field (field.checkWith env coerce)),
      rule.field.name ∉ schema.fieldNames := by
    intro rule among
    obtain ⟨field, fieldAmong, rfl⟩ := List.mem_map.mp among
    exact unused field fieldAmong
  have appended : { schema with fields := schema.fields ++ fields }.rulesWith env coerce =
      schema.rulesWith env coerce ++
        fields.map fun field => ⟨field, field.checkWith env coerce⟩ := List.map_append
  have together : Record.check env (schema.rulesWith env coerce ++
      fields.map fun field => ⟨field, field.checkWith env coerce⟩) false none (.map data) path =
      .ok verdict := by
    rw [← appended]
    simp only [Schema.verdict, lenient, hookFree] at checked ⊢
    exact checked
  rw [appended] at complete rooted
  simp only [Schema.verdict, lenient, hookFree]
  exact Record.check_of_append rooted complete named others together

theorem complete_of_accepted {env : Environment} {schema : Schema} {data : Entries}
    {options : Options} {result : Value}
    (accepted : schema.verdict env (.map data) options = .ok (.accepted result)) :
    ∀ rule ∈ schema.rulesWith env options.coerce, rule.isMissing env data = false := by
  intro rule among
  by_contra missing
  rw [Bool.not_eq_false] at missing
  cases accepted.symm.trans (Record.check_of_missing among missing)

/-- An extension of a defined schema exists exactly when the added fields can be defined and their
names are new; it has the fields of the schema followed by the added ones, and its settings.  If
these ask neither for strictness nor for a hook, then what the schema says is read off from the
extension. -/
theorem extend_conservative (env : Environment) (specs : Value) (settings : Settings)
    (schema : Schema) (defined : define specs settings = .ok schema) (added : List Value) :
    ((∃ extension, schema.extend (.list added) {} = .ok extension) ↔
      ∃ other, define (.list added) {} = .ok other ∧
        ∀ name ∈ other.fieldNames, name ∉ schema.fieldNames) ∧
    ∀ extension, schema.extend (.list added) {} = .ok extension →
      (∃ other, define (.list added) {} = .ok other ∧
        extension = { schema with fields := schema.fields ++ other.fields }) ∧
      (schema.strict = false → schema.hook = none → schema.ConservedBy env extension) := by
  have alone (other : Schema) : define (.list added) {} = .ok other ↔
      ∃ fields, fieldsOfSpecs [] added = .ok fields ∧
        other = ⟨fields, .null, .null, false, none, []⟩ := define_list_eq_ok_iff rfl rfl
  have extended (extension : Schema) : schema.extend (.list added) {} = .ok extension ↔
      ∃ fields, fieldsOfSpecs [] added = .ok fields ∧
        (∀ field ∈ fields, field.name ∉ schema.fieldNames) ∧
        extension = { schema with fields := schema.fields ++ fields } :=
    extend_eq_ok_iff defined added
  constructor
  case left =>
    constructor
    · rintro ⟨extension, made⟩
      obtain ⟨fields, fieldsDefined, unused, rfl⟩ := (extended extension).mp made
      refine ⟨_, (alone _).mpr ⟨fields, fieldsDefined, rfl⟩, ?_⟩
      intro name among
      obtain ⟨field, fieldAmong, rfl⟩ := List.mem_map.mp among
      exact unused field fieldAmong
    · rintro ⟨other, made, unused⟩
      obtain ⟨fields, fieldsDefined, rfl⟩ := (alone other).mp made
      have fresh : ∀ field ∈ fields, field.name ∉ schema.fieldNames := fun field among =>
        unused field.name (List.mem_map_of_mem among)
      exact ⟨_, (extended _).mpr ⟨fields, fieldsDefined, fresh, rfl⟩⟩
  case right =>
    intro extension made
    obtain ⟨fields, fieldsDefined, unused, rfl⟩ := (extended extension).mp made
    refine ⟨⟨_, (alone _).mpr ⟨fields, fieldsDefined, rfl⟩, rfl⟩, fun lenient hookFree => ?_⟩
    constructor
    case accepts =>
      intro data coerce path result accepted
      rw [outcome_validate] at accepted
      obtain ⟨part, checked, _, restricts⟩ := verdict_of_append lenient hookFree unused
        (complete_of_accepted accepted) accepted
      obtain ⟨entries, rfl, rfl⟩ := restricts result rfl
      exact ⟨entries, rfl, by rw [outcome_validate]; exact checked⟩
    case reports =>
      intro data coerce path verdict present validated
      rw [outcome_validate] at validated
      have complete : ∀ rule ∈
          { schema with fields := schema.fields ++ fields }.rulesWith env coerce,
          rule.isMissing env data = false := by
        intro rule among
        obtain ⟨field, fieldAmong, rfl⟩ := List.mem_map.mp among
        rw [Rule.isMissing, Bool.and_eq_false_imp]
        intro required
        rw [Option.isNone_eq_false_iff]
        exact present field fieldAmong required
      obtain ⟨part, checked, filtered, _⟩ :=
        verdict_of_append lenient hookFree unused complete validated
      refine ⟨?_, part, by rw [outcome_validate]; exact checked, filtered⟩
      simp only [Schema.verdict, lenient, hookFree] at validated
      have below := Record.below_of_check (rulesWith_rooted env coerce _) complete validated
      rwa [rulesWith, List.map_map] at below

/-- Two fields that refuse their values, extended by one that refuses its value as well. -/
theorem extend_conservative_of_refusals :
    let age : Field := ⟨"age", .primitive .integer, true, [(.gt, .int 0)], .null, .null, .null⟩
    let note : Field := ⟨"note", .primitive .string, false, [], .null, .null, .str "none"⟩
    let size : Field := ⟨"size", .primitive .float, true, [], .null, .null, .null⟩
    let schema : Schema := ⟨[age, note], .null, .null, false, none, []⟩
    let data : Entries :=
      [(.str "size", .str "big"), (.str "age", .str "old"), (.str "note", .int 7)]
    schema.extend (.list [.tuple [.str "size", .str "float"]]) {} =
      .ok { schema with fields := [age, note, size] } ∧
    ∃ part, (validate .bare schema (.map data) ⟨false, none, [], false⟩).outcome = .ok part ∧
      part.violations = [.wrongSort [.str "age"] "integer" "string",
        .wrongSort [.str "note"] "string" "integer"] := by
  intro age note size schema data
  let specs : Value := .list [
    .tuple [.str "age", .str "integer", .map [(.str "gt", .int 0)]],
    .tuple [.str "note", .str "string", .map [(.str "default", .str "none")]]]
  have defined : define specs {} = .ok schema := rfl
  have extended : schema.extend (.list [.tuple [.str "size", .str "float"]]) {} =
      .ok { schema with fields := [age, note, size] } :=
    (extend_eq_ok_iff defined _).mpr ⟨[size], rfl, by decide, rfl⟩
  have conserved := ((extend_conservative .bare specs {} schema defined
    [.tuple [.str "size", .str "float"]]).2 _ extended).2 rfl rfl
  refine ⟨extended, ?_⟩
  have present : ∀ field ∈ [age, note, size], field.required = true →
      (Record.lookup .bare data field.name).isSome = true := by
    simp only [List.forall_mem_cons, List.not_mem_nil, false_implies, implies_true, and_true]
    exact ⟨fun _ => rfl, fun _ => rfl, fun _ => rfl⟩
  obtain ⟨_, part, checked, filtered⟩ := conserved.reports data false [] _ present rfl
  exact ⟨part, checked, filtered⟩

end Schema

end Conform
