import Conform.Proofs.BasePath
import Conform.Proofs.Evidence
import Conform.Schema.Basic
import Mathlib.Logic.ExistsUnique

/-!
# The stages of a validation

A mapping that is validated goes through the stages in order, and exactly one of them decides:
absent required fields alone, or else the values that their fields reject, or else keys that are
no fields, or else the hook.  What a stage reports is said here field by field, apart from the
walk that gathers it.
-/

namespace Conform

/-! ## Fields one by one -/

namespace Rule

/-- The answer of the check of a field to the value that data holds for it, if it holds one. -/
def answer (env : Environment) (data : Entries) (path : Path) (rule : Rule) :
    Option (Attempt (Verdict Value)) :=
  (Record.lookup env data rule.field.name).map fun value =>
    rule.check value (path ++ [.str rule.field.name])

/-- Whether a field is required and absent from data. -/
def isMissing (env : Environment) (data : Entries) (rule : Rule) : Bool :=
  rule.field.required && (Record.lookup env data rule.field.name).isNone

/-- Data holds a value for a field that its check rejects. -/
def Rejects (env : Environment) (data : Entries) (path : Path) (rule : Rule) : Prop :=
  ∃ found, rule.answer env data path = some (.ok (.rejected found))

/-- The check of a field accepts the value that data holds for it, if it holds one. -/
def Agrees (env : Environment) (data : Entries) (path : Path) (rule : Rule) : Prop :=
  ∀ answer, rule.answer env data path = some answer → ∃ value, answer = .ok (.accepted value)

/-- What is wrong with the value of a field; nothing if it is absent. -/
def violations (env : Environment) (data : Entries) (path : Path) (rule : Rule) : List Violation :=
  match rule.answer env data path with
  | some (.ok (.rejected found)) => found
  | _ => []

/-- The entry of a field in the validated record: what its value became, or its default if it is
absent. -/
def entry? (env : Environment) (data : Entries) (path : Path) (rule : Rule) :
    Option (String × Value) :=
  match rule.answer env data path with
  | some (.ok (.accepted value)) => some (rule.field.name, value)
  | some _ => none
  | none => if rule.field.hasDefault then some (rule.field.name, rule.field.default) else none

variable {env : Environment} {data : Entries} {path : Path} {rule : Rule}

theorem Agrees.not_rejects (agrees : rule.Agrees env data path) :
    ¬ rule.Rejects env data path := by
  rintro ⟨found, answered⟩
  obtain ⟨value, accepted⟩ := agrees _ answered
  cases accepted

theorem rejects_iff (evident : rule.check.Evident) :
    rule.Rejects env data path ↔ rule.violations env data path ≠ [] := by
  constructor
  · rintro ⟨found, answered⟩ none
    rw [violations, answered] at none
    obtain ⟨value, _, checked⟩ := Option.map_eq_some_iff.mp answered
    rw [show found = [] from none] at checked
    exact evident value _ checked
  · intro reasons
    unfold violations at reasons
    split at reasons
    case h_1 found answered => exact ⟨found, answered⟩
    case h_2 => exact absurd rfl reasons

/-- The violations of a field lie below its name. -/
theorem below_of_violations (rooted : rule.check.Rooted) {violation : Violation}
    (among : violation ∈ rule.violations env data path) :
    ∃ rest, violation.path = path ++ .str rule.field.name :: rest := by
  unfold violations at among
  split at among
  case h_1 found answered =>
    obtain ⟨value, _, checked⟩ := Option.map_eq_some_iff.mp answered
    have moved := rooted (path ++ [.str rule.field.name]) value []
    rw [List.append_nil, checked] at moved
    cases here : rule.check value [] with
    | error fault =>
        rw [here] at moved
        cases moved
    | ok verdict =>
        rw [here] at moved
        cases verdict with
        | accepted result => cases moved
        | rejected reasons =>
            cases moved
            obtain ⟨reason, _, rfl⟩ := List.mem_map.mp among
            exact ⟨reason.path, List.append_assoc _ _ _⟩
  case h_2 => cases among

end Rule

/-! ## Codes -/

/-- The code of a violation is text, so that it can be sorted among others. -/
def Violation.HasTextCode (violation : Violation) : Prop := ∃ code, violation.code = .str code

@[simp] theorem Record.exists_codeText_iff (code : Value) :
    (∃ text, Record.codeText code = .ok text) ↔ ∃ text, code = .str text := by
  cases code <;> simp [Record.codeText]

@[simp] theorem Record.exists_codeTexts_iff (violations : List Violation) :
    (∃ texts, (violations.map Violation.code).mapM Record.codeText = .ok texts) ↔
      ∀ violation ∈ violations, violation.HasTextCode := by
  induction violations with
  | nil => exact iff_of_true ⟨[], rfl⟩ (List.forall_mem_nil _)
  | cons violation rest ih =>
      simp only [List.map_cons, List.mapM_cons, Attempt.bind_eq_ok_iff, List.forall_mem_cons, ← ih]
      rw [Violation.HasTextCode, ← Record.exists_codeText_iff]
      constructor
      · rintro ⟨_, text, read, others, othersRead, _⟩
        exact ⟨⟨text, read⟩, others, othersRead⟩
      · rintro ⟨⟨text, read⟩, others, othersRead⟩
        exact ⟨_, text, read, others, othersRead, rfl⟩

@[simp] theorem Record.exists_codes_iff {violations : List Violation} :
    (∃ texts, Record.codes violations = .ok texts) ↔
      ∀ violation ∈ violations, violation.HasTextCode := by
  rw [← exists_codeTexts_iff, Record.codes]
  constructor
  · rintro ⟨_, summed⟩
    obtain ⟨texts, read, _⟩ := Attempt.bind_eq_ok_iff.mp summed
    exact ⟨texts, read⟩
  · rintro ⟨texts, read⟩
    exact ⟨_, Attempt.bind_eq_ok_iff.mpr ⟨texts, read, rfl⟩⟩

/-! ## Stages -/

/-- Where a validation can be decided. -/
inductive Stage where
  /-- Required fields are absent. -/
  | presence
  /-- Values of fields are rejected. -/
  | values
  /-- Keys are no fields. -/
  | strictness
  /-- The hook, if there is one, has the last word. -/
  | review
deriving DecidableEq

namespace Record

/-- The entries that the fields have in the validated record, in definition order. -/
def validated (env : Environment) (data : Entries) (path : Path) (rules : List Rule) :
    List (String × Value) :=
  rules.filterMap (Rule.entry? env data path)

/-- A name is that of a key of the data and of no entry of the validated record. -/
def IsUnknown (env : Environment) (data : Entries) (path : Path) (rules : List Rule)
    (name : String) : Prop :=
  name ∉ (validated env data path rules).map Prod.fst ∧
    ∃ key ∈ data.map Prod.fst, keyName key = .ok name

/-- Nothing is wrong with a mapping, so that only the hook is left to be asked. -/
structure Passes (env : Environment) (rules : List Rule) (strict : Bool) (data : Entries)
    (path : Path) : Prop where
  complete : ∀ rule ∈ rules, rule.isMissing env data = false
  agreed : ∀ rule ∈ rules, rule.Agrees env data path
  known : strict = true → ∀ name, ¬ IsUnknown env data path rules name

/-- A stage decides on a mapping, with the given verdict. -/
inductive Decided (env : Environment) (rules : List Rule) (strict : Bool) (hook : Option Nat)
    (data : Entries) (path : Path) : Stage → Verdict Value → Prop
  /-- Some required field is absent: one violation for each that is, and no other. -/
  | presence {rule : Rule} (among : rule ∈ rules) (missing : rule.isMissing env data = true) :
      Decided env rules strict hook data path .presence
        (.rejected ((rules.filter (Rule.isMissing env data)).map fun rule =>
          .missingField (path ++ [.str rule.field.name])))
  /-- No required field is absent and some value is rejected: the violations of the values, field by
  field. -/
  | values {rule : Rule} (complete : ∀ rule ∈ rules, rule.isMissing env data = false)
      (among : rule ∈ rules) (rejects : rule.Rejects env data path) :
      Decided env rules strict hook data path .values
        (.rejected (rules.flatMap (Rule.violations env data path)))
  /-- All values are accepted, and keys that are no fields are forbidden but there: one violation
  that names them. -/
  | strictness {extra : List String} (complete : ∀ rule ∈ rules, rule.isMissing env data = false)
      (agreed : ∀ rule ∈ rules, rule.Agrees env data path) (strictly : strict = true)
      (nonempty : extra ≠ []) (each : ∀ name, name ∈ extra ↔ IsUnknown env data path rules name) :
      Decided env rules strict hook data path .strictness
        (.rejected [.unexpectedFields path extra])
  /-- Nothing is wrong: the validated record, or what the hook makes of it. -/
  | review {verdict : Verdict Value} (passes : Passes env rules strict data path)
      (reviewed : Record.review env hook (.record (validated env data path rules)) path =
        .ok verdict) :
      Decided env rules strict hook data path .review verdict

variable {env : Environment} {rules : List Rule} {strict : Bool} {hook : Option Nat}
  {data : Entries} {path : Path} {verdict : Verdict Value}

/-- What a stage looks for is ruled out by every later stage. -/
theorem Decided.stage_unique {first second : Stage} {other : Verdict Value}
    (one : Decided env rules strict hook data path first verdict)
    (two : Decided env rules strict hook data path second other) : first = second := by
  have absurdMissing {rule : Rule} (complete : ∀ rule ∈ rules, rule.isMissing env data = false)
      (among : rule ∈ rules) (missing : rule.isMissing env data = true) : False := by
    rw [complete rule among] at missing
    cases missing
  have absurdRejects {rule : Rule} (agreed : ∀ rule ∈ rules, rule.Agrees env data path)
      (among : rule ∈ rules) (rejects : rule.Rejects env data path) : False :=
    (agreed rule among).not_rejects rejects
  have absurdUnknown {extra : List String} (nonempty : extra ≠ [])
      (each : ∀ name, name ∈ extra ↔ IsUnknown env data path rules name)
      (known : ∀ name, ¬ IsUnknown env data path rules name) : False := by
    obtain ⟨name, among⟩ := List.exists_mem_of_ne_nil extra nonempty
    exact known name ((each name).mp among)
  cases one with
  | presence among missing =>
      cases two with
      | presence => rfl
      | values complete | strictness complete =>
          exact (absurdMissing complete among missing).elim
      | review passes => exact (absurdMissing passes.complete among missing).elim
  | values complete among rejects =>
      cases two with
      | presence among missing => exact (absurdMissing complete among missing).elim
      | values => rfl
      | strictness _ agreed => exact (absurdRejects agreed among rejects).elim
      | review passes => exact (absurdRejects passes.agreed among rejects).elim
  | strictness complete agreed strictly nonempty each =>
      cases two with
      | presence among missing => exact (absurdMissing complete among missing).elim
      | values _ among rejects => exact (absurdRejects agreed among rejects).elim
      | strictness => rfl
      | review passes => exact (absurdUnknown nonempty each (passes.known strictly)).elim
  | review passes =>
      cases two with
      | presence among missing => exact (absurdMissing passes.complete among missing).elim
      | values _ among rejects => exact (absurdRejects passes.agreed among rejects).elim
      | strictness _ _ strictly nonempty each =>
          exact (absurdUnknown nonempty each (passes.known strictly)).elim
      | review => rfl

/-! ## The walk through the stages -/

theorem missing_rules (env : Environment) (rules : List Rule) (data : Entries) (path : Path) :
    missing env (rules.map Rule.field) data path =
      (rules.filter (Rule.isMissing env data)).map fun rule =>
        .missingField (path ++ [.str rule.field.name]) := by
  rw [missing, List.filter_map, List.map_map]
  rfl

/-- A field that is not required and absent adds its own entry and its own violations to those of
others, and its check answers. -/
theorem fieldVerdict_settled {rule : Rule} (complete : rule.isMissing env data = false)
    {decision : Option (Verdict Value)} (decided : fieldVerdict env data path rule = .ok decision) :
    (∀ answer, rule.answer env data path = some answer → ∃ verdict, answer = .ok verdict) ∧
    ∀ others : List (String × Value) × List Violation, addVerdict rule.field.name decision others =
      ((rule.entry? env data path).toList ++ others.1,
        rule.violations env data path ++ others.2) := by
  simp only [fieldVerdict] at decided
  simp only [Rule.entry?, Rule.violations, Rule.answer]
  cases found : lookup env data rule.field.name with
  | some given =>
      rw [found] at decided
      obtain ⟨verdict, answered, same⟩ := Attempt.bind_eq_ok_iff.mp decided
      cases same
      simp only [Option.map_some, answered, Option.some.injEq, forall_eq']
      refine ⟨⟨verdict, rfl⟩, fun others => ?_⟩
      cases verdict <;> rfl
  | none =>
      have free : rule.field.required = false := by
        simpa [Rule.isMissing, found] using complete
      rw [found] at decided
      simp only [Option.map_none, reduceCtorEq, false_implies, implies_true, true_and]
      simp only [free, Bool.false_eq_true, if_false] at decided
      intro others
      split at decided
      case isTrue fills =>
        obtain ⟨copied, copies, same⟩ := Attempt.bind_eq_ok_iff.mp decided
        obtain ⟨_, rfl⟩ := Value.copy_eq_ok_iff.mp copies
        cases same
        rw [if_pos (show rule.field.hasDefault = true from fills)]
        rfl
      case isFalse bare =>
        cases decided
        rw [if_neg (show ¬ rule.field.hasDefault = true from bare)]
        rfl

/-- Fields none of which is required and absent are gathered one by one: their checks all answer,
and entries and violations are those of the fields in order. -/
theorem gather_settled (complete : ∀ rule ∈ rules, rule.isMissing env data = false)
    {values : List (String × Value)} {violations : List Violation}
    (gathered : gather env data path rules = .ok (values, violations)) :
    (∀ rule ∈ rules, ∀ answer, rule.answer env data path = some answer →
      ∃ verdict, answer = .ok verdict) ∧
    values = validated env data path rules ∧
    violations = rules.flatMap (Rule.violations env data path) := by
  induction rules generalizing values violations with
  | nil =>
      cases gathered
      exact ⟨List.forall_mem_nil _, rfl, rfl⟩
  | cons rule rest ih =>
      obtain ⟨ruleComplete, restComplete⟩ := List.forall_mem_cons.mp complete
      obtain ⟨decision, decided, others⟩ := Attempt.bind_eq_ok_iff.mp gathered
      obtain ⟨parts, restGathered, joined⟩ := Attempt.bind_eq_ok_iff.mp others
      obtain ⟨restAnswers, restValues, restViolations⟩ := ih restComplete restGathered
      obtain ⟨answers, added⟩ := fieldVerdict_settled ruleComplete decided
      have joined : addVerdict rule.field.name decision parts = (values, violations) :=
        Except.ok.inj joined
      rw [added, restValues, restViolations] at joined
      cases joined
      refine ⟨List.forall_mem_cons.mpr ⟨answers, restAnswers⟩, ?_, List.flatMap_cons.symm⟩
      rw [validated, validated, List.filterMap_cons]
      cases rule.entry? env data path <;> rfl

theorem mem_extraNames {known extra : List String} {keys : List Value} {result : List String}
    (named : extraNames known extra keys = .ok result) (name : String) :
    name ∈ result ↔ name ∈ extra ∨ (name ∉ known ∧ ∃ key ∈ keys, keyName key = .ok name) := by
  induction keys generalizing extra with
  | nil =>
      cases named
      simp
  | cons key rest ih =>
      obtain ⟨first, keyNamed, others⟩ := Attempt.bind_eq_ok_iff.mp named
      rw [ih others]
      simp only [List.mem_cons, exists_eq_or_imp, keyNamed, Except.ok.injEq]
      split
      case isTrue seen =>
        simp only [Bool.or_eq_true, List.contains_iff_mem] at seen
        grind
      case isFalse unseen =>
        simp only [Bool.or_eq_true, List.contains_iff_mem, not_or] at unseen
        grind

/-- A mapping from which no required field is absent is rejected for its values, or they are all
accepted. -/
theorem values_decided (evident : ∀ rule ∈ rules, rule.check.Evident)
    (complete : ∀ rule ∈ rules, rule.isMissing env data = false)
    {values : List (String × Value)} {violations : List Violation}
    (gathered : gather env data path rules = .ok (values, violations)) :
    (violations ≠ [] ∧ ∀ hook, Decided env rules strict hook data path .values
      (.rejected violations)) ∨
    (violations = [] ∧ values = validated env data path rules ∧
      ∀ rule ∈ rules, rule.Agrees env data path) := by
  obtain ⟨answers, rfl, rfl⟩ := gather_settled complete gathered
  by_cases none : rules.flatMap (Rule.violations env data path) = []
  case pos =>
    refine .inr ⟨none, rfl, ?_⟩
    intro rule among answer answered
    obtain ⟨verdict, rfl⟩ := answers rule among answer answered
    cases verdict with
    | accepted value => exact ⟨value, rfl⟩
    | rejected found =>
        have reasoned := (Rule.rejects_iff (evident rule among)).mp ⟨found, answered⟩
        exact absurd (List.flatMap_eq_nil_iff.mp none rule among) reasoned
  case neg =>
    obtain ⟨violation, among⟩ := List.exists_mem_of_ne_nil _ none
    obtain ⟨rule, ruleAmong, reason⟩ := List.mem_flatMap.mp among
    have rejects : rule.Rejects env data path :=
      (Rule.rejects_iff (evident rule ruleAmong)).mpr (List.ne_nil_of_mem reason)
    exact .inl ⟨none, fun hook => .values complete ruleAmong rejects⟩

theorem keys_decided (complete : ∀ rule ∈ rules, rule.isMissing env data = false)
    (agreed : ∀ rule ∈ rules, rule.Agrees env data path) {extra : List String}
    (named : (if strict then extraNames ((validated env data path rules).map Prod.fst) []
      (data.map Prod.fst) else .ok []) = .ok extra) :
    (extra ≠ [] ∧ ∀ hook, Decided env rules strict hook data path .strictness
      (.rejected [.unexpectedFields path extra])) ∨
    (extra = [] ∧ Passes env rules strict data path) := by
  cases strict with
  | false =>
      cases named
      exact .inr ⟨rfl, complete, agreed, nofun⟩
  | true =>
      have each (name : String) : name ∈ extra ↔ IsUnknown env data path rules name := by
        rw [mem_extraNames named, IsUnknown]
        simp
      by_cases none : extra = []
      · refine .inr ⟨none, complete, agreed, fun _ name unknown => ?_⟩
        have among := (each name).mpr unknown
        rw [none] at among
        cases among
      · exact .inl ⟨none, fun hook => .strictness complete agreed rfl none each⟩

theorem presence_decided {rule : Rule} (among : rule ∈ rules)
    (missing : rule.isMissing env data = true) :
    candidate env rules strict (.map data) path =
      .ok (.rejected ((rules.filter (Rule.isMissing env data)).map fun rule =>
        .missingField (path ++ [.str rule.field.name]))) := by
  simp only [candidate, missing_rules]
  have filtered : rule ∈ rules.filter (Rule.isMissing env data) :=
    List.mem_filter.mpr ⟨among, missing⟩
  cases absent : rules.filter (Rule.isMissing env data) with
  | nil =>
      rw [absent] at filtered
      cases filtered
  | cons first rest => rfl

/-- Before the hook is asked, a mapping is rejected at an earlier stage, whatever the hook is, or
nothing is wrong with it. -/
theorem candidate_decided (evident : ∀ rule ∈ rules, rule.check.Evident)
    {proposal : Verdict Value}
    (proposed : candidate env rules strict (.map data) path = .ok proposal) :
    (∃ violations stage, proposal = .rejected violations ∧ stage ≠ .review ∧
      ∀ hook, Decided env rules strict hook data path stage (.rejected violations)) ∨
    (proposal = .accepted (.record (validated env data path rules)) ∧
      Passes env rules strict data path) := by
  by_cases some : ∃ rule ∈ rules, rule.isMissing env data = true
  case pos =>
    obtain ⟨rule, among, missing⟩ := some
    rw [presence_decided among missing] at proposed
    cases proposed
    exact .inl ⟨_, .presence, rfl, by decide, fun hook => .presence among missing⟩
  case neg =>
    have complete : ∀ rule ∈ rules, rule.isMissing env data = false := by
      intro rule among
      exact Bool.not_eq_true _ ▸ fun missing => some ⟨rule, among, missing⟩
    have none : rules.filter (Rule.isMissing env data) = [] :=
      List.filter_eq_nil_iff.mpr fun rule among missing => some ⟨rule, among, missing⟩
    simp only [candidate, missing_rules, none, List.map_nil] at proposed
    obtain ⟨⟨values, violations⟩, gathered, others⟩ := Attempt.bind_eq_ok_iff.mp proposed
    rcases values_decided evident complete gathered with ⟨reasons, decided⟩ | ⟨rfl, rfl, agreed⟩
    · rw [if_pos (by simpa using reasons)] at others
      cases others
      exact .inl ⟨_, .values, rfl, by decide, decided⟩
    · obtain ⟨extra, named, concluded⟩ : ∃ extra,
          (if strict then extraNames ((validated env data path rules).map Prod.fst) []
            (data.map Prod.fst) else .ok []) = .ok extra ∧
          (if !extra.isEmpty then .ok (.rejected [.unexpectedFields path extra])
            else .ok (.accepted (.record (validated env data path rules)))) =
            (.ok proposal : Attempt (Verdict Value)) := by
        cases strict with
        | false => exact ⟨[], rfl, others⟩
        | true => exact Attempt.bind_eq_ok_iff.mp others
      rcases keys_decided complete agreed named with ⟨occurs, decided⟩ | ⟨rfl, passes⟩
      · rw [if_pos (by simpa using occurs)] at concluded
        cases concluded
        exact .inl ⟨_, .strictness, rfl, by decide, decided⟩
      · exact .inr ⟨(Except.ok.inj concluded).symm, passes⟩

theorem stages_of_check {value : Value}
    (checked : Record.check env rules strict hook value path = .ok verdict) :
    stages env rules strict hook value path = .ok verdict := by
  obtain ⟨staged, reached, concluded⟩ := Attempt.bind_eq_ok_iff.mp checked
  cases staged with
  | accepted result =>
      cases concluded
      exact reached
  | rejected violations =>
      obtain ⟨_, _, same⟩ := Attempt.bind_eq_ok_iff.mp concluded
      cases same
      exact reached

theorem decided_of_check (evident : ∀ rule ∈ rules, rule.check.Evident)
    (checked : Record.check env rules strict hook (.map data) path = .ok verdict) :
    ∃ stage, Decided env rules strict hook data path stage verdict ∧
      (stage ≠ .review → ∀ other, Record.check env rules strict other (.map data) path =
        .ok verdict) := by
  obtain ⟨proposal, proposed, concluded⟩ := Attempt.bind_eq_ok_iff.mp (stages_of_check checked)
  rcases candidate_decided evident proposed with
    ⟨violations, stage, rfl, _, decided⟩ | ⟨rfl, passes⟩
  · cases concluded
    refine ⟨stage, decided hook, fun _ other => ?_⟩
    simp only [Record.check, stages, proposed] at checked ⊢
    exact checked
  · exact ⟨.review, .review passes concluded, fun differs => absurd rfl differs⟩

theorem check_of_missing {rule : Rule} (among : rule ∈ rules)
    (missing : rule.isMissing env data = true) :
    Record.check env rules strict hook (.map data) path =
      .ok (.rejected ((rules.filter (Rule.isMissing env data)).map fun rule =>
        .missingField (path ++ [.str rule.field.name]))) := by
  have summed : ∃ texts, codes ((rules.filter (Rule.isMissing env data)).map fun rule =>
      .missingField (path ++ [.str rule.field.name])) = .ok texts := by
    apply exists_codes_iff.mpr
    intro violation reported
    obtain ⟨absent, _, rfl⟩ := List.mem_map.mp reported
    exact ⟨"required", rfl⟩
  obtain ⟨texts, summed⟩ := summed
  simp [Record.check, stages, presence_decided among missing, summed]

end Record

/-! ## The law -/

theorem Field.checkWith_evident (env : Environment) (coerce : Bool) (field : Field) :
    (field.checkWith env coerce).Evident := by
  unfold Field.checkWith
  split
  · exact Check.coerced_evident (field.type.coerce_evident env) (field.check_evident env)
  · exact field.check_evident env

namespace Schema

theorem rulesWith_evident (env : Environment) (coerce : Bool) (schema : Schema) :
    ∀ rule ∈ schema.rulesWith env coerce, rule.check.Evident := by
  intro rule among
  obtain ⟨field, _, rfl⟩ := List.mem_map.mp among
  exact field.checkWith_evident env coerce

/-- How the stages of a validation decide on a mapping. -/
structure StageDiscipline (env : Environment) (schema : Schema) : Prop where
  /-- Every verdict is decided at exactly one stage. -/
  decides : ∀ data options verdict,
    (validate env schema (.map data) options).outcome = .ok verdict →
    ∃! stage, Record.Decided env (schema.rulesWith env options.coerce)
      (options.strict.getD schema.strict) schema.hook data options.path stage verdict
  /-- Absent required fields are decided on, whatever the other values, the strictness and the hook
  are. -/
  presence : ∀ data coerce strict path, ∀ rule ∈ schema.rulesWith env coerce,
    rule.isMissing env data = true → ∀ hook,
    (validate env { schema with hook } (.map data) ⟨coerce, strict, path, false⟩).outcome =
      .ok (.rejected (((schema.rulesWith env coerce).filter (Rule.isMissing env data)).map
        fun rule => .missingField (path ++ [.str rule.field.name])))
  /-- Exactly the fields whose values are rejected have violations, and these lie below their
  names. -/
  values : ∀ data coerce path, ∀ rule ∈ schema.rulesWith env coerce,
    (rule.Rejects env data path ↔ rule.violations env data path ≠ []) ∧
    ∀ violation ∈ rule.violations env data path,
      ∃ rest, violation.path = path ++ .str rule.field.name :: rest
  /-- Before the last stage the hook makes no difference. -/
  hookless : ∀ data coerce strict path verdict,
    (validate env schema (.map data) ⟨coerce, strict, path, false⟩).outcome = .ok verdict →
    Record.Decided env (schema.rulesWith env coerce) (strict.getD schema.strict) schema.hook data
      path .review verdict ∨
    ∀ hook, (validate env { schema with hook } (.map data) ⟨coerce, strict, path, false⟩).outcome =
      .ok verdict
  /-- Without a hook the last stage accepts the validated record. -/
  unreviewed : ∀ data coerce strict path verdict, schema.hook = none →
    Record.Decided env (schema.rulesWith env coerce) strict schema.hook data path .review verdict →
    verdict = .accepted (.record (Record.validated env data path (schema.rulesWith env coerce)))

/-- Every schema keeps to the stages. -/
theorem stageDiscipline (env : Environment) (schema : Schema) : schema.StageDiscipline env where
  decides := by
    intro data options verdict validated
    obtain ⟨stage, decided, _⟩ := Record.decided_of_check
      (schema.rulesWith_evident env options.coerce) (verdict_of_validate validated)
    exact ⟨stage, decided, fun other too => too.stage_unique decided⟩
  presence := by
    intro data coerce strict path rule among missing hook
    rw [outcome_validate]
    exact Record.check_of_missing among missing
  values := by
    intro data coerce path rule among
    exact ⟨Rule.rejects_iff (schema.rulesWith_evident env coerce rule among), fun violation =>
      Rule.below_of_violations (schema.rulesWith_rooted env coerce rule among)⟩
  hookless := by
    intro data coerce strict path verdict validated
    obtain ⟨stage, decided, others⟩ := Record.decided_of_check
      (schema.rulesWith_evident env coerce) (verdict_of_validate validated)
    by_cases last : stage = .review
    · exact .inl (last ▸ decided)
    · refine .inr fun hook => ?_
      rw [outcome_validate]
      exact others last hook
  unreviewed := by
    intro data coerce strict path verdict hookless decided
    rw [hookless] at decided
    cases decided with
    | review passes reviewed => exact (Except.ok.inj reviewed).symm

-- A field is absent, the value of another is wrong, and there is a key too many.
example :
    let name : Field := ⟨"name", .primitive .string, true, [], .null, .null, .null⟩
    let age : Field := ⟨"age", .primitive .integer, true, [], .null, .null, .null⟩
    (validate Environment.bare ⟨[name, age], .null, .null, true, none, []⟩
      (.map [(.str "age", .str "old"), (.str "extra", .null)]) ⟨false, none, [], false⟩).outcome =
      .ok (.rejected [.missingField [.str "name"]]) := rfl

end Schema

end Conform
