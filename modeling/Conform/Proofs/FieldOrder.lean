import Conform.Proofs.Extension
import Conform.Violation.Format
import Mathlib.Data.List.Perm.Basic

/-!
# The order of the fields

The members of a definition may be given in any order.  A definition succeeds or not, and a
validation without a hook accepts, rejects or faults, whatever their order is; only the entries of
the validated record and the violations follow it.  Nothing is said of which fault is met, since
the first one ends an operation.
-/

namespace Conform

/-! ## Outcomes up to order -/

/-- Two operations both end in a fault, or both in results that are related. -/
inductive Attempt.Together {α β : Type} (related : α → β → Prop) :
    Attempt α → Attempt β → Prop where
  | ok {result : α} {other : β} (relates : related result other) :
      Together related (.ok result) (.ok other)
  | error (fault other : Fault) : Together related (.error fault) (.error other)

theorem Attempt.together_of_returns {α β : Type} {related : α → β → Prop} {attempt : Attempt α}
    {other : Attempt β}
    (there : ∀ result, attempt = .ok result → ∃ twin, other = .ok twin ∧ related result twin)
    (back : ∀ twin, other = .ok twin → ∃ result, attempt = .ok result) :
    Together related attempt other := by
  cases attempt with
  | ok result =>
      obtain ⟨twin, rfl, relates⟩ := there result rfl
      exact .ok relates
  | error fault =>
      cases other with
      | ok twin =>
          obtain ⟨_, returned⟩ := back twin rfl
          cases returned
      | error otherFault => exact .error fault otherFault

/-- Two verdicts accept mappings of the same entries, or reject with the same violations, up to
order. -/
inductive Verdict.Reordered : Verdict Value → Verdict Value → Prop where
  | accepted {entries others : Entries} (permuted : entries.Perm others) :
      Reordered (.accepted (.map entries)) (.accepted (.map others))
  | rejected {violations others : List Violation} (permuted : violations.Perm others) :
      Reordered (.rejected violations) (.rejected others)

@[simp] theorem Attempt.mapM_eq_ok_iff {α β : Type} {next : α → Attempt β} {items : List α}
    {results : List β} :
    items.mapM next = .ok results ↔
      List.Forall₂ (fun item result => next item = .ok result) items results := by
  induction items generalizing results with
  | nil => simp [pure, Except.pure, eq_comm]
  | cons item rest ih =>
      simp only [List.mapM_cons, bind_eq_ok_iff, ih, List.forall₂_cons_left_iff]
      constructor
      · rintro ⟨result, here, others, behind, joined⟩
        exact ⟨result, others, here, behind, (Except.ok.inj joined).symm⟩
      · rintro ⟨result, others, here, behind, rfl⟩
        exact ⟨result, here, others, behind, rfl⟩

theorem Attempt.mapM_perm {α β : Type} {next : α → Attempt β} {items others : List α}
    {results : List β} (permuted : items.Perm others) (mapped : items.mapM next = .ok results) :
    ∃ otherResults, others.mapM next = .ok otherResults ∧ results.Perm otherResults := by
  have each := mapM_eq_ok_iff.mp mapped
  obtain ⟨otherResults, otherEach, reordered⟩ := List.perm_comp_forall₂ permuted.symm each
  exact ⟨otherResults, mapM_eq_ok_iff.mpr otherEach, reordered.symm⟩

namespace Record

/-! ## What the fields gather -/

/-- The same entries and the same violations were gathered, up to order. -/
structure Reordered (parts others : List (String × Value) × List Violation) : Prop where
  entries : parts.1.Perm others.1
  violations : parts.2.Perm others.2

variable {name otherName : String} {verdict otherVerdict : Option (Verdict Value)}
  {parts others : List (String × Value) × List Violation}

theorem Reordered.addVerdict (reordered : Reordered parts others) (name : String)
    (verdict : Option (Verdict Value)) :
    Reordered (addVerdict name verdict parts) (addVerdict name verdict others) := by
  rcases verdict with _ | value | found
  · exact reordered
  · exact ⟨reordered.entries.cons _, reordered.violations⟩
  · exact ⟨reordered.entries, reordered.violations.append_left found⟩

theorem addVerdict_swap :
    Reordered (addVerdict name verdict (addVerdict otherName otherVerdict parts))
      (addVerdict otherName otherVerdict (addVerdict name verdict parts)) := by
  rcases verdict with _ | value | found <;> rcases otherVerdict with _ | otherValue | otherFound
  case some.accepted.some.accepted => exact ⟨.swap _ _ _, .refl _⟩
  case some.rejected.some.rejected => exact ⟨.refl _, List.perm_append_comm_assoc _ _ _⟩
  all_goals exact ⟨.refl _, .refl _⟩

variable {env : Environment} {data : Entries} {path : Path} {rules twins : List Rule}

theorem gather_cons_eq_ok_iff {rule : Rule} :
    gather env data path (rule :: rules) = .ok parts ↔
      ∃ verdict, fieldVerdict env data path rule = .ok verdict ∧
        ∃ behind, gather env data path rules = .ok behind ∧
          addVerdict rule.field.name verdict behind = parts := by
  simp [gather, Attempt.bind_eq_ok_iff]

/-- The rules of fields gather the same in every order. -/
theorem gather_perm (permuted : rules.Perm twins)
    (gathered : gather env data path rules = .ok parts) :
    ∃ others, gather env data path twins = .ok others ∧ Reordered parts others := by
  induction permuted generalizing parts with
  | nil => exact ⟨parts, gathered, .refl _, .refl _⟩
  | cons rule _ ih =>
      obtain ⟨verdict, decided, behind, rest, rfl⟩ := gather_cons_eq_ok_iff.mp gathered
      obtain ⟨others, otherRest, reordered⟩ := ih rest
      exact ⟨_, gather_cons_eq_ok_iff.mpr ⟨verdict, decided, others, otherRest, rfl⟩,
        reordered.addVerdict _ _⟩
  | swap rule other rest =>
      obtain ⟨verdict, decided, behind, next, rfl⟩ := gather_cons_eq_ok_iff.mp gathered
      obtain ⟨otherVerdict, otherDecided, others, restGathered, rfl⟩ :=
        gather_cons_eq_ok_iff.mp next
      refine ⟨_, gather_cons_eq_ok_iff.mpr ⟨otherVerdict, otherDecided, _,
        gather_cons_eq_ok_iff.mpr ⟨verdict, decided, others, restGathered, rfl⟩, rfl⟩, ?_⟩
      exact addVerdict_swap
  | trans _ _ ih ihNext =>
      obtain ⟨between, betweenGathered, first⟩ := ih gathered
      obtain ⟨others, otherGathered, second⟩ := ihNext betweenGathered
      exact ⟨others, otherGathered, first.entries.trans second.entries,
        first.violations.trans second.violations⟩

theorem extraNames_perm {known others : List String} (permuted : known.Perm others)
    (extra : List String) (keys : List Value) :
    extraNames known extra keys = extraNames others extra keys := by
  induction keys generalizing extra with
  | nil => rfl
  | cons key rest ih =>
      have same (name : String) : known.contains name = others.contains name := by
        rw [Bool.eq_iff_iff, List.contains_iff_mem, List.contains_iff_mem, permuted.mem_iff]
      simp only [extraNames, same, ih]

/-! ## Stages -/

variable {strict : Bool} {value : Value} {proposal : Verdict Value}

theorem missing_perm (env : Environment) (permuted : rules.Perm twins) (data : Entries)
    (path : Path) :
    (missing env (rules.map Rule.field) data path).Perm
      (missing env (twins.map Rule.field) data path) := by
  rw [missing_rules, missing_rules]
  exact (permuted.filter _).map _

/-- What the stages before the hook conclude from what was gathered. -/
def conclude (strict : Bool) (data : Entries) (path : Path)
    (parts : List (String × Value) × List Violation) : Attempt (Verdict Value) :=
  if !parts.2.isEmpty then .ok (.rejected parts.2)
  else
    (if strict then extraNames (parts.1.map Prod.fst) [] (data.map Prod.fst) else .ok []) >>=
      fun extra =>
        if !extra.isEmpty then .ok (.rejected [.unexpectedFields path extra])
        else .ok (.accepted (.record parts.1))

theorem candidate_of_complete (complete : missing env (rules.map Rule.field) data path = []) :
    candidate env rules strict (.map data) path =
      gather env data path rules >>= conclude strict data path := by
  simp only [candidate, complete]
  cases gather env data path rules with
  | error fault => rfl
  | ok parts => cases strict <;> rfl

/-- The stages conclude the same from the same parts in another order. -/
theorem conclude_perm {others : List (String × Value) × List Violation}
    (reordered : Reordered parts others)
    (proposed : conclude strict data path parts = .ok proposal) :
    ∃ other, conclude strict data path others = .ok other ∧ proposal.Reordered other := by
  obtain ⟨values, violations⟩ := parts
  obtain ⟨otherValues, otherViolations⟩ := others
  obtain ⟨entries, reasons⟩ := reordered
  simp only [conclude, ← reasons.isEmpty_eq, ← extraNames_perm (entries.map Prod.fst)] at proposed ⊢
  split at proposed
  case isTrue some =>
    cases proposed
    exact ⟨_, if_pos some, .rejected reasons⟩
  case isFalse none =>
    rw [if_neg none]
    obtain ⟨extra, named, concluded⟩ := Attempt.bind_eq_ok_iff.mp proposed
    simp only [named, Attempt.ok_bind]
    split at concluded
    case isTrue beyond =>
      cases concluded
      exact ⟨_, if_pos beyond, .rejected (.refl _)⟩
    case isFalse within =>
      cases concluded
      exact ⟨_, if_neg within, .accepted (entries.map _)⟩

/-- What the stages before the hook say does not depend on the order of the fields, except for the
order in which they say it. -/
theorem candidate_perm (permuted : rules.Perm twins)
    (proposed : candidate env rules strict value path = .ok proposal) :
    ∃ other, candidate env twins strict value path = .ok other ∧ proposal.Reordered other := by
  cases value with
  | map data =>
      have absent := missing_perm env permuted data path
      cases here : missing env (rules.map Rule.field) data path with
      | cons first rest =>
          cases there : missing env (twins.map Rule.field) data path with
          | nil =>
              rw [here, there] at absent
              exact absurd absent.eq_nil (List.cons_ne_nil _ _)
          | cons =>
              simp only [candidate, here, there] at proposed ⊢
              cases proposed
              exact ⟨_, rfl, .rejected (here ▸ there ▸ absent)⟩
      | nil =>
          rw [here] at absent
          rw [candidate_of_complete here] at proposed
          rw [candidate_of_complete absent.nil_eq.symm]
          obtain ⟨parts, gathered, concluded⟩ := Attempt.bind_eq_ok_iff.mp proposed
          obtain ⟨others, otherGathered, reordered⟩ := gather_perm permuted gathered
          rw [otherGathered]
          exact conclude_perm reordered concluded
  | _ =>
      cases proposed
      exact ⟨_, rfl, .rejected (.refl _)⟩

/-- Without a hook, a record is judged as its stages say, if this can be summed up. -/
theorem check_hookless_iff {verdict : Verdict Value} :
    check env rules strict none value path = .ok verdict ↔
      candidate env rules strict value path = .ok verdict ∧
        ∀ violation ∈ verdict.violations, violation.HasTextCode := by
  simp only [check, stages]
  cases candidate env rules strict value path with
  | error fault => simp
  | ok proposal =>
      cases proposal with
      | accepted result =>
          simp only [review, pure, Except.pure, Attempt.ok_bind, Except.ok.injEq, iff_self_and]
          rintro rfl
          exact List.forall_mem_nil _
      | rejected violations =>
          simp only [pure, Except.pure, Attempt.ok_bind, Except.ok.injEq, Attempt.bind_eq_ok_iff,
            exists_and_right, exists_codes_iff]
          constructor
          · rintro ⟨summed, rfl⟩
            exact ⟨rfl, summed⟩
          · rintro ⟨rfl, summed⟩
            exact ⟨summed, rfl⟩

theorem check_perm (permuted : rules.Perm twins) {verdict : Verdict Value}
    (checked : check env rules strict none value path = .ok verdict) :
    ∃ other, check env twins strict none value path = .ok other ∧ verdict.Reordered other := by
  obtain ⟨proposed, coded⟩ := check_hookless_iff.mp checked
  obtain ⟨other, otherProposed, reordered⟩ := candidate_perm permuted proposed
  refine ⟨other, check_hookless_iff.mpr ⟨otherProposed, ?_⟩, reordered⟩
  cases reordered with
  | accepted => exact List.forall_mem_nil _
  | rejected reasons =>
      intro violation among
      exact coded violation (reasons.mem_iff.mpr among)

end Record

/-! ## Displays -/

/-- A table of violations can be drawn in every order of theirs. -/
theorem Panel.ofViolations_perm {violations others : List Violation}
    (permuted : violations.Perm others) {title : Value} {panel : Panel}
    (drawn : ofViolations violations title = .ok panel) :
    ∃ otherPanel, ofViolations others title = .ok otherPanel := by
  obtain ⟨rows, written, headed⟩ := Attempt.bind_eq_ok_iff.mp drawn
  obtain ⟨otherRows, otherWritten, _⟩ := Attempt.mapM_perm permuted written
  simp only [ofViolations, otherWritten, Attempt.ok_bind, ← permuted.length_eq]
  split at headed
  case isTrue titled =>
    rw [if_pos titled]
    obtain ⟨text, plain, _⟩ := Attempt.bind_eq_ok_iff.mp headed
    rw [plain]
    exact ⟨_, rfl⟩
  case isFalse untitled =>
    rw [if_neg untitled]
    exact ⟨_, rfl⟩

theorem Display.ofVerdict_perm {verdict other : Verdict Value} (reordered : verdict.Reordered other)
    {title : Value} {display : Display} (shown : ofVerdict verdict title = .ok display) :
    ∃ otherDisplay, ofVerdict other title = .ok otherDisplay := by
  cases reordered with
  | accepted => exact ⟨_, rfl⟩
  | rejected reasons =>
      obtain ⟨panel, drawn, _⟩ := Attempt.bind_eq_ok_iff.mp shown
      obtain ⟨otherPanel, otherDrawn⟩ := Panel.ofViolations_perm reasons drawn
      exact ⟨.panel otherPanel, Attempt.bind_eq_ok_iff.mpr ⟨otherPanel, otherDrawn, rfl⟩⟩

/-! ## Deciding stages -/

namespace Record

variable {env : Environment} {data : Entries} {path : Path} {rules twins : List Rule}
  {strict : Bool}

theorem isUnknown_perm (permuted : rules.Perm twins) {name : String} :
    IsUnknown env data path rules name ↔ IsUnknown env data path twins name := by
  have names : ((validated env data path rules).map Prod.fst).Perm
      ((validated env data path twins).map Prod.fst) := (permuted.filterMap _).map _
  rw [IsUnknown, IsUnknown, names.mem_iff]

theorem Passes.perm (passes : Passes env rules strict data path) (permuted : rules.Perm twins) :
    Passes env twins strict data path where
  complete := fun rule among => passes.complete rule (permuted.mem_iff.mpr among)
  agreed := fun rule among => passes.agreed rule (permuted.mem_iff.mpr among)
  known := fun strictly name unknown =>
    passes.known strictly name ((isUnknown_perm permuted).mpr unknown)

/-- Without a hook, the same stage decides in every order of the fields. -/
theorem Decided.perm {stage : Stage} {verdict : Verdict Value}
    (decided : Decided env rules strict none data path stage verdict)
    (permuted : rules.Perm twins) :
    ∃ other, Decided env twins strict none data path stage other := by
  have complete (all : ∀ rule ∈ rules, rule.isMissing env data = false) :
      ∀ rule ∈ twins, rule.isMissing env data = false :=
    fun rule among => all rule (permuted.mem_iff.mpr among)
  cases decided with
  | presence among missing => exact ⟨_, .presence (permuted.mem_iff.mp among) missing⟩
  | values all among rejects =>
      exact ⟨_, .values (complete all) (permuted.mem_iff.mp among) rejects⟩
  | strictness all agreed strictly nonempty each =>
      refine ⟨_, .strictness (complete all) ?_ strictly nonempty ?_⟩
      · exact fun rule among => agreed rule (permuted.mem_iff.mpr among)
      · exact fun name => (each name).trans (isUnknown_perm permuted)
  | review passes => exact ⟨_, .review (passes.perm permuted) rfl⟩

theorem stage_eq_of_perm (permuted : rules.Perm twins) {verdict other : Verdict Value}
    {stage otherStage : Stage}
    (decided : Decided env rules strict none data path stage verdict)
    (otherDecided : Decided env twins strict none data path otherStage other) :
    stage = otherStage := by
  obtain ⟨_, here⟩ := decided.perm permuted
  exact here.stage_unique otherDecided

end Record

/-! ## Definitions -/

namespace Schema

theorem forall₂_of_fieldsOfSpecs {specs : List Value} {done fields : List Field}
    (defined : fieldsOfSpecs done specs = .ok fields) :
    ∃ added, fields = done ++ added ∧
      List.Forall₂ (fun spec field => Field.ofSpec spec = .ok field) specs added := by
  induction specs generalizing done with
  | nil =>
      cases defined
      exact ⟨[], (List.append_nil _).symm, .nil⟩
  | cons spec rest ih =>
      obtain ⟨field, here, others⟩ := Attempt.bind_eq_ok_iff.mp defined
      split at others
      case isTrue => exact absurd others (DefinitionFlaw.refuse_ne_ok _ _)
      case isFalse =>
        obtain ⟨added, rfl, each⟩ := ih others
        exact ⟨field :: added, List.append_assoc _ _ _, .cons here each⟩

theorem fieldsOfSpecs_eq_ok_iff {specs : List Value} {fields : List Field} :
    fieldsOfSpecs [] specs = .ok fields ↔
      List.Forall₂ (fun spec field => Field.ofSpec spec = .ok field) specs fields ∧
        (fields.map Field.name).Nodup := by
  constructor
  · intro defined
    obtain ⟨added, rfl, each⟩ := forall₂_of_fieldsOfSpecs defined
    have none : (([] : List Field).map Field.name).Nodup := List.nodup_nil
    exact ⟨each, distinct_of_fieldsOfSpecs none defined⟩
  · rintro ⟨each, distinct⟩
    exact fieldsOfSpecs_of_each each distinct

theorem fieldsOfSpecs_perm {specs others : List Value} (permuted : specs.Perm others)
    {fields : List Field} (defined : fieldsOfSpecs [] specs = .ok fields) :
    ∃ otherFields, fieldsOfSpecs [] others = .ok otherFields ∧ fields.Perm otherFields := by
  obtain ⟨each, distinct⟩ := fieldsOfSpecs_eq_ok_iff.mp defined
  obtain ⟨otherFields, otherEach, reordered⟩ := List.perm_comp_forall₂ permuted.symm each
  have otherDistinct : (otherFields.map Field.name).Nodup :=
    (reordered.map Field.name).nodup_iff.mpr distinct
  exact ⟨otherFields, fieldsOfSpecs_eq_ok_iff.mpr ⟨otherEach, otherDistinct⟩, reordered.symm⟩

/-- Two schemas differ in the order of their fields only. -/
structure Reorders (schema other : Schema) : Prop where
  fields : schema.fields.Perm other.fields
  settings : other = { schema with fields := other.fields }

theorem define_perm {specs others : List Value} (permuted : specs.Perm others)
    {settings : Settings} {schema : Schema} (defined : define (.list specs) settings = .ok schema) :
    ∃ other, define (.list others) settings = .ok other ∧ schema.Reorders other := by
  obtain ⟨hook, hooked, next⟩ := Attempt.bind_eq_ok_iff.mp defined
  obtain ⟨members, listed, next⟩ := Attempt.bind_eq_ok_iff.mp next
  obtain ⟨fields, fieldsDefined, next⟩ := Attempt.bind_eq_ok_iff.mp next
  obtain ⟨metadata, annotated, same⟩ := Attempt.bind_eq_ok_iff.mp next
  cases listed
  cases same
  obtain ⟨otherFields, otherDefined, reordered⟩ := fieldsOfSpecs_perm permuted fieldsDefined
  exact ⟨_, define_list otherDefined hooked annotated, reordered, rfl⟩

variable {env : Environment} {schema other : Schema}

theorem Reorders.rulesWith (reorders : schema.Reorders other) (env : Environment) (coerce : Bool) :
    (schema.rulesWith env coerce).Perm (other.rulesWith env coerce) := reorders.fields.map _

theorem Reorders.symm (reorders : schema.Reorders other) : other.Reorders schema where
  fields := reorders.fields.symm
  settings := by
    rw [reorders.settings]
    cases schema
    rfl

/-- A validation ends in the verdict of its schema, if this can be displayed where it has to be. -/
theorem outcome_validate_iff {data : Value} {options : Options} {verdict : Verdict Value} :
    (validate env schema data options).outcome = .ok verdict ↔
      schema.verdict env data options = .ok verdict ∧
        (options.debug = true →
          ∃ display, Display.ofVerdict verdict schema.title = .ok display) := by
  simp only [validate, Run.outcome_bind, Run.outcome_emit, Run.outcome_lift, Attempt.ok_bind]
  cases schema.verdict env data options with
  | error fault => simp
  | ok found =>
      by_cases debug : options.debug = true
      case pos =>
        simp only [debug, if_true, Attempt.ok_bind, Run.outcome_bind, Run.outcome_lift,
          Run.outcome_emit, Run.outcome_pure, Attempt.bind_eq_ok_iff, Except.ok.injEq, forall_const]
        constructor
        · rintro ⟨display, shown, rfl⟩
          exact ⟨rfl, display, shown⟩
        · rintro ⟨rfl, display, shown⟩
          exact ⟨display, shown, rfl⟩
      case neg =>
        simp [debug]

/-- Without a hook, a verdict on data comes up in every order of the fields. -/
theorem Reorders.exists_verdict (reorders : schema.Reorders other) (hookFree : schema.hook = none)
    {data : Value} {options : Options} {verdict : Verdict Value}
    (validated : (validate env schema data options).outcome = .ok verdict) :
    ∃ otherVerdict, (validate env other data options).outcome = .ok otherVerdict ∧
      verdict.Reordered otherVerdict := by
  obtain ⟨checked, shown⟩ := outcome_validate_iff.mp validated
  rw [Schema.verdict, hookFree] at checked
  obtain ⟨otherVerdict, otherChecked, reordered⟩ :=
    Record.check_perm (reorders.rulesWith env options.coerce) checked
  refine ⟨otherVerdict, outcome_validate_iff.mpr ⟨?_, fun debug => ?_⟩, reordered⟩
  · rw [Schema.verdict, reorders.settings]
    simp only [hookFree]
    exact otherChecked
  · obtain ⟨display, drawn⟩ := shown debug
    rw [reorders.settings]
    exact Display.ofVerdict_perm reordered drawn

/-! ## The law -/

/-- Two schemas tell the same of all data, up to order. -/
structure SameUpToOrder (env : Environment) (schema other : Schema) : Prop where
  /-- Both accept with the same entries, or both reject with the same violations, or both fault. -/
  outcomes : ∀ data options, Attempt.Together Verdict.Reordered
    (validate env schema data options).outcome (validate env other data options).outcome
  /-- The same stage decides on a mapping. -/
  stages : ∀ data options verdict otherVerdict,
    (validate env schema (.map data) options).outcome = .ok verdict →
    (validate env other (.map data) options).outcome = .ok otherVerdict →
    ∃ stage, Record.Decided env (schema.rulesWith env options.coerce)
        (options.strict.getD schema.strict) none data options.path stage verdict ∧
      Record.Decided env (other.rulesWith env options.coerce)
        (options.strict.getD other.strict) none data options.path stage otherVerdict

/-- Without a hook, schemas that differ in the order of their fields tell the same. -/
theorem Reorders.sameUpToOrder (reorders : schema.Reorders other) (hookFree : schema.hook = none)
    (env : Environment) : schema.SameUpToOrder env other := by
  have otherHookFree : other.hook = none := by
    rw [reorders.settings]
    exact hookFree
  constructor
  case outcomes =>
    intro data options
    apply Attempt.together_of_returns
    case there => exact fun verdict validated => reorders.exists_verdict hookFree validated
    case back =>
      intro verdict validated
      obtain ⟨otherVerdict, otherValidated, _⟩ :=
        reorders.symm.exists_verdict otherHookFree validated
      exact ⟨otherVerdict, otherValidated⟩
  case stages =>
    intro data options verdict otherVerdict validated otherValidated
    have checked := verdict_of_validate validated
    have otherChecked := verdict_of_validate otherValidated
    rw [Schema.verdict, hookFree] at checked
    rw [Schema.verdict, otherHookFree] at otherChecked
    obtain ⟨stage, decided, _⟩ :=
      Record.decided_of_check (schema.rulesWith_evident env options.coerce) checked
    obtain ⟨otherStage, otherDecided, _⟩ :=
      Record.decided_of_check (other.rulesWith_evident env options.coerce) otherChecked
    have strictness : other.strict = schema.strict := by rw [reorders.settings]
    have same : stage = otherStage := by
      rw [strictness] at otherDecided
      exact Record.stage_eq_of_perm (reorders.rulesWith env options.coerce) decided otherDecided
    exact ⟨stage, decided, same ▸ otherDecided⟩

/-- A definition whose members are given in another order succeeds or not as before; and unless it
asks for a hook, the schema that it defines tells the same of all data, up to order. -/
theorem define_order_irrelevant (specs others : List Value) (permuted : specs.Perm others)
    (settings : Settings) :
    Attempt.Together (fun schema other => schema.Reorders other ∧
        (schema.hook = none → ∀ env, schema.SameUpToOrder env other))
      (define (.list specs) settings) (define (.list others) settings) := by
  apply Attempt.together_of_returns
  case there =>
    intro schema defined
    obtain ⟨other, otherDefined, reorders⟩ := define_perm permuted defined
    exact ⟨other, otherDefined, reorders, fun hookFree env => reorders.sameUpToOrder hookFree env⟩
  case back =>
    intro other defined
    obtain ⟨schema, otherDefined, _⟩ := define_perm permuted.symm defined
    exact ⟨schema, otherDefined⟩

/-- Two fields in either order, of data whose values are both wrong: the violations are reported in
the order of the fields. -/
theorem define_order_irrelevant_of_swap :
    let age : Value := .tuple [.str "age", .str "integer"]
    let note : Value := .tuple [.str "note", .str "string", .map [(.str "default", .str "none")]]
    let data : Value := .map [(.str "note", .int 7), (.str "age", .str "old")]
    let ageViolation : Violation := .wrongSort [.str "age"] "integer" "string"
    let noteViolation : Violation := .wrongSort [.str "note"] "string" "integer"
    ∃ schema other, define (.list [age, note]) {} = .ok schema ∧
      define (.list [note, age]) {} = .ok other ∧ schema.SameUpToOrder .bare other ∧
      (validate .bare schema data {}).outcome = .ok (.rejected [ageViolation, noteViolation]) ∧
      (validate .bare other data {}).outcome = .ok (.rejected [noteViolation, ageViolation]) := by
  intro age note data ageViolation noteViolation
  let ageField : Field := ⟨"age", .primitive .integer, true, [], .null, .null, .null⟩
  let noteField : Field := ⟨"note", .primitive .string, false, [], .null, .null, .str "none"⟩
  have defined : define (.list [age, note]) {} =
      .ok ⟨[ageField, noteField], .null, .null, false, none, []⟩ := rfl
  have otherDefined : define (.list [note, age]) {} =
      .ok ⟨[noteField, ageField], .null, .null, false, none, []⟩ := rfl
  have together := define_order_irrelevant [age, note] [note, age] (.swap _ _ _) {}
  rw [defined, otherDefined] at together
  cases together with
  | ok relates => exact ⟨_, _, defined, otherDefined, relates.2 rfl .bare, rfl, rfl⟩

end Schema

end Conform
