import Conform.Proofs.Rerooting
import Conform.Validation.Series

/-!
# The base path of a validation

Validating below a base path gives what validating without one gives, with every violation moved
below that path, except for the records that a hook hands out: those keep the path that the hook
gave them.  So the law holds exactly when there is no base path, no such record, or no verdict at
all.
-/

namespace Conform

/-! ## Records handed out -/

mutual

/-- The violation records that the reason of a hook holds. -/
def Value.handedRecords : Value → List Violation
  | .violation record => [record]
  | .list reasons => Value.allHandedRecords reasons
  | .tuple reasons => Value.allHandedRecords reasons
  | _ => []

/-- The violation records that several reasons hold, in order. -/
def Value.allHandedRecords : List Value → List Violation
  | [] => []
  | reason :: rest => reason.handedRecords ++ Value.allHandedRecords rest

end

/-- The violation records that a hook hands out. -/
def HookOutcome.handedRecords : HookOutcome → List Violation
  | .returned (.err reason) => reason.handedRecords
  | _ => []

/-- The violation records that the hook of a record hands out, if it is asked. -/
def Record.handedOut (env : Environment) (rules : List Rule) (strict : Bool) (hook : Option Nat)
    (value : Value) : List Violation :=
  match candidate env rules strict value [], hook with
  | .ok (.accepted record), some handle => (env.review handle record).handedRecords
  | _, _ => []

/-- The violation records that the hook of a schema hands out about data. -/
def Schema.handedOut (env : Environment) (schema : Schema) (data : Value) (coerce : Bool)
    (strict : Option Bool) : List Violation :=
  Record.handedOut env (schema.rulesWith env coerce) (strict.getD schema.strict) schema.hook data

/-! ## Violations below a root -/

/-- How violations found below a root stand to those found without it: they are the same ones moved
below the root, apart from records that were handed out. -/
structure Moved (root : Path) (handed there here : List Violation) : Prop where
  codes : there.map Violation.code = here.map Violation.code
  below : ∀ violation ∈ there, (∃ path, violation.path = root ++ path) ∨ violation ∈ handed
  exactly : there = here.map (Violation.under root) ↔ root = [] ∨ handed = []

namespace Moved

variable {root : Path} {handed there here : List Violation}

theorem of_under (root : Path) (here : List Violation) :
    Moved root [] (here.map (Violation.under root)) here where
  codes := by
    rw [List.map_map]
    rfl
  below := by
    intro violation among
    obtain ⟨moved, _, rfl⟩ := List.mem_map.mp among
    exact .inl ⟨moved.path, rfl⟩
  exactly := by simp

theorem of_record (root : Path) (record : Violation) : Moved root [record] [record] [record] where
  codes := rfl
  below := fun violation among => .inr among
  exactly := by
    constructor
    · intro same
      have paths : record.path = root ++ record.path :=
        congrArg Violation.path (List.cons.inj same).1
      exact .inl (List.self_eq_append_left.mp paths)
    · rintro (rfl | none)
      · rw [List.map_singleton, Violation.under_nil]
      · cases none

theorem length_eq (moved : Moved root handed there here) : there.length = here.length := by
  have lengths := congrArg List.length moved.codes
  rwa [List.length_map, List.length_map] at lengths

/-- Violations found one after another. -/
theorem append {handed' there' here' : List Violation} (moved : Moved root handed there here)
    (moved' : Moved root handed' there' here') :
    Moved root (handed ++ handed') (there ++ there') (here ++ here') where
  codes := by rw [List.map_append, List.map_append, moved.codes, moved'.codes]
  below := by
    intro violation among
    rcases List.mem_append.mp among with first | second
    · exact (moved.below violation first).imp_right (List.mem_append_left _)
    · exact (moved'.below violation second).imp_right (List.mem_append_right _)
  exactly := by
    constructor
    · intro same
      rw [List.map_append] at same
      have sameLength : there.length = (here.map (Violation.under root)).length := by
        rw [List.length_map, moved.length_eq]
      obtain ⟨first, second⟩ := List.append_inj same sameLength
      rcases moved.exactly.mp first with noRoot | none
      · exact .inl noRoot
      · rcases moved'.exactly.mp second with noRoot | none'
        · exact .inl noRoot
        · exact .inr (by rw [none, none', List.append_nil])
    · intro nothing
      rw [List.map_append, moved.exactly.mpr (nothing.imp_right fun none =>
        (List.append_eq_nil_iff.mp none).1), moved'.exactly.mpr (nothing.imp_right fun none =>
        (List.append_eq_nil_iff.mp none).2)]

end Moved

/-- How the reasons that a hook amounts to below a root stand to those without it. -/
inductive ReasonsMoved (root : Path) (handed : List Violation) :
    Attempt (List Violation) → Attempt (List Violation) → Prop where
  | fault (fault : Fault) : ReasonsMoved root handed (.error fault) (.error fault)
  | found {there here : List Violation} (moved : Moved root handed there here) :
      ReasonsMoved root handed (.ok there) (.ok here)

/-- How a verdict below a root stands to the one without it. -/
inductive VerdictMoved (root : Path) (handed : List Violation) :
    Attempt (Verdict Value) → Attempt (Verdict Value) → Prop where
  | fault (fault : Fault) : VerdictMoved root handed (.error fault) (.error fault)
  | accepted (result : Value) (none : handed = []) :
      VerdictMoved root handed (.ok (.accepted result)) (.ok (.accepted result))
  | rejected {there here : List Violation} (moved : Moved root handed there here) :
      VerdictMoved root handed (.ok (.rejected there)) (.ok (.rejected here))

namespace VerdictMoved

variable {root : Path} {handed : List Violation} {there here : Attempt (Verdict Value)}

theorem eq_under_iff (moved : VerdictMoved root handed there here) :
    there = here.map (Verdict.under root) ↔
      root = [] ∨ handed = [] ∨ ∃ fault, here = .error fault := by
  cases moved with
  | fault fault => simp [Except.map]
  | accepted result none => simp [Except.map, Verdict.under, none]
  | rejected moved =>
      simp [Except.map, Verdict.under, moved.exactly]

theorem of_under (root : Path) (here : Attempt (Verdict Value)) :
    VerdictMoved root [] (here.map (Verdict.under root)) here := by
  cases here with
  | error fault => exact .fault fault
  | ok verdict =>
      cases verdict with
      | accepted result => exact .accepted result rfl
      | rejected violations => exact .rejected (.of_under root violations)

end VerdictMoved

/-! ## Hooks -/

namespace Record

theorem message_moved (root : Path) (violation : Violation) :
    ReasonsMoved root [] (.ok [violation.under root]) (.ok [violation]) :=
  .found (.of_under root [violation])

theorem invalid_moved (root path : Path) (reason : Value) (leading : String) :
    ReasonsMoved root []
      (reason.literal >>= fun text => .ok [.review (root ++ path) (leading ++ text)])
      (reason.literal >>= fun text => .ok [.review path (leading ++ text)]) := by
  cases reason.literal with
  | error fault => exact .fault fault
  | ok text => exact message_moved root (.review path (leading ++ text))

mutual

theorem hookViolations_moved (root path : Path) : (reason : Value) →
    ReasonsMoved root reason.handedRecords (hookViolations (root ++ path) reason)
      (hookViolations path reason)
  | .violation record => .found (.of_record root record)
  | .str message => message_moved root (.review path message)
  | .list (first :: rest) => hookViolationsOfAll_moved root path (first :: rest)
  | .tuple (first :: rest) => hookViolationsOfAll_moved root path (first :: rest)
  | .list [] | .tuple [] | .null | .bool _ | .int _ | .float _ | .bytes _ | .bytearray _ | .set _
  | .frozenset _ | .map _ | .symbol _ | .member .. | .enumeration .. | .pattern _ | .type _
  | .spec _
  | .ok _ | .err _ | .target _ | .schema .. => invalid_moved root path _ _

/-- Several reasons of a hook amount to the same violations below a root, but for the records in
them. -/
theorem hookViolationsOfAll_moved (root path : Path) : (reasons : List Value) →
    ReasonsMoved root (Value.allHandedRecords reasons) (hookViolationsOfAll (root ++ path) reasons)
      (hookViolationsOfAll path reasons)
  | [] => .found (.of_under root [])
  | reason :: rest => by
      have first := hookViolations_moved root path reason
      have others := hookViolationsOfAll_moved root path rest
      simp only [hookViolationsOfAll, Value.allHandedRecords]
      generalize hookViolations (root ++ path) reason = there at first ⊢
      generalize hookViolations path reason = here at first ⊢
      generalize hookViolationsOfAll (root ++ path) rest = othersThere at others ⊢
      generalize hookViolationsOfAll path rest = othersHere at others ⊢
      cases first with
      | fault fault => exact .fault fault
      | found moved =>
          cases others with
          | fault fault => exact .fault fault
          | found othersMoved => exact .found (moved.append othersMoved)

end

theorem review_moved (root : Path) (account : Attempt String) (violation : String → Violation) :
    VerdictMoved root []
      (account >>= fun text => .ok (.rejected [(violation text).under root]))
      (account >>= fun text => .ok (.rejected [violation text])) := by
  cases account with
  | error fault => exact .fault fault
  | ok text => exact .rejected (.of_under root [violation text])

/-- The outcome of a hook amounts to the same verdict below a root, but for the records in it. -/
theorem concludeReview_moved (root path : Path) (outcome : HookOutcome) :
    VerdictMoved root outcome.handedRecords (concludeReview outcome (root ++ path))
      (concludeReview outcome path) := by
  cases outcome with
  | raised exception account =>
      exact review_moved root account (.failedReview path exception)
  | returned value =>
      have invalid := review_moved root value.literal fun text =>
        .review path ("post-validation hook returned an invalid result: " ++ text)
      cases value with
      | map entries => exact .accepted (.map entries) rfl
      | err reason =>
          have moved := hookViolations_moved root path reason
          simp only [concludeReview, HookOutcome.handedRecords]
          generalize hookViolations (root ++ path) reason = there at moved ⊢
          generalize hookViolations path reason = here at moved ⊢
          cases moved with
          | fault fault => exact .fault fault
          | found moved => exact .rejected moved
      | ok inner =>
          cases inner with
          | map entries => exact .accepted (.map entries) rfl
          | _ => exact invalid
      | _ => exact invalid

/-- The stages of a record give the same verdict below a root, but for the records that its hook
hands out. -/
theorem stages_moved (env : Environment) {rules : List Rule}
    (rooted : ∀ rule ∈ rules, rule.check.Rooted) (strict : Bool) (hook : Option Nat)
    (value : Value) (root : Path) :
    VerdictMoved root (handedOut env rules strict hook value)
      (stages env rules strict hook value root) (stages env rules strict hook value []) := by
  have proposed := candidate_rooted env rooted strict root value []
  rw [List.append_nil] at proposed
  simp only [stages, handedOut, proposed]
  cases candidate env rules strict value [] with
  | error fault => exact .fault fault
  | ok verdict =>
      cases verdict with
      | rejected violations => exact .rejected (.of_under root violations)
      | accepted record =>
          cases hook with
          | none => exact .accepted record rfl
          | some handle =>
              have reviewed := concludeReview_moved root [] (env.review handle record)
              rwa [List.append_nil] at reviewed

theorem codes_congr {there here : List Violation}
    (same : there.map Violation.code = here.map Violation.code) : codes there = codes here := by
  simp [codes, same]

/-- The check of a record gives the same verdict below a root, but for the records that its hook
hands out. -/
theorem check_moved (env : Environment) {rules : List Rule}
    (rooted : ∀ rule ∈ rules, rule.check.Rooted) (strict : Bool) (hook : Option Nat)
    (value : Value) (root : Path) :
    VerdictMoved root (handedOut env rules strict hook value)
      (Record.check env rules strict hook value root)
      (Record.check env rules strict hook value []) := by
  have staged := stages_moved env rooted strict hook value root
  simp only [Record.check]
  generalize stages env rules strict hook value root = there at staged ⊢
  generalize stages env rules strict hook value [] = here at staged ⊢
  cases staged with
  | fault fault => exact .fault fault
  | accepted result none => exact .accepted result none
  | @rejected there here moved =>
      simp only [Attempt.ok_bind, codes_congr moved.codes]
      cases codes here with
      | error fault => exact .fault fault
      | ok _ => exact .rejected moved

end Record

/-! ## Schemas -/

namespace Schema

theorem rulesWith_rooted (env : Environment) (coerce : Bool) (schema : Schema) :
    ∀ rule ∈ schema.rulesWith env coerce, rule.check.Rooted := by
  intro rule among
  obtain ⟨field, _, rfl⟩ := List.mem_map.mp among
  exact field.checkWith_rooted env coerce

theorem verdict_moved (env : Environment) (schema : Schema) (data : Value) (coerce : Bool)
    (strict : Option Bool) (debug : Bool) (root : Path) :
    VerdictMoved root (schema.handedOut env data coerce strict)
      (schema.verdict env data ⟨coerce, strict, root, debug⟩)
      (schema.verdict env data ⟨coerce, strict, [], debug⟩) :=
  Record.check_moved env (schema.rulesWith_rooted env coerce) _ schema.hook data root

end Schema

namespace Series

/-- Every violation lies below the index of its item, unless the hook handed it out. -/
def Below (env : Environment) (schema : Schema) (named : NamedOptions) (index : Nat)
    (item : Value) (violations : List Violation) : Prop :=
  ∀ violation ∈ violations, (∃ rest, violation.path = .int index :: rest) ∨
    ∃ options, Options.ofNamed named = .ok options ∧
      violation ∈ schema.handedOut env item options.coerce options.strict

/-- The violations of an item of a series lie below its index. -/
theorem below_of_validateItem {env : Environment} {schema : Schema} {named : NamedOptions}
    {index : Nat} {item : Value} {verdict : Verdict Value}
    (validated : (validateItem env schema named index item).outcome = .ok verdict) :
    Below env schema named index item verdict.violations := by
  rw [validateItem, Run.outcome_bind] at validated
  obtain ⟨options, read, outcome⟩ := Attempt.bind_eq_ok_iff.mp validated
  have checked := Schema.verdict_of_validate outcome
  have moved := schema.verdict_moved env item options.coerce options.strict options.debug
    (.int index :: options.path)
  rw [Options.atIndex] at checked
  rw [checked] at moved
  generalize schema.verdict env item _ = here at moved
  intro violation among
  cases moved with
  | accepted result none => cases among
  | rejected moved =>
      rcases moved.below violation among with ⟨path, lies⟩ | handed
      · exact .inl ⟨options.path ++ path, lies⟩
      · exact .inr ⟨options, read, handed⟩

/-- Validating items gives one verdict for each, which is that of the item at its index. -/
theorem validateItems_getElem? {env : Environment} {schema : Schema} {named : NamedOptions}
    {start : Nat} {items : List Value} {verdicts : List (Verdict Value)}
    (validated : (validateItems env schema named start items).outcome = .ok verdicts)
    {place : Nat} {verdict : Verdict Value} (at? : verdicts[place]? = some verdict) :
    ∃ item, items[place]? = some item ∧
      (validateItem env schema named (start + place) item).outcome = .ok verdict := by
  induction items generalizing start verdicts place with
  | nil =>
      cases validated
      cases at?
  | cons item rest ih =>
      rw [validateItems, Run.outcome_bind] at validated
      obtain ⟨first, firstValidated, others⟩ := Attempt.bind_eq_ok_iff.mp validated
      rw [Run.outcome_bind] at others
      obtain ⟨more, restValidated, joined⟩ := Attempt.bind_eq_ok_iff.mp others
      cases joined
      cases place with
      | zero =>
          cases at?
          exact ⟨item, rfl, firstValidated⟩
      | succ place =>
          obtain ⟨found, stands, outcome⟩ := ih restValidated at?
          refine ⟨found, stands, ?_⟩
          rwa [Nat.add_right_comm] at outcome

end Series

theorem SeriesVerdict.getElem?_of_failure {start : Nat} {verdicts : List (Verdict Value)}
    {failure : Nat × List Violation} (among : failure ∈ (collect start verdicts).2) :
    ∃ place, failure.1 = start + place ∧ verdicts[place]? = some (.rejected failure.2) := by
  induction verdicts generalizing start with
  | nil => cases among
  | cons verdict rest ih =>
      have later (found : failure ∈ (collect (start + 1) rest).2) :
          ∃ place, failure.1 = start + place ∧
            (verdict :: rest)[place]? = some (.rejected failure.2) := by
        obtain ⟨place, index, stands⟩ := ih found
        exact ⟨place + 1, by omega, stands⟩
      cases verdict with
      | accepted value => exact later among
      | rejected violations =>
          rcases List.mem_cons.mp among with rfl | others
          · exact ⟨0, rfl, rfl⟩
          · exact later others

theorem SeriesVerdict.failures_of_ofVerdicts {verdicts : List (Verdict Value)}
    {failures : List (Nat × List Violation)} (rejected : ofVerdicts verdicts = .rejected failures) :
    failures = (collect 0 verdicts).2 := by
  unfold ofVerdicts at rejected
  dsimp only at rejected
  split at rejected
  · cases rejected
  · exact (SeriesVerdict.rejected.inj rejected).symm

@[simp] theorem BatchResult.index_ofVerdict (index : Nat) (verdict : Verdict Value) :
    (BatchResult.ofVerdict index verdict).index = index := by
  cases verdict <;> rfl

@[simp] theorem BatchResult.violations_ofVerdict (index : Nat) (verdict : Verdict Value) :
    (BatchResult.ofVerdict index verdict).violations = verdict.violations := by
  cases verdict <;> rfl

/-- A result of a batch is that of the item at its index. -/
theorem Batch.result_of_processItems {env : Environment} {batch : Batch} {metrics after : Metrics}
    {start : Nat} {items : List Value} {results : List BatchResult}
    (processed : (processItems env batch metrics start items).outcome = .ok (results, after)) :
    ∀ result ∈ results, ∃ place item verdict, items[place]? = some item ∧
      (Series.validateItem env batch.schema batch.named (start + place) item).outcome =
        .ok verdict ∧
      result = BatchResult.ofVerdict (start + place) verdict := by
  induction items generalizing start metrics results with
  | nil =>
      cases processed
      intro item among
      cases among
  | cons item rest ih =>
      simp only [processItems, Run.outcome_bind, Run.outcome_lift] at processed
      obtain ⟨verdict, validated, others⟩ := Attempt.bind_eq_ok_iff.mp processed
      obtain ⟨_, _, others⟩ := Attempt.bind_eq_ok_iff.mp others
      obtain ⟨⟨more, _⟩, restProcessed, joined⟩ := Attempt.bind_eq_ok_iff.mp others
      cases joined
      refine List.forall_mem_cons.mpr ⟨⟨0, item, verdict, rfl, validated, rfl⟩, ?_⟩
      intro result among
      obtain ⟨place, found, itsVerdict, stands, outcome, same⟩ := ih restProcessed result among
      rw [Nat.add_right_comm] at outcome same
      exact ⟨place + 1, found, itsVerdict, stands, outcome, same⟩

/-! ## The law -/

/-- How the base path of a validation shows in what a schema reports. -/
structure Schema.BasePathLaw (env : Environment) (schema : Schema) : Prop where
  /-- Validating below a base path is validating without one and moving the violations, exactly when
  there is nothing to move, or the hook hands out no record, or there is no verdict. -/
  moves : ∀ data coerce strict root,
    (validate env schema data ⟨coerce, strict, root, false⟩).outcome =
        ((validate env schema data ⟨coerce, strict, [], false⟩).outcome).map (Verdict.under root) ↔
      root = [] ∨ schema.handedOut env data coerce strict = [] ∨
        ∃ fault, (validate env schema data ⟨coerce, strict, [], false⟩).outcome = .error fault
  /-- A reference to the schema moves the violations itself, which agrees with the base path under
  the same condition. -/
  reference : ∀ handle data root,
    (TypeSpec.ref (.schema handle schema)).check env data root =
        (validate env schema data ⟨false, none, root, false⟩).outcome ↔
      root = [] ∨ schema.handedOut env data false none = [] ∨
        ∃ fault, (validate env schema data ⟨false, none, [], false⟩).outcome = .error fault
  /-- What is reported of a member of a collection lies below its index, but for such records. -/
  many : ∀ items named failures,
    (validateMany env schema items named).outcome = .ok (.rejected failures) →
    ∀ failure ∈ failures, ∃ members item, items.elements? = some members ∧
      members[failure.1]? = some item ∧ Series.Below env schema named failure.1 item failure.2
  /-- What is reported of the next item of a stream lies below its index, but for such records. -/
  next : ∀ named pulled item rest violations,
    (Stream.next env ⟨schema, named, pulled, item :: rest⟩).2.outcome =
      .ok (some (.rejected violations)) →
    Series.Below env schema named pulled item violations
  /-- What is reported of an input of a batch lies below its index, but for such records. -/
  batch : ∀ maxConcurrent named items metrics report,
    (Batch.process env ⟨schema, maxConcurrent, named⟩ items metrics).outcome = .ok report →
    ∀ result ∈ report.results, ∃ members item, items.elements? = some members ∧
      members[result.index]? = some item ∧
      Series.Below env schema named result.index item result.violations

section

variable {env : Environment} {schema : Schema} {named : NamedOptions}

theorem Schema.check_ref (handle : Nat) (data : Value) (root : Path) :
    (TypeSpec.ref (.schema handle schema)).check env data root =
      (schema.verdict env data ⟨false, none, [], false⟩).map (Verdict.under root) := by
  rw [verdict_eq_check]
  simp only [TypeSpec.check, Value.checkAsTarget, Check.nested]
  cases schema.check env data [] with
  | error fault => rfl
  | ok verdict => cases verdict <;> rfl

theorem Series.below_of_validateMany {items : Value} {failures : List (Nat × List Violation)}
    (validated : (validateMany env schema items named).outcome = .ok (.rejected failures)) :
    ∀ failure ∈ failures, ∃ members item, items.elements? = some members ∧
      members[failure.1]? = some item ∧ Below env schema named failure.1 item failure.2 := by
  intro failure among
  simp only [validateMany, Run.outcome_bind, Run.outcome_lift] at validated
  obtain ⟨_, _, others⟩ := Attempt.bind_eq_ok_iff.mp validated
  obtain ⟨members, found, others⟩ := Attempt.bind_eq_ok_iff.mp others
  obtain ⟨verdicts, each, concluded⟩ := Attempt.bind_eq_ok_iff.mp others
  have elements : items.elements? = some members := by
    unfold Value.elements at found
    split at found
    · cases found
      assumption
    · cases found
  rw [SeriesVerdict.failures_of_ofVerdicts (Except.ok.inj concluded)] at among
  obtain ⟨place, index, stands⟩ := SeriesVerdict.getElem?_of_failure among
  obtain ⟨item, member, outcome⟩ := validateItems_getElem? each stands
  rw [← index] at outcome
  rw [Nat.zero_add] at index
  exact ⟨members, item, elements, index ▸ member, below_of_validateItem outcome⟩

theorem Stream.below_of_next {pulled : Nat} {item : Value} {rest : List Value}
    {violations : List Violation}
    (validated : (Stream.next env ⟨schema, named, pulled, item :: rest⟩).2.outcome =
      .ok (some (.rejected violations))) :
    Series.Below env schema named pulled item violations := by
  simp only [Stream.next, Run.outcome_bind] at validated
  obtain ⟨verdict, outcome, same⟩ := Attempt.bind_eq_ok_iff.mp validated
  cases same
  exact Series.below_of_validateItem outcome

theorem Batch.below_of_process {maxConcurrent items : Value} {metrics : Metrics}
    {report : BatchReport}
    (processed : (process env ⟨schema, maxConcurrent, named⟩ items metrics).outcome = .ok report) :
    ∀ result ∈ report.results, ∃ members item, items.elements? = some members ∧
      members[result.index]? = some item ∧
      Series.Below env schema named result.index item result.violations := by
  intro result among
  simp only [process, Run.outcome_bind, Run.outcome_lift] at processed
  obtain ⟨members, found, others⟩ := Attempt.bind_eq_ok_iff.mp processed
  obtain ⟨⟨results, after⟩, each, same⟩ := Attempt.bind_eq_ok_iff.mp others
  cases same
  have elements : items.elements? = some members := by
    split at found
    · cases found
      assumption
    · cases found
  obtain ⟨place, item, verdict, member, outcome, rfl⟩ := result_of_processItems each result among
  have below := Series.below_of_validateItem outcome
  rw [Nat.zero_add] at below
  rw [Nat.zero_add, BatchResult.index_ofVerdict, BatchResult.violations_ofVerdict]
  exact ⟨members, item, elements, member, below⟩

end

/-- The base path law holds of every schema. -/
theorem Schema.basePathLaw (env : Environment) (schema : Schema) : schema.BasePathLaw env where
  moves := by
    intro data coerce strict root
    simp only [outcome_validate]
    exact (schema.verdict_moved env data coerce strict false root).eq_under_iff
  reference := by
    intro handle data root
    simp only [outcome_validate, check_ref, eq_comm (a := Except.map _ _)]
    exact (schema.verdict_moved env data false none false root).eq_under_iff
  many := fun _ _ _ validated => Series.below_of_validateMany validated
  next := fun _ _ _ _ _ validated => Stream.below_of_next validated
  batch := fun _ _ _ _ _ processed => Batch.below_of_process processed

/-- The base path does not move a record that a hook hands out: the schema has one field and a hook
that finds fault with it by a record. -/
theorem Schema.validate_keeps_handed_record :
    let record : Violation := ⟨[.str "end"], .str "range", .str "end before start", .null⟩
    let env : Environment := { Environment.bare with
      review := fun _ _ => .returned (.err (.violation record)) }
    let field : Field := ⟨"end", .primitive .integer, true, [], .null, .null, .null⟩
    let schema : Schema := ⟨[field], .null, .null, false, some 0, []⟩
    let data : Value := .map [(.str "end", .int 1)]
    (validate env schema data ⟨false, none, [.int 3], false⟩).outcome ≠
      ((validate env schema data ⟨false, none, [], false⟩).outcome).map
        (Verdict.under [.int 3]) := by
  intro record env field schema data same
  have there : (validate env schema data ⟨false, none, [.int 3], false⟩).outcome =
      .ok (.rejected [record]) := rfl
  have here : (validate env schema data ⟨false, none, [], false⟩).outcome =
      .ok (.rejected [record]) := rfl
  rw [there, here] at same
  have paths := congrArg (fun verdict => verdict.violations.map Violation.path)
    (Except.ok.inj same)
  cases paths

end Conform
