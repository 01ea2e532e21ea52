import Conform.Proofs.Retention
import Conform.Proofs.Tally

/-!
# Three ways through a series

A series of inputs can be validated all at once, one at a time on demand, or as a batch.  If every
input has a verdict, all three give these verdicts, each in its own form.
-/

namespace Conform

/-! ## Options -/

namespace Options

theorem name_of_read {named : NamedOptions} {options result : Options}
    (found : options.read named = .ok result) :
    ∀ option ∈ named, option.1 ∈ ["coerce", "strict", "path", "debug"] := by
  fun_induction read options named with
  | case1 options => exact List.forall_mem_nil _
  | case2 options value rest ih | case3 options value rest ih | case5 options value rest ih =>
      exact List.forall_mem_cons.mpr ⟨by simp, ih found⟩
  | case4 options value rest ih =>
      rcases Attempt.bind_eq_ok_iff.mp found with ⟨path, _, others⟩
      exact List.forall_mem_cons.mpr ⟨by simp, ih path others⟩
  | case6 => cases found

theorem refuseRepeated_of_ofNamed {named : NamedOptions} {options : Options}
    (found : ofNamed named = .ok options) {names : List String}
    (others : ∀ name ∈ names, name ∉ ["coerce", "strict", "path", "debug"]) :
    refuseRepeated names named = .ok () := by
  rw [refuseRepeated, if_neg]
  intro repeated
  rcases List.any_eq_true.mp repeated with ⟨option, among, shared⟩
  exact others option.1 (List.contains_iff_mem.mp shared) (name_of_read found option among)

end Options

/-! ## Verdicts on the inputs of a series -/

/-- The violations of a check that reaches a verdict have codes that are text. -/
theorem Record.coded_of_check {env : Environment} {rules : List Rule} {strict : Bool}
    {hook : Option Nat} {value : Value} {path : Path} {verdict : Verdict Value}
    (checked : Record.check env rules strict hook value path = .ok verdict) :
    ∀ violation ∈ verdict.violations, violation.HasTextCode := by
  rcases Attempt.bind_eq_ok_iff.mp checked with ⟨staged, _, concluded⟩
  cases staged with
  | accepted result =>
      cases concluded
      exact List.forall_mem_nil _
  | rejected violations =>
      rcases Attempt.bind_eq_ok_iff.mp concluded with ⟨texts, summed, same⟩
      cases same
      exact exists_codes_iff.mp ⟨texts, summed⟩

namespace Series

variable {env : Environment} {schema : Schema} {named : NamedOptions} {start : Nat}
  {items : List Value} {verdicts : List (Verdict Value)}

@[simp] theorem outcome_validateItem {options : Options}
    (found : Options.ofNamed named = .ok options) (index : Nat) (item : Value) :
    (validateItem env schema named index item).outcome =
      (validate env schema item { options with path := .int index :: options.path }).outcome := by
  simp [validateItem, found, Options.atIndex]

theorem sound_of_validateItem {index : Nat} {item : Value} {verdict : Verdict Value}
    (validated : (validateItem env schema named index item).outcome = .ok verdict) :
    (∀ violation ∈ verdict.violations, violation.HasTextCode) ∧ verdict ≠ .rejected [] := by
  rw [validateItem, Run.outcome_bind] at validated
  rcases Attempt.bind_eq_ok_iff.mp validated with ⟨options, _, outcome⟩
  constructor
  · exact Record.coded_of_check (Schema.verdict_of_validate outcome)
  · rintro rfl
    exact Schema.outcome_validate_evident env schema item _ outcome

theorem validateItems_cons {item : Value} {rest : List Value} :
    (validateItems env schema named start (item :: rest)).outcome = .ok verdicts ↔
      ∃ first others, (validateItem env schema named start item).outcome = .ok first ∧
        (validateItems env schema named (start + 1) rest).outcome = .ok others ∧
        verdicts = first :: others := by
  simp only [validateItems, Run.outcome_bind, Run.outcome_pure, Attempt.bind_eq_ok_iff,
    Except.ok.injEq]
  constructor
  · rintro ⟨first, itsOutcome, others, restOutcome, rfl⟩
    exact ⟨first, others, itsOutcome, restOutcome, rfl⟩
  · rintro ⟨first, others, itsOutcome, restOutcome, rfl⟩
    exact ⟨first, itsOutcome, others, restOutcome, rfl⟩

/-- Inputs that all have verdicts are validated in order. -/
theorem exists_verdicts (each : ∀ place item, items[place]? = some item →
      ∃ verdict, (validateItem env schema named (start + place) item).outcome = .ok verdict) :
    ∃ verdicts, (validateItems env schema named start items).outcome = .ok verdicts := by
  induction items generalizing start with
  | nil => exact ⟨[], rfl⟩
  | cons item rest ih =>
      rcases each 0 item rfl with ⟨verdict, validated⟩
      have others : ∃ verdicts,
          (validateItems env schema named (start + 1) rest).outcome = .ok verdicts := by
        apply ih
        intro place later found
        rcases each (place + 1) later found with ⟨verdict, validated⟩
        exact ⟨verdict, by rwa [Nat.add_right_comm, Nat.add_assoc]⟩
      rcases others with ⟨verdicts, restValidated⟩
      exact ⟨_, validateItems_cons.mpr ⟨verdict, verdicts, validated, restValidated, rfl⟩⟩

theorem length_verdicts
    (validated : (validateItems env schema named start items).outcome = .ok verdicts) :
    verdicts.length = items.length := by
  induction items generalizing start verdicts with
  | nil =>
      cases validated
      rfl
  | cons item rest ih =>
      rcases validateItems_cons.mp validated with ⟨_, others, _, restValidated, rfl⟩
      exact congrArg Nat.succ (ih restValidated)

theorem getElem?_verdicts
    (validated : (validateItems env schema named start items).outcome = .ok verdicts) {place : Nat}
    {item : Value} (found : items[place]? = some item) :
    ∃ verdict, verdicts[place]? = some verdict ∧
      (validateItem env schema named (start + place) item).outcome = .ok verdict := by
  have inside : place < verdicts.length := by
    rw [length_verdicts validated]
    exact (List.getElem?_eq_some_iff.mp found).1
  refine ⟨verdicts[place], List.getElem?_eq_getElem inside, ?_⟩
  rcases validateItems_getElem? validated (List.getElem?_eq_getElem inside) with
    ⟨other, same, outcome⟩
  cases found.symm.trans same
  exact outcome

theorem sound_of_mem_verdicts
    (validated : (validateItems env schema named start items).outcome = .ok verdicts) :
    ∀ verdict ∈ verdicts,
      (∀ violation ∈ verdict.violations, violation.HasTextCode) ∧ verdict ≠ .rejected [] := by
  intro verdict among
  rcases List.mem_iff_getElem?.mp among with ⟨place, stands⟩
  rcases validateItems_getElem? validated stands with ⟨item, _, outcome⟩
  exact sound_of_validateItem outcome

end Series

/-! ## Batches, one input after another -/

namespace BatchResult

/-- The results of inputs, given the verdicts on them, from an index on. -/
def ofVerdicts : Nat → List (Verdict Value) → List BatchResult
  | _, [] => []
  | index, verdict :: rest => ofVerdict index verdict :: ofVerdicts (index + 1) rest

@[simp] theorem getElem?_ofVerdicts (start place : Nat) (verdicts : List (Verdict Value)) :
    (ofVerdicts start verdicts)[place]? = verdicts[place]?.map (ofVerdict (start + place)) := by
  induction verdicts generalizing start place with
  | nil => rfl
  | cons verdict rest ih =>
      cases place with
      | zero => rfl
      | succ place =>
          simp [ofVerdicts, ih, Nat.add_assoc, Nat.add_comm 1]

@[simp] theorem length_ofVerdicts (start : Nat) (verdicts : List (Verdict Value)) :
    (ofVerdicts start verdicts).length = verdicts.length := by
  induction verdicts generalizing start with
  | nil => rfl
  | cons verdict rest ih => simp [ofVerdicts, ih]

end BatchResult

/-- A batch whose inputs all have verdicts gives the results of these, and its metrics hold them. -/
theorem Batch.processItems_of_verdicts {env : Environment} (batch : Batch) {start : Nat}
    {items : List Value} {verdicts : List (Verdict Value)} (metrics : Metrics)
    (validated : (Series.validateItems env batch.schema batch.named start items).outcome =
      .ok verdicts) :
    ∃ after, (processItems env batch metrics start items).outcome =
        .ok (BatchResult.ofVerdicts start verdicts, after) ∧
      metrics.Recorded after verdicts := by
  induction items generalizing start verdicts metrics with
  | nil =>
      cases validated
      exact ⟨metrics, rfl, .nil metrics⟩
  | cons item rest ih =>
      rcases Series.validateItems_cons.mp validated with
        ⟨verdict, others, itemValidated, restValidated, rfl⟩
      rcases metrics.recordVerdict_recorded (Series.sound_of_validateItem itemValidated).1 with
        ⟨middle, done, first⟩
      rcases ih middle restValidated with ⟨after, processed, recorded⟩
      refine ⟨after, ?_, first.append recorded⟩
      simp [processItems, itemValidated, done, processed, BatchResult.ofVerdicts]

/-! ## Series as a whole -/

namespace SeriesVerdict

/-- The accepted values and the failures of a series are those of the results of a batch. -/
theorem collect_eq {verdicts : List (Verdict Value)}
    (evident : ∀ verdict ∈ verdicts, verdict ≠ .rejected []) (start : Nat) :
    collect start verdicts =
      (((BatchResult.ofVerdicts start verdicts).filter BatchResult.success).map BatchResult.data,
        ((BatchResult.ofVerdicts start verdicts).filter fun result => !result.success).map
          fun result => (result.index, result.violations)) := by
  induction verdicts generalizing start with
  | nil => rfl
  | cons verdict rest ih =>
      rcases List.forall_mem_cons.mp evident with ⟨first, others⟩
      simp only [collect, ih others, BatchResult.ofVerdicts, List.filter_cons]
      cases verdict with
      | accepted value => rfl
      | rejected violations =>
          cases violations with
          | nil => exact absurd rfl first
          | cons violation more => rfl

/-- A series is accepted when all results of a batch are successes, and is otherwise rejected for
those that are none. -/
theorem ofVerdicts_eq {verdicts : List (Verdict Value)}
    (evident : ∀ verdict ∈ verdicts, verdict ≠ .rejected []) {results : List BatchResult}
    (same : results = BatchResult.ofVerdicts 0 verdicts) :
    ofVerdicts verdicts =
      if results.all BatchResult.success then .accepted (results.map BatchResult.data)
      else .rejected ((results.filter fun result => !result.success).map
        fun result => (result.index, result.violations)) := by
  subst same
  simp only [ofVerdicts, collect_eq evident]
  by_cases every : (BatchResult.ofVerdicts 0 verdicts).all BatchResult.success = true
  case pos =>
    have kept := List.filter_eq_self.mpr (List.all_eq_true.mp every)
    have none :
        (BatchResult.ofVerdicts 0 verdicts).filter (fun result => !result.success) = [] := by
      apply List.filter_eq_nil_iff.mpr
      intro result among
      simp [List.all_eq_true.mp every result among]
    simp [every, kept, none]
  case neg =>
    have some :
        (BatchResult.ofVerdicts 0 verdicts).filter (fun result => !result.success) ≠ [] := by
      intro none
      apply every
      apply List.all_eq_true.mpr
      intro result among
      simpa using List.filter_eq_nil_iff.mp none result among
    simp [every, some]

end SeriesVerdict

/-! ## Series on demand -/

namespace Stream

/-- A stream after so many inputs were taken from it. -/
def advance (env : Environment) : Nat → Stream → Stream
  | 0, stream => stream
  | count + 1, stream => advance env count (stream.next env).1

variable {env : Environment} {schema : Schema} {named : NamedOptions}

@[simp] theorem advance_of_end (pulled count : Nat) :
    advance env count ⟨schema, named, pulled, []⟩ = ⟨schema, named, pulled, []⟩ := by
  induction count with
  | zero => rfl
  | succ count ih => exact ih

/-- A stream whose inputs all have verdicts gives these in order, and nothing after the last one. -/
theorem outcome_next_advance {pulled : Nat} {items : List Value} {verdicts : List (Verdict Value)}
    (validated : (Series.validateItems env schema named pulled items).outcome = .ok verdicts)
    (count : Nat) :
    ((advance env count ⟨schema, named, pulled, items⟩).next env).2.outcome =
      .ok verdicts[count]? := by
  induction items generalizing pulled verdicts count with
  | nil =>
      cases validated
      rw [advance_of_end]
      rfl
  | cons item rest ih =>
      rcases Series.validateItems_cons.mp validated with
        ⟨verdict, others, itemValidated, restValidated, rfl⟩
      cases count with
      | zero =>
          simp [advance, next, itemValidated]
      | succ count =>
          have moved : (next env ⟨schema, named, pulled, item :: rest⟩).1 =
              ⟨schema, named, pulled + 1, rest⟩ := by
            simp [next, itemValidated]
          rw [advance, moved]
          exact ih restValidated count

end Stream

end Conform
