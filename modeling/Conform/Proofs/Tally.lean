import Conform.Metrics
import Conform.Proofs.Keys
import Conform.Proofs.Stages

/-!
# What the metrics hold

Recording a verdict whose violations have codes that can be keys, with a latency that is within the
range of doubles, never fails, and what the counters hold afterwards depends only on how often each
thing occurred.  So the order in which verdicts are recorded makes no difference.
-/

namespace Conform

namespace Metrics

/-! ## Counts -/

/-- The number that a count stands for; none is zero. -/
def countIn : Option Value → Int
  | some (.int n) => n
  | _ => 0

/-- A count after so many more occurrences. -/
def raised (before : Option Value) (more : Nat) : Option Value :=
  if more = 0 then before else some (.int (countIn before + more))

@[simp] theorem raised_raised (before : Option Value) (first second : Nat) :
    raised (raised before first) second = raised before (first + second) := by
  by_cases none : second = 0
  · simp [raised, none]
  · by_cases fresh : first = 0
    · simp [raised, fresh]
    · simp [raised, none, fresh, countIn, Int.add_assoc]

@[simp] theorem countOf_eq (entries : Entries) (code : Value) :
    countOf entries code = countIn (entries.get? code) := rfl

/-! ## Violations -/

/-- The counters of violations were raised by what was found, and the others stayed as they were. -/
structure Counted (before after : Metrics) (found : List Violation) : Prop where
  total : after.total = before.total
  successful : after.successful = before.successful
  failed : after.failed = before.failed
  latency : after.latency = before.latency
  violations : after.violations = before.violations + found.length
  byCode : ∀ code, after.byCode.get? code =
    raised (before.byCode.get? code) (found.countP fun violation => violation.code == code)

variable {before after last : Metrics}

theorem Counted.nil (metrics : Metrics) : Counted metrics metrics [] :=
  ⟨rfl, rfl, rfl, rfl, rfl, fun _ => rfl⟩

theorem Counted.cons {violation : Violation} {found : List Violation}
    (first : Counted before after [violation]) (others : Counted after last found) :
    Counted before last (violation :: found) where
  total := others.total.trans first.total
  successful := others.successful.trans first.successful
  failed := others.failed.trans first.failed
  latency := others.latency.trans first.latency
  violations := by
    rw [others.violations, first.violations, List.length_singleton, List.length_cons, Nat.add_assoc,
      Nat.add_comm 1]
  byCode := by
    intro code
    rw [others.byCode, first.byCode, raised_raised, ← List.countP_append, List.singleton_append]

/-- A violation whose code can be a key is counted. -/
theorem countViolation_counted (metrics : Metrics) {violation : Violation}
    (hashable : violation.code.hashable = true) :
    ∃ after, metrics.countViolation (.violation violation) = (after, .ok ()) ∧
      Counted metrics after [violation] := by
  simp only [countViolation, hashable, if_true]
  refine ⟨_, rfl, rfl, rfl, rfl, rfl, rfl, ?_⟩
  intro other
  rw [Entries.get?_put _ hashable, List.countP_singleton, countOf_eq]
  cases same : violation.code == other with
  | false => rfl
  | true =>
      rw [Entries.get?_congr _ hashable same]
      rfl

/-- Violations whose codes can be keys are counted one after another. -/
theorem countViolations_counted (metrics : Metrics) {found : List Violation}
    (hashable : ∀ violation ∈ found, violation.code.hashable = true) :
    ∃ after, metrics.countViolations (found.map .violation) = (after, .ok ()) ∧
      Counted metrics after found := by
  induction found generalizing metrics with
  | nil => exact ⟨metrics, rfl, .nil metrics⟩
  | cons violation rest ih =>
      rcases List.forall_mem_cons.mp hashable with ⟨firstHashable, restHashable⟩
      rcases countViolation_counted metrics firstHashable with ⟨middle, firstDone, first⟩
      rcases ih middle restHashable with ⟨after, othersDone, others⟩
      refine ⟨after, ?_, first.cons others⟩
      simp [countViolations, firstDone, othersDone]

/-! ## Verdicts -/

/-- The counters were raised by verdicts. -/
structure Recorded (before after : Metrics) (verdicts : List (Verdict Value)) : Prop where
  total : after.total = before.total + verdicts.length
  successful : after.successful = before.successful + verdicts.countP Verdict.isAccepted
  failed : after.failed = before.failed + verdicts.countP fun verdict => !verdict.isAccepted
  violations : after.violations =
    before.violations + (verdicts.flatMap Verdict.violations).length
  byCode : ∀ code, after.byCode.get? code = raised (before.byCode.get? code)
    ((verdicts.flatMap Verdict.violations).countP fun violation => violation.code == code)

/-- Metrics hold the same counts: the totals, and those under the codes. -/
structure Agree (first second : Metrics) : Prop where
  total : first.total = second.total
  successful : first.successful = second.successful
  failed : first.failed = second.failed
  violations : first.violations = second.violations
  byCode : ∀ code, first.byCode.get? code = second.byCode.get? code

namespace Recorded

variable {verdicts others : List (Verdict Value)}

theorem nil (metrics : Metrics) : Recorded metrics metrics [] :=
  ⟨rfl, rfl, rfl, rfl, fun _ => rfl⟩

theorem append (first : Recorded before after verdicts) (second : Recorded after last others) :
    Recorded before last (verdicts ++ others) where
  total := by rw [second.total, first.total, List.length_append, Nat.add_assoc]
  successful := by rw [second.successful, first.successful, List.countP_append, Nat.add_assoc]
  failed := by rw [second.failed, first.failed, List.countP_append, Nat.add_assoc]
  violations := by
    rw [second.violations, first.violations, List.flatMap_append, List.length_append,
      Nat.add_assoc]
  byCode := by
    intro code
    rw [second.byCode, first.byCode, raised_raised, List.flatMap_append, List.countP_append]

theorem perm (recorded : Recorded before after verdicts) (same : verdicts.Perm others) :
    Recorded before after others where
  total := same.length_eq ▸ recorded.total
  successful := same.countP_eq _ ▸ recorded.successful
  failed := same.countP_eq _ ▸ recorded.failed
  violations := (same.flatMap_right _).length_eq ▸ recorded.violations
  byCode := by
    intro code
    rw [recorded.byCode, (same.flatMap_right _).countP_eq]

theorem agree {other : Metrics} (one : Recorded before after verdicts)
    (two : Recorded before other verdicts) : Agree after other where
  total := one.total.trans two.total.symm
  successful := one.successful.trans two.successful.symm
  failed := one.failed.trans two.failed.symm
  violations := one.violations.trans two.violations.symm
  byCode code := (one.byCode code).trans (two.byCode code).symm

end Recorded

/-- A verdict whose violations have codes that can be keys is recorded with its latency. -/
theorem record_recorded (metrics : Metrics) {verdict : Verdict Value}
    (hashable : ∀ violation ∈ verdict.violations, violation.code.hashable = true) {latency : Value}
    {duration : Double} (lasted : latencyOf latency = .ok duration) :
    ∃ after, metrics.record (resultOf verdict) latency = (after, .ok ()) ∧
      Recorded metrics after [verdict] ∧ after.latency = metrics.latency.add duration := by
  simp only [record, lasted]
  cases verdict with
  | accepted value => exact ⟨_, rfl, ⟨rfl, rfl, rfl, rfl, fun _ => rfl⟩, rfl⟩
  | rejected found =>
      rcases countViolations_counted { metrics with
          total := metrics.total + 1
          latency := metrics.latency.add duration
          failed := metrics.failed + 1 } hashable with ⟨after, done, counted⟩
      refine ⟨after, done, ⟨counted.total, counted.successful, counted.failed, ?_, ?_⟩,
        counted.latency⟩
      · rw [List.flatMap_singleton]
        exact counted.violations
      · rw [List.flatMap_singleton]
        exact counted.byCode

/-- A verdict whose violations have codes that are text is recorded. -/
theorem recordVerdict_recorded (metrics : Metrics) {verdict : Verdict Value}
    (coded : ∀ violation ∈ verdict.violations, violation.HasTextCode) :
    ∃ after, metrics.recordVerdict verdict = (after, .ok ()) ∧
      Recorded metrics after [verdict] := by
  have hashable : ∀ violation ∈ verdict.violations, violation.code.hashable = true := by
    intro violation among
    rcases coded violation among with ⟨code, same⟩
    rw [same]
    rfl
  have lasted : latencyOf (.float .zero) = .ok .zero := rfl
  rcases metrics.record_recorded hashable lasted with ⟨after, done, recorded, _⟩
  exact ⟨after, done, recorded⟩

end Metrics

end Conform
