import Conform.Proofs.Tally

/-!
# Counters over whole runs

Validations are recorded one after another, and now and then the counters are reset.  After every
step the counters say what was recorded since the last reset: how many validations there were, how
they ended, and how many violations of each code they found.  A validation whose latency is beyond
the range of doubles is the one exception: it is counted among all validations and nowhere else.
-/

namespace Conform

namespace Metrics

/-! ## Runs -/

/-- A validation as it is recorded: its verdict, whose violations have codes that can be keys, and
how long it took. -/
structure Recording where
  verdict : Verdict Value
  latency : Value
  hashable : ∀ violation ∈ verdict.violations, violation.code.hashable = true

namespace Recording

/-- The latency as a double, if it is a number within the range of doubles. -/
def duration? (recording : Recording) : Option Double := (latencyOf recording.latency).toOption

/-- Whether the latency is a number within the range of doubles. -/
def fits (recording : Recording) : Bool := recording.duration?.isSome

/-- Whether the validation succeeded. -/
def succeeds (recording : Recording) : Bool := recording.verdict.isAccepted

end Recording

/-- What is done to metrics. -/
inductive Action where
  | record (recording : Recording)
  | reset

/-- The metrics after an action, whether or not it ends in a fault. -/
def act (metrics : Metrics) : Action → Metrics
  | .record recording => (metrics.record (resultOf recording.verdict) recording.latency).1
  | .reset => metrics.reset

/-- Fresh metrics after actions. -/
def run (actions : List Action) : Metrics := actions.foldl act {}

/-- The recordings since the last reset, after an action. -/
def logAfter (log : List Recording) : Action → List Recording
  | .record recording => log ++ [recording]
  | .reset => []

/-- The recordings since the last reset among actions. -/
def sinceReset (actions : List Action) : List Recording := actions.foldl logAfter []

/-- The violations that recordings found. -/
def found (log : List Recording) : List Violation :=
  log.flatMap fun recording => recording.verdict.violations

/-- How many violations of a code recordings found. -/
def occurrences (log : List Recording) (code : Value) : Nat :=
  (found log).countP fun violation => violation.code == code

@[simp] theorem found_append (log : List Recording) (recording : Recording) :
    found (log ++ [recording]) = found log ++ recording.verdict.violations := by
  simp [found]

@[simp] theorem occurrences_append (log : List Recording) (recording : Recording) (code : Value) :
    occurrences (log ++ [recording]) code = occurrences log code +
      recording.verdict.violations.countP fun violation => violation.code == code := by
  rw [occurrences, found_append, List.countP_append, occurrences]

/-! ## Counts under codes -/

@[simp] theorem raised_none (more : Nat) :
    raised none more = if more = 0 then none else some (.int more) := by
  simp [raised, countIn]

/-- Entries hold positive counts, which add up to a number. -/
inductive AddUp : Entries → Nat → Prop
  | nil : AddUp [] 0
  | cons (key : Value) (count : Nat) {rest : Entries} {sum : Nat} (positive : 0 < count)
      (others : AddUp rest sum) : AddUp ((key, .int count) :: rest) (count + sum)

/-- One more occurrence of a key adds one to the sum. -/
theorem AddUp.put {entries : Entries} {sum : Nat} (adds : AddUp entries sum) (key : Value) :
    AddUp (entries.put key (.int (countOf entries key + 1))) (sum + 1) := by
  induction adds with
  | nil => exact .cons key 1 Nat.one_pos .nil
  | @cons k count rest sum positive others ih =>
      have here : countOf ((k, .int count) :: rest) key =
          if k == key then (count : Int) else countOf rest key := by
        simp only [countOf, Entries.get?, List.find?_cons]
        cases k == key <;> rfl
      rw [Entries.put, here]
      split
      case isTrue =>
        have raised := AddUp.cons k (count + 1) (Nat.succ_pos count) others
        rwa [Nat.add_right_comm] at raised
      case isFalse =>
        rw [Nat.add_assoc]
        exact .cons k count positive ih

theorem AddUp.countViolations {metrics : Metrics} {sum : Nat} (adds : AddUp metrics.byCode sum)
    {violations : List Violation}
    (hashable : ∀ violation ∈ violations, violation.code.hashable = true) :
    AddUp (metrics.countViolations (violations.map .violation)).1.byCode
      (sum + violations.length) := by
  induction violations generalizing metrics sum with
  | nil => exact adds
  | cons violation rest ih =>
      obtain ⟨first, others⟩ := List.forall_mem_cons.mp hashable
      simp only [List.map_cons, Metrics.countViolations, countViolation, first, if_true]
      rw [List.length_cons, Nat.add_comm rest.length, ← Nat.add_assoc]
      exact ih (adds.put violation.code) others

/-- Recording keeps the sum of the counts. -/
theorem AddUp.record {metrics : Metrics} (adds : AddUp metrics.byCode metrics.violations)
    (recording : Recording) :
    AddUp (metrics.act (.record recording)).byCode
      (metrics.act (.record recording)).violations := by
  obtain ⟨verdict, latency, hashable⟩ := recording
  simp only [act, Metrics.record]
  cases latencyOf latency with
  | error fault => exact adds
  | ok duration =>
      cases verdict with
      | accepted value => exact adds
      | rejected found =>
          let failing : Metrics := { metrics with
            total := metrics.total + 1
            latency := metrics.latency.add duration
            failed := metrics.failed + 1 }
          obtain ⟨after, done, counted⟩ := @countViolations_counted failing found hashable
          have sums := @AddUp.countViolations failing metrics.violations adds found hashable
          change AddUp (failing.countViolations (found.map .violation)).1.byCode
            (failing.countViolations (found.map .violation)).1.violations
          rw [done] at sums ⊢
          rwa [counted.violations]

/-! ## Steps -/

@[simp] theorem Recording.latencyOf_eq_ok_iff (recording : Recording) {duration : Double} :
    latencyOf recording.latency = .ok duration ↔ recording.duration? = some duration := by
  rw [duration?]
  cases latencyOf recording.latency <;> simp [Except.toOption]

theorem act_of_not_fits (metrics : Metrics) {recording : Recording}
    (beyond : recording.fits = false) :
    metrics.act (.record recording) = { metrics with total := metrics.total + 1 } := by
  rw [Recording.fits, Option.isSome_eq_false_iff, Option.isNone_iff_eq_none] at beyond
  rw [act, record]
  cases lasted : latencyOf recording.latency with
  | error fault => rfl
  | ok duration => cases beyond.symm.trans (recording.latencyOf_eq_ok_iff.mp lasted)

theorem act_of_fits (metrics : Metrics) {recording : Recording} {duration : Double}
    (lasted : recording.duration? = some duration) :
    Recorded metrics (metrics.act (.record recording)) [recording.verdict] ∧
      (metrics.act (.record recording)).latency = metrics.latency.add duration := by
  obtain ⟨after, done, recorded, latency⟩ :=
    metrics.record_recorded recording.hashable (recording.latencyOf_eq_ok_iff.mpr lasted)
  rw [act, done]
  exact ⟨recorded, latency⟩

/-- The counters say what a log holds. -/
structure Sums (metrics : Metrics) (log : List Recording) : Prop where
  total : metrics.total = log.length
  successful : metrics.successful = (log.filter Recording.fits).countP Recording.succeeds
  failed : metrics.failed =
    (log.filter Recording.fits).countP fun recording => !recording.succeeds
  violations : metrics.violations = (found (log.filter Recording.fits)).length
  positive : AddUp metrics.byCode metrics.violations
  byCode : ∀ code, metrics.byCode.get? code =
    if occurrences (log.filter Recording.fits) code = 0 then none
    else some (.int (occurrences (log.filter Recording.fits) code))
  latency : metrics.latency = (log.filterMap Recording.duration?).foldl Double.add .zero

namespace Sums

variable {metrics : Metrics} {log : List Recording}

theorem fresh : Sums {} [] := ⟨rfl, rfl, rfl, rfl, .nil, fun _ => rfl, rfl⟩

theorem reset (metrics : Metrics) : Sums (metrics.act .reset) [] :=
  ⟨rfl, rfl, rfl, rfl, .nil, fun _ => rfl, rfl⟩

/-- A recording that is counted among all validations only. -/
theorem record_of_not_fits (sums : Sums metrics log) {recording : Recording}
    (beyond : recording.duration? = none) :
    Sums (metrics.act (.record recording)) (log ++ [recording]) := by
  have outside : ¬ recording.fits = true := by simp [Recording.fits, beyond]
  have counted : (log ++ [recording]).filter Recording.fits = log.filter Recording.fits := by
    rw [List.filter_append, List.filter_cons_of_neg outside, List.filter_nil, List.append_nil]
  have durations : (log ++ [recording]).filterMap Recording.duration? =
      log.filterMap Recording.duration? := by
    rw [List.filterMap_append, List.filterMap_cons_none beyond, List.filterMap_nil, List.append_nil]
  rw [metrics.act_of_not_fits (Bool.eq_false_iff.mpr outside)]
  constructor
  case total => rw [List.length_append, sums.total, List.length_singleton]
  case successful => rw [counted, sums.successful]
  case failed => rw [counted, sums.failed]
  case violations => rw [counted, sums.violations]
  case positive => exact sums.positive
  case byCode => rw [counted]; exact sums.byCode
  case latency => rw [durations, sums.latency]

/-- A recording that is counted with its verdict. -/
theorem record_of_fits (sums : Sums metrics log) {recording : Recording} {duration : Double}
    (lasted : recording.duration? = some duration) :
    Sums (metrics.act (.record recording)) (log ++ [recording]) := by
  have within : recording.fits = true := by simp [Recording.fits, lasted]
  have counted : (log ++ [recording]).filter Recording.fits =
      log.filter Recording.fits ++ [recording] := by
    rw [List.filter_append, List.filter_cons_of_pos within, List.filter_nil]
  have durations : (log ++ [recording]).filterMap Recording.duration? =
      log.filterMap Recording.duration? ++ [duration] := by
    rw [List.filterMap_append, List.filterMap_cons_some lasted, List.filterMap_nil]
  obtain ⟨recorded, latency⟩ := metrics.act_of_fits lasted
  constructor
  case total => rw [recorded.total, sums.total, List.length_append]; rfl
  case successful =>
    rw [recorded.successful, sums.successful, counted, List.countP_append, List.countP_singleton,
      List.countP_singleton, Recording.succeeds]
  case failed =>
    rw [recorded.failed, sums.failed, counted, List.countP_append, List.countP_singleton,
      List.countP_singleton, Recording.succeeds]
  case violations =>
    rw [recorded.violations, sums.violations, counted, found_append, List.length_append,
      List.flatMap_singleton]
  case positive => exact sums.positive.record recording
  case byCode =>
    intro code
    rw [recorded.byCode, sums.byCode, counted, occurrences_append, List.flatMap_singleton,
      ← raised_none, ← raised_none, raised_raised]
  case latency =>
    rw [latency, sums.latency, durations, List.foldl_append, List.foldl_cons, List.foldl_nil]

theorem act (sums : Sums metrics log) (action : Action) :
    Sums (metrics.act action) (logAfter log action) := by
  cases action with
  | reset => exact Sums.reset metrics
  | record recording =>
      cases lasted : recording.duration? with
      | none => exact sums.record_of_not_fits lasted
      | some duration => exact sums.record_of_fits lasted

theorem foldl (sums : Sums metrics log) (actions : List Action) :
    Sums (actions.foldl Metrics.act metrics) (actions.foldl logAfter log) := by
  induction actions generalizing metrics log with
  | nil => exact sums
  | cons action rest ih => exact ih (sums.act action)

theorem settled_iff (sums : Sums metrics log) :
    metrics.successful + metrics.failed = metrics.total ↔
      ∀ recording ∈ log, recording.fits = true := by
  have settled : metrics.successful + metrics.failed = (log.filter Recording.fits).length := by
    rw [sums.successful, sums.failed, List.length_eq_countP_add_countP Recording.succeeds]
    congr 2
    funext recording
    simp
  rw [settled, sums.total, List.length_filter_eq_length_iff]

theorem agree {others : List Recording} {other : Metrics} (sums : Sums metrics log)
    (otherSums : Sums other others) (same : log.Perm others) : Agree metrics other := by
  have counted := same.filter Recording.fits
  have violations : (found (log.filter Recording.fits)).Perm
    (found (others.filter Recording.fits)) :=
    counted.flatMap_right _
  constructor
  case total => rw [sums.total, otherSums.total, same.length_eq]
  case successful => rw [sums.successful, otherSums.successful, counted.countP_eq]
  case failed => rw [sums.failed, otherSums.failed, counted.countP_eq]
  case violations => rw [sums.violations, otherSums.violations, violations.length_eq]
  case byCode =>
    intro code
    rw [sums.byCode, otherSums.byCode, occurrences, occurrences, violations.countP_eq]

end Sums

/-! ## The law -/

/-- After any actions the counters say what was recorded since the last reset.  Successes and
failures are all validations exactly when no latency since then is beyond the range of doubles, and
the order of the recordings makes no difference to the counts. -/
theorem run_sums (actions : List Action) :
    (run actions).Sums (sinceReset actions) ∧
      ((run actions).successful + (run actions).failed = (run actions).total ↔
        ∀ recording ∈ sinceReset actions, recording.fits = true) ∧
      ∀ others, (sinceReset actions).Perm (sinceReset others) →
        Agree (run actions) (run others) := by
  have sums (actions : List Action) : (run actions).Sums (sinceReset actions) :=
    Sums.fresh.foldl actions
  exact ⟨sums actions, (sums actions).settled_iff,
    fun others same => (sums actions).agree (sums others) same⟩

/-- Two runs that record the same since the last reset, in two orders; two of the codes are
equal. -/
theorem run_sums_of_two_orders :
    let accepted : Recording := ⟨.accepted (.map []), .float .zero, List.forall_mem_nil _⟩
    let rejected : Recording := ⟨.rejected [.plain [] "type" "wrong", ⟨[], .int 1, .null, .null⟩,
      ⟨[], .bool true, .null, .null⟩], .float .zero, by simp [Verdict.violations]; decide⟩
    let actions : List Action :=
      [.record rejected, .reset, .record accepted, .record rejected]
    let others : List Action := [.record rejected, .record accepted]
    (sinceReset actions).Perm (sinceReset others) ∧ Agree (run actions) (run others) ∧
      (run actions).successful + (run actions).failed = (run actions).total ∧
      (run actions).byCode.get? (.bool true) = some (.int 2) := by
  intro accepted rejected actions others
  have same : (sinceReset actions).Perm (sinceReset others) := List.Perm.swap _ _ _
  obtain ⟨sums, settled, agree⟩ := run_sums actions
  have fit : ∀ recording ∈ sinceReset actions, recording.fits = true :=
    List.forall_mem_cons.mpr ⟨rfl, List.forall_mem_singleton.mpr rfl⟩
  exact ⟨same, agree others same, settled.mpr fit, sums.byCode (.bool true)⟩

/-- A whole number can be beyond the range of doubles, and a validation that is recorded with it is
neither a success nor a failure. -/
theorem run_unsettled_of_huge_latency :
    ¬ ∀ actions : List Action,
      (∀ recording ∈ sinceReset actions, recording.latency.numeric?.isSome = true) →
      (run actions).successful + (run actions).failed = (run actions).total := by
  intro settled
  let huge : Recording := ⟨.accepted (.map []), .int (10 ^ 400), List.forall_mem_nil _⟩
  have numeric : ∀ recording ∈ sinceReset [.record huge],
      recording.latency.numeric?.isSome = true := List.forall_mem_singleton.mpr rfl
  have sums : (run [.record huge]).Sums [huge] := Sums.fresh.foldl _
  have fits : huge.fits = true :=
    sums.settled_iff.mp (settled _ numeric) huge (List.mem_singleton.mpr rfl)
  have beyond : huge.fits = false := by decide +kernel
  cases beyond.symm.trans fits

end Metrics

end Conform
