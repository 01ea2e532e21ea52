import Conform.Proofs.Counters

/-!
# Records that fail

Recording counts step by step, and there are four points at which a fault can leave it: the latency
need not be a number within the range of doubles, the result need not be one, the payload of a
failure need not have members, and a member need not be a violation whose code can be a key.  What
was counted up to there stays counted.  So a record that fails never leaves the counters as they
were, and the sums of the counters miss what the records that failed did not come to count.
-/

namespace Conform

namespace Metrics

/-! ## Members that cannot be counted -/

/-- Whether a member of a payload can be counted: a violation whose code can be a key. -/
def isCountable : Value → Bool
  | .violation violation => violation.code.hashable
  | _ => false

/-- Why a member that cannot be counted is not. -/
def memberFault : Value → Fault
  | .violation _ => .unhashable
  | _ => .missingAttribute

theorem countViolation_of_not_countable (metrics : Metrics) {member : Value}
    (uncountable : isCountable member = false) : metrics.countViolation member =
      ({ metrics with violations := metrics.violations + 1 }, .error (memberFault member)) := by
  cases member with
  | violation violation =>
      have unhashable : violation.code.hashable = false := uncountable
      simp [countViolation, unhashable, memberFault]
  | _ => rfl

/-- Members are counted after those in front of them. -/
theorem countViolations_append {metrics middle : Metrics} {front : List Value}
    (counted : metrics.countViolations front = (middle, .ok ())) (rest : List Value) :
    metrics.countViolations (front ++ rest) = middle.countViolations rest := by
  induction front generalizing metrics with
  | nil =>
      cases counted
      rfl
  | cons member others ih =>
      simp only [List.cons_append, countViolations] at counted ⊢
      split at counted
      case h_1 next done => simpa only [done] using ih counted
      case h_2 => cases counted

/-- All members can be counted, or one of them cannot after some that can. -/
theorem countable_or_first_uncountable (members : List Value) :
    (∃ seen : List Violation, members = seen.map .violation ∧
        ∀ violation ∈ seen, violation.code.hashable = true) ∨
      ∃ (seen : List Violation) (member : Value) (rest : List Value),
        members = seen.map .violation ++ member :: rest ∧
        (∀ violation ∈ seen, violation.code.hashable = true) ∧ isCountable member = false := by
  induction members with
  | nil => exact .inl ⟨[], rfl, List.forall_mem_nil _⟩
  | cons first others ih =>
      cases countable : isCountable first with
      | false => exact .inr ⟨[], first, others, rfl, List.forall_mem_nil _, countable⟩
      | true =>
          obtain ⟨violation, rfl⟩ : ∃ violation, first = .violation violation := by
            cases first with
            | violation violation => exact ⟨violation, rfl⟩
            | _ => cases countable
          rcases ih with ⟨seen, rfl, hashable⟩ | ⟨seen, member, rest, rfl, hashable, uncountable⟩
          · exact .inl ⟨violation :: seen, rfl, List.forall_mem_cons.mpr ⟨countable, hashable⟩⟩
          · exact .inr ⟨violation :: seen, member, rest, rfl,
              List.forall_mem_cons.mpr ⟨countable, hashable⟩, uncountable⟩

theorem Counted.of_countViolations {metrics after : Metrics} {seen : List Violation}
    (hashable : ∀ violation ∈ seen, violation.code.hashable = true)
    (ran : metrics.countViolations (seen.map .violation) = (after, .ok ())) :
    Counted metrics after seen := by
  obtain ⟨last, done, counted⟩ := countViolations_counted metrics hashable
  cases ran.symm.trans done
  exact counted

theorem AddUp.of_countViolations {metrics after : Metrics} {seen : List Violation} {sum : Nat}
    (hashable : ∀ violation ∈ seen, violation.code.hashable = true)
    (ran : metrics.countViolations (seen.map .violation) = (after, .ok ()))
    (adds : AddUp metrics.byCode sum) : AddUp after.byCode (sum + seen.length) := by
  have sums := adds.countViolations hashable
  rwa [ran] at sums

/-! ## Calls -/

/-- What is handed over to be recorded. -/
structure Call where
  result : Value
  latency : Value

namespace Call

/-- Whether the latency is a number within the range of doubles. -/
def isTimed (call : Call) : Bool := (latencyOf call.latency).isOk

/-- The members of the payload; a success has none. -/
def members? (call : Call) : Option (List Value) :=
  match call.result with
  | .ok _ => some []
  | .err reason => reason.elements?
  | _ => none

/-- Whether the result is one. -/
def hasResult (call : Call) : Bool :=
  match call.result with
  | .ok _ | .err _ => true
  | _ => false

/-- Whether the call is counted as a success or as a failure. -/
def settles (call : Call) : Bool := call.isTimed && call.hasResult

/-- Whether the call comes to a member that is counted under no code. -/
def strays (call : Call) : Bool :=
  call.isTimed && (call.members?.getD []).any fun member => !isCountable member

/-- Whether all that is handed over can be counted. -/
def completes (call : Call) : Bool := call.isTimed && call.members?.any (List.all · isCountable)

theorem isTimed_of_eq_ok {call : Call} {duration : Double}
    (lasted : latencyOf call.latency = .ok duration) : call.isTimed = true := by
  rw [isTimed, lasted]
  rfl

theorem isTimed_of_eq_error {call : Call} {fault : Fault}
    (untimed : latencyOf call.latency = .error fault) : call.isTimed = false := by
  rw [isTimed, untimed]
  rfl

theorem settles_of_ok {call : Call} {duration : Double} {value : Value}
    (lasted : latencyOf call.latency = .ok duration) (succeeded : call.result = .ok value) :
    call.settles = true := by
  rw [settles, isTimed_of_eq_ok lasted, hasResult, succeeded]
  rfl

theorem settles_of_err {call : Call} {duration : Double} {reason : Value}
    (lasted : latencyOf call.latency = .ok duration) (failed : call.result = .err reason) :
    call.settles = true := by
  rw [settles, isTimed_of_eq_ok lasted, hasResult, failed]
  rfl

theorem members?_of_not_hasResult {call : Call} (foreign : call.hasResult = false) :
    call.members? = none := by
  obtain ⟨result, latency⟩ := call
  cases result with
  | ok | err => cases foreign
  | _ => rfl

end Call

/-- The counters once the latency was added. -/
def timed (metrics : Metrics) (duration : Double) : Metrics :=
  { metrics with total := metrics.total + 1, latency := metrics.latency.add duration }

/-- The counters once a failure was counted, and none of its violations. -/
def failing (metrics : Metrics) (duration : Double) : Metrics :=
  { metrics.timed duration with failed := metrics.failed + 1 }

/-- What a call leaves, and how it ends: it runs through, or a fault leaves it at one of four
points. -/
inductive Leaves (before : Metrics) (call : Call) : Metrics × Attempt Unit → Prop
  | accepted {duration : Double} {value : Value} (lasted : latencyOf call.latency = .ok duration)
      (succeeded : call.result = .ok value) :
      Leaves before call
        ({ before.timed duration with successful := before.successful + 1 }, .ok ())
  | rejected {duration : Double} {reason : Value} {seen : List Violation} {after : Metrics}
      (lasted : latencyOf call.latency = .ok duration) (failed : call.result = .err reason)
      (members : reason.elements? = some (seen.map .violation))
      (hashable : ∀ violation ∈ seen, violation.code.hashable = true)
      (counted : (before.failing duration).countViolations (seen.map .violation) =
        (after, .ok ())) :
      Leaves before call (after, .ok ())
  | latency {fault : Fault} (untimed : latencyOf call.latency = .error fault) :
      Leaves before call ({ before with total := before.total + 1 }, .error fault)
  | foreign {duration : Double} (lasted : latencyOf call.latency = .ok duration)
      (noResult : call.hasResult = false) :
      Leaves before call (before.timed duration, .error .missingAttribute)
  | payload {duration : Double} {reason : Value} (lasted : latencyOf call.latency = .ok duration)
      (failed : call.result = .err reason) (none : reason.elements? = none) :
      Leaves before call (before.failing duration, .error .notIterable)
  | member {duration : Double} {reason member : Value} {seen : List Violation} {rest : List Value}
      {after : Metrics}
      (lasted : latencyOf call.latency = .ok duration) (failed : call.result = .err reason)
      (members : reason.elements? = some (seen.map .violation ++ member :: rest))
      (hashable : ∀ violation ∈ seen, violation.code.hashable = true)
      (uncountable : isCountable member = false)
      (counted : (before.failing duration).countViolations (seen.map .violation) =
        (after, .ok ())) :
      Leaves before call
        ({ after with violations := after.violations + 1 }, .error (memberFault member))

/-- A call is recorded or leaves at a fault. -/
theorem record_leaves (metrics : Metrics) (call : Call) :
    Leaves metrics call (metrics.record call.result call.latency) := by
  obtain ⟨result, latency⟩ := call
  simp only [record]
  cases lasted : latencyOf latency with
  | error fault => exact .latency lasted
  | ok duration =>
      cases result with
      | ok value => exact .accepted lasted rfl
      | err reason =>
          simp only [Value.elements]
          cases members : reason.elements? with
          | none => exact .payload lasted rfl members
          | some found =>
              change Leaves metrics _ ((metrics.failing duration).countViolations found)
              rcases countable_or_first_uncountable found with
                ⟨seen, rfl, hashable⟩ | ⟨seen, member, rest, rfl, hashable, uncountable⟩
              · obtain ⟨after, counted, _⟩ :=
                  countViolations_counted (metrics.failing duration) hashable
                rw [counted]
                exact .rejected lasted rfl members hashable counted
              · obtain ⟨middle, counted, _⟩ :=
                  countViolations_counted (metrics.failing duration) hashable
                rw [countViolations_append counted, countViolations,
                  countViolation_of_not_countable middle uncountable]
                exact .member lasted rfl members hashable uncountable counted
      | _ => exact .foreign lasted rfl

namespace Leaves

variable {before : Metrics} {call : Call} {left : Metrics × Attempt Unit}

theorem total (leaves : Leaves before call left) : left.1.total = before.total + 1 := by
  cases leaves with
  | accepted | latency | foreign | payload => rfl
  | rejected _ _ _ hashable counted | member _ _ _ hashable _ counted =>
      exact (Counted.of_countViolations hashable counted).total

/-- A call ends without a fault exactly if all that is handed over can be counted. -/
theorem ends_iff (leaves : Leaves before call left) : left.2 = .ok () ↔ call.completes = true := by
  cases leaves with
  | accepted lasted succeeded =>
      simp [Call.completes, Call.isTimed_of_eq_ok lasted, Call.members?, succeeded]
  | rejected lasted failed members hashable =>
      simpa [Call.completes, Call.isTimed_of_eq_ok lasted, Call.members?, failed, members,
        isCountable]
        using hashable
  | latency untimed => simp [Call.completes, Call.isTimed_of_eq_error untimed]
  | foreign lasted noResult => simp [Call.completes, Call.members?_of_not_hasResult noResult]
  | payload lasted failed none => simp [Call.completes, Call.members?, failed, none]
  | member lasted failed members hashable uncountable =>
      simp [Call.completes, Call.members?, failed, members, uncountable]

/-- A call is counted as a success or as a failure if it settles. -/
theorem settled (leaves : Leaves before call left) : left.1.successful + left.1.failed =
    before.successful + before.failed + if call.settles then 1 else 0 := by
  cases leaves with
  | latency untimed => simp [Call.settles, Call.isTimed_of_eq_error untimed]
  | foreign lasted noResult => simp [Call.settles, noResult, timed]
  | accepted lasted succeeded =>
      rw [if_pos (Call.settles_of_ok lasted succeeded)]
      exact Nat.add_right_comm _ _ _
  | payload lasted failed => rw [if_pos (Call.settles_of_err lasted failed)]; rfl
  | @rejected _ _ _ after lasted failed _ hashable ran
  | @member _ _ _ _ _ after lasted failed _ hashable _ ran =>
      have counted := Counted.of_countViolations hashable ran
      rw [if_pos (Call.settles_of_err lasted failed)]
      change after.successful + after.failed = _
      rw [counted.successful, counted.failed]
      rfl

/-- A call counts violations under their codes, and one more under none if it strays. -/
theorem counted (leaves : Leaves before call left) {sum : Nat} (adds : AddUp before.byCode sum) :
    ∃ more, AddUp left.1.byCode (sum + more) ∧
      left.1.violations = before.violations + more + if call.strays then 1 else 0 := by
  cases leaves with
  | accepted lasted succeeded =>
      exact ⟨0, adds, by simp [Call.strays, Call.members?, succeeded, timed]⟩
  | payload lasted failed none =>
      exact ⟨0, adds, by simp [Call.strays, Call.members?, failed, none, failing, timed]⟩
  | latency untimed =>
      exact ⟨0, adds, by simp [Call.strays, Call.isTimed_of_eq_error untimed]⟩
  | foreign lasted noResult =>
      exact ⟨0, adds, by simp [Call.strays, Call.members?_of_not_hasResult noResult, timed]⟩
  | @rejected _ _ seen _ lasted failed members hashable ran =>
      have counted := Counted.of_countViolations hashable ran
      have sums := AddUp.of_countViolations hashable ran adds
      have contained : call.strays = false := by
        simpa [Call.strays, Call.members?, failed, members, isCountable] using fun _ => hashable
      refine ⟨seen.length, sums, ?_⟩
      rw [contained]
      exact counted.violations
  | @member _ _ _ seen _ _ lasted failed members hashable uncountable ran =>
      have counted := Counted.of_countViolations hashable ran
      have sums := AddUp.of_countViolations hashable ran adds
      have strays : call.strays = true := by
        simp [Call.strays, Call.isTimed_of_eq_ok lasted, Call.members?, failed, members,
          uncountable]
      refine ⟨seen.length, sums, ?_⟩
      rw [if_pos strays]
      exact congrArg Nat.succ counted.violations

end Leaves

/-! ## What the sums miss -/

theorem AddUp.unique {entries : Entries} {sum other : Nat} (adds : AddUp entries sum)
    (otherAdds : AddUp entries other) : sum = other := by
  induction adds generalizing other with
  | nil =>
      cases otherAdds
      rfl
  | cons key count positive others ih =>
      cases otherAdds with
      | cons _ _ _ rest => rw [ih rest]

/-- The counters after calls: all of these count, a success or a failure is counted for those that
settle, and each one that strays counts a violation under no code. -/
structure Gaps (metrics : Metrics) (log : List Call) : Prop where
  total : metrics.total = log.length
  settled : metrics.successful + metrics.failed = log.countP Call.settles
  counted : ∃ sum, AddUp metrics.byCode sum ∧ metrics.violations = sum + log.countP Call.strays

namespace Gaps

variable {metrics : Metrics} {log : List Call}

theorem fresh : Gaps {} [] := ⟨rfl, rfl, 0, .nil, rfl⟩

theorem record (gaps : Gaps metrics log) {call : Call} {left : Metrics × Attempt Unit}
    (leaves : Leaves metrics call left) : Gaps left.1 (log ++ [call]) := by
  obtain ⟨total, settled, sum, adds, counted⟩ := gaps
  refine ⟨?_, ?_, ?_⟩
  · rw [leaves.total, total, List.length_append, List.length_singleton]
  · rw [leaves.settled, settled, List.countP_append, List.countP_singleton]
  · obtain ⟨more, addsMore, countedMore⟩ := leaves.counted adds
    refine ⟨sum + more, addsMore, ?_⟩
    rw [countedMore, counted, List.countP_append, List.countP_singleton]
    omega

theorem settled_iff (gaps : Gaps metrics log) :
    metrics.successful + metrics.failed = metrics.total ↔ ∀ call ∈ log, call.settles = true := by
  rw [gaps.settled, gaps.total, List.countP_eq_length]

theorem addUp_iff (gaps : Gaps metrics log) :
    AddUp metrics.byCode metrics.violations ↔ ∀ call ∈ log, call.strays = false := by
  obtain ⟨sum, adds, counted⟩ := gaps.counted
  have none : log.countP Call.strays = 0 ↔ ∀ call ∈ log, call.strays = false := by
    simp
  rw [← none, counted]
  constructor
  · intro whole
    have same := whole.unique adds
    omega
  · intro zero
    rwa [zero]

end Gaps

/-! ## Runs -/

/-- What is asked of metrics. -/
inductive Request where
  | record (call : Call)
  | reset

/-- The metrics after a request, whether or not it ends in a fault. -/
def serve (metrics : Metrics) : Request → Metrics
  | .record call => (metrics.record call.result call.latency).1
  | .reset => metrics.reset

/-- Fresh metrics after requests. -/
def reached (requests : List Request) : Metrics := requests.foldl serve {}

/-- The calls since the last reset, after a request. -/
def callsAfter (log : List Call) : Request → List Call
  | .record call => log ++ [call]
  | .reset => []

/-- The calls since the last reset among requests. -/
def callsSinceReset (requests : List Request) : List Call := requests.foldl callsAfter []

namespace Gaps

variable {metrics : Metrics} {log : List Call}

theorem serve (gaps : Gaps metrics log) (request : Request) :
    Gaps (metrics.serve request) (callsAfter log request) := by
  cases request with
  | record call => exact gaps.record (record_leaves metrics call)
  | reset => exact .fresh

theorem foldl (gaps : Gaps metrics log) (requests : List Request) :
    Gaps (requests.foldl Metrics.serve metrics) (requests.foldl callsAfter log) := by
  induction requests generalizing metrics log with
  | nil => exact gaps
  | cons request rest ih => exact ih (gaps.serve request)

end Gaps

/-! ## The law -/

/-- In whatever state metrics are, a record ends without a fault exactly if all that is handed over
can be counted, and counts among all validations in any case; a fault leaves what was counted up to
it.  So successes and failures are all validations exactly when every call since the last reset
settled, and the counts of the codes add up to the number of violations exactly when none of these
calls strayed. -/
theorem record_gaps (requests : List Request) (call : Call) :
    let metrics := reached requests
    let left := metrics.record call.result call.latency
    Leaves metrics call left ∧ (left.2 = .ok () ↔ call.completes = true) ∧
      left.1.total = metrics.total + 1 ∧ Gaps metrics (callsSinceReset requests) ∧
      (metrics.successful + metrics.failed = metrics.total ↔
        ∀ earlier ∈ callsSinceReset requests, earlier.settles = true) ∧
      (AddUp metrics.byCode metrics.violations ↔
        ∀ earlier ∈ callsSinceReset requests, earlier.strays = false) := by
  intro metrics left
  have leaves : Leaves metrics call left := record_leaves metrics call
  have gaps : Gaps metrics (callsSinceReset requests) := Gaps.fresh.foldl requests
  exact ⟨leaves, leaves.ends_iff, leaves.total, gaps, gaps.settled_iff, gaps.addUp_iff⟩

/-- The failures of a series stand under their indices, which are no violations: a record of them
fails and does not leave the counters as they were. -/
theorem record_changes_of_failed_series :
    ¬ ∀ (requests : List Request) (call : Call) (fault : Fault),
      ((reached requests).record call.result call.latency).2 = .error fault →
      ((reached requests).record call.result call.latency).1 = reached requests := by
  intro restores
  let failures : Entries := [(.int 0, .list [.violation (.plain [] "type" "wrong")])]
  have restored := restores [] ⟨.err (.map failures), .float .zero⟩ .missingAttribute rfl
  exact Nat.one_ne_zero (congrArg Metrics.total restored)

end Metrics

end Conform
