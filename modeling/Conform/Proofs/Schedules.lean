import Conform.Proofs.Series
import Conform.Validation.Schedule
import Mathlib.Logic.Relation

/-!
# Every schedule gives the same results

However the work on the inputs of a batch is interleaved, its results, its reports of progress and
its metrics end up as they do when the inputs are worked on one after another.  What a batch holds
while it is at work is determined by the phases of its inputs: this is the invariant, which each
kind of step keeps.
-/

namespace Conform.Batch

/-! ## What a phase stands for -/

namespace Phase

/-- The verdict of the validation, if it ended. -/
def verdict? : Phase → Option (Verdict Value)
  | .waiting | .running => none
  | .judged verdict | .recorded verdict | .stored verdict | .counted verdict _
  | .reported verdict => some verdict

/-- The verdict that the metrics hold. -/
def recorded? : Phase → Option (Verdict Value)
  | .waiting | .running | .judged _ => none
  | .recorded verdict | .stored verdict | .counted verdict _ | .reported verdict => some verdict

/-- What the results hold for an input at an index. -/
def result? (index : Nat) : Phase → Option BatchResult
  | .stored verdict | .counted verdict _ | .reported verdict => some (.ofVerdict index verdict)
  | _ => none

/-- Whether the input was counted as completed. -/
def isCompleted : Phase → Bool
  | .counted _ _ | .reported _ => true
  | _ => false

/-- The number that is still to be reported. -/
def unreported? : Phase → Option Nat
  | .counted _ number => some number
  | _ => none

/-- How many steps are left for the input. -/
def remaining : Phase → Nat
  | .waiting => 6
  | .running => 5
  | .judged _ => 4
  | .recorded _ => 3
  | .stored _ => 2
  | .counted _ _ => 1
  | .reported _ => 0

/-- How many steps are left for several inputs. -/
def allRemaining : List Phase → Nat
  | [] => 0
  | phase :: rest => phase.remaining + allRemaining rest

@[simp] theorem allRemaining_append (before after : List Phase) :
    allRemaining (before ++ after) = allRemaining before + allRemaining after := by
  induction before with
  | nil => simp [allRemaining]
  | cons phase rest ih => simp [allRemaining, ih, Nat.add_assoc]

end Phase

/-! ## The invariant -/

namespace Work

/-- What a batch holds while it is at work, given the verdicts on its inputs, the room for
validations and the metrics before it. -/
structure Sound (verdicts : List (Verdict Value)) (room : Nat) (metrics : Metrics) (work : Work) :
    Prop where
  sameLength : work.phases.length = verdicts.length
  /-- A verdict that was reached is that on the input at the place. -/
  right : ∀ (index : Nat) (phase : Phase) (verdict : Verdict Value),
    work.phases[index]? = some phase → phase.verdict? = some verdict →
    verdicts[index]? = some verdict
  /-- The results are there for exactly the inputs whose verdicts were stored. -/
  filled : work.slots = work.phases.mapIdx Phase.result?
  bounded : work.running ≤ room
  tallied : work.completed = work.phases.countP Phase.isCompleted
  /-- Every number up to that of the completed inputs was reported once or waits for it. -/
  numbered : (work.progress.map Prod.fst ++ work.phases.filterMap Phase.unreported?).Perm
    (List.range' 1 work.completed)
  totals : ∀ report ∈ work.progress, report.2 = verdicts.length
  recorded : metrics.Recorded work.metrics (work.phases.filterMap Phase.recorded?)

variable {verdicts : List (Verdict Value)} {room : Nat} {metrics : Metrics} {work : Work}
  {before after : List Phase}

/-- Nothing is done before the first step. -/
theorem start_sound (verdicts : List (Verdict Value)) (room : Nat) (metrics : Metrics) :
    Sound verdicts room metrics (start verdicts.length metrics) where
  sameLength := List.length_replicate
  right := by
    intro index phase verdict found judged
    cases List.eq_of_mem_replicate (List.mem_of_getElem? found)
    cases judged
  filled := by
    apply List.ext_getElem <;> simp [start, Phase.result?]
  bounded := by simp [running, start, List.countP_replicate, Phase.isRunning]
  tallied := by simp [start, List.countP_replicate, Phase.isCompleted]
  numbered := by simp [start, Phase.unreported?]
  totals := List.forall_mem_nil _
  recorded := by
    have none : (start verdicts.length metrics).phases.filterMap Phase.recorded? = [] := by
      simp [start, Phase.recorded?]
    rw [none]
    exact .nil metrics

/-! ## One step -/

/-- The verdicts of the phases stay right when one input goes on with the right verdict. -/
theorem Sound.right_of_change (sound : Sound verdicts room metrics work) {old new : Phase}
    (phase : work.phases = before ++ old :: after)
    (right : ∀ verdict, new.verdict? = some verdict → verdicts[before.length]? = some verdict) :
    ∀ (index : Nat) (found : Phase) (verdict : Verdict Value),
      (before ++ new :: after)[index]? = some found → found.verdict? = some verdict →
      verdicts[index]? = some verdict := by
  intro index found verdict stands judged
  by_cases here : index = before.length
  case pos =>
    subst here
    rw [List.getElem?_append_right (Nat.le_refl _), Nat.sub_self] at stands
    cases stands
    exact right verdict judged
  case neg =>
    apply sound.right index found verdict _ judged
    rw [phase, ← stands]
    grind

theorem Sound.right_of_same (sound : Sound verdicts room metrics work) {old new : Phase}
    (phase : work.phases = before ++ old :: after) (same : new.verdict? = old.verdict?) :
    ∀ (index : Nat) (found : Phase) (verdict : Verdict Value),
      (before ++ new :: after)[index]? = some found → found.verdict? = some verdict →
      verdicts[index]? = some verdict := by
  apply sound.right_of_change phase
  intro verdict judged
  rw [same] at judged
  apply sound.right before.length old verdict _ judged
  rw [phase, List.getElem?_append_right (Nat.le_refl _), Nat.sub_self]
  rfl

theorem Sound.start (sound : Sound verdicts room metrics work)
    (phase : work.phases = before ++ .waiting :: after) (free : work.running < room) :
    Sound verdicts room metrics { work with phases := before ++ .running :: after } where
  sameLength := by simpa [phase] using sound.sameLength
  right := sound.right_of_same phase rfl
  filled := by simp [sound.filled, phase, List.mapIdx_append, Phase.result?]
  bounded := by
    simp [running, phase, List.countP_cons, Phase.isRunning] at free ⊢
    omega
  tallied := by simp [sound.tallied, phase, Phase.isCompleted]
  numbered := by simpa [phase, List.filterMap_cons, Phase.unreported?] using sound.numbered
  totals := sound.totals
  recorded := by simpa [phase, List.filterMap_cons, Phase.recorded?] using sound.recorded

theorem Sound.judge (sound : Sound verdicts room metrics work) {verdict : Verdict Value}
    (phase : work.phases = before ++ .running :: after)
    (right : verdicts[before.length]? = some verdict) :
    Sound verdicts room metrics { work with phases := before ++ .judged verdict :: after } where
  sameLength := by simpa [phase] using sound.sameLength
  right := by
    apply sound.right_of_change phase
    rintro other ⟨⟩
    exact right
  filled := by simp [sound.filled, phase, List.mapIdx_append, Phase.result?]
  bounded := by simpa [running, phase, List.countP_cons, Phase.isRunning] using sound.bounded
  tallied := by simp [sound.tallied, phase, Phase.isCompleted]
  numbered := by simpa [phase, List.filterMap_cons, Phase.unreported?] using sound.numbered
  totals := sound.totals
  recorded := by simpa [phase, List.filterMap_cons, Phase.recorded?] using sound.recorded

theorem Sound.record (sound : Sound verdicts room metrics work) {verdict : Verdict Value}
    {next : Metrics} (phase : work.phases = before ++ .judged verdict :: after)
    (recorded : work.metrics.Recorded next [verdict]) :
    Sound verdicts room metrics
      { work with phases := before ++ .recorded verdict :: after, metrics := next } where
  sameLength := by simpa [phase] using sound.sameLength
  right := sound.right_of_same phase rfl
  filled := by simp [sound.filled, phase, List.mapIdx_append, Phase.result?]
  bounded := by simpa [running, phase, List.countP_cons, Phase.isRunning] using sound.bounded
  tallied := by simp [sound.tallied, phase, Phase.isCompleted]
  numbered := by simpa [phase, List.filterMap_cons, Phase.unreported?] using sound.numbered
  totals := sound.totals
  recorded := by
    have soFar := sound.recorded
    simp only [phase, List.filterMap_append, List.filterMap_cons, Phase.recorded?] at soFar ⊢
    -- The verdict was recorded last, and stands among the others by its place.
    apply (soFar.append recorded).perm
    rw [List.append_assoc]
    exact (List.perm_append_singleton verdict _).append_left _

theorem Sound.store (sound : Sound verdicts room metrics work) {verdict : Verdict Value}
    (phase : work.phases = before ++ .recorded verdict :: after) :
    Sound verdicts room metrics
      { work with
        phases := before ++ .stored verdict :: after
        slots := work.slots.set before.length (some (.ofVerdict before.length verdict)) } where
  sameLength := by simpa [phase] using sound.sameLength
  right := sound.right_of_same phase rfl
  filled := by simp [sound.filled, phase, List.mapIdx_append, Phase.result?]
  bounded := by
    have bounded := sound.bounded
    simp [running, phase, List.countP_cons, Phase.isRunning] at bounded ⊢
    omega
  tallied := by simp [sound.tallied, phase, Phase.isCompleted]
  numbered := by simpa [phase, List.filterMap_cons, Phase.unreported?] using sound.numbered
  totals := sound.totals
  recorded := by simpa [phase, List.filterMap_cons, Phase.recorded?] using sound.recorded

theorem Sound.count (sound : Sound verdicts room metrics work) {verdict : Verdict Value}
    (phase : work.phases = before ++ .stored verdict :: after) :
    Sound verdicts room metrics
      { work with
        phases := before ++ .counted verdict (work.completed + 1) :: after
        completed := work.completed + 1 } where
  sameLength := by simpa [phase] using sound.sameLength
  right := sound.right_of_same phase rfl
  filled := by simp [sound.filled, phase, List.mapIdx_append, Phase.result?]
  bounded := by simpa [running, phase, List.countP_cons, Phase.isRunning] using sound.bounded
  tallied := by simp [sound.tallied, phase, List.countP_cons, Phase.isCompleted, Nat.add_assoc]
  numbered := by
    have soFar := sound.numbered
    simp only [phase, List.filterMap_append, List.filterMap_cons, Phase.unreported?,
      ← List.append_assoc] at soFar ⊢
    -- The new number is the one behind all those that there were.
    rw [List.range'_1_concat, Nat.add_comm 1]
    apply List.perm_middle.trans
    exact (soFar.cons _).trans (List.perm_append_singleton _ _).symm
  totals := sound.totals
  recorded := by simpa [phase, List.filterMap_cons, Phase.recorded?] using sound.recorded

theorem Sound.report (sound : Sound verdicts room metrics work) {verdict : Verdict Value}
    {number : Nat} (phase : work.phases = before ++ .counted verdict number :: after) :
    Sound verdicts room metrics
      { work with
        phases := before ++ .reported verdict :: after
        progress := work.progress ++ [(number, verdicts.length)] } where
  sameLength := by simpa [phase] using sound.sameLength
  right := sound.right_of_same phase rfl
  filled := by simp [sound.filled, phase, List.mapIdx_append, Phase.result?]
  bounded := by simpa [running, phase, List.countP_cons, Phase.isRunning] using sound.bounded
  tallied := by simp [sound.tallied, phase, List.countP_cons, Phase.isCompleted]
  numbered := by
    have soFar := sound.numbered
    simp only [phase, List.filterMap_append, List.filterMap_cons, Phase.unreported?,
      List.map_append, List.map_singleton, List.singleton_append, List.append_assoc] at soFar ⊢
    apply List.Perm.trans _ soFar
    exact List.perm_middle.symm.append_left _
  totals := by
    intro report among
    rcases List.mem_append.mp among with earlier | last
    · exact sound.totals report earlier
    · cases List.mem_singleton.mp last
      rfl
  recorded := by simpa [phase, List.filterMap_cons, Phase.recorded?] using sound.recorded

end Work

section

variable {env : Environment} {batch : Batch} {room : Nat} {items : List Value}
  {verdicts : List (Verdict Value)} {metrics : Metrics} {work next : Work}

theorem Work.Sound.recordable (sound : work.Sound verdicts room metrics)
    (validated : (Series.validateItems env batch.schema batch.named 0 items).outcome = .ok verdicts)
    {before after : List Phase} {verdict : Verdict Value}
    (phase : work.phases = before ++ .judged verdict :: after) :
    ∃ next, work.metrics.recordVerdict verdict = (next, .ok ()) ∧
      work.metrics.Recorded next [verdict] := by
  have stands : verdicts[before.length]? = some verdict := by
    apply sound.right before.length (.judged verdict) verdict _ rfl
    simp [phase]
  have among := List.mem_of_getElem? stands
  exact work.metrics.recordVerdict_recorded (Series.sound_of_mem_verdicts validated _ among).1

/-- Every kind of step keeps the invariant. -/
theorem Step.sound (step : Step env batch room items work next)
    (validated : (Series.validateItems env batch.schema batch.named 0 items).outcome = .ok verdicts)
    (sound : work.Sound verdicts room metrics) : next.Sound verdicts room metrics := by
  cases step with
  | start phase free => exact sound.start phase free
  | @judge before after item verdict phase itsItem itsVerdict =>
      rcases Series.getElem?_verdicts validated itsItem with ⟨other, stands, outcome⟩
      rw [Nat.zero_add, itsVerdict] at outcome
      cases outcome
      exact sound.judge phase stands
  | record phase recorded =>
      rcases sound.recordable validated phase with ⟨next, done, holds⟩
      rw [recorded] at done
      cases done
      exact sound.record phase holds
  | store phase => exact sound.store phase
  | count phase => exact sound.count phase
  | report phase =>
      rw [← Series.length_verdicts validated]
      exact sound.report phase

/-! ## Whole runs -/

/-- A batch can come from one state to another. -/
def Reaches (env : Environment) (batch : Batch) (room : Nat) (items : List Value) :
    Work → Work → Prop :=
  Relation.ReflTransGen (Step env batch room items)

theorem Reaches.sound (reaches : Reaches env batch room items work next)
    (validated : (Series.validateItems env batch.schema batch.named 0 items).outcome = .ok verdicts)
    (sound : work.Sound verdicts room metrics) : next.Sound verdicts room metrics := by
  induction reaches with
  | refl => exact sound
  | tail _ step ih => exact step.sound validated ih

/-- How many steps are left for a batch. -/
def Work.remaining (work : Work) : Nat := Phase.allRemaining work.phases

theorem Step.remaining (step : Step env batch room items work next) :
    next.remaining + 1 = work.remaining := by
  cases step with
  | start phase | judge phase | record phase | store phase | count phase | report phase =>
      simp [Work.remaining, phase, Phase.allRemaining, Phase.remaining]
      omega

theorem step_wellFounded (env : Environment) (batch : Batch) (room : Nat) (items : List Value) :
    WellFounded fun next work => Step env batch room items work next := by
  apply Subrelation.wf _ (measure Work.remaining).wf
  intro next work step
  have less := step.remaining
  simp only [WellFoundedRelation.rel, InvImage]
  omega

/-- An input that is worked on can be taken a phase further. -/
theorem exists_step_of_underway
    (validated : (Series.validateItems env batch.schema batch.named 0 items).outcome = .ok verdicts)
    (sound : work.Sound verdicts room metrics) {phase : Phase} (among : phase ∈ work.phases)
    (started : phase ≠ .waiting) (unfinished : ∀ verdict, phase ≠ .reported verdict) :
    ∃ next, Step env batch room items work next := by
  rcases List.append_of_mem among with ⟨before, after, split⟩
  cases phase with
  | waiting => exact absurd rfl started
  | running =>
      have inside : before.length < items.length := by
        rw [← Series.length_verdicts validated, ← sound.sameLength, split]
        simp
      rcases Series.getElem?_verdicts validated (List.getElem?_eq_getElem inside) with
        ⟨verdict, _, outcome⟩
      rw [Nat.zero_add] at outcome
      exact ⟨_, .judge split (List.getElem?_eq_getElem inside) outcome⟩
  | judged verdict =>
      rcases sound.recordable validated split with ⟨next, done, _⟩
      exact ⟨_, .record split done⟩
  | recorded verdict => exact ⟨_, .store split⟩
  | stored verdict => exact ⟨_, .count split⟩
  | counted verdict number => exact ⟨_, .report split⟩
  | reported verdict => exact absurd rfl (unfinished verdict)

/-- A batch with room for a validation is never stuck before it is complete. -/
theorem exists_step (positive : 1 ≤ room)
    (validated : (Series.validateItems env batch.schema batch.named 0 items).outcome = .ok verdicts)
    (sound : work.Sound verdicts room metrics) (incomplete : ¬ work.IsComplete) :
    ∃ next, Step env batch room items work next := by
  -- Some input is under way; or else all of them wait or are done, and there is room for one.
  by_cases underway : ∃ phase ∈ work.phases, phase ≠ .waiting ∧
      ∀ verdict, phase ≠ .reported verdict
  case pos =>
    rcases underway with ⟨phase, among, started, unfinished⟩
    exact exists_step_of_underway validated sound among started unfinished
  case neg =>
    have idle : work.running = 0 := by
      apply List.countP_eq_zero.mpr
      intro phase among running
      apply underway
      refine ⟨phase, among, ?_, ?_⟩
      · rintro rfl
        cases running
      · rintro verdict rfl
        cases running
    have waits : Phase.waiting ∈ work.phases := by
      by_contra none
      apply incomplete
      intro phase among
      by_contra unfinished
      apply underway
      refine ⟨phase, among, ?_, ?_⟩
      · rintro rfl
        exact none among
      · intro verdict done
        exact unfinished ⟨verdict, done⟩
    rcases List.append_of_mem waits with ⟨before, after, split⟩
    exact ⟨_, .start split (by omega)⟩

theorem exists_complete (positive : 1 ≤ room)
    (validated : (Series.validateItems env batch.schema batch.named 0 items).outcome = .ok verdicts)
    (sound : work.Sound verdicts room metrics) :
    ∃ final, Reaches env batch room items work final ∧ final.IsComplete := by
  induction work using (step_wellFounded env batch room items).induction with
  | _ work ih =>
      by_cases complete : work.IsComplete
      · exact ⟨work, .refl, complete⟩
      · rcases exists_step positive validated sound complete with ⟨next, step⟩
        rcases ih next step (step.sound validated sound) with ⟨final, reaches, complete⟩
        exact ⟨final, .head step reaches, complete⟩

/-! ## Completed runs -/

namespace Work

/-- In a completed batch every phase is the report of the verdict on its input. -/
theorem Sound.phases_of_complete (sound : work.Sound verdicts room metrics)
    (complete : work.IsComplete) : work.phases = verdicts.map Phase.reported := by
  apply List.ext_getElem
  · rw [sound.sameLength, List.length_map]
  · intro index inside within
    rcases complete _ (List.getElem_mem inside) with ⟨verdict, reported⟩
    have stands : work.phases[index]? = some (.reported verdict) := by
      rw [List.getElem?_eq_getElem inside, reported]
    have right := sound.right index _ verdict stands rfl
    rw [reported, List.getElem_map]
    rw [List.length_map] at within
    rw [List.getElem?_eq_getElem within] at right
    rw [Option.some.inj right]

theorem Sound.results_of_complete (sound : work.Sound verdicts room metrics)
    (complete : work.IsComplete) : work.results = BatchResult.ofVerdicts 0 verdicts := by
  have filled : work.slots = (BatchResult.ofVerdicts 0 verdicts).map some := by
    rw [sound.filled, sound.phases_of_complete complete]
    apply List.ext_getElem?
    intro index
    simp only [List.getElem?_mapIdx, List.getElem?_map, BatchResult.getElem?_ofVerdicts,
      Nat.zero_add, Option.map_map]
    rfl
  rw [results, filled, List.filterMap_map, Function.id_comp, List.filterMap_some]

/-- In a completed batch progress was reported once with every number. -/
theorem Sound.progress_of_complete (sound : work.Sound verdicts room metrics)
    (complete : work.IsComplete) :
    work.progress.Perm
      ((List.range verdicts.length).map fun done => (done + 1, verdicts.length)) := by
  have phases := sound.phases_of_complete complete
  have none : work.phases.filterMap Phase.unreported? = [] := by simp [phases, Phase.unreported?]
  have every : work.completed = verdicts.length := by
    rw [sound.tallied, phases, List.countP_map]
    exact List.countP_eq_length.mpr fun _ _ => rfl
  have numbered := sound.numbered
  rw [none, List.append_nil, every] at numbered
  have totals : work.progress =
      (work.progress.map Prod.fst).map fun number => (number, verdicts.length) := by
    rw [List.map_map]
    conv_lhs => rw [← List.map_id work.progress]
    apply List.map_congr_left
    rintro ⟨number, total⟩ among
    cases sound.totals _ among
    rfl
  rw [totals]
  apply (numbered.map _).trans
  rw [List.range'_eq_map_range, List.map_map]
  simp [Function.comp_def, Nat.add_comm]

theorem Sound.recorded_of_complete (sound : work.Sound verdicts room metrics)
    (complete : work.IsComplete) : metrics.Recorded work.metrics verdicts := by
  have recorded := sound.recorded
  rw [sound.phases_of_complete complete, List.filterMap_map] at recorded
  have same : Phase.recorded? ∘ Phase.reported = some := rfl
  rwa [same, List.filterMap_some] at recorded

end Work

end

/-! ## The law -/

/-- What a completed batch holds, next to what the other ways through a series give. -/
structure Work.Settled (env : Environment) (schema : Schema) (named : NamedOptions)
    (options : Options) (room : Nat) (items : List Value) (metrics : Metrics) (work : Work) :
    Prop where
  /-- There are as many results as inputs. -/
  count : work.results.length = items.length
  /-- The result at an index is that of the input at the index, with the verdict of its validation
  where the index leads the base path. -/
  results : ∀ (index : Nat) item, items[index]? = some item → ∃ verdict,
    (validate env schema item { options with path := .int index :: options.path }).outcome =
      .ok verdict ∧
    work.results[index]? = some (.ofVerdict index verdict)
  /-- Progress was reported once with every number. -/
  progress : work.progress.Perm
    ((List.range items.length).map fun done => (done + 1, items.length))
  /-- Working on the inputs one after another gives the same. -/
  sequential : ∃ report,
    (process env ⟨schema, .int room, named⟩ (.list items) metrics).outcome = .ok report ∧
    work.results = report.results ∧ work.progress.Perm report.progress ∧
    work.metrics.Agree report.metrics
  /-- Validating all inputs at once accepts their values if all results are successes, and otherwise
  rejects for exactly those that are none. -/
  many : (validateMany env schema (.list items) named).outcome =
    .ok (if work.results.all BatchResult.success then
        .accepted (work.results.map BatchResult.data)
      else .rejected ((work.results.filter fun result => !result.success).map
        fun result => (result.index, result.violations)))

/-- How a batch that works on its inputs side by side stands to validating them one by one. -/
structure Refinement (env : Environment) (schema : Schema) (named : NamedOptions)
    (options : Options) (room : Nat) (items : List Value) (metrics : Metrics) : Prop where
  /-- There is such a batch. -/
  made : make schema (.int room) named = .ok ⟨schema, .int room, named⟩
  /-- There is room for all validations that are under way. -/
  bounded : ∀ work, Reaches env ⟨schema, .int room, named⟩ room items
    (.start items.length metrics) work → work.running ≤ room
  /-- The work can be completed, whatever was done so far. -/
  completes : ∀ work, Reaches env ⟨schema, .int room, named⟩ room items
    (.start items.length metrics) work →
    ∃ final, Reaches env ⟨schema, .int room, named⟩ room items work final ∧ final.IsComplete
  /-- The work does not go on for ever. -/
  ends : WellFounded fun next work => Step env ⟨schema, .int room, named⟩ room items work next
  /-- Whatever the schedule was, a completed batch holds the same. -/
  settled : ∀ work, Reaches env ⟨schema, .int room, named⟩ room items
    (.start items.length metrics) work → work.IsComplete →
    work.Settled env schema named options room items metrics
  /-- A stream gives the verdicts in order, each where the index leads the base path, and nothing
  after them. -/
  stream : ∃ stream, Stream.start schema items named = .ok stream ∧ ∀ index : Nat,
    ((stream.advance env index).next env).2.outcome =
      match items[index]? with
      | none => .ok none
      | some item =>
        (validate env schema item { options with path := .int index :: options.path }).outcome.map
          some

section

variable {env : Environment} {schema : Schema} {named : NamedOptions} {options : Options}
  {room : Nat} {items : List Value} {verdicts : List (Verdict Value)} {metrics : Metrics}
  {work : Work}

@[simp] theorem make_of_positive (positive : 1 ≤ room)
    (found : Options.ofNamed named = .ok options) :
    make schema (.int room) named = .ok ⟨schema, .int room, named⟩ := by
  have fresh : refuseRepeated ["schema", "max_concurrent", "metrics"] named = .ok () :=
    Options.refuseRepeated_of_ofNamed found (by decide)
  have enough : Number.lt (.whole room) (.whole 1) = false := by
    simp [Number.lt]
    omega
  have numeric : (Value.int room).numeric? = some (.whole room) := rfl
  simp [make, fresh, numeric, enough]

theorem Work.Sound.settled (sound : work.Sound verdicts room metrics)
    (complete : work.IsComplete) (found : Options.ofNamed named = .ok options)
    (validated : (Series.validateItems env schema named 0 items).outcome = .ok verdicts) :
    work.Settled env schema named options room items metrics := by
  have results := sound.results_of_complete complete
  have sameLength := Series.length_verdicts validated
  have progress := sound.progress_of_complete complete
  rw [sameLength] at progress
  refine ⟨?_, ?_, progress, ?_, ?_⟩
  · rw [results, BatchResult.length_ofVerdicts, sameLength]
  · intro index item itsItem
    rcases Series.getElem?_verdicts validated itsItem with ⟨verdict, stands, outcome⟩
    rw [Nat.zero_add, Series.outcome_validateItem found] at outcome
    refine ⟨verdict, outcome, ?_⟩
    rw [results, BatchResult.getElem?_ofVerdicts, stands, Nat.zero_add]
    rfl
  · rcases processItems_of_verdicts ⟨schema, .int room, named⟩ metrics validated with
      ⟨after, processed, recorded⟩
    refine ⟨⟨work.results, _, after⟩, ?_, rfl, progress, ?_⟩
    · simp [process, Value.elements?, processed, results]
    · exact (sound.recorded_of_complete complete).agree recorded
  · have fresh : refuseRepeated ["schema", "items"] named = .ok () :=
      Options.refuseRepeated_of_ofNamed found (by decide)
    have evident : ∀ verdict ∈ verdicts, verdict ≠ .rejected [] := by
      intro verdict among
      exact (Series.sound_of_mem_verdicts validated verdict among).2
    rw [← SeriesVerdict.ofVerdicts_eq evident results]
    simp [validateMany, fresh, Value.elements, Value.elements?, validated]

theorem stream_of_verdicts (found : Options.ofNamed named = .ok options)
    (validated : (Series.validateItems env schema named 0 items).outcome = .ok verdicts) :
    ∃ stream, Stream.start schema items named = .ok stream ∧ ∀ index : Nat,
      ((stream.advance env index).next env).2.outcome =
        match items[index]? with
        | none => .ok none
        | some item =>
          (validate env schema item
            { options with path := .int index :: options.path }).outcome.map some := by
  have fresh : refuseRepeated ["schema", "items", "metrics"] named = .ok () :=
    Options.refuseRepeated_of_ofNamed found (by decide)
  refine ⟨⟨schema, named, 0, items⟩, ?_, ?_⟩
  · simp [Stream.start, fresh]
  · intro index
    rw [Stream.outcome_next_advance validated]
    cases itsItem : items[index]? with
    | none =>
        rw [List.getElem?_eq_none_iff, ← Series.length_verdicts validated] at itsItem
        rw [List.getElem?_eq_none itsItem]
    | some item =>
        rcases Series.getElem?_verdicts validated itsItem with ⟨verdict, stands, outcome⟩
        rw [Nat.zero_add, Series.outcome_validateItem found] at outcome
        rw [stands]
        simp only [outcome]
        rfl

end

/-- Whatever the order is in which inputs are started and finished, a batch whose validations all
reach a verdict refines validating one input after another. -/
theorem concurrent_refines_sequential (env : Environment) (schema : Schema) (named : NamedOptions)
    (options : Options) (room : Nat) (items : List Value) (metrics : Metrics)
    (positive : 1 ≤ room) (found : Options.ofNamed named = .ok options)
    (validates : ∀ (index : Nat) item, items[index]? = some item →
      ∃ verdict,
        (validate env schema item { options with path := .int index :: options.path }).outcome =
          .ok verdict) :
    Refinement env schema named options room items metrics := by
  have each : ∀ index item, items[index]? = some item →
      ∃ verdict, (Series.validateItem env schema named (0 + index) item).outcome = .ok verdict := by
    intro index item itsItem
    rw [Nat.zero_add, Series.outcome_validateItem found]
    exact validates index item itsItem
  rcases Series.exists_verdicts each with ⟨verdicts, validated⟩
  have sound : ∀ work, Reaches env ⟨schema, .int room, named⟩ room items
      (.start items.length metrics) work → work.Sound verdicts room metrics := by
    intro work reaches
    apply reaches.sound validated
    rw [← Series.length_verdicts validated]
    exact Work.start_sound verdicts room metrics
  constructor
  case made => exact make_of_positive positive found
  case bounded =>
    intro work reaches
    exact (sound work reaches).bounded
  case completes =>
    intro work reaches
    exact exists_complete positive validated (sound work reaches)
  case ends => exact step_wellFounded _ _ _ _
  case settled =>
    intro work reaches complete
    exact (sound work reaches).settled complete found validated
  case stream => exact stream_of_verdicts found validated

/-- Three inputs, one of them of the wrong sort, and room for two validations. -/
theorem refinement_of_three_inputs :
    let field : Field := ⟨"a", .primitive .integer, true, [], .null, .null, .null⟩
    let schema : Schema := ⟨[field], .null, .null, true, none, []⟩
    let input (value : Value) : Value := .map [(.str "a", value)]
    let items := [input (.int 1), input (.str "one"), input (.int 3)]
    Refinement Environment.bare schema [("path", .list [.str "rows"])]
      { path := [.str "rows"] } 2 items {} := by
  intro field schema input items
  apply concurrent_refines_sequential Environment.bare schema _ _ 2 items {} (by decide) rfl
  intro index item itsItem
  match index, itsItem with
  | 0, found | 1, found | 2, found =>
      cases found
      exact ⟨_, rfl⟩

end Conform.Batch
