import Conform.Validation.Series

/-!
# Schedules of batches

The inputs of a batch are worked on side by side.  Each goes through the phases below in order,
and a step takes one input one phase further; which one that is, is left open.  There is room for
a bounded number of validations, and an input keeps its place from the start of its validation
until its result is stored.
-/

namespace Conform.Batch

/-- How far the work on an input of a batch is. -/
inductive Phase where
  /-- There was no room yet. -/
  | waiting
  /-- The input is being validated. -/
  | running
  /-- The validation reached a verdict. -/
  | judged (verdict : Verdict Value)
  /-- The metrics hold the verdict. -/
  | recorded (verdict : Verdict Value)
  /-- The results hold the verdict, and the place is free again. -/
  | stored (verdict : Verdict Value)
  /-- The input was counted as completed, as the given one. -/
  | counted (verdict : Verdict Value) (number : Nat)
  /-- The progress was reported. -/
  | reported (verdict : Verdict Value)

namespace Phase

/-- Whether an input in this phase takes up a place. -/
def isRunning : Phase → Bool
  | .running | .judged _ | .recorded _ => true
  | _ => false

end Phase

/-- The state of a batch at work. -/
structure Work where
  /-- The phase of every input. -/
  phases : List Phase
  /-- The results by index, as far as they are there. -/
  slots : List (Option BatchResult)
  /-- How many inputs were completed. -/
  completed : Nat
  /-- The reports of progress so far: how many inputs were completed, of how many. -/
  progress : List (Nat × Nat)
  metrics : Metrics

namespace Work

/-- A batch none of whose inputs is worked on yet. -/
def start (count : Nat) (metrics : Metrics) : Work :=
  ⟨List.replicate count .waiting, List.replicate count none, 0, [], metrics⟩

/-- How many validations are under way. -/
def running (work : Work) : Nat := work.phases.countP Phase.isRunning

/-- The work on every input is done. -/
def IsComplete (work : Work) : Prop := ∀ phase ∈ work.phases, ∃ verdict, phase = .reported verdict

/-- The results of a batch: those that are there. -/
def results (work : Work) : List BatchResult := work.slots.filterMap id

end Work

/-- One input of a batch, which has room for so many validations, is taken one phase further.  The
position of the input is the number of those before it. -/
inductive Step (env : Environment) (batch : Batch) (room : Nat) (items : List Value) :
    Work → Work → Prop
  /-- A waiting input takes up a free place. -/
  | start {work : Work} {before after : List Phase}
      (phase : work.phases = before ++ .waiting :: after) (free : work.running < room) :
      Step env batch room items work { work with phases := before ++ .running :: after }
  /-- A validation ends in a verdict. -/
  | judge {work : Work} {before after : List Phase} {item : Value} {verdict : Verdict Value}
      (phase : work.phases = before ++ .running :: after)
      (itsItem : items[before.length]? = some item)
      (validated : (Series.validateItem env batch.schema batch.named before.length item).outcome =
        .ok verdict) :
      Step env batch room items work { work with phases := before ++ .judged verdict :: after }
  /-- A verdict is recorded. -/
  | record {work : Work} {before after : List Phase} {verdict : Verdict Value} {metrics : Metrics}
      (phase : work.phases = before ++ .judged verdict :: after)
      (recorded : work.metrics.recordVerdict verdict = (metrics, .ok ())) :
      Step env batch room items work
        { work with phases := before ++ .recorded verdict :: after, metrics }
  /-- A verdict becomes the result of its input, which leaves its place. -/
  | store {work : Work} {before after : List Phase} {verdict : Verdict Value}
      (phase : work.phases = before ++ .recorded verdict :: after) :
      Step env batch room items work
        { work with
          phases := before ++ .stored verdict :: after
          slots := work.slots.set before.length (some (.ofVerdict before.length verdict)) }
  /-- An input is counted as completed. -/
  | count {work : Work} {before after : List Phase} {verdict : Verdict Value}
      (phase : work.phases = before ++ .stored verdict :: after) :
      Step env batch room items work
        { work with
          phases := before ++ .counted verdict (work.completed + 1) :: after
          completed := work.completed + 1 }
  /-- Progress is reported. -/
  | report {work : Work} {before after : List Phase} {verdict : Verdict Value} {number : Nat}
      (phase : work.phases = before ++ .counted verdict number :: after) :
      Step env batch room items work
        { work with
          phases := before ++ .reported verdict :: after
          progress := work.progress ++ [(number, items.length)] }

end Conform.Batch
