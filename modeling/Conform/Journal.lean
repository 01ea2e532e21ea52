import Conform.Violation.Format

/-!
# Runs

Validation reports what it does besides giving a verdict: log records, displays for a reader who
asked for them, and the hooks that it asked.  A run is an outcome together with those events in
order.  The outcome of a sequence of runs is the sequence of their outcomes (`Run.outcome_bind`), so
verdicts can be reasoned about without the events.
-/

namespace Conform

/-- How severe a log record is. -/
inductive Severity where
  | debug
  | warning
deriving DecidableEq

/-- A log record. -/
structure LogRecord where
  severity : Severity
  logger : String
  message : String

/-- Something shown to a reader. -/
inductive Display where
  | line (text : String)
  | panel (panel : Panel)

/-- Something that happens besides the outcome. -/
inductive Event where
  | logged (record : LogRecord)
  | shown (display : Display)
  /-- A hook was asked about a record. -/
  | reviewed (hook : Nat) (record : Value)

/-- An outcome with the events on the way to it. -/
structure Run (α : Type) where
  events : List Event
  outcome : Attempt α

namespace Run

variable {α β : Type}

/-- An outcome without events. -/
def lift (outcome : Attempt α) : Run α := ⟨[], outcome⟩

/-- Events alone. -/
def emit (events : List Event) : Run Unit := ⟨events, .ok ()⟩

/-- One run after another; a fault ends the sequence. -/
def bind (run : Run α) (next : α → Run β) : Run β :=
  match run.outcome with
  | .ok value =>
    let rest := next value
    ⟨run.events ++ rest.events, rest.outcome⟩
  | .error fault => ⟨run.events, .error fault⟩

instance : Monad Run where
  pure value := ⟨[], .ok value⟩
  bind := bind

instance : MonadLift Attempt Run := ⟨lift⟩

@[simp] theorem outcome_pure (value : α) : (pure value : Run α).outcome = .ok value := rfl

@[simp] theorem outcome_lift (outcome : Attempt α) : (lift outcome).outcome = outcome := rfl

@[simp] theorem outcome_emit (events : List Event) : (emit events).outcome = .ok () := rfl

/-- The outcome of a sequence is the sequence of the outcomes. -/
@[simp] theorem outcome_bind (run : Run α) (next : α → Run β) :
    (run >>= next).outcome = run.outcome >>= fun value => (next value).outcome := by
  show (bind run next).outcome = _
  unfold bind
  cases run.outcome <;> rfl

/-- A sequence keeps the events of its first run, and adds those of the second. -/
@[simp] theorem events_bind_of_ok {run : Run α} {next : α → Run β} {value : α}
    (success : run.outcome = .ok value) :
    (run >>= next).events = run.events ++ (next value).events := by
  show (bind run next).events = _
  simp [bind, success]

/-- A fault keeps the events on the way to it, and nothing happens after it. -/
@[simp] theorem events_bind_of_error {run : Run α} {next : α → Run β} {fault : Fault}
    (failure : run.outcome = .error fault) : (run >>= next).events = run.events := by
  show (bind run next).events = _
  simp [bind, failure]

end Run

end Conform
