import Conform.Value.Access

/-!
# Metrics

Counters over validations: how many there were, how many succeeded, how many violations of each code
they found, and how long they took.  Recording counts step by step; where a result turns out not to
be countable, what was counted up to there stays counted.
-/

namespace Conform

/-- Counters over validations. -/
structure Metrics where
  total : Nat := 0
  successful : Nat := 0
  failed : Nat := 0
  violations : Nat := 0
  byCode : Entries := []
  latency : Double := .zero

namespace Metrics

/-- The double of a latency, which has to be a number. -/
def latencyOf (latency : Value) : Attempt Double :=
  match latency.numeric? with
  | some (.real x) => .ok x
  | some (.whole n) =>
    match Double.ofInt? n with
    | some x => .ok x
    | none => .error .doubleRange
  | none => .error .notNumber

/-- The count under a code. -/
def countOf (entries : Entries) (code : Value) : Int :=
  match entries.get? code with
  | some (.int n) => n
  | _ => 0

/-- Count one violation. -/
def countViolation (metrics : Metrics) (violation : Value) : Metrics × Attempt Unit :=
  let counted := { metrics with violations := metrics.violations + 1 }
  match violation with
  | .violation record =>
    if record.code.hashable then
      let count := countOf metrics.byCode record.code + 1
      ({ counted with byCode := metrics.byCode.put record.code (.int count) }, .ok ())
    else (counted, .error .unhashable)
  | _ => (counted, .error .missingAttribute)

/-- Count violations one after another, up to the first that cannot be. -/
def countViolations (metrics : Metrics) : List Value → Metrics × Attempt Unit
  | [] => (metrics, .ok ())
  | violation :: rest =>
    match countViolation metrics violation with
    | (counted, .ok _) => countViolations counted rest
    | (counted, .error fault) => (counted, .error fault)

/-- Record the result of a validation, which is an accepted value or a collection of violations. -/
def record (metrics : Metrics) (result latency : Value) : Metrics × Attempt Unit :=
  let counted := { metrics with total := metrics.total + 1 }
  match latencyOf latency with
  | .error fault => (counted, .error fault)
  | .ok duration =>
    let counted := { counted with latency := counted.latency.add duration }
    match result with
    | .ok _ => ({ counted with successful := counted.successful + 1 }, .ok ())
    | .err reason =>
      let counted := { counted with failed := counted.failed + 1 }
      match reason.elements with
      | .ok found => countViolations counted found
      | .error fault => (counted, .error fault)
    | _ => (counted, .error .missingAttribute)

/-- The result of a verdict, as it is recorded. -/
def resultOf (verdict : Verdict Value) : Value :=
  match verdict with
  | .accepted value => .ok value
  | .rejected violations => .err (.list (violations.map .violation))

/-- Record a verdict; its duration is not measured here. -/
def recordVerdict (metrics : Metrics) (verdict : Verdict Value) : Metrics × Attempt Unit :=
  metrics.record (resultOf verdict) (.float .zero)

/-- Set every counter back to zero. -/
def reset (metrics : Metrics) : Metrics :=
  { metrics with
    total := 0
    successful := 0
    failed := 0
    violations := 0
    byCode := []
    latency := .zero }

/-- The average latency; zero when nothing was recorded. -/
def averageLatency (metrics : Metrics) : Double :=
  if metrics.total = 0 then .zero else metrics.latency.divNat metrics.total

/-- The share of validations that succeeded; zero when nothing was recorded. -/
def successRate (metrics : Metrics) : Double :=
  if metrics.total = 0 then .zero else .ofQuotient false metrics.successful metrics.total

/-- The counters by name. -/
def toValue (metrics : Metrics) : Value :=
  .record [
    ("total_validations", .int metrics.total),
    ("successful_validations", .int metrics.successful),
    ("failed_validations", .int metrics.failed),
    ("total_errors", .int metrics.violations),
    ("errors_by_code", .map metrics.byCode),
    ("avg_latency_ms", .float metrics.averageLatency),
    ("success_rate", .float metrics.successRate)]

end Metrics

end Conform
