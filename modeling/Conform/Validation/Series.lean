import Conform.Metrics
import Conform.Validation.Basic

/-!
# Series of validations

Many inputs against one schema: all at once, one at a time on demand, or as a batch with results,
progress and metrics.  The path of every violation begins with the index of its input.
-/

namespace Conform

/-- The verdict on a series: all accepted values, or the violations of the rejected ones by
index. -/
inductive SeriesVerdict where
  | accepted (values : List Value)
  | rejected (failures : List (Nat × List Violation))

namespace SeriesVerdict

/-- The verdict on a series, given the verdicts on its items from an index on. -/
def collect : Nat → List (Verdict Value) → List Value × List (Nat × List Violation)
  | _, [] => ([], [])
  | index, verdict :: rest =>
    let (values, failures) := collect (index + 1) rest
    match verdict with
    | .accepted value => (value :: values, failures)
    | .rejected violations => (values, (index, violations) :: failures)

/-- The verdict on a series, given the verdicts on its items. -/
def ofVerdicts (verdicts : List (Verdict Value)) : SeriesVerdict :=
  let (values, failures) := collect 0 verdicts
  if failures.isEmpty then .accepted values else .rejected failures

end SeriesVerdict

namespace Series

/-- Validate the item at an index. -/
def validateItem (env : Environment) (schema : Schema) (named : NamedOptions) (index : Nat)
    (item : Value) : Run (Verdict Value) := do
  let options ← Run.lift (Options.ofNamed named)
  validate env schema item (options.atIndex index)

/-- Validate items in order, from an index on. -/
def validateItems (env : Environment) (schema : Schema) (named : NamedOptions) :
    Nat → List Value → Run (List (Verdict Value))
  | _, [] => pure []
  | index, item :: rest => do
    let verdict ← validateItem env schema named index item
    return verdict :: (← validateItems env schema named (index + 1) rest)

end Series

/-- Validate all members of a collection. -/
def validateMany (env : Environment) (schema : Schema) (items : Value) (named : NamedOptions) :
    Run SeriesVerdict := do
  Run.lift (refuseRepeated ["schema", "items"] named)
  let items ← Run.lift items.elements
  return .ofVerdicts (← Series.validateItems env schema named 0 items)

/-- A series that is validated on demand. -/
structure Stream where
  schema : Schema
  named : NamedOptions
  /-- How many items were taken so far. -/
  pulled : Nat
  rest : List Value

namespace Stream

/-- A series none of which is validated yet. -/
def start (schema : Schema) (items : List Value) (named : NamedOptions) : Attempt Stream := do
  refuseRepeated ["schema", "items", "metrics"] named
  return ⟨schema, named, 0, items⟩

/-- Validate the next item; a stream at its end gives nothing, and a fault ends it. -/
def next (env : Environment) (stream : Stream) : Stream × Run (Option (Verdict Value)) :=
  match stream.rest with
  | [] => (stream, pure none)
  | item :: rest =>
    let run := Series.validateItem env stream.schema stream.named stream.pulled item
    let rest := match run.outcome with
      | .ok _ => rest
      | .error _ => []
    ({ stream with pulled := stream.pulled + 1, rest }, do return some (← run))

end Stream

/-- What became of one input of a batch. -/
structure BatchResult where
  index : Nat
  data : Value
  violations : List Violation

namespace BatchResult

/-- Whether the input was accepted. -/
def success (result : BatchResult) : Bool := result.violations.isEmpty

/-- The result of the input at an index. -/
def ofVerdict (index : Nat) : Verdict Value → BatchResult
  | .accepted value => ⟨index, value, []⟩
  | .rejected violations => ⟨index, .null, violations⟩

end BatchResult

/-- A batch validator: a schema, a bound on the validations under way, and options. -/
structure Batch where
  schema : Schema
  maxConcurrent : Value
  named : NamedOptions

/-- What a batch run gives: results in the order of the inputs, how many were done after each, and
the metrics. -/
structure BatchReport where
  results : List BatchResult
  progress : List (Nat × Nat)
  metrics : Metrics

namespace Batch

/-- How many validations may be under way unless something else is said. -/
def defaultConcurrency : Int := 5

/-- A batch validator, with room for at least one validation. -/
def make (schema : Schema) (maxConcurrent : Value) (named : NamedOptions) : Attempt Batch := do
  refuseRepeated ["schema", "max_concurrent", "metrics"] named
  match maxConcurrent.numeric? with
  | none => throw .unordered
  | some number =>
    if number.lt (.whole 1) then throw .noConcurrency else return ⟨schema, maxConcurrent, named⟩

/-- A batch validator, with the room for validations among the named options. -/
def ofNamed (schema : Schema) (named : NamedOptions) : Attempt Batch :=
  make schema ((named.lookup "max_concurrent").getD (.int defaultConcurrency))
    (named.filter fun option => option.1 != "max_concurrent")

/-- Validate the inputs of a batch, from an index on, and record each verdict. -/
def processItems (env : Environment) (batch : Batch) (metrics : Metrics) :
    Nat → List Value → Run (List BatchResult × Metrics)
  | _, [] => pure ([], metrics)
  | index, item :: rest => do
    let verdict ← Series.validateItem env batch.schema batch.named index item
    let (metrics, recorded) := metrics.recordVerdict verdict
    Run.lift recorded
    let (results, metrics) ← processItems env batch metrics (index + 1) rest
    return (BatchResult.ofVerdict index verdict :: results, metrics)

/-- Validate the inputs of a batch.  Inputs are independent, so that the order in which they are
worked on shows neither in the results nor in the counters. -/
def process (env : Environment) (batch : Batch) (items : Value) (metrics : Metrics) :
    Run BatchReport := do
  let items ← Run.lift (match items.elements? with
    | some items => .ok items
    | none => .error .unsupported)
  let (results, metrics) ← processItems env batch metrics 0 items
  let progress := (List.range items.length).map fun done => (done + 1, items.length)
  return ⟨results, progress, metrics⟩

end Batch

end Conform
