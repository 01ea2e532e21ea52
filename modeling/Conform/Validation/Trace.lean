import Conform.Journal
import Conform.TypeSpec.Check

/-!
# What checking a record reports

Every rejection of a record, also of a nested one, is logged with the number of its violations and
their codes, every question to a hook is reported, and every failure of a hook is logged as a
warning.  These events follow from the data and the checkers; they are collected here by the same
walk that the checkers make, which stops at the first fault.
-/

namespace Conform

/-- What the check of a value reports. -/
abbrev Tracer := Value → List Event

namespace Trace

/-- The logger of the validator. -/
def loggerName : String := "shapeguard.validator"

/-- Whether a check of a value ends in a fault. -/
def faults (checker : Checker) (value : Value) : Bool :=
  match checker value [] with
  | .ok _ => false
  | .error _ => true

/-- What checks of values in order report; the first fault ends them. -/
def untilFault : List (Checker × Tracer × Value) → List Event
  | [] => []
  | (checker, tracer, value) :: rest =>
    tracer value ++ if faults checker value then [] else untilFault rest

/-- What alternatives report; the first that does not reject is the last one tried. -/
def untilAccepted (value : Value) : List (Checker × Tracer) → List Event
  | [] => []
  | (checker, tracer) :: rest =>
    tracer value ++
      match checker value [] with
      | .ok (.rejected _) => untilAccepted value rest
      | _ => []

/-- Whether an entry can be stored, given the verdicts on its key and its value: one that is
rejected is not. -/
def storable : Verdict Value → Verdict Value → Bool
  | .accepted key, .accepted _ => key.hashable
  | _, _ => true

/-- What the keys and values of a mapping report. -/
def entries (key value : Checker × Tracer) : Entries → List Event
  | [] => []
  | (k, v) :: rest =>
    key.2 k ++
      match key.1 k [] with
      | .error _ => []
      | .ok keyVerdict =>
        value.2 v ++
          match value.1 v [] with
          | .error _ => []
          | .ok valueVerdict =>
            if storable keyVerdict valueVerdict then entries key value rest else []

/-- The record of a rejection. -/
def rejection (violations : List Violation) (codes : List String) : LogRecord :=
  ⟨.debug, loggerName, s!"Validation failed with {violations.length} error(s): " ++
    joinWith ", " codes⟩

/-- The record of a failed hook. -/
def failure (exception account : String) : LogRecord :=
  ⟨.warning, loggerName, "Post-validation hook raised " ++ exception ++ ": " ++ account⟩

/-- What the question to a hook reports. -/
def review (env : Environment) (hook : Option Nat) (record : Value) : List Event :=
  match hook with
  | none => []
  | some handle =>
    .reviewed handle record ::
      match env.review handle record with
      | .raised exception (.ok account) => [.logged (failure exception account)]
      | _ => []

/-- What the fields of a record report.  A default that cannot be copied ends them. -/
def fields (env : Environment) (data : Entries) : List (Rule × Tracer) → List Event
  | [] => []
  | (rule, tracer) :: rest =>
    match Record.lookup env data rule.field.name with
    | some value =>
      tracer value ++ if faults rule.check value then [] else fields env data rest
    | none => if rule.field.default.copyable then fields env data rest else []

/-- What checking a record reports. -/
def record (env : Environment) (rules : List (Rule × Tracer)) (strict : Bool)
    (hook : Option Nat) : Tracer := fun value =>
  let plain := rules.map Prod.fst
  let ofFields := match value with
    | .map data =>
      if (Record.missing env (plain.map Rule.field) data []).isEmpty then fields env data rules
      else []
    | _ => []
  let ofReview := match Record.candidate env plain strict value [] with
    | .ok (.accepted candidate) => review env hook candidate
    | _ => []
  let ofRejection := match Record.stages env plain strict hook value [] with
    | .ok (.rejected violations) =>
      match Record.codes violations with
      | .ok codes => [.logged (rejection violations codes)]
      | .error _ => []
    | _ => []
  ofFields ++ ofReview ++ ofRejection

/-- What alternatives report that stand in a raw union. -/
def rawUnion (alternatives : Attempt (List Checker)) (tracers : List Tracer) : Tracer :=
    fun value =>
  untilAccepted value ((alternatives.toOption.getD []).zip tracers)

/-- What checking the members of a sequence, one by each element, reports. -/
def tuple (elements : List Checker) (tracers : List Tracer) : Tracer := fun value =>
  let items := value.items?.getD []
  if items.length = elements.length then untilFault (elements.zip (tracers.zip items)) else []

end Trace

mutual

/-- What checking a value against a type reports. -/
def TypeSpec.trace (env : Environment) : TypeSpec → Tracer
  | .array inner _ _ => fun value =>
    Trace.untilFault ((value.items?.getD []).map fun item =>
      (inner.check env, inner.trace env, item))
  | .union alternatives => fun value =>
    Trace.untilAccepted value
      ((TypeSpec.checkers env alternatives).zip (TypeSpec.traces env alternatives))
  | .rawUnion alternatives =>
    Trace.rawUnion (alternatives.memberCheckers env) (alternatives.memberTraces env)
  | .tuple elements =>
    Trace.tuple (TypeSpec.checkers env elements) (TypeSpec.traces env elements)
  | .rawTuple elements =>
    Trace.tuple ((elements.memberCheckers env).toOption.getD []) (elements.memberTraces env)
  | .map key value => fun data =>
    Trace.entries (key.check env, key.trace env) (value.check env, value.trace env)
      (data.entries?.getD [])
  | .ref (.schema _ schema) => Schema.trace env schema
  | _ => fun _ => []

/-- What checking a value against several types reports. -/
def TypeSpec.traces (env : Environment) : List TypeSpec → List Tracer
  | [] => []
  | spec :: rest => spec.trace env :: TypeSpec.traces env rest

/-- What checking a value against the components that a value yields reports; components that were
never resolved report nothing. -/
def Value.memberTraces (env : Environment) : Value → List Tracer
  | .list items | .tuple items | .set items | .frozenset items => Value.eachTrace env items
  | .map entries => Value.keyTraces env entries
  | other => (other.elements?.getD []).map fun _ _ => []

/-- What checking a value against values as components reports. -/
def Value.eachTrace (env : Environment) : List Value → List Tracer
  | [] => []
  | .spec spec :: rest => spec.trace env :: Value.eachTrace env rest
  | _ :: rest => (fun _ => []) :: Value.eachTrace env rest

/-- What checking a value against the keys of entries as components reports. -/
def Value.keyTraces (env : Environment) : List (Value × Value) → List Tracer
  | [] => []
  | (.spec spec, _) :: rest => spec.trace env :: Value.keyTraces env rest
  | _ :: rest => (fun _ => []) :: Value.keyTraces env rest

/-- What checking a record by a schema under its own settings reports. -/
def Schema.trace (env : Environment) : Schema → Tracer
  | ⟨fields, _, _, strict, hook, _⟩ =>
    Trace.record env ((Schema.rules env fields).zip (Schema.fieldTraces env fields)) strict hook

/-- What checking the values of fields reports. -/
def Schema.fieldTraces (env : Environment) : List Field → List Tracer
  | [] => []
  | field :: rest => Field.trace env field :: Schema.fieldTraces env rest

/-- What checking the value of a field reports. -/
def Field.trace (env : Environment) : Field → Tracer
  | ⟨_, type, _, _, _, _, _⟩ => type.trace env

end

end Conform
