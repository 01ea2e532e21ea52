import Conform.Schema.Definition
import Conform.Validation.Trace

/-!
# Validation

`Schema.verdict` is the verdict of a schema on data under given options; `validate` is the run that
also logs and displays.  Options arrive as named values and are read by `Options.ofSettings`.
-/

namespace Conform

/-- Named option values, as a caller gives them. -/
abbrev NamedOptions := List (String × Value)

/-- The options of a validation. -/
structure Options where
  /-- Convert values before they are checked. -/
  coerce : Bool := false
  /-- The strictness to use in place of that of the schema. -/
  strict : Option Bool := none
  /-- The path of the data, which every violation gets in front. -/
  path : Path := []
  /-- Display the outcome. -/
  debug : Bool := false

namespace Options

/-- Read named options over others. -/
def read (options : Options) : NamedOptions → Attempt Options
  | [] => .ok options
  | ("coerce", value) :: rest => read { options with coerce := value.truthy } rest
  | ("strict", value) :: rest =>
    read { options with strict := if value.isNull then none else some value.truthy } rest
  | ("path", value) :: rest => do read { options with path := ← value.elements } rest
  | ("debug", value) :: rest => read { options with debug := value.truthy } rest
  | _ => .error .unexpectedOption

/-- Read named options. -/
def ofNamed (named : NamedOptions) : Attempt Options := read {} named

/-- The options for the item at an index of a series. -/
def atIndex (options : Options) (index : Nat) : Options :=
  { options with path := .int index :: options.path }

end Options

/-- Refuse options that repeat an argument given otherwise. -/
def refuseRepeated (names : List String) (named : NamedOptions) : Attempt Unit :=
  if named.any fun (name, _) => names.contains name then .error .unexpectedOption else .ok ()

namespace Field

/-- The checker of the values of a field, with a conversion before it if asked for. -/
def checkWith (env : Environment) (coerce : Bool) (field : Field) : Checker :=
  if coerce then Check.coerced (field.type.coerce env) (field.check env) else field.check env

end Field

namespace Schema

/-- The rules of a schema, with conversions if asked for. -/
def rulesWith (env : Environment) (coerce : Bool) (schema : Schema) : List Rule :=
  schema.fields.map fun field => ⟨field, field.checkWith env coerce⟩

/-- The verdict of a schema on data. -/
def verdict (env : Environment) (schema : Schema) (data : Value) (options : Options) :
    Attempt (Verdict Value) :=
  Record.check env (schema.rulesWith env options.coerce) (options.strict.getD schema.strict)
    schema.hook data options.path

/-- Without options the verdict is that of the check of the schema. -/
@[simp] theorem verdict_eq_check (env : Environment) (schema : Schema) (data : Value)
    (path : Path) :
    schema.verdict env data ⟨false, none, path, false⟩ = schema.check env data path := by
  obtain ⟨fields, title, description, strict, hook, metadata⟩ := schema
  simp only [verdict, check, rules_eq_map]
  rfl

/-- What a field reports, with a conversion before its check if asked for. -/
def traceWith (env : Environment) (coerce : Bool) (field : Field) : Tracer := fun value =>
  if coerce then
    match field.type.coerce env value [] with
    | .ok (.accepted converted) => field.trace env converted
    | _ => []
  else field.trace env value

/-- What validating data reports. -/
def events (env : Environment) (schema : Schema) (data : Value) (options : Options) :
    List Event :=
  Trace.record env
    ((schema.rulesWith env options.coerce).zip
      (schema.fields.map (traceWith env options.coerce)))
    (options.strict.getD schema.strict) schema.hook data

end Schema

/-- The display of a verdict. -/
def Display.ofVerdict (verdict : Verdict Value) (title : Value) : Attempt Display :=
  match verdict with
  | .accepted record => do
    let count ← record.length
    return .line ("[bold green][OK][/bold green] Validated " ++ Digits.write count ++ " field(s)")
  | .rejected violations => do return .panel (← Panel.ofViolations violations title)

/-- Validate a value against a type. -/
def TypeSpec.validate (env : Environment) (spec : TypeSpec) (value : Value) (path : Path) :
    Run (Verdict Value) := do
  Run.emit (spec.trace env value)
  Run.lift (spec.check env value path)

/-- Validate data against a schema. -/
def validate (env : Environment) (schema : Schema) (data : Value) (options : Options) :
    Run (Verdict Value) := do
  Run.emit (schema.events env data options)
  let verdict ← Run.lift (schema.verdict env data options)
  if options.debug then
    Run.emit [.shown (← Run.lift (Display.ofVerdict verdict schema.title))]
  return verdict

/-- The outcome of a validation is the verdict, unless its display faults. -/
theorem Schema.verdict_of_validate {env : Environment} {schema : Schema} {data : Value}
    {options : Options} {outcome : Verdict Value}
    (validated : (validate env schema data options).outcome = .ok outcome) :
    schema.verdict env data options = .ok outcome := by
  simp only [validate, Run.outcome_bind, Run.outcome_emit, Attempt.ok_bind] at validated
  obtain ⟨decided, checked, others⟩ := Attempt.bind_eq_ok_iff.mp validated
  split at others
  case isTrue =>
    simp only [Run.outcome_bind, Run.outcome_emit, Attempt.ok_bind] at others
    obtain ⟨display, _, same⟩ := Attempt.bind_eq_ok_iff.mp others
    cases same
    exact checked
  case isFalse =>
    cases others
    exact checked

/-- Without a display the outcome of a validation is the verdict. -/
@[simp] theorem Schema.outcome_validate (env : Environment) (schema : Schema) (data : Value)
    (coerce : Bool) (strict : Option Bool) (path : Path) :
    (validate env schema data ⟨coerce, strict, path, false⟩).outcome =
      schema.verdict env data ⟨coerce, strict, path, false⟩ := by
  simp only [validate, Run.outcome_bind, Run.outcome_emit, Run.outcome_lift, Attempt.ok_bind]
  cases schema.verdict env data ⟨coerce, strict, path, false⟩ <;> rfl

/-- Validate data under named options. -/
def validateNamed (env : Environment) (schema : Schema) (data : Value) (named : NamedOptions) :
    Run (Verdict Value) := do
  validate env schema data (← Run.lift (Options.ofNamed named))

/-- The accepted record of a validation; a rejection is a fault. -/
def validateOrFault (env : Environment) (schema : Schema) (data : Value) (named : NamedOptions) :
    Run Value := do
  match ← validateNamed env schema data named with
  | .accepted record => return record
  | .rejected violations =>
    Run.lift (do throw (.rejected violations (← Violation.account violations)))

end Conform
