import Conform.Validation.Series

/-!
# Validating single values

A single value is validated as the only field of a temporary record, whose name is taken off the
paths again.
-/

namespace Conform

namespace Single

/-- The name of the field when the caller gives none. -/
def fieldName : Value := .str "value"

/-- The schema with one field. -/
def schemaOf (name spec constraints : Value) : Attempt Schema := do
  let options ← constraints.entriesIfAny
  Schema.define (.list [.tuple [name, spec, .map options]]) {}

/-- A violation without the name of the field at the front of its path. -/
def stripField (name : Value) (violation : Violation) : Violation :=
  match violation.path with
  | first :: rest => if first == name then { violation with path := rest } else violation
  | [] => violation

/-- The verdict on the value, given the one on the temporary record. -/
def unwrap (name : Value) : Verdict Value → Verdict Value
  | .accepted record =>
    .accepted ((Entries.get? (record.entries?.getD []) name).getD .null)
  | .rejected violations => .rejected (violations.map (stripField name))

/-- Validate a value as the field of a schema with that one field. -/
def run (env : Environment) (schema : Schema) (name value : Value) (named : NamedOptions) :
    Run (Verdict Value) := do
  return unwrap name (← validateNamed env schema (.map [(name, value)]) named)

end Single

/-- Validate a value under a field name of its own. -/
def validateValue (env : Environment) (name spec value constraints : Value)
    (named : NamedOptions) : Run (Verdict Value) := do
  let schema ← Run.lift (Single.schemaOf name spec constraints)
  Single.run env schema name value named

/-- Validate a value against a type. -/
def validateType (env : Environment) (spec value constraints : Value) (named : NamedOptions) :
    Run (Verdict Value) :=
  validateValue env Single.fieldName spec value constraints named

/-- A reusable validator of single values. -/
structure ValueValidator where
  schema : Schema
  named : NamedOptions

namespace ValueValidator

/-- Build the validator; a malformed type is refused here and not on use. -/
def make (spec constraints : Value) (named : NamedOptions) : Attempt ValueValidator := do
  refuseRepeated ["type_spec", "constraints"] named
  return ⟨← Single.schemaOf Single.fieldName spec constraints, named⟩

/-- Validate a value. -/
def validate (env : Environment) (validator : ValueValidator) (value : Value) :
    Run (Verdict Value) :=
  Single.run env validator.schema Single.fieldName value validator.named

end ValueValidator

/-- A reusable validator of records. -/
structure RecordValidator where
  schema : Schema
  named : NamedOptions

namespace RecordValidator

/-- Build the validator from field tuples. -/
def make (specs : Value) (named : NamedOptions) : Attempt RecordValidator := do
  refuseRepeated ["field_specs"] named
  return ⟨← Schema.define (.list (← specs.elements)) {}, named⟩

/-- Validate a record. -/
def validate (env : Environment) (validator : RecordValidator) (data : Value) :
    Run (Verdict Value) :=
  validateNamed env validator.schema data validator.named

end RecordValidator

namespace Pairs

/-- The options among field options that steer the validation itself. -/
def steering : List String := ["coerce", "strict", "debug"]

/-- Whether a key names an option that steers the validation. -/
def isSteering : Value → Bool
  | .str name => steering.contains name
  | _ => false

/-- Store named options over others. -/
def merge (named : NamedOptions) : Entries → NamedOptions
  | [] => named
  | (.str name, value) :: rest =>
    if steering.contains name then
      merge (named.filter (fun option => option.1 != name) ++ [(name, value)]) rest
    else merge named rest
  | _ :: rest => merge named rest

/-- The constraints that named options give, apart from the other options. -/
def takeConstraints (named : NamedOptions) : Value × NamedOptions :=
  match named.find? fun option => option.1 == "constraints" with
  | some (_, constraints) => (constraints, named.filter fun option => option.1 != "constraints")
  | none => (.null, named)

/-- Validate one item: a type and a value, optionally with a name in front and field options behind.
-/
def validateItem (env : Environment) (named : NamedOptions) (index : Nat) (item : Value) :
    Run (Verdict Value) := do
  let count ← Run.lift item.length
  if count = 2 then
    let spec ← Run.lift (item.member? 0)
    let value ← Run.lift (item.member? 1)
    Run.lift (refuseRepeated ["type_spec", "value"] named)
    let (constraints, named) := takeConstraints named
    validateType env spec value constraints named
  else if count = 3 then
    let name ← Run.lift (item.member? 0)
    let spec ← Run.lift (item.member? 1)
    let value ← Run.lift (item.member? 2)
    Run.lift (refuseRepeated ["name", "type_spec", "value"] named)
    let (constraints, named) := takeConstraints named
    validateValue env name spec value constraints named
  else if count = 4 then
    let options ← Run.lift (do (← item.member? 3).entries)
    let name ← Run.lift (item.member? 0)
    let spec ← Run.lift (item.member? 1)
    let value ← Run.lift (item.member? 2)
    Run.lift (refuseRepeated ["name", "type_spec", "value", "constraints"] named)
    let constraints := options.filter fun option => !isSteering option.1
    validateValue env name spec value (.map constraints) (merge named options)
  else
    Run.lift (do throw (.malformedPair index (← item.literal)))

/-- Validate items in order, from an index on. -/
def validateItems (env : Environment) (named : NamedOptions) :
    Nat → List Value → Run (List (Verdict Value))
  | _, [] => pure []
  | index, item :: rest => do
    let verdict ← validateItem env named index item
    return verdict :: (← validateItems env named (index + 1) rest)

end Pairs

/-- Validate a list of values each of which comes with its own type. -/
def validatePairs (env : Environment) (items : Value) (named : NamedOptions) :
    Run SeriesVerdict := do
  Run.lift (refuseRepeated ["items"] named)
  let items ← Run.lift items.elements
  return .ofVerdicts (← Pairs.validateItems env named 0 items)

end Conform
