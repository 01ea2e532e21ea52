import Conform.Schema.Basic
import Conform.Text.Identifier

/-!
# Defining schemas

A schema is built from a list of field tuples `(name, type)` or `(name, type, options)`.  Every
tuple is checked before any data is seen, and the first flaw refuses the whole definition.
`Schema.fieldSpecs` writes the fields of a schema back as such tuples, and `Schema.extend` appends
to them.
-/

namespace Conform

/-- The hook given to a definition: the handle of a behaviour, or some other value. -/
inductive HookSetting where
  | behaviour (handle : Nat)
  | value (value : Value)

/-- The settings given to a definition; those not given have their defaults. -/
structure Settings where
  title : Option Value := none
  description : Option Value := none
  strict : Option Value := none
  hook : Option HookSetting := none
  metadata : Option Value := none

namespace Settings

/-- Settings with those missing taken from others. -/
def orElse (settings base : Settings) : Settings where
  title := settings.title <|> base.title
  description := settings.description <|> base.description
  strict := settings.strict <|> base.strict
  hook := settings.hook <|> base.hook
  metadata := settings.metadata <|> base.metadata

end Settings

namespace FieldSpec

/-- The option names that are no constraints. -/
def plainOptions : List String := ["required", "optional", "default", "description", "example"]

/-- Whether a key is the name of a field option. -/
def isOption : Value → Bool
  | .str name => plainOptions.contains name || (ConstraintKey.ofName? name).isSome
  | _ => false

/-- The name, the type and the options of a field tuple. -/
def split : Value → Attempt (Value × Value × Entries)
  | .tuple [name, type] => .ok (name, type, [])
  | .tuple [name, type, .map options] => .ok (name, type, options)
  | spec => (DefinitionFlaw.fieldForm spec).refuse

/-- The name of a field, which has to be an identifier. -/
def checkName (name : Value) : Attempt String :=
  match name with
  | .str text => if isIdentifier text then .ok text else (DefinitionFlaw.fieldName name).refuse
  | _ => (DefinitionFlaw.fieldName name).refuse

/-- Refuse options that do not exist. -/
def checkOptions (name : String) (options : Entries) : Attempt Unit :=
  match (options.map Prod.fst).filter fun key => !isOption key with
  | [] => .ok ()
  | unknown => (DefinitionFlaw.fieldOptions name unknown).refuse

/-- The type of a field; a flaw of the type is reported as one of the field. -/
def resolveType (name : String) (type : Value) : Attempt TypeSpec :=
  match type.toSpec with
  | .ok spec => .ok spec
  | .error (.malformedDefinition account) => (DefinitionFlaw.inField name account).refuse
  | .error fault => .error fault

/-- Whether a field is required: as its options say, or else unless a default is given. -/
def resolveRequired (name : String) (options : Entries) : Attempt Bool :=
  let required := options.get? (.str "required")
  let optional := options.get? (.str "optional")
  if required.isSome && optional.isSome then (DefinitionFlaw.requiredAndOptional name).refuse
  else
    let result := match required, optional with
      | some flag, _ => flag.truthy
      | none, some flag => !flag.truthy
      | none, none => !options.has (.str "default")
    if result && !(options.getText "default").isNull then
      (DefinitionFlaw.requiredWithDefault name).refuse
    else .ok result

/-- Whether a value is a collection that choices can be taken from: one that has members, other than
a text and bytes that cannot grow. -/
def isCollection : Value → Bool
  | .list _ | .tuple _ | .set _ | .frozenset _ | .map _ | .bytearray _ | .enumeration .. => true
  | _ => false

/-- Refuse choices that are no collection. -/
def checkChoices (name : String) (options : Entries) : Attempt Unit :=
  match options.get? (.str "choices") with
  | none => .ok ()
  | some allowed =>
    if isCollection allowed then .ok () else (DefinitionFlaw.choicesForm name allowed).refuse

/-- The constraints among options, in their order. -/
def constraintsOf (options : Entries) : List Constraint :=
  options.filterMap fun (key, bound) => do
    let name ← key.text?
    let constraint ← ConstraintKey.ofName? name
    return (constraint, bound)

/-- Whether a constraint bounds the number of items. -/
def isItemBound (constraint : Constraint) : Bool :=
  constraint.1 == .minItems || constraint.1 == .maxItems

/-- The bound that a constraint list gives for a key, or else another one. -/
def boundOr (constraints : List Constraint) (key : ConstraintKey) (other : Value) : Value :=
  match constraints.find? fun constraint => constraint.1 == key with
  | some (_, bound) => bound
  | none => other

/-- Move bounds on the number of items from the constraints of a field into its array type. -/
def foldBounds (type : TypeSpec) (constraints : List Constraint) :
    Attempt (TypeSpec × List Constraint) :=
  match type with
  | .array inner minItems maxItems =>
    if constraints.any isItemBound then do
      let folded := TypeSpec.array inner (boundOr constraints .minItems minItems)
        (boundOr constraints .maxItems maxItems)
      folded.checkForm
      return (folded, constraints.filter fun constraint => !isItemBound constraint)
    else .ok (type, constraints)
  | _ => .ok (type, constraints)

end FieldSpec

/-- The field that a field tuple defines. -/
def Field.ofSpec (spec : Value) : Attempt Field := do
  let (nameValue, typeValue, options) ← FieldSpec.split spec
  let name ← FieldSpec.checkName nameValue
  FieldSpec.checkOptions name options
  let type ← FieldSpec.resolveType name typeValue
  let required ← FieldSpec.resolveRequired name options
  FieldSpec.checkChoices name options
  let (type, constraints) ← FieldSpec.foldBounds type (FieldSpec.constraintsOf options)
  return {
    name, type, required, constraints
    description := options.getText "description"
    sample := options.getText "example"
    default := options.getText "default" }

namespace Schema

/-- The fields that field tuples define, after those given; names are unique. -/
def fieldsOfSpecs (done : List Field) : List Value → Attempt (List Field)
  | [] => .ok done
  | spec :: rest => do
    let field ← Field.ofSpec spec
    if done.any fun other => other.name == field.name then
      (DefinitionFlaw.duplicateField field.name).refuse
    else fieldsOfSpecs (done ++ [field]) rest

/-- The handle of the hook of a definition, if it is given one. -/
def resolveHook : Option HookSetting → Attempt (Option Nat)
  | none => .ok none
  | some (.behaviour handle) => .ok (some handle)
  | some (.value value) =>
    if value.isNull then .ok none else (DefinitionFlaw.hookForm value.typeName).refuse

/-- Whether a value is no list of field tuples however its members look. -/
def isForeignList : Value → Bool
  | .str _ | .bytes _ | .map _ => true
  | _ => false

/-- Define a schema. -/
def define (specs : Value) (settings : Settings) : Attempt Schema := do
  if isForeignList specs then DefinitionFlaw.fieldsForm.refuse
  else
    let hook ← resolveHook settings.hook
    let fields ← fieldsOfSpecs [] (← specs.elements)
    let metadata ← (settings.metadata.getD .null).entriesIfAny
    return {
      fields, hook, metadata
      title := settings.title.getD .null
      description := settings.description.getD .null
      strict := (settings.strict.getD (.bool false)).truthy }

/-- The options of a field tuple that defines the given field. -/
def optionsOf (field : Field) : Entries :=
  Entries.ofTexts (field.constraints.map fun (key, bound) => (key.name, bound)) ++
  (if field.hasDefault then [(.str "default", field.default)]
    else [(.str "required", .bool field.required)]) ++
  (if field.description.isNull then [] else [(.str "description", field.description)]) ++
  (if field.sample.isNull then [] else [(.str "example", field.sample)])

/-- The field tuples that define the fields of a schema. -/
def fieldSpecs (schema : Schema) : List Value :=
  schema.fields.map fun field =>
    .tuple [.str field.name, .spec field.type, .map (optionsOf field)]

/-- The settings of a schema. -/
def settings (schema : Schema) : Settings where
  title := some schema.title
  description := some schema.description
  strict := some (.bool schema.strict)
  hook := schema.hook.map .behaviour
  metadata := some (.map schema.metadata)

/-- A schema with further fields, and with settings that override its own. -/
def extend (schema : Schema) (specs : Value) (overrides : Settings) : Attempt Schema := do
  define (.list (schema.fieldSpecs ++ (← specs.elements))) (overrides.orElse schema.settings)

/-- Whether defining a schema anew from its own field tuples gives the same fields. -/
def rebuildsEqual (schema : Schema) : Attempt Bool := do
  let rebuilt ← define (.list schema.fieldSpecs) {}
  return rebuilt.fields.length == schema.fields.length &&
    (rebuilt.fields.zip schema.fields).all fun (a, b) => a.same b

end Schema

end Conform
