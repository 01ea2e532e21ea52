import Conform.TypeSpec.Check

/-!
# Views of a schema

The names, types and constraints of the fields of a schema, and a summary of the whole.
-/

namespace Conform

namespace Field

/-- Whether a field has a value to use when it is absent. -/
def hasDefault (field : Field) : Bool := !field.default.isNull

/-- A constraint as a pair of name and bound. -/
def constraintPair (constraint : Constraint) : Value :=
  .tuple [.str constraint.1.name, constraint.2]

end Field

namespace Schema

/-- The names of the fields, in definition order. -/
def fieldNames (schema : Schema) : List String := schema.fields.map Field.name

/-- The names of the required fields. -/
def requiredNames (schema : Schema) : List String :=
  (schema.fields.filter Field.required).map Field.name

/-- The names of the fields that may be absent. -/
def optionalNames (schema : Schema) : List String :=
  (schema.fields.filter fun field => !field.required).map Field.name

/-- The types of the fields by name. -/
def fieldTypes (schema : Schema) : Value :=
  .record (schema.fields.map fun field => (field.name, .spec field.type))

/-- The constraints of the fields by name, the bounds of array types first. -/
def constraintTable (schema : Schema) : Value :=
  .record (schema.fields.map fun field =>
    (field.name, .list ((field.type.constraints ++ field.constraints).map Field.constraintPair)))

/-- Counts and settings of the schema. -/
def summary (schema : Schema) : Value :=
  .record [
    ("field_count", .int schema.fields.length),
    ("required_count", .int schema.requiredNames.length),
    ("optional_count", .int schema.optionalNames.length),
    ("field_names", .ofStrings schema.fieldNames),
    ("title", schema.title),
    ("description", schema.description),
    ("strict", .bool schema.strict),
    ("has_post_validation", .bool schema.hook.isSome),
    ("metadata", .map schema.metadata)]

end Schema

end Conform
