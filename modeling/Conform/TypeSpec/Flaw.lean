import Conform.Value.Literal
import Conform.Value.Order

/-!
# What is wrong with a definition

The causes for which a type specification, a field or a schema is refused, and their wording.
-/

namespace Conform

/-- Why a type specification is refused. -/
inductive TypeFlaw where
  | unrecognized
  | unknownName
  | unsupportedDataType
  | malformedBound (bound : String)
  | unknownArrayOptions (options : List Value)
  | arrayForm
  | membersForm (tag : String)
  | emptyUnion
  | mapForm
  | unknownTag (tag : String)
  | unknownKind
  | cannotValidate

/-- Why a definition is refused. -/
inductive DefinitionFlaw where
  | type (spec : Value) (flaw : TypeFlaw)
  | inField (name : String) (account : String)
  | fieldForm (spec : Value)
  | fieldName (name : Value)
  | fieldOptions (name : String) (unknown : List Value)
  | requiredAndOptional (name : String)
  | requiredWithDefault (name : String)
  | choicesForm (name : String) (allowed : Value)
  | duplicateField (name : String)
  | fieldsForm
  | hookForm (typeName : String)
  | exampleForm (typeName : String)

namespace TypeFlaw

/-- The reason given in brackets after the specification; empty when there is none to give. -/
def reason : TypeFlaw → Attempt String
  | .unrecognized => .ok ""
  | .unknownName => .ok "unknown type name"
  | .unsupportedDataType => .ok "unsupported Python type"
  | .malformedBound bound => .ok (bound ++ " must be a non-negative integer")
  | .unknownArrayOptions options => do
    return "unknown array options " ++ (← (Value.list (← Value.sorted options)).literal)
  | .arrayForm => .ok "expected ('array', inner) or ('array', inner, options)"
  | .membersForm tag => .ok ("expected ('" ++ tag ++ "', [types...])")
  | .emptyUnion => .ok "union needs at least one alternative"
  | .mapForm => .ok "expected ('map', key_type, value_type)"
  | .unknownTag tag => .ok ("unknown type tag " ++ quoted tag)
  | .unknownKind => .ok "unknown primitive kind"
  | .cannotValidate => .ok "reference target has no validate()"

end TypeFlaw

namespace DefinitionFlaw

/-- The full account of a flaw. -/
def account : DefinitionFlaw → Attempt String
  | .type spec flaw => do
    let reason ← flaw.reason
    let detail := if reason = "" then "" else " (" ++ reason ++ ")"
    return "Invalid type specification: " ++ (← spec.literal) ++ detail
  | .inField name account => .ok ("Field " ++ quoted name ++ ": " ++ account)
  | .fieldForm spec => do
    return "Invalid field specification: " ++ (← spec.literal) ++
      ". Expected (name, type_spec) or (name, type_spec, options)"
  | .fieldName name => do
    return "Field name must be an identifier, got " ++ (← name.literal)
  | .fieldOptions name unknown => do
    return "Field " ++ quoted name ++ ": invalid field options " ++ (← (Value.list unknown).literal)
  | .requiredAndOptional name =>
    .ok ("Field " ++ quoted name ++ ": cannot specify both 'required' and 'optional'")
  | .requiredWithDefault name =>
    .ok ("Field " ++ quoted name ++ ": a field with a default cannot be required")
  | .choicesForm name allowed => do
    return "Field " ++ quoted name ++ ": choices must be a collection of values, got " ++
      (← allowed.literal)
  | .duplicateField name => .ok ("Duplicate field name " ++ quoted name)
  | .fieldsForm => .ok "field_specs must be a list of field tuples"
  | .hookForm typeName => .ok ("post_validate must be callable, got " ++ typeName)
  | .exampleForm typeName => .ok ("Can only infer a schema from an object, got " ++ typeName)

/-- Refuse a definition. -/
def refuse {α : Type} (flaw : DefinitionFlaw) : Attempt α :=
  match flaw.account with
  | .ok account => .error (.malformedDefinition account)
  | .error fault => .error fault

/-- A refused definition gives nothing. -/
@[simp] theorem refuse_ne_ok {α : Type} (flaw : DefinitionFlaw) (result : α) :
    flaw.refuse ≠ .ok result := by
  unfold refuse
  split <;> simp

end DefinitionFlaw

end Conform
