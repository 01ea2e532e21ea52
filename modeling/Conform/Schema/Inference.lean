import Conform.Schema.Definition

/-!
# Schemas from examples

A schema is inferred from an example of what it should accept.  Members of the example are values of
the wanted sort, or placeholder names of types; nested mappings give nested schemas, and the type of
a sequence is that of its first member.
-/

namespace Conform

/-- The type that a placeholder name stands for. -/
def placeholder? : String → Option TypeSpec
  | "string" => some (.primitive .string)
  | "number" => some (.union [.primitive .float, .primitive .integer])
  | "integer" => some (.primitive .integer)
  | "float" => some (.primitive .float)
  | "boolean" => some (.primitive .boolean)
  | "array" => some (.array (.primitive .any) .null .null)
  | "object" => some (.primitive .map)
  | "any" => some (.primitive .any)
  | _ => none

/-- The field options that an example member gives: real values become the example of the field. -/
def sampleOptions : Value → Entries
  | .str text => if (placeholder? text).isSome then [] else [(.str "example", .str text)]
  | .map _ | .list _ | .tuple _ => []
  | value => [(.str "example", value)]

mutual

/-- The type of an example. -/
def Value.inferSpec : Value → Attempt TypeSpec
  | .str text =>
    match placeholder? text with
    | some inferred => .ok inferred
    | none => .ok (.primitive .string)
  | .bool _ => .ok (.primitive .boolean)
  | .int _ => .ok (.primitive .integer)
  | .float _ => .ok (.primitive .float)
  | .list (first :: _) => do return .array (← first.inferSpec) .null .null
  | .tuple (first :: _) => do return .array (← first.inferSpec) .null .null
  | .list [] | .tuple [] => .ok (.array (.primitive .any) .null .null)
  | .map entries => do
    let schema ← Schema.define (.list (← Value.inferFieldSpecs entries)) {}
    return .ref (.schema 0 schema)
  | _ => .ok (.primitive .any)

/-- The field tuples of the entries of an example. -/
def Value.inferFieldSpecs : List (Value × Value) → Attempt (List Value)
  | [] => .ok []
  | (key, value) :: rest => do
    let name ← key.plain
    let spec ← value.inferSpec
    return .tuple [.str name, .spec spec, .map (sampleOptions value)] ::
      (← Value.inferFieldSpecs rest)

end

namespace Schema

/-- The schema of an example mapping, all of whose fields are required. -/
def infer (sample : Value) (settings : Settings) : Attempt Schema :=
  match sample with
  | .map entries => do define (.list (← Value.inferFieldSpecs entries)) settings
  | other => (DefinitionFlaw.exampleForm other.typeName).refuse

end Schema

end Conform
