import Conform.Schema.Basic

/-!
# JSON Schema documents

A schema as an equivalent JSON Schema document, and a check of documents for structural problems.
Bounds, examples, defaults and metadata enter a document as plain JSON data (`Value.toPlain`).
-/

namespace Conform

/-- The keyword of a constraint in documents. -/
def ConstraintKey.keyword : ConstraintKey → String
  | .minLength => "minLength"
  | .maxLength => "maxLength"
  | .minItems => "minItems"
  | .maxItems => "maxItems"
  | .gt => "exclusiveMinimum"
  | .gteq => "minimum"
  | .lt => "exclusiveMaximum"
  | .lteq => "maximum"
  | .format => "pattern"
  | .choices => "enum"

mutual

/-- A value as plain data: patterns by their source, sequences as lists, keys as texts, anything
foreign as its text. -/
def Value.toPlain : Value → Attempt Value
  | .pattern expression => .ok expression.sourceValue
  | .list items => do return .list (← Value.toPlainAll items)
  | .tuple items => do return .list (← Value.toPlainAll items)
  | .set items => do return .list (← Value.toPlainAll items)
  | .frozenset items => do return .list (← Value.toPlainAll items)
  | .map entries => do return .map (← Value.toPlainEntries [] entries)
  | .null => .ok .null
  | .str text => .ok (.str text)
  | .int n => .ok (.int n)
  | .float x => .ok (.float x)
  | .bool flag => .ok (.bool flag)
  | other => do return .str (← other.plain)

/-- Values as plain data. -/
def Value.toPlainAll : List Value → Attempt (List Value)
  | [] => .ok []
  | value :: rest => do return (← value.toPlain) :: (← Value.toPlainAll rest)

/-- Entries as plain data, after those given; keys of the same text are one. -/
def Value.toPlainEntries (done : Entries) : List (Value × Value) → Attempt Entries
  | [] => .ok done
  | (key, value) :: rest => do
    let name ← key.plain
    let plain ← value.toPlain
    Value.toPlainEntries (done.put (.str name) plain) rest
termination_by structural entries => entries

end

namespace Document

/-- The document of a primitive kind. -/
def ofKind : Kind → Entries
  | .string => [(.str "type", .str "string")]
  | .integer => [(.str "type", .str "integer")]
  | .float => [(.str "type", .str "number")]
  | .boolean => [(.str "type", .str "boolean")]
  | .atom => [(.str "type", .str "string"), (.str "description", .str "Atom value")]
  | .any => []
  | .map => [(.str "type", .str "object")]

/-- The document of what is no kind, unless it equals the name of one. -/
def ofUnknownKind (kind : Value) : Attempt Entries := do
  match (← kind.asKey).text?.bind Kind.ofName? with
  | some known => return ofKind known
  | none => throw .missingKey

/-- The document of anything that was never resolved. -/
def unresolved : Entries := [(.str "type", .str "object")]

/-- The document of alternatives, given theirs. -/
def ofUnion (alternatives : List Value) : Entries := Entries.ofTexts [("oneOf", .list alternatives)]

/-- The document of a tuple, given those of its elements. -/
def ofTuple (elements : List Value) : Entries :=
  Entries.ofTexts [
    ("type", .str "array"),
    ("prefixItems", .list elements),
    ("items", .bool false),
    ("minItems", .int elements.length),
    ("maxItems", .int elements.length)]

/-- A document with the keywords of constraints. -/
def withConstraints (document : Entries) : List Constraint → Attempt Entries
  | [] => .ok document
  | (key, bound) :: rest => do
    withConstraints (document.put (.str key.keyword) (← bound.toPlain)) rest

/-- A document with a keyword, if a condition holds. -/
def withIf (document : Entries) (condition : Bool) (keyword : String) (value : Value) : Entries :=
  if condition then document.put (.str keyword) value else document

/-- The document of a field, given that of its type. -/
def ofField (field : Field) (descriptions : Bool) (typeDocument : Attempt Entries) :
    Attempt Value := do
  let document ← withConstraints (← typeDocument) field.constraints
  let document := withIf document (descriptions && field.description.truthy) "description"
    field.description
  let document ← if field.sample.isNull then pure document else do
    pure (document.put (.str "examples") (.list [← field.sample.toPlain]))
  if field.hasDefault then
    return .map (document.put (.str "default") (← field.default.toPlain))
  else return .map document

/-- The document of a record, given those of its properties. -/
def ofRecord (schema : Schema) (descriptions strict : Bool) (properties : Entries) : Entries :=
  let document : Entries := Entries.ofTexts [
    ("type", .str "object"),
    ("properties", .map properties),
    ("required", .ofStrings schema.requiredNames),
    ("additionalProperties", .bool (!strict))]
  let document := withIf document schema.title.truthy "title" schema.title
  withIf document (descriptions && schema.description.truthy) "description" schema.description

end Document

mutual

/-- The document of a type.  A nested schema keeps its descriptions and its own strictness. -/
def TypeSpec.document : TypeSpec → Attempt Entries
  | .primitive kind => .ok (Document.ofKind kind)
  | .unknownKind kind => Document.ofUnknownKind kind
  | .array inner minItems maxItems => do
    let document := Entries.ofTexts [("type", .str "array"), ("items", .map (← inner.document))]
    Document.withConstraints document (TypeSpec.boundConstraints minItems maxItems)
  | .union alternatives => do return Document.ofUnion (← TypeSpec.documents alternatives)
  | .rawUnion alternatives => do return Document.ofUnion (← alternatives.memberDocuments)
  | .tuple elements => do return Document.ofTuple (← TypeSpec.documents elements)
  | .rawTuple elements => do return Document.ofTuple (← elements.memberDocuments)
  | .map _ value => do
    return Entries.ofTexts
      [("type", .str "object"), ("additionalProperties", .map (← value.document))]
  | .ref (.schema _ ⟨fields, title, description, strict, hook, metadata⟩) => do
    let properties ← Schema.properties true fields
    return Document.ofRecord ⟨fields, title, description, strict, hook, metadata⟩ true strict
      properties
  | .ref _ | .raw _ => .ok Document.unresolved

/-- The documents of several types. -/
def TypeSpec.documents : List TypeSpec → Attempt (List Value)
  | [] => .ok []
  | spec :: rest => do return .map (← spec.document) :: (← TypeSpec.documents rest)

/-- The documents of the components that a value yields. -/
def Value.memberDocuments : Value → Attempt (List Value)
  | .list items | .tuple items | .set items | .frozenset items => Value.eachDocument items
  | .map entries => Value.keyDocuments entries
  | other => do return (← other.elements).map fun _ => .map Document.unresolved

/-- The documents of values as components. -/
def Value.eachDocument : List Value → Attempt (List Value)
  | [] => .ok []
  | .spec spec :: rest => do return .map (← spec.document) :: (← Value.eachDocument rest)
  | _ :: rest => do return .map Document.unresolved :: (← Value.eachDocument rest)

/-- The documents of the keys of entries as components. -/
def Value.keyDocuments : List (Value × Value) → Attempt (List Value)
  | [] => .ok []
  | (.spec spec, _) :: rest => do return .map (← spec.document) :: (← Value.keyDocuments rest)
  | _ :: rest => do return .map Document.unresolved :: (← Value.keyDocuments rest)

/-- The documents of fields by name. -/
def Schema.properties (descriptions : Bool) : List Field → Attempt Entries
  | [] => .ok []
  | ⟨name, type, required, constraints, description, sample, default⟩ :: rest => do
    let document ← Document.ofField
      ⟨name, type, required, constraints, description, sample, default⟩ descriptions type.document
    return (.str name, document) :: (← Schema.properties descriptions rest)
termination_by structural fields => fields

end

namespace Document

/-- How a document is to be generated: with descriptions or without, for which provider, with which
strictness. -/
structure Options where
  descriptions : Bool := true
  provider : Value := .str "generic"
  strict : Option Bool := none

/-- The providers that documents can be made for. -/
def providers : List String := ["generic", "openai", "anthropic"]

/-- Read the options of a generation. -/
def Options.ofSettings (options : Options) : List (String × Value) → Attempt Options
  | [] => .ok options
  | ("include_descriptions", value) :: rest =>
    Options.ofSettings { options with descriptions := value.truthy } rest
  | ("provider", value) :: rest => Options.ofSettings { options with provider := value } rest
  | ("strict", value) :: rest =>
    Options.ofSettings
      { options with strict := if value.isNull then none else some value.truthy } rest
  | _ => .error .unexpectedOption

/-- The document of a schema.  Documents for a provider never allow additional properties. -/
def generate (schema : Schema) (options : Options) : Attempt Value := do
  if !(providers.any fun provider => Value.str provider == options.provider) then
    throw (.unknownProvider (← options.provider.literal))
  else
    let properties ← Schema.properties options.descriptions schema.fields
    let document := ofRecord schema options.descriptions (options.strict.getD schema.strict)
      properties
    let document := withIf document (!(Value.str "generic" == options.provider))
      "additionalProperties" (.bool false)
    if schema.metadata.isEmpty then return .map document
    else return .map (document.put (.str "x-metadata") (← (Value.map schema.metadata).toPlain))

/-- The document of a schema for a provider; the options may not name another one. -/
def generateFor (schema : Schema) (provider : Value) (settings : List (String × Value)) :
    Attempt Value := do
  if settings.any fun (name, _) => name == "provider" || name == "schema" then
    throw .unexpectedOption
  else generate schema { ← Options.ofSettings {} settings with provider }

/-- The types that documents may name. -/
def typeNames : List String :=
  ["object", "array", "string", "number", "integer", "boolean", "null"]

/-- The pairs of keywords that bound the same thing from below and above. -/
def boundKeywords : List (String × String) :=
  [("minimum", "maximum"), ("minLength", "maxLength"), ("minItems", "maxItems")]

/-- What is wrong with the type of a document. -/
def typeIssues (document : Entries) : Attempt (List String) :=
  match document.getText "type" with
  | .null =>
    .ok (if document.has (.str "oneOf") then [] else ["Schema missing 'type' field"])
  | .str name => .ok (if typeNames.contains name then [] else ["Invalid type: " ++ name])
  | _ => .ok []

/-- What is wrong with an object document that says nothing about its properties. -/
def objectIssues (document : Entries) : List String :=
  if document.getText "type" == .str "object" && !document.has (.str "properties") &&
      !document.has (.str "additionalProperties") then
    ["Object schema missing 'properties'"]
  else []

/-- Lower bounds that lie above their upper bounds. -/
def boundIssues (document : Entries) : List (String × String) → Attempt (List String)
  | [] => .ok []
  | (low, high) :: rest => do
    let lower := document.getText low
    let upper := document.getText high
    let found ← match lower.numeric?, upper.numeric? with
      | some x, some y =>
        if y.lt x then do
          pure [low ++ " (" ++ (← lower.plain) ++ ") cannot be greater than " ++ high ++ " (" ++
            (← upper.plain) ++ ")"]
        else pure []
      | _, _ => pure []
    return found ++ (← boundIssues document rest)

/-- What is wrong with a document itself, its properties apart. -/
def ownIssues (document : Entries) : Attempt (List String) := do
  return (← typeIssues document) ++ objectIssues document ++ (← boundIssues document boundKeywords)

mutual

/-- The structural problems of a document. -/
def issues : Value → Attempt (List String)
  | .map entries => do return (← ownIssues entries) ++ (← issuesOfProperties entries)
  | other => .error other.entriesFault

/-- The problems of the documents under the key for properties. -/
def issuesOfProperties : List (Value × Value) → Attempt (List String)
  | [] => .ok []
  | (key, value) :: rest =>
    if key == .str "properties" then
      match value with
      | .map properties => issuesOfEach properties
      | other => if other.truthy then .error other.entriesFault else .ok []
    else issuesOfProperties rest

/-- The problems of named documents, each with its name in front; what names no type is not
checked. -/
def issuesOfEach : List (Value × Value) → Attempt (List String)
  | [] => .ok []
  | (name, .map document) :: rest => do
    let found ←
      if Entries.has document (.str "type") then do
        let inner ← do pure ((← ownIssues document) ++ (← issuesOfProperties document))
        match inner with
        | [] => pure []
        | _ => do
          let name ← name.plain
          pure (inner.map fun issue => name ++ ": " ++ issue)
      else pure []
    return found ++ (← issuesOfEach rest)
  | _ :: rest => issuesOfEach rest

end

end Document

end Conform
