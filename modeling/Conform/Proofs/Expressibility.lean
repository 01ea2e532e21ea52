import Conform.Proofs.Documents
import Conform.Proofs.Embedding
import Conform.Proofs.Faults
import Mathlib.Logic.Relation
import Mathlib.Tactic.MkIffOfInductiveProp

/-!
# Which schemas have documents

Generating a document fails for an unknown provider, and for what a document cannot hold: a
primitive kind that does not exist, a raw node that yields no components, or a value with a part
that has no text.  `Schema.Expressible` is what a schema has to be for a document to be generated.
-/

namespace Conform

/-! ## What a document can hold -/

/-- A value can be written as plain data. -/
def Value.HasPlain (value : Value) : Prop := ∃ plain, value.toPlain = .ok plain

mutual

theorem Value.hasPlain_of_isJson : (value : Value) → value.isJson = true → value.HasPlain
  | .null, _ | .bool _, _ | .int _, _ | .float _, _ | .str _, _ => ⟨_, rfl⟩
  | .list items, json => Attempt.returns_map_iff.mpr (Value.returns_toPlainAll items json)
  | .map entries, json => Attempt.returns_map_iff.mpr (Value.returns_toPlainEntries entries json [])

theorem Value.returns_toPlainAll : (items : List Value) → Value.allJson items = true →
    (Value.toPlainAll items).Returns
  | [], _ => Attempt.returns_ok []
  | item :: rest, json => by
      obtain ⟨itemJson, restJson⟩ := Bool.and_eq_true_iff.mp json
      obtain ⟨plain, written⟩ := Value.hasPlain_of_isJson item itemJson
      rw [Value.toPlainAll, written, Attempt.ok_bind]
      exact Attempt.returns_map_iff.mpr (Value.returns_toPlainAll rest restJson)

theorem Value.returns_toPlainEntries : (entries : List (Value × Value)) →
    Value.entriesJson entries = true → (done : Entries) →
      (Value.toPlainEntries done entries).Returns
  | [], _, done => Attempt.returns_ok done
  | (.str name, value) :: rest, json, done => by
      obtain ⟨valueJson, restJson⟩ := Bool.and_eq_true_iff.mp json
      obtain ⟨plain, written⟩ := Value.hasPlain_of_isJson value valueJson
      rw [Value.toPlainEntries, written]
      exact Value.returns_toPlainEntries rest restJson (done.put (.str name) plain)

end

/-- All bounds of constraints can be written as plain data. -/
def Constraint.AllPlain (constraints : List Constraint) : Prop :=
  ∀ constraint ∈ constraints, constraint.2.HasPlain

/-! ## Types whose documents go into others -/

namespace TypeSpec

/-- A type whose document goes into that of another one, as it is. -/
inductive Enters : TypeSpec → TypeSpec → Prop where
  | items {inner : TypeSpec} {minItems maxItems : Value} :
      Enters inner (.array inner minItems maxItems)
  | alternative {spec : TypeSpec} {alternatives : List TypeSpec} (among : spec ∈ alternatives) :
      Enters spec (.union alternatives)
  | yieldedAlternative {spec : TypeSpec} {field : Value} {alternatives : List TypeSpec}
      (yields : field.components = .ok alternatives) (among : spec ∈ alternatives) :
      Enters spec (.rawUnion field)
  | element {spec : TypeSpec} {elements : List TypeSpec} (among : spec ∈ elements) :
      Enters spec (.tuple elements)
  | yieldedElement {spec : TypeSpec} {field : Value} {elements : List TypeSpec}
      (yields : field.components = .ok elements) (among : spec ∈ elements) :
      Enters spec (.rawTuple field)
  | value {key value : TypeSpec} : Enters value (.map key value)
  | field {handle : Nat} {schema : Schema} {field : Field} (among : field ∈ schema.fields) :
      Enters field.type (.ref (.schema handle schema))

/-- A property of single types holds of a type and of all those whose documents go into its own, at
every depth. -/
def AllEntering (holds : TypeSpec → Prop) (spec : TypeSpec) : Prop :=
  ∀ part, Relation.ReflTransGen Enters part spec → holds part

variable {holds : TypeSpec → Prop}

/-- A property holds of all that enters a document if it does of the type itself and of all that
enters the documents that go into it. -/
theorem allEntering_iff {spec : TypeSpec} :
    spec.AllEntering holds ↔ holds spec ∧ ∀ part, Enters part spec → part.AllEntering holds := by
  constructor
  · exact fun all =>
    ⟨all spec .refl, fun part enters other within => all other (within.tail enters)⟩
  · rintro ⟨own, parts⟩ other within
    obtain rfl | ⟨part, within, enters⟩ := within.cases_tail
    · exact own
    · exact parts part enters other within

@[simp] theorem allEntering_primitive {kind : Kind} :
    (primitive kind).AllEntering holds ↔ holds (.primitive kind) :=
  allEntering_iff.trans (and_iff_left fun _ => nofun)

@[simp] theorem allEntering_unknownKind {kind : Value} :
    (unknownKind kind).AllEntering holds ↔ holds (.unknownKind kind) :=
  allEntering_iff.trans (and_iff_left fun _ => nofun)

@[simp] theorem allEntering_raw {component : Value} :
    (raw component).AllEntering holds ↔ holds (.raw component) :=
  allEntering_iff.trans (and_iff_left fun _ => nofun)

@[simp] theorem allEntering_array {inner : TypeSpec} {minItems maxItems : Value} :
    (array inner minItems maxItems).AllEntering holds ↔
      holds (.array inner minItems maxItems) ∧ inner.AllEntering holds :=
  allEntering_iff.trans (and_congr_right' ⟨fun parts => parts inner .items, fun parts _ => fun
    | .items => parts⟩)

@[simp] theorem allEntering_union {alternatives : List TypeSpec} :
    (union alternatives).AllEntering holds ↔
      holds (.union alternatives) ∧ ∀ spec ∈ alternatives, spec.AllEntering holds :=
  allEntering_iff.trans (and_congr_right' ⟨fun parts spec among => parts spec (.alternative among),
    fun parts spec => fun
      | .alternative among => parts spec among⟩)

@[simp] theorem allEntering_rawUnion {field : Value} :
    (rawUnion field).AllEntering holds ↔ holds (.rawUnion field) ∧
      ∀ specs, field.components = .ok specs → ∀ spec ∈ specs, spec.AllEntering holds :=
  allEntering_iff.trans (and_congr_right' ⟨fun parts _ yields spec among =>
    parts spec (.yieldedAlternative yields among), fun parts spec => fun
      | .yieldedAlternative yields among => parts _ yields spec among⟩)

@[simp] theorem allEntering_tuple {elements : List TypeSpec} :
    (tuple elements).AllEntering holds ↔
      holds (.tuple elements) ∧ ∀ spec ∈ elements, spec.AllEntering holds :=
  allEntering_iff.trans (and_congr_right' ⟨fun parts spec among => parts spec (.element among),
    fun parts spec => fun
      | .element among => parts spec among⟩)

@[simp] theorem allEntering_rawTuple {field : Value} :
    (rawTuple field).AllEntering holds ↔ holds (.rawTuple field) ∧
      ∀ specs, field.components = .ok specs → ∀ spec ∈ specs, spec.AllEntering holds :=
  allEntering_iff.trans (and_congr_right' ⟨fun parts _ yields spec among =>
    parts spec (.yieldedElement yields among), fun parts spec => fun
      | .yieldedElement yields among => parts _ yields spec among⟩)

@[simp] theorem allEntering_map {key value : TypeSpec} :
    (map key value).AllEntering holds ↔ holds (.map key value) ∧ value.AllEntering holds :=
  allEntering_iff.trans (and_congr_right' ⟨fun parts => parts value .value, fun parts _ => fun
    | .value => parts⟩)

@[simp] theorem allEntering_schema {handle : Nat} {schema : Schema} :
    (ref (.schema handle schema)).AllEntering holds ↔ holds (.ref (.schema handle schema)) ∧
      ∀ field ∈ schema.fields, field.type.AllEntering holds :=
  allEntering_iff.trans (and_congr_right' ⟨fun parts field among => parts field.type (.field among),
    fun parts _ => fun
      | .field among => parts _ among⟩)

/-- What a type itself puts into its document can be put there: its kind is known, what it yields
can be told, and its bounds and the data of the fields that it refers to can be written as plain
data. -/
def IsExpressibleNode : TypeSpec → Prop
  | .unknownKind kind => (kind.text?.bind Kind.ofName?).isSome = true
  | .array _ minItems maxItems => Constraint.AllPlain (TypeSpec.boundConstraints minItems maxItems)
  | .rawUnion field | .rawTuple field => field.elements?.isSome = true
  | .ref (.schema _ schema) => ∀ field ∈ schema.fields,
    Constraint.AllPlain field.constraints ∧ field.sample.HasPlain ∧ field.default.HasPlain
  | _ => True

/-- A type has a document: what it puts into the document can be put there, at every depth. -/
def Expressible (spec : TypeSpec) : Prop := spec.AllEntering IsExpressibleNode

end TypeSpec

/-- A field has a document: its type has one, and its data can be written as plain data. -/
structure Field.Expressible (field : Field) : Prop where
  type : field.type.Expressible
  data : Constraint.AllPlain field.constraints ∧ field.sample.HasPlain ∧ field.default.HasPlain

/-- The fields and the metadata of a schema can be put into a document. -/
@[mk_iff]
structure Schema.Expressible (schema : Schema) : Prop where
  fields : ∀ field ∈ schema.fields, field.Expressible
  metadata : (Value.map schema.metadata).HasPlain

/-! ## Documents that are generated -/

namespace Document

@[simp] theorem returns_constraintKeywords {constraints : List Constraint} :
    (constraintKeywords constraints).Returns ↔ Constraint.AllPlain constraints := by
  induction constraints with
  | nil => exact iff_of_true (Attempt.returns_ok []) (List.forall_mem_nil _)
  | cons constraint rest ih =>
      rw [Constraint.AllPlain, List.forall_mem_cons, ← Constraint.AllPlain, ← ih]
      exact Attempt.returns_bind_iff fun plain => Attempt.returns_map_iff

@[simp] theorem returns_keywordIf {condition : Bool} {name : String} {operand : Attempt Value} :
    (keywordIf condition name operand).Returns ↔ (condition = true → operand.Returns) := by
  cases condition with
  | false => exact iff_of_true (Attempt.returns_ok []) nofun
  | true =>
      rw [keywordIf, if_pos rfl, forall_prop_of_true rfl]
      exact Attempt.returns_map_iff

@[simp] theorem hasPlain_unless_null {value : Value} :
    ((!value.isNull) = true → value.HasPlain) ↔ value.HasPlain := by
  cases value with
  | null => exact iff_of_true (fun given => nomatch given) ⟨.null, rfl⟩
  | _ => exact forall_prop_of_true rfl

/-- A field adds its keywords when the operands of all of them are plain data. -/
@[simp] theorem returns_keywordsOf {field : Field} {descriptions : Bool} :
    (keywordsOf field descriptions).Returns ↔
      Constraint.AllPlain field.constraints ∧ field.sample.HasPlain ∧ field.default.HasPlain := by
  have sequence : (keywordsOf field descriptions).Returns ↔
      (constraintKeywords field.constraints).Returns ∧ _ ∧ _ ∧ _ :=
    Attempt.returns_bind_iff fun bounds => Attempt.returns_bind_iff fun description =>
      Attempt.returns_bind_iff fun examples => Attempt.returns_map_iff
  have described : (descriptions && field.description.truthy) = true →
      Attempt.Returns (.ok field.description) := fun _ => Attempt.returns_ok _
  have exampled : Attempt.Returns (do return Value.list [← field.sample.toPlain]) ↔
      field.sample.HasPlain := Attempt.returns_map_iff
  rw [sequence, returns_constraintKeywords, returns_keywordIf, returns_keywordIf,
    returns_keywordIf, exampled, iff_true_intro described, true_and]
  exact and_congr_right' (and_congr hasPlain_unless_null hasPlain_unless_null)

/-- What is no kind has the document of one whose name it equals. -/
@[simp] theorem ofUnknownKind_eq_ok_iff {kind : Value} {document : Entries} :
    ofUnknownKind kind = .ok document ↔
      ∃ known, kind.text?.bind Kind.ofName? = some known ∧ ofKind known = document := by
  rw [ofUnknownKind, Value.asKey]
  by_cases hashable : kind.hashable = true
  · rw [if_pos hashable, Attempt.ok_bind]
    cases kind.text?.bind Kind.ofName? <;> simp
  · have untexted : kind.text? = none := by
      cases kind with
      | str => exact absurd rfl hashable
      | _ => rfl
    simp [if_neg hashable, untexted]

@[simp] theorem returns_ofUnknownKind_iff {kind : Value} :
    (ofUnknownKind kind).Returns ↔ (kind.text?.bind Kind.ofName?).isSome = true := by
  simp only [Attempt.Returns, ofUnknownKind_eq_ok_iff, Option.isSome_iff_exists]
  exact ⟨fun ⟨_, kind, known, _⟩ => ⟨kind, known⟩, fun ⟨kind, known⟩ => ⟨_, kind, known, rfl⟩⟩

@[simp] theorem returns_withConstraints {document : Entries} {constraints : List Constraint} :
    (withConstraints document constraints).Returns ↔ Constraint.AllPlain constraints := by
  rw [withConstraints_eq, Attempt.returns_map_iff, returns_constraintKeywords]

/-- The fields of a schema have documents when their types do and they can add their keywords. -/
@[simp] theorem returns_properties_cons {descriptions : Bool} {field : Field} {rest : List Field} :
    (Schema.properties descriptions (field :: rest)).Returns ↔
      (field.type.document.Returns ∧ (keywordsOf field descriptions).Returns) ∧
        (Schema.properties descriptions rest).Returns := by
  rw [properties_cons, ofField_eq]
  refine (Attempt.returns_bind_iff fun document => Attempt.returns_map_iff).trans ?_
  exact and_congr_left' (Attempt.returns_bind_iff fun document => Attempt.returns_map_iff)

@[simp] theorem returns_documents_iff {specs : List TypeSpec} :
    (TypeSpec.documents specs).Returns ↔ ∀ spec ∈ specs, spec.document.Returns := by
  induction specs with
  | nil => exact iff_of_true (Attempt.returns_ok []) (List.forall_mem_nil _)
  | cons spec rest ih =>
      rw [List.forall_mem_cons, ← ih, TypeSpec.documents]
      exact Attempt.returns_bind_iff fun document => Attempt.returns_map_iff

/-- What a value yields has documents if it yields anything and each of its components has one. -/
@[simp] theorem returns_memberDocuments_iff {field : Value} :
    field.memberDocuments.Returns ↔ field.elements?.isSome = true ∧
      ∀ specs, field.components = .ok specs → ∀ spec ∈ specs, spec.document.Returns := by
  rw [Value.memberDocuments_eq, Value.components, Value.elements]
  cases field.elements? with
  | none => simp [Attempt.Returns]
  | some members => simp [returns_documents_iff]

/-- The fields of a schema have documents when each of them has. -/
theorem returns_properties_iff {descriptions : Bool} {fields : List Field} :
    (Schema.properties descriptions fields).Returns ↔ ∀ field ∈ fields,
      field.type.document.Returns ∧
        Constraint.AllPlain field.constraints ∧ field.sample.HasPlain ∧ field.default.HasPlain := by
  induction fields with
  | nil => exact iff_of_true (Attempt.returns_ok []) (List.forall_mem_nil _)
  | cons field rest ih =>
      rw [List.forall_mem_cons, ← ih, returns_properties_cons, returns_keywordsOf]

/-- A type has a document exactly if it is expressible. -/
@[simp] theorem returns_document_iff (spec : TypeSpec) :
    spec.document.Returns ↔ spec.Expressible := by
  unfold TypeSpec.Expressible
  induction spec using TypeSpec.induction with
  | primitive kind =>
      rw [TypeSpec.allEntering_primitive]
      exact iff_of_true (Attempt.returns_ok _) trivial
  | unknownKind kind =>
      rw [TypeSpec.allEntering_unknownKind]
      exact returns_ofUnknownKind_iff
  | raw component =>
      rw [TypeSpec.allEntering_raw]
      exact iff_of_true (Attempt.returns_ok _) trivial
  | array inner minItems maxItems ih =>
      rw [TypeSpec.allEntering_array, ← ih, and_comm]
      exact Attempt.returns_bind_iff fun document => returns_withConstraints
  | union alternatives ih =>
      rw [TypeSpec.allEntering_union, ← forall₂_congr ih, ← returns_documents_iff]
      exact Attempt.returns_map_iff.trans (and_iff_right trivial).symm
  | tuple elements ih =>
      rw [TypeSpec.allEntering_tuple, ← forall₂_congr ih, ← returns_documents_iff]
      exact Attempt.returns_map_iff.trans (and_iff_right trivial).symm
  | rawUnion field ih =>
      rw [TypeSpec.allEntering_rawUnion, ← forall₄_congr ih]
      exact Attempt.returns_map_iff.trans returns_memberDocuments_iff
  | rawTuple field ih =>
      rw [TypeSpec.allEntering_rawTuple, ← forall₄_congr ih]
      exact Attempt.returns_map_iff.trans returns_memberDocuments_iff
  | map key value _ ih =>
      rw [TypeSpec.allEntering_map, ← ih]
      exact Attempt.returns_map_iff.trans (and_iff_right trivial).symm
  | ref target ih =>
      cases target with
      | schema handle schema =>
          rw [TypeSpec.allEntering_schema, ← forall₂_congr (ih handle schema rfl),
            document_reference, Attempt.returns_map_iff, returns_properties_iff, and_comm]
          exact forall₂_and
      | _ =>
          exact iff_of_true (Attempt.returns_ok _)
            (TypeSpec.allEntering_iff.mpr ⟨trivial, nofun⟩)

/-- The fields of a schema have documents exactly if they are expressible. -/
@[simp] theorem returns_properties (descriptions : Bool) (fields : List Field) :
    (Schema.properties descriptions fields).Returns ↔ ∀ field ∈ fields, field.Expressible := by
  rw [returns_properties_iff]
  exact forall₂_congr fun field _ => by
    rw [returns_document_iff]
    exact ⟨fun ⟨type, data⟩ => ⟨type, data⟩, fun ⟨type, data⟩ => ⟨type, data⟩⟩

/-- Metadata is added when it is plain data. -/
@[simp] theorem returns_withMetadata {document metadata : Entries} :
    (withMetadata document metadata).Returns ↔ (Value.map metadata).HasPlain := by
  rw [withMetadata]
  cases metadata with
  | nil => exact iff_of_true (Attempt.returns_ok _) ⟨.map [], rfl⟩
  | cons entry rest => exact Attempt.returns_map_iff

/-- A document is generated exactly if the provider is known and the schema can be expressed. -/
theorem returns_generate (schema : Schema) (options : Options) :
    (generate schema options).Returns ↔ options.IsKnown ∧ schema.Expressible := by
  have written (known : options.IsKnown) :
      (generate schema options).Returns ↔ schema.Expressible := by
    rw [generate_eq known, Attempt.returns_bind_iff fun properties => returns_withMetadata,
      returns_properties, Schema.expressible_iff]
  constructor
  · rintro ⟨document, generated⟩
    have known := isKnown_of_generate generated
    exact ⟨known, (written known).mp ⟨document, generated⟩⟩
  · rintro ⟨known, expressible⟩
    exact (written known).mpr expressible

end Document

end Conform
