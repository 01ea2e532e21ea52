import Conform.Proofs.Tally
import Conform.Schema.Document

/-!
# Documents within documents

The options of a generation reach the fields of the schema for which the document is generated and
no further: a schema that is referred to, at whatever depth, is embedded as the document that it has
on its own under default options.  The field whose type refers to it may add keywords, none of which
hides a part of the document.
-/

namespace Conform

/-! ## Keywords -/

namespace Entries

@[simp] theorem get?_put_of_ne {name other : String} (differs : name ≠ other) (entries : Entries)
    (value : Value) : (entries.put (.str name) value).get? (.str other) =
      entries.get? (.str other) := by
  rw [get?_put entries rfl, if_neg]
  exact fun same => differs (eq_of_beq same)

@[simp] theorem get?_put_self (entries : Entries) (name : String) (value : Value) :
    (entries.put (.str name) value).get? (.str name) = some value := by
  rw [get?_put entries rfl, if_pos]
  exact beq_self_eq_true name

@[simp] theorem put_of_get? {entries : Entries} {key value : Value}
    (found : entries.get? key = some value) : entries.put key value = entries := by
  induction entries with
  | nil => cases found
  | cons entry rest ih =>
      obtain ⟨k, v⟩ := entry
      rw [get?, List.find?_cons] at found
      rw [put]
      split
      case isTrue same =>
        rw [same] at found
        cases found
        rfl
      case isFalse differs =>
        rw [Bool.not_eq_true] at differs
        rw [differs] at found
        rw [ih found]

/-- Entries with others under texts put to them. -/
def putTexts (entries : Entries) (added : List (String × Value)) : Entries :=
  added.foldl (fun entries entry => entries.put (.str entry.1) entry.2) entries

@[simp] theorem putTexts_append (entries : Entries) (added more : List (String × Value)) :
    entries.putTexts (added ++ more) = (entries.putTexts added).putTexts more :=
  List.foldl_append

theorem get?_putTexts_of_not_mem {added : List (String × Value)} {name : String}
    (fresh : name ∉ added.map Prod.fst) (entries : Entries) :
    (entries.putTexts added).get? (.str name) = entries.get? (.str name) := by
  induction added generalizing entries with
  | nil => rfl
  | cons entry rest ih =>
      rw [List.map_cons, List.mem_cons, not_or] at fresh
      obtain ⟨differs, others⟩ := fresh
      exact (ih others _).trans (get?_put_of_ne (Ne.symm differs) entries entry.2)

end Entries

/-! ## The keywords of fields -/

namespace Document

/-- The keywords of constraints. -/
def constraintKeywords : List Constraint → Attempt (List (String × Value))
  | [] => .ok []
  | (key, bound) :: rest => do
    return (key.keyword, ← bound.toPlain) :: (← constraintKeywords rest)

/-- A keyword that is added under a condition. -/
def keywordIf (condition : Bool) (name : String) (operand : Attempt Value) :
    Attempt (List (String × Value)) :=
  if condition then do return [(name, ← operand)] else .ok []

/-- The keywords that a field adds to the document of its type. -/
def keywordsOf (field : Field) (descriptions : Bool) : Attempt (List (String × Value)) := do
  let bounds ← constraintKeywords field.constraints
  let description ← keywordIf (descriptions && field.description.truthy) "description"
    (.ok field.description)
  let examples ← keywordIf (!field.sample.isNull) "examples" do
    return .list [← field.sample.toPlain]
  let default ← keywordIf field.hasDefault "default" field.default.toPlain
  return bounds ++ (description ++ (examples ++ default))

theorem withConstraints_eq (document : Entries) (constraints : List Constraint) :
    withConstraints document constraints =
      constraintKeywords constraints >>= fun keywords => .ok (document.putTexts keywords) := by
  induction constraints generalizing document with
  | nil => rfl
  | cons constraint rest ih =>
      obtain ⟨key, bound⟩ := constraint
      simp only [withConstraints, constraintKeywords]
      cases bound.toPlain with
      | error fault => rfl
      | ok plain =>
          simp only [Attempt.ok_bind, ih]
          cases constraintKeywords rest <;> rfl

theorem ofField_eq (field : Field) (descriptions : Bool) (typeDocument : Attempt Entries) :
    ofField field descriptions typeDocument = typeDocument >>= fun document =>
      keywordsOf field descriptions >>= fun keywords =>
        .ok (.map (document.putTexts keywords)) := by
  cases typeDocument with
  | error fault => rfl
  | ok document =>
      simp only [ofField, keywordsOf, keywordIf, withConstraints_eq, withIf, Attempt.ok_bind]
      cases constraintKeywords field.constraints with
      | error fault => rfl
      | ok bounds =>
          simp only [Attempt.ok_bind]
          cases descriptions && field.description.truthy <;> cases field.sample.isNull <;>
            cases field.hasDefault <;> cases field.sample.toPlain <;>
            cases field.default.toPlain <;>
            simp [Entries.putTexts, bind, Except.bind, pure, Except.pure]

theorem names_constraintKeywords {constraints : List Constraint}
    {keywords : List (String × Value)} (written : constraintKeywords constraints = .ok keywords) :
    keywords.map Prod.fst = constraints.map fun constraint => constraint.1.keyword := by
  induction constraints generalizing keywords with
  | nil =>
      cases written
      rfl
  | cons constraint rest ih =>
      obtain ⟨key, bound⟩ := constraint
      obtain ⟨plain, _, others⟩ := Attempt.bind_eq_ok_iff.mp written
      obtain ⟨more, restWritten, same⟩ := Attempt.bind_eq_ok_iff.mp others
      cases same
      rw [List.map_cons, List.map_cons, ih restWritten]

theorem names_keywordIf {condition : Bool} {name : String} {operand : Attempt Value}
    {keywords : List (String × Value)} (written : keywordIf condition name operand = .ok keywords) :
    ∀ other ∈ keywords.map Prod.fst, other = name := by
  unfold keywordIf at written
  split at written
  case isTrue =>
    obtain ⟨value, _, same⟩ := Attempt.bind_eq_ok_iff.mp written
    cases same
    exact List.forall_mem_singleton.mpr rfl
  case isFalse =>
    cases written
    exact List.forall_mem_nil _

theorem get?_of_keywordIf {condition : Bool} {name other : String} {operand : Attempt Value}
    {keywords : List (String × Value)} (written : keywordIf condition name operand = .ok keywords)
    (differs : name ≠ other) (document : Entries) :
    (document.putTexts keywords).get? (.str other) = document.get? (.str other) := by
  apply Entries.get?_putTexts_of_not_mem
  exact fun among => differs (names_keywordIf written other among).symm

theorem get?_of_constraintKeywords {constraints : List Constraint}
    {keywords : List (String × Value)} (written : constraintKeywords constraints = .ok keywords)
    {name : String} (differs : ∀ key : ConstraintKey, key.keyword ≠ name) (document : Entries) :
    (document.putTexts keywords).get? (.str name) = document.get? (.str name) := by
  apply Entries.get?_putTexts_of_not_mem
  rw [names_constraintKeywords written]
  intro among
  obtain ⟨constraint, _, same⟩ := List.mem_map.mp among
  exact differs _ same

/-- Whether a keyword is one that fields may add. -/
def isAddable (name : String) : Bool :=
  ["minLength", "maxLength", "minItems", "maxItems", "exclusiveMinimum", "minimum",
    "exclusiveMaximum", "maximum", "pattern", "enum", "description", "examples",
    "default"].contains name

/-- A field leaves the keywords that it may not add as they are. -/
theorem get?_of_keywordsOf {field : Field} {descriptions : Bool} {keywords : List (String × Value)}
    (written : keywordsOf field descriptions = .ok keywords) {name : String}
    (structural : isAddable name = false) (document : Entries) :
    (document.putTexts keywords).get? (.str name) = document.get? (.str name) := by
  have differs (other : String) (addable : isAddable other = true) : other ≠ name := by
    rintro rfl
    rw [structural] at addable
    cases addable
  have constraintsDiffer (key : ConstraintKey) : key.keyword ≠ name :=
    differs _ (by cases key <;> decide)
  obtain ⟨bounds, bounded, others⟩ := Attempt.bind_eq_ok_iff.mp written
  obtain ⟨description, described, others⟩ := Attempt.bind_eq_ok_iff.mp others
  obtain ⟨examples, exampled, others⟩ := Attempt.bind_eq_ok_iff.mp others
  obtain ⟨default, defaulted, same⟩ := Attempt.bind_eq_ok_iff.mp others
  cases same
  simp only [Entries.putTexts_append]
  rw [get?_of_keywordIf defaulted (differs _ (by decide)),
    get?_of_keywordIf exampled (differs _ (by decide)),
    get?_of_keywordIf described (differs _ (by decide)),
    get?_of_constraintKeywords bounded constraintsDiffer]

/-! ## Descriptions -/

end Document

/-- The description of a field adds nothing to the document of its type: the field has none, or the
type gives the same. -/
def Field.Undescribed (field : Field) : Prop :=
  field.description.truthy = true → ∀ document, field.type.document = .ok document →
    document.get? (.str "description") = some field.description

/-- Descriptions add nothing to the document of a schema. -/
structure Schema.Undescribed (schema : Schema) : Prop where
  itself : schema.description.truthy = false
  fields : ∀ field ∈ schema.fields, field.Undescribed

namespace Document

/-- A description that is written changes nothing exactly if it is there. -/
theorem description_redundant_iff {bounds examples default : List (String × Value)}
    {constraints : List Constraint} (bounded : constraintKeywords constraints = .ok bounds)
    {exampled defaulted : Bool} {sample fallback : Attempt Value}
    (sampled : keywordIf exampled "examples" sample = .ok examples)
    (filled : keywordIf defaulted "default" fallback = .ok default)
    (document : Entries) (description : Value) :
    document.putTexts (bounds ++ (examples ++ default)) =
        document.putTexts (bounds ++ ([("description", description)] ++ (examples ++ default))) ↔
      document.get? (.str "description") = some description := by
  have kept : (document.putTexts bounds).get? (.str "description") =
      document.get? (.str "description") :=
    get?_of_constraintKeywords bounded (fun key => by cases key <;> decide) document
  have behind (before : Entries) : (before.putTexts (examples ++ default)).get?
      (.str "description") = before.get? (.str "description") := by
    rw [Entries.putTexts_append, get?_of_keywordIf filled (by decide),
      get?_of_keywordIf sampled (by decide)]
  have written : (document.putTexts bounds).putTexts [("description", description)] =
      (document.putTexts bounds).put (.str "description") description := rfl
  rw [Entries.putTexts_append _ bounds, Entries.putTexts_append _ bounds,
    Entries.putTexts_append _ [("description", description)], written]
  constructor
  · intro same
    have found := congrArg (fun entries => Entries.get? entries (.str "description")) same
    rw [behind, behind, kept, Entries.get?_put_self] at found
    exact found
  · intro found
    rw [Entries.put_of_get? (kept.trans found)]

/-- A field has the same document without descriptions exactly if its own adds nothing. -/
theorem ofField_undescribed_iff {field : Field} {document : Value}
    (written : ofField field true field.type.document = .ok document) :
    ofField field false field.type.document = .ok document ↔ field.Undescribed := by
  rw [ofField_eq] at written ⊢
  obtain ⟨own, owned, others⟩ := Attempt.bind_eq_ok_iff.mp written
  obtain ⟨keywords, added, same⟩ := Attempt.bind_eq_ok_iff.mp others
  obtain ⟨bounds, bounded, others⟩ := Attempt.bind_eq_ok_iff.mp added
  obtain ⟨description, described, others⟩ := Attempt.bind_eq_ok_iff.mp others
  obtain ⟨examples, exampled, others⟩ := Attempt.bind_eq_ok_iff.mp others
  obtain ⟨default, defaulted, joined⟩ := Attempt.bind_eq_ok_iff.mp others
  cases joined
  cases same
  have plain : keywordsOf field false = .ok (bounds ++ (examples ++ default)) := by
    simp only [keywordsOf, bounded, exampled, defaulted, Attempt.ok_bind, Bool.false_and]
    rfl
  simp only [owned, plain, Attempt.ok_bind, Except.ok.injEq, Value.map.injEq, Field.Undescribed,
    forall_eq']
  cases truthy : field.description.truthy with
  | false =>
      rw [truthy] at described
      cases described
      simp
  | true =>
      rw [truthy] at described
      cases described
      rw [description_redundant_iff bounded exampled defaulted]
      simp

theorem properties_cons (descriptions : Bool) (field : Field) (rest : List Field) :
    Schema.properties descriptions (field :: rest) =
      ofField field descriptions field.type.document >>= fun document =>
        Schema.properties descriptions rest >>= fun properties =>
          .ok ((.str field.name, document) :: properties) := by
  cases field
  rfl

/-- Fields have the same documents without descriptions exactly if theirs add nothing. -/
theorem properties_undescribed_iff {fields : List Field} {properties : Entries}
    (written : Schema.properties true fields = .ok properties) :
    Schema.properties false fields = .ok properties ↔ ∀ field ∈ fields, field.Undescribed := by
  induction fields generalizing properties with
  | nil =>
      cases written
      exact iff_of_true rfl (List.forall_mem_nil _)
  | cons field rest ih =>
      rw [properties_cons] at written ⊢
      obtain ⟨document, fieldWritten, others⟩ := Attempt.bind_eq_ok_iff.mp written
      obtain ⟨more, restWritten, same⟩ := Attempt.bind_eq_ok_iff.mp others
      cases same
      rw [List.forall_mem_cons, ← ofField_undescribed_iff fieldWritten, ← ih restWritten]
      constructor
      · intro again
        obtain ⟨document, fieldAgain, others⟩ := Attempt.bind_eq_ok_iff.mp again
        obtain ⟨more, restAgain, same⟩ := Attempt.bind_eq_ok_iff.mp others
        cases same
        exact ⟨fieldAgain, restAgain⟩
      · rintro ⟨fieldAgain, restAgain⟩
        rw [fieldAgain, Attempt.ok_bind, restAgain]
        rfl

/-! ## Records -/

@[simp] theorem get?_ofRecord_properties (schema : Schema) (descriptions strict : Bool)
    (properties : Entries) :
    (ofRecord schema descriptions strict properties).get? (.str "properties") =
      some (.map properties) := by
  simp only [ofRecord, withIf]
  cases schema.title.truthy <;> cases descriptions && schema.description.truthy <;> rfl

@[simp] theorem get?_ofRecord_additional (schema : Schema) (descriptions strict : Bool)
    (properties : Entries) :
    (ofRecord schema descriptions strict properties).get? (.str "additionalProperties") =
      some (.bool (!strict)) := by
  simp only [ofRecord, withIf]
  cases schema.title.truthy <;> cases descriptions && schema.description.truthy <;> rfl

@[simp] theorem get?_ofRecord_description (schema : Schema) (descriptions strict : Bool)
    (properties : Entries) :
    (ofRecord schema descriptions strict properties).get? (.str "description") =
      if descriptions && schema.description.truthy then some schema.description else none := by
  simp only [ofRecord, withIf]
  cases schema.title.truthy <;> cases descriptions && schema.description.truthy <;> rfl

/-- The document of a record says which properties there are, whether others may be there, and what
the schema is described as. -/
theorem ofRecord_eq_iff {schema : Schema} {descriptions strict other : Bool}
    {properties more : Entries} :
    ofRecord schema descriptions strict properties = ofRecord schema true other more ↔
      properties = more ∧ strict = other ∧
        (descriptions = true ∨ schema.description.truthy = false) := by
  constructor
  · intro same
    have found (name : String) := congrArg (fun entries => Entries.get? entries (.str name)) same
    have listed := found "properties"
    have further := found "additionalProperties"
    have described := found "description"
    simp only [get?_ofRecord_properties, get?_ofRecord_additional, get?_ofRecord_description,
      Option.some.injEq, Value.map.injEq, Value.bool.injEq, Bool.not_inj_iff, Bool.true_and]
      at listed further described
    refine ⟨listed, further, ?_⟩
    cases descriptions with
    | true => exact .inl rfl
    | false =>
        right
        cases truthy : schema.description.truthy with
        | false => rfl
        | true =>
            rw [truthy] at described
            cases described
  · rintro ⟨rfl, rfl, rfl | undescribed⟩
    · rfl
    · simp [ofRecord, undescribed]

end Document

/-- Whether the document that a generation makes for a schema is closed to other properties. -/
def Document.Options.closes (options : Options) (schema : Schema) : Bool :=
  !(Value.str "generic" == options.provider) || options.strict.getD schema.strict

namespace Document

/-- Documents are made for a provider. -/
def Options.IsKnown (options : Options) : Prop :=
  (providers.any fun provider => Value.str provider == options.provider) = true

@[simp] theorem withIf_ofRecord (schema : Schema) (descriptions strict condition : Bool)
    (properties : Entries) :
    withIf (ofRecord schema descriptions strict properties) condition "additionalProperties"
        (.bool false) =
      ofRecord schema descriptions (condition || strict) properties := by
  simp only [ofRecord, withIf]
  cases condition
  · rfl
  · cases schema.title.truthy <;> cases descriptions && schema.description.truthy <;> rfl

/-- A document with metadata, if there is any. -/
def withMetadata (document metadata : Entries) : Attempt Value :=
  if metadata.isEmpty then .ok (.map document) else do
    return .map (document.put (.str "x-metadata") (← (Value.map metadata).toPlain))

theorem exists_of_withMetadata {document metadata : Entries} {result : Value}
    (written : withMetadata document metadata = .ok result) :
    ∃ full : Entries, result = .map full ∧
      ∀ name, "x-metadata" ≠ name → full.get? (.str name) = document.get? (.str name) := by
  unfold withMetadata at written
  split at written
  case isTrue =>
    cases written
    exact ⟨document, rfl, fun _ _ => rfl⟩
  case isFalse =>
    obtain ⟨plain, _, same⟩ := Attempt.bind_eq_ok_iff.mp written
    cases same
    exact ⟨_, rfl, fun name differs => Entries.get?_put_of_ne differs document plain⟩

theorem isKnown_of_generate {schema : Schema} {options : Options} {document : Value}
    (generated : generate schema options = .ok document) : options.IsKnown := by
  unfold generate at generated
  split at generated
  case isTrue =>
    obtain ⟨shown, _, refused⟩ := Attempt.bind_eq_ok_iff.mp generated
    cases refused
  case isFalse known => rwa [Bool.not_eq_true', Bool.not_eq_false] at known

theorem generate_eq {options : Options} (known : options.IsKnown) (schema : Schema) :
    generate schema options =
      Schema.properties options.descriptions schema.fields >>= fun properties =>
        withMetadata (ofRecord schema options.descriptions (options.closes schema) properties)
          schema.metadata := by
  have checked : (!(providers.any fun provider => Value.str provider == options.provider)) =
      false := by
    rw [known]
    rfl
  simp only [generate, checked, withIf_ofRecord, Bool.false_eq_true, if_false]
  rfl

theorem generate_eq_ok_iff {schema : Schema} {options : Options} (known : options.IsKnown)
    {document : Entries} :
    generate { schema with metadata := [] } options = .ok (.map document) ↔
      ∃ properties, Schema.properties options.descriptions schema.fields = .ok properties ∧
        document = ofRecord schema options.descriptions (options.closes schema) properties := by
  rw [generate_eq known, Attempt.bind_eq_ok_iff]
  apply exists_congr
  intro properties
  apply and_congr_right
  intro _
  constructor
  · intro same
    cases same
    rfl
  · rintro rfl
    rfl

@[simp] theorem document_reference (handle : Nat) (target : Schema) :
    (TypeSpec.ref (.schema handle target)).document =
      Schema.properties true target.fields >>= fun properties =>
        .ok (ofRecord target true target.strict properties) := by
  cases target
  rfl

theorem generate_of_reference {handle : Nat} {target : Schema} {document : Entries}
    (written : (TypeSpec.ref (.schema handle target)).document = .ok document) :
    generate { target with metadata := [] } {} = .ok (.map document) := by
  rw [document_reference] at written
  obtain ⟨properties, listed, same⟩ := Attempt.bind_eq_ok_iff.mp written
  have known : Options.IsKnown {} := rfl
  refine (generate_eq_ok_iff known).mpr ⟨properties, listed, ?_⟩
  cases same
  rfl

/-- Other options make the same document of a schema exactly if they keep its descriptions, or these
add nothing, and if they leave it as open as it is. -/
theorem generate_reference_iff {handle : Nat} {target : Schema} {document : Entries}
    (written : (TypeSpec.ref (.schema handle target)).document = .ok document)
    {options : Options} (known : options.IsKnown) :
    generate { target with metadata := [] } options = .ok (.map document) ↔
      (options.descriptions = true ∨ target.Undescribed) ∧
        options.closes target = target.strict := by
  rw [document_reference] at written
  obtain ⟨properties, listed, same⟩ := Attempt.bind_eq_ok_iff.mp written
  have document_eq : document = ofRecord target true target.strict properties := by
    cases same
    rfl
  rw [generate_eq_ok_iff known, document_eq]
  constructor
  · rintro ⟨others, listedAgain, same⟩
    obtain ⟨rfl, closed, described⟩ := ofRecord_eq_iff.mp same.symm
    refine ⟨?_, closed⟩
    cases asked : options.descriptions with
    | true => exact .inl rfl
    | false =>
        rw [asked] at listedAgain described
        exact .inr ⟨described.resolve_left Bool.false_ne_true,
          (properties_undescribed_iff listed).mp listedAgain⟩
  · rintro ⟨asked | ⟨undescribed, fields⟩, closed⟩
    · exact ⟨properties, by rw [asked]; exact listed, by rw [asked, closed]⟩
    · refine ⟨properties, ?_, (ofRecord_eq_iff.mpr ⟨rfl, closed, .inr undescribed⟩).symm⟩
      cases options.descriptions with
      | true => exact listed
      | false => exact (properties_undescribed_iff listed).mpr fields

/-! ## Parts of documents -/

/-- A step into a document. -/
inductive Step where
  /-- To the document of the items of an array. -/
  | items
  /-- To the document of an element of a tuple. -/
  | element (index : Nat)
  /-- To the document of an alternative of a union. -/
  | alternative (index : Nat)
  /-- To the document of the values of a mapping. -/
  | values
  /-- To the document of a field of a record. -/
  | property (name : String)

/-- The keyword under which a step finds its documents. -/
def Step.keyword : Step → String
  | .items => "items"
  | .element _ => "prefixItems"
  | .alternative _ => "oneOf"
  | .values => "additionalProperties"
  | .property _ => "properties"

/-- The document that a step finds in what stands under its keyword. -/
def Step.find? : Step → Value → Option Value
  | .items, operand | .values, operand => some operand
  | .element index, .list documents | .alternative index, .list documents => documents[index]?
  | .property name, .map properties => Entries.get? properties (.str name)
  | _, _ => none

/-- The part of a document at a step. -/
def part? (step : Step) : Value → Option Value
  | .map document => (Entries.get? document (.str step.keyword)).bind step.find?
  | _ => none

/-- The part of a document after several steps. -/
def partAt? : List Step → Value → Option Value
  | [], document => some document
  | step :: rest, document => (part? step document).bind (partAt? rest)

/-- What a part of a document is made of: a type, or a field with its type. -/
inductive Source where
  | bare (spec : TypeSpec)
  | named (field : Field)

/-- The type of a source. -/
def Source.spec : Source → TypeSpec
  | .bare spec => spec
  | .named field => field.type

/-- The document of a source, given that of its type. -/
def Source.enclose (descriptions : Bool) (typeDocument : Attempt Entries) :
    Source → Attempt Value
  | .bare _ => do return .map (← typeDocument)
  | .named field => ofField field descriptions typeDocument

/-- The document of a source. -/
def Source.document (descriptions : Bool) (source : Source) : Attempt Value :=
  source.enclose descriptions source.spec.document

end Document

open Document (Step Source)

/-- The field of a name. -/
def Schema.field? (schema : Schema) (name : String) : Option Field :=
  schema.fields.find? fun field => field.name == name

/-- The component of a type that a step into its document leads to. -/
def TypeSpec.component? : TypeSpec → Step → Option Source
  | .array inner _ _, .items => some (.bare inner)
  | .tuple elements, .element index => elements[index]?.map .bare
  | .union alternatives, .alternative index => alternatives[index]?.map .bare
  | .map _ value, .values => some (.bare value)
  | .ref (.schema _ target), .property name => (target.field? name).map .named
  | _, _ => none

/-- The source that several steps lead to. -/
def Document.Source.at? : List Step → Source → Option Source
  | [], source => some source
  | step :: rest, source => (source.spec.component? step).bind (at? rest)

namespace Document

theorem getElem?_documents {specs : List TypeSpec} {documents : List Value}
    (written : TypeSpec.documents specs = .ok documents) {index : Nat} {spec : TypeSpec}
    (stands : specs[index]? = some spec) :
    ∃ document, documents[index]? = some (.map document) ∧ spec.document = .ok document := by
  induction specs generalizing documents index with
  | nil => cases stands
  | cons first rest ih =>
      obtain ⟨document, firstWritten, others⟩ := Attempt.bind_eq_ok_iff.mp written
      obtain ⟨more, restWritten, same⟩ := Attempt.bind_eq_ok_iff.mp others
      cases same
      cases index with
      | zero =>
          cases stands
          exact ⟨document, rfl, firstWritten⟩
      | succ index => exact ih restWritten stands

/-- The document of a field stands under its name. -/
theorem get?_properties {descriptions : Bool} {fields : List Field} {properties : Entries}
    (written : Schema.properties descriptions fields = .ok properties) {name : String}
    {field : Field} (found : fields.find? (fun field => field.name == name) = some field) :
    ∃ part, properties.get? (.str name) = some part ∧
      ofField field descriptions field.type.document = .ok part := by
  induction fields generalizing properties with
  | nil => cases found
  | cons first rest ih =>
      rw [properties_cons] at written
      obtain ⟨document, fieldWritten, others⟩ := Attempt.bind_eq_ok_iff.mp written
      obtain ⟨more, restWritten, same⟩ := Attempt.bind_eq_ok_iff.mp others
      cases same
      have keyed : (Value.str first.name == Value.str name) = (first.name == name) := rfl
      rw [Entries.get?, List.find?_cons, keyed]
      rw [List.find?_cons] at found
      cases same : first.name == name with
      | true =>
          rw [same] at found
          cases found
          exact ⟨document, rfl, fieldWritten⟩
      | false =>
          rw [same] at found
          exact ih restWritten found

/-- A step into the document of a type leads to the document of a component of the type. -/
theorem find?_of_component {spec : TypeSpec} {document : Entries}
    (written : spec.document = .ok document) {step : Step} {source : Source}
    (reached : spec.component? step = some source) :
    ∃ part, (document.get? (.str step.keyword)).bind step.find? = some part ∧
      source.document true = .ok part := by
  unfold TypeSpec.component? at reached
  split at reached
  case h_1 inner minItems maxItems =>
    cases reached
    obtain ⟨innerDocument, innerWritten, bounded⟩ := Attempt.bind_eq_ok_iff.mp written
    rw [withConstraints_eq] at bounded
    obtain ⟨keywords, bounds, same⟩ := Attempt.bind_eq_ok_iff.mp bounded
    cases same
    refine ⟨.map innerDocument, ?_, ?_⟩
    · rw [get?_of_constraintKeywords bounds (fun key => by cases key <;> decide)]
      rfl
    · exact Attempt.bind_eq_ok_iff.mpr ⟨innerDocument, innerWritten, rfl⟩
  case h_2 elements index =>
    obtain ⟨spec, stands, rfl⟩ := Option.map_eq_some_iff.mp reached
    obtain ⟨documents, each, same⟩ := Attempt.bind_eq_ok_iff.mp written
    cases same
    obtain ⟨document, placed, specWritten⟩ := getElem?_documents each stands
    exact ⟨.map document, placed, Attempt.bind_eq_ok_iff.mpr ⟨document, specWritten, rfl⟩⟩
  case h_3 alternatives index =>
    obtain ⟨spec, stands, rfl⟩ := Option.map_eq_some_iff.mp reached
    obtain ⟨documents, each, same⟩ := Attempt.bind_eq_ok_iff.mp written
    cases same
    obtain ⟨document, placed, specWritten⟩ := getElem?_documents each stands
    exact ⟨.map document, placed, Attempt.bind_eq_ok_iff.mpr ⟨document, specWritten, rfl⟩⟩
  case h_4 key value =>
    cases reached
    obtain ⟨document, valueWritten, same⟩ := Attempt.bind_eq_ok_iff.mp written
    cases same
    exact ⟨.map document, rfl, Attempt.bind_eq_ok_iff.mpr ⟨document, valueWritten, rfl⟩⟩
  case h_5 handle target name =>
    obtain ⟨field, found, rfl⟩ := Option.map_eq_some_iff.mp reached
    rw [document_reference] at written
    obtain ⟨properties, listed, same⟩ := Attempt.bind_eq_ok_iff.mp written
    cases same
    obtain ⟨part, placed, fieldWritten⟩ := get?_properties listed found
    refine ⟨part, ?_, fieldWritten⟩
    rw [Step.keyword, get?_ofRecord_properties]
    exact placed
  case h_6 => cases reached

@[simp] theorem isAddable_keyword (step : Step) : isAddable step.keyword = false := by
  cases step <;> rfl

/-- A source has the document of its type, and what encloses it leaves the parts as they are. -/
theorem exists_own_of_source {source : Source} {descriptions : Bool} {document : Value}
    (written : source.document descriptions = .ok document) :
    ∃ own full : Entries, source.spec.document = .ok own ∧ document = .map full ∧
      source.enclose descriptions (.ok own) = .ok (.map full) ∧
      ∀ name, isAddable name = false → full.get? (.str name) = own.get? (.str name) := by
  cases source with
  | bare spec =>
      obtain ⟨own, owned, same⟩ := Attempt.bind_eq_ok_iff.mp written
      cases same
      exact ⟨own, own, owned, rfl, rfl, fun _ _ => rfl⟩
  | named field =>
      have enclosed : ofField field descriptions field.type.document = .ok document := written
      rw [ofField_eq] at enclosed
      obtain ⟨own, owned, others⟩ := Attempt.bind_eq_ok_iff.mp enclosed
      obtain ⟨keywords, added, same⟩ := Attempt.bind_eq_ok_iff.mp others
      cases same
      refine ⟨own, own.putTexts keywords, owned, rfl, ?_, ?_⟩
      · show ofField field descriptions (.ok own) = _
        rw [ofField_eq, Attempt.ok_bind, added]
        rfl
      · exact fun name structural => get?_of_keywordsOf added structural own

theorem part?_of_source {source next : Source} {descriptions : Bool} {document : Value}
    (written : source.document descriptions = .ok document) {step : Step}
    (reached : source.spec.component? step = some next) :
    ∃ part, part? step document = some part ∧ next.document true = .ok part := by
  obtain ⟨own, full, owned, rfl, _, kept⟩ := exists_own_of_source written
  obtain ⟨part, found, partWritten⟩ := find?_of_component owned reached
  refine ⟨part, ?_, partWritten⟩
  rw [part?, kept _ (isAddable_keyword step)]
  exact found

/-- Steps into the document of a source lead to the document of what they reach, with descriptions
behind the first step. -/
theorem partAt?_of_source {place : List Step} {source next : Source} {descriptions : Bool}
    {document : Value} (written : source.document descriptions = .ok document)
    (reached : source.at? place = some next) :
    ∃ part, partAt? place document = some part ∧
      next.document (descriptions || !place.isEmpty) = .ok part := by
  induction place generalizing source descriptions document with
  | nil =>
      cases reached
      exact ⟨document, rfl, by rw [List.isEmpty_nil, Bool.not_true, Bool.or_false]; exact written⟩
  | cons step rest ih =>
      obtain ⟨between, first, others⟩ := Option.bind_eq_some_iff.mp reached
      obtain ⟨part, found, partWritten⟩ := part?_of_source written first
      obtain ⟨last, lastFound, lastWritten⟩ := ih partWritten others
      refine ⟨last, ?_, ?_⟩
      · rw [partAt?, found]
        exact lastFound
      · rw [List.isEmpty_cons, Bool.not_false, Bool.or_true]
        exact lastWritten

/-! ## The law -/

/-- How the document of a schema is embedded as a part of a document that is generated under
options. -/
structure Embeds (options : Options) (target : Schema) (source : Source) (descriptions : Bool)
    (own part : Entries) : Prop where
  /-- It is what is generated for the schema under default options, apart from metadata. -/
  generated : generate { target with metadata := [] } {} = .ok (.map own)
  /-- The part is this document, with the keywords of the field if it stands for one. -/
  enclosed : source.enclose descriptions (.ok own) = .ok (.map part)
  /-- Fields change no other keywords. -/
  kept : ∀ name, isAddable name = false → part.get? (.str name) = own.get? (.str name)
  /-- Whatever the options are, additional properties are allowed unless the schema is strict. -/
  additional : part.get? (.str "additionalProperties") = some (.bool (!target.strict))
  /-- Whatever the options are, the description of the schema is there. -/
  described : target.description.truthy = true →
    own.get? (.str "description") = some target.description
  /-- The options make the same document of the schema exactly if they ask for what is there. -/
  alike_iff : generate { target with metadata := [] } options = .ok (.map own) ↔
    (options.descriptions = true ∨ target.Undescribed) ∧ options.closes target = target.strict

/-- Wherever a type in a schema refers to another one, also within schemas that are referred to, the
document of that schema under default options is embedded. -/
theorem generate_embeds (schema : Schema) (options : Options) (document : Value)
    (generated : generate schema options = .ok document) (name : String) (field : Field)
    (found : schema.field? name = some field) (place : List Step) (source : Source)
    (reached : (Source.named field).at? place = some source) (handle : Nat) (target : Schema)
    (refers : source.spec = .ref (.schema handle target)) :
    ∃ own part : Entries, partAt? (.property name :: place) document = some (.map part) ∧
      Embeds options target source (options.descriptions || !place.isEmpty) own part := by
  have known := isKnown_of_generate generated
  rw [generate_eq known] at generated
  obtain ⟨properties, listed, annotated⟩ := Attempt.bind_eq_ok_iff.mp generated
  obtain ⟨full, rfl, stands⟩ := exists_of_withMetadata annotated
  obtain ⟨property, propertyFound, fieldWritten⟩ := get?_properties listed found
  have sourceWritten : (Source.named field).document options.descriptions = .ok property :=
    fieldWritten
  obtain ⟨part, partFound, partWritten⟩ := partAt?_of_source sourceWritten reached
  obtain ⟨own, part, owned, rfl, enclosed, kept⟩ := exists_own_of_source partWritten
  rw [refers] at owned
  have first : part? (.property name) (.map full) = some property := by
    rw [part?, Step.keyword, stands _ (by decide), get?_ofRecord_properties]
    exact propertyFound
  refine ⟨own, part, ?_, generate_of_reference owned, enclosed, kept, ?_, ?_,
    generate_reference_iff owned known⟩
  · rw [partAt?, first]
    exact partFound
  all_goals
    rw [document_reference] at owned
    obtain ⟨inner, _, same⟩ := Attempt.bind_eq_ok_iff.mp owned
    cases same
  · rw [kept _ (by decide)]
    exact get?_ofRecord_additional _ _ _ _
  · intro described
    rw [get?_ofRecord_description, described]
    rfl

/-- A schema in the items of a field of another one, under options that it does not heed. -/
theorem generate_embeds_item :
    let target : Schema := ⟨[⟨"b", .primitive .string, true, [], .str "text", .null, .null⟩],
      .null, .str "inner", false, none, []⟩
    let field : Field := ⟨"a", .array (.ref (.schema 1 target)) .null .null, true,
      [(.minItems, .int 1)], .null, .null, .null⟩
    let schema : Schema := ⟨[field], .null, .null, false, none, [(.str "k", .null)]⟩
    let options : Options := { descriptions := false, provider := .str "openai" }
    ∃ document, generate schema options = .ok document ∧
      ∃ own part : Entries, partAt? [.property "a", .items] document = some (.map part) ∧
        Embeds options target (.bare (.ref (.schema 1 target))) true own part := by
  intro target field schema options
  obtain ⟨document, generated⟩ : ∃ document, generate schema options = .ok document := ⟨_, rfl⟩
  exact ⟨document, generated, generate_embeds schema options document generated "a" field rfl
    [.items] _ rfl 1 target rfl⟩

/-- For a provider a nested record is left open, though its document on its own is closed; and its
description is there, though the options ask for none. -/
theorem generate_leaves_nested_open :
    let target : Schema := ⟨[⟨"b", .primitive .string, true, [], .null, .null, .null⟩],
      .null, .str "inner", false, none, []⟩
    let schema : Schema := ⟨[⟨"a", .ref (.schema 1 target), true, [], .null, .null, .null⟩],
      .null, .null, false, none, []⟩
    let options : Options := { descriptions := false, provider := .str "openai" }
    Schema.define (.list [.tuple [.str "a", .schema 1 target]]) {} = .ok schema ∧
      ∃ document, generate schema options = .ok document ∧
        ∃ own part : Entries, partAt? [.property "a"] document = some (.map part) ∧
          generate target options = .ok (.map own) ∧
          own.get? (.str "additionalProperties") = some (.bool false) ∧
          part.get? (.str "additionalProperties") = some (.bool true) ∧
          own.get? (.str "description") = none ∧
          part.get? (.str "description") = some (.str "inner") := by
  intro target schema options
  exact ⟨rfl, _, rfl, _, _, rfl, rfl, rfl, rfl, rfl, rfl⟩

end Document

end Conform
