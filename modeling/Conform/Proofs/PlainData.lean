import Conform.Proofs.Expressibility

/-!
# Documents are plain data

Values enter a document at many places.  Bounds, examples, defaults and metadata pass through
`Value.toPlain`, which makes plain data of whatever it can write, with one exception: a pattern is
written as its source, and the source of a pattern of bytes is bytes.  Titles and descriptions enter
as they are.  So the document of a schema whose titles and descriptions are texts is plain data at
every node, except for the sources of patterns of bytes.
-/

namespace Conform

/-! ## Plain data -/

/-- Every node of a value is null, a flag, a number, a text, a list, or a mapping with text keys, or
else one of the values that are let through. -/
inductive Value.IsDataWith (extra : Value → Prop) : Value → Prop
  | null : IsDataWith extra .null
  | bool (flag : Bool) : IsDataWith extra (.bool flag)
  | int (n : Int) : IsDataWith extra (.int n)
  | float (x : Double) : IsDataWith extra (.float x)
  | str (text : String) : IsDataWith extra (.str text)
  | list {items : List Value} (each : ∀ item ∈ items, IsDataWith extra item) :
      IsDataWith extra (.list items)
  | map {entries : Entries} (named : ∀ entry ∈ entries, ∃ name, entry.1 = .str name)
      (each : ∀ entry ∈ entries, IsDataWith extra entry.2) : IsDataWith extra (.map entries)
  | extra {value : Value} (given : extra value) : IsDataWith extra value

/-- Every node of a value is null, a flag, a number, a text, a list, or a mapping with text keys. -/
def Value.IsPlainData (value : Value) : Prop := value.IsDataWith fun _ => False

variable {extra : Value → Prop}

theorem Value.IsPlainData.of_entry {entries : Entries} (plain : (Value.map entries).IsPlainData)
    {entry : Value × Value} (among : entry ∈ entries) : entry.2.IsPlainData := by
  cases plain with
  | map _ each => exact each entry among
  | extra given => exact given.elim

theorem Value.not_isPlainData_bytes (octets : List UInt8) : ¬ (Value.bytes octets).IsPlainData := by
  rintro ⟨⟩
  assumption

/-- Whatever is let through may be let through along with more. -/
theorem Value.IsDataWith.mono {more : Value → Prop} {value : Value} (data : value.IsDataWith extra)
    (wider : ∀ value, extra value → more value) : value.IsDataWith more := by
  induction data with
  | null => exact .null
  | bool flag => exact .bool flag
  | int n => exact .int n
  | float x => exact .float x
  | str text => exact .str text
  | list _ ih => exact .list ih
  | map named _ ih => exact .map named ih
  | extra given => exact .extra (wider _ given)

namespace Entries

/-- The keys of entries are texts, and their values data. -/
structure AreDataWith (extra : Value → Prop) (entries : Entries) : Prop where
  named : ∀ entry ∈ entries, ∃ name, entry.1 = .str name
  each : ∀ entry ∈ entries, entry.2.IsDataWith extra

namespace AreDataWith

variable {entries : Entries}

theorem nil : AreDataWith extra [] := ⟨List.forall_mem_nil _, List.forall_mem_nil _⟩

theorem cons {value : Value} (name : String) (data : value.IsDataWith extra)
    (rest : AreDataWith extra entries) : AreDataWith extra ((.str name, value) :: entries) where
  named := List.forall_mem_cons.mpr ⟨⟨name, rfl⟩, rest.named⟩
  each := List.forall_mem_cons.mpr ⟨data, rest.each⟩

/-- What is put under a text leaves data. -/
theorem put {value : Value} (whole : AreDataWith extra entries) (name : String)
    (data : value.IsDataWith extra) : AreDataWith extra (entries.put (.str name) value) := by
  induction entries with
  | nil => exact nil.cons name data
  | cons entry rest ih =>
      obtain ⟨key, other⟩ := entry
      obtain ⟨⟨text, rfl⟩, named⟩ := List.forall_mem_cons.mp whole.named
      obtain ⟨otherData, each⟩ := List.forall_mem_cons.mp whole.each
      rw [Entries.put]
      split
      · exact cons text data ⟨named, each⟩
      · exact cons text otherData (ih ⟨named, each⟩)

theorem putTexts {added : List (String × Value)} (whole : AreDataWith extra entries)
    (data : ∀ entry ∈ added, entry.2.IsDataWith extra) :
    AreDataWith extra (entries.putTexts added) := by
  induction added generalizing entries with
  | nil => exact whole
  | cons entry rest ih =>
      obtain ⟨first, others⟩ := List.forall_mem_cons.mp data
      exact ih (whole.put entry.1 first) others

theorem ofTexts {texts : List (String × Value)} (data : ∀ entry ∈ texts, entry.2.IsDataWith extra) :
    AreDataWith extra (Entries.ofTexts texts) := by
  induction texts with
  | nil => exact nil
  | cons entry rest ih =>
      obtain ⟨first, others⟩ := List.forall_mem_cons.mp data
      exact (ih others).cons entry.1 first

theorem map (whole : AreDataWith extra entries) : (Value.map entries).IsDataWith extra :=
  .map whole.named whole.each

end AreDataWith

end Entries

theorem Value.IsDataWith.ofStrings (texts : List String) :
    (Value.ofStrings texts).IsDataWith extra := by
  refine .list fun item among => ?_
  obtain ⟨text, _, rfl⟩ := List.mem_map.mp among
  exact .str text

/-! ## Values as plain data -/

mutual

/-- The sources of the patterns of bytes that a value holds, keys of mappings apart. -/
def Value.bytePatterns : Value → List (List UInt8)
  | .pattern ⟨.bytes octets, _⟩ => [octets]
  | .list items | .tuple items | .set items | .frozenset items => Value.bytePatternsOfAll items
  | .map entries => Value.bytePatternsOfEntries entries
  | _ => []

def Value.bytePatternsOfAll : List Value → List (List UInt8)
  | [] => []
  | item :: rest => item.bytePatterns ++ Value.bytePatternsOfAll rest

def Value.bytePatternsOfEntries : List (Value × Value) → List (List UInt8)
  | [] => []
  | (_, value) :: rest => value.bytePatterns ++ Value.bytePatternsOfEntries rest

end

/-- The sources of the patterns of bytes that a value holds are let through. -/
def Value.IsLetThrough (extra : Value → Prop) (value : Value) : Prop :=
  ∀ octets ∈ value.bytePatterns, extra (.bytes octets)

mutual

/-- What a value is written as is data, if the sources of its patterns of bytes are let through. -/
theorem Value.isDataWith_of_toPlain : (value : Value) → value.IsLetThrough extra → {plain : Value} →
    value.toPlain = .ok plain → plain.IsDataWith extra
  | .null, _, _, written => by
      cases written
      exact .null
  | .bool flag, _, _, written => by
      cases written
      exact .bool flag
  | .int n, _, _, written => by
      cases written
      exact .int n
  | .float x, _, _, written => by
      cases written
      exact .float x
  | .str text, _, _, written => by
      cases written
      exact .str text
  | .pattern ⟨.text source, _⟩, _, _, written => by
      cases written
      exact .str source
  | .pattern ⟨.bytes octets, _⟩, through, _, written => by
      cases written
      exact .extra (through octets List.mem_cons_self)
  | .list items, through, _, written | .tuple items, through, _, written
  | .set items, through, _, written | .frozenset items, through, _, written => by
      obtain ⟨plains, all, same⟩ := Attempt.bind_eq_ok_iff.mp written
      cases same
      exact .list (Value.isDataWith_of_toPlainAll items through all)
  | .map entries, through, _, written => by
      obtain ⟨plains, all, same⟩ := Attempt.bind_eq_ok_iff.mp written
      cases same
      exact (Value.areDataWith_of_toPlainEntries entries through .nil all).map
  | .bytes _, _, _, written | .bytearray _, _, _, written | .symbol _, _, _, written
  | .member .., _, _, written | .enumeration .., _, _, written | .type _, _, _, written
  | .spec _, _, _, written | .violation _, _, _, written | .ok _, _, _, written
  | .err _, _, _, written | .target _, _, _, written | .schema .., _, _, written => by
      obtain ⟨text, _, same⟩ := Attempt.bind_eq_ok_iff.mp written
      cases same
      exact .str text

theorem Value.isDataWith_of_toPlainAll : (items : List Value) →
    (∀ octets ∈ Value.bytePatternsOfAll items, extra (.bytes octets)) → {plains : List Value} →
      Value.toPlainAll items = .ok plains → ∀ plain ∈ plains, plain.IsDataWith extra
  | [], _, _, written => by
      cases written
      exact List.forall_mem_nil _
  | item :: rest, through, _, written => by
      obtain ⟨itemThrough, restThrough⟩ := List.forall_mem_append.mp through
      obtain ⟨plain, itemWritten, others⟩ := Attempt.bind_eq_ok_iff.mp written
      obtain ⟨plains, restWritten, same⟩ := Attempt.bind_eq_ok_iff.mp others
      cases same
      exact List.forall_mem_cons.mpr ⟨Value.isDataWith_of_toPlain item itemThrough itemWritten,
        Value.isDataWith_of_toPlainAll rest restThrough restWritten⟩

theorem Value.areDataWith_of_toPlainEntries : (entries : List (Value × Value)) →
    (∀ octets ∈ Value.bytePatternsOfEntries entries, extra (.bytes octets)) →
      {done plains : Entries} → done.AreDataWith extra →
        Value.toPlainEntries done entries = .ok plains → plains.AreDataWith extra
  | [], _, _, _, data, written => by
      cases written
      exact data
  | (key, value) :: rest, through, _, _, data, written => by
      obtain ⟨valueThrough, restThrough⟩ := List.forall_mem_append.mp through
      obtain ⟨name, _, others⟩ := Attempt.bind_eq_ok_iff.mp written
      obtain ⟨plain, valueWritten, others⟩ := Attempt.bind_eq_ok_iff.mp others
      have valueData := Value.isDataWith_of_toPlain value valueThrough valueWritten
      exact Value.areDataWith_of_toPlainEntries rest restThrough (data.put name valueData) others

end

/-! ## What goes into a document -/

/-- A title or a description is a text, or there is none. -/
def Value.IsCaption (value : Value) : Prop := value = .null ∨ ∃ text, value = .str text

theorem Value.IsCaption.isDataWith {value : Value} (caption : value.IsCaption) :
    value.IsDataWith extra := by
  rcases caption with rfl | ⟨text, rfl⟩
  · exact .null
  · exact .str text

/-- The titles and descriptions that a type itself puts into a document are texts. -/
def TypeSpec.IsCaptionedNode : TypeSpec → Prop
  | .ref (.schema _ schema) => schema.title.IsCaption ∧ schema.description.IsCaption ∧
    ∀ field ∈ schema.fields, field.description.IsCaption
  | _ => True

/-- The titles and descriptions of a schema, of its fields and of the schemas that these refer to
are texts, at every depth. -/
structure Schema.Captioned (schema : Schema) : Prop where
  title : schema.title.IsCaption
  description : schema.description.IsCaption
  fields : ∀ field ∈ schema.fields,
    field.description.IsCaption ∧ field.type.AllEntering TypeSpec.IsCaptionedNode

/-- The values of a field that are written as plain data: its bounds, its example and its
default. -/
def Field.written (field : Field) : List Value :=
  field.constraints.map Prod.snd ++ [field.sample, field.default]

/-- The values that a type itself writes as plain data: bounds on a number of items, and those of
the fields that it refers to. -/
def TypeSpec.written : TypeSpec → List Value
  | .array _ minItems maxItems => [minItems, maxItems]
  | .ref (.schema _ schema) => schema.fields.flatMap Field.written
  | _ => []

theorem TypeSpec.bound_of_mem_boundConstraints {minItems maxItems : Value} {constraint : Constraint}
    (among : constraint ∈ boundConstraints minItems maxItems) :
    constraint.2 = minItems ∨ constraint.2 = maxItems := by
  rw [boundConstraints, List.mem_append] at among
  rcases among with among | among <;> split at among <;> simp_all

/-- A type puts into a document titles and descriptions that are texts, and patterns of bytes only
if they are let through. -/
structure TypeSpec.Supplies (extra : Value → Prop) (spec : TypeSpec) : Prop where
  captioned : spec.IsCaptionedNode
  through : ∀ value ∈ spec.written, value.IsLetThrough extra

/-- A value that a schema writes into its document as plain data. -/
inductive Schema.Writes (schema : Schema) : Value → Prop
  | metadata : Writes schema (.map schema.metadata)
  | field {field : Field} (among : field ∈ schema.fields) {value : Value}
      (held : value ∈ field.written) : Writes schema value
  | type {field : Field} (among : field ∈ schema.fields) {part : TypeSpec}
      (enters : Relation.ReflTransGen TypeSpec.Enters part field.type) {value : Value}
      (held : value ∈ part.written) : Writes schema value

/-- The source of a pattern of bytes that a schema writes. -/
def Schema.IsPatternBytes (schema : Schema) (node : Value) : Prop :=
  ∃ value octets, schema.Writes value ∧ octets ∈ value.bytePatterns ∧ node = .bytes octets

/-! ## Documents -/

namespace Document

open Entries (AreDataWith)

theorem isDataWith_of_constraintKeywords {constraints : List Constraint}
    (through : ∀ constraint ∈ constraints, constraint.2.IsLetThrough extra)
    {keywords : List (String × Value)} (written : constraintKeywords constraints = .ok keywords) :
    ∀ entry ∈ keywords, entry.2.IsDataWith extra := by
  induction constraints generalizing keywords with
  | nil =>
      cases written
      exact List.forall_mem_nil _
  | cons constraint rest ih =>
      obtain ⟨firstThrough, restThrough⟩ := List.forall_mem_cons.mp through
      obtain ⟨plain, boundWritten, others⟩ := Attempt.bind_eq_ok_iff.mp written
      obtain ⟨more, restWritten, same⟩ := Attempt.bind_eq_ok_iff.mp others
      cases same
      exact List.forall_mem_cons.mpr
        ⟨Value.isDataWith_of_toPlain constraint.2 firstThrough boundWritten,
          ih restThrough restWritten⟩

theorem isDataWith_of_keywordIf {condition : Bool} {name : String} {operand : Attempt Value}
    {keywords : List (String × Value)}
    (data : ∀ value, operand = .ok value → value.IsDataWith extra)
    (written : keywordIf condition name operand = .ok keywords) :
    ∀ entry ∈ keywords, entry.2.IsDataWith extra := by
  cases condition with
  | false =>
      cases written
      exact List.forall_mem_nil _
  | true =>
      obtain ⟨value, done, same⟩ := Attempt.bind_eq_ok_iff.mp written
      cases same
      exact List.forall_mem_singleton.mpr (data value done)

/-- What a field adds to the document of its type is data. -/
theorem isDataWith_of_keywordsOf {field : Field} {descriptions : Bool}
    {keywords : List (String × Value)} (captioned : field.description.IsCaption)
    (through : ∀ value ∈ field.written, value.IsLetThrough extra)
    (written : keywordsOf field descriptions = .ok keywords) :
    ∀ entry ∈ keywords, entry.2.IsDataWith extra := by
  simp only [Field.written, List.forall_mem_append, List.forall_mem_map, List.forall_mem_cons]
    at through
  obtain ⟨boundsThrough, sampleThrough, defaultThrough, -⟩ := through
  obtain ⟨bounds, boundsWritten, others⟩ := Attempt.bind_eq_ok_iff.mp written
  obtain ⟨description, descriptionWritten, others⟩ := Attempt.bind_eq_ok_iff.mp others
  obtain ⟨examples, examplesWritten, others⟩ := Attempt.bind_eq_ok_iff.mp others
  obtain ⟨default, defaultWritten, same⟩ := Attempt.bind_eq_ok_iff.mp others
  cases same
  have described : ∀ entry ∈ description, entry.2.IsDataWith extra := by
    apply isDataWith_of_keywordIf _ descriptionWritten
    rintro value ⟨⟩
    exact captioned.isDataWith
  have exampled : ∀ entry ∈ examples, entry.2.IsDataWith extra := by
    apply isDataWith_of_keywordIf _ examplesWritten
    intro value listed
    obtain ⟨plain, sampleWritten, same⟩ := Attempt.bind_eq_ok_iff.mp listed
    cases same
    exact .list (List.forall_mem_singleton.mpr
      (Value.isDataWith_of_toPlain field.sample sampleThrough sampleWritten))
  have defaulted : ∀ entry ∈ default, entry.2.IsDataWith extra :=
    isDataWith_of_keywordIf (fun _ => Value.isDataWith_of_toPlain field.default defaultThrough)
      defaultWritten
  simp only [List.forall_mem_append]
  exact ⟨isDataWith_of_constraintKeywords boundsThrough boundsWritten, described, exampled,
    defaulted⟩

theorem areDataWith_ofKind (kind : Kind) : (ofKind kind).AreDataWith extra := by
  cases kind with
  | any => exact .nil
  | atom => exact (AreDataWith.nil.cons _ (.str _)).cons _ (.str _)
  | _ => exact AreDataWith.nil.cons _ (.str _)

theorem areDataWith_unresolved : unresolved.AreDataWith extra :=
  AreDataWith.nil.cons "type" (.str "object")

theorem areDataWith_ofUnknownKind {kind : Value} {document : Entries}
    (written : ofUnknownKind kind = .ok document) : document.AreDataWith extra := by
  obtain ⟨key, _, concluded⟩ := Attempt.bind_eq_ok_iff.mp written
  split at concluded
  · cases concluded
    exact areDataWith_ofKind _
  · cases concluded

theorem areDataWith_ofUnion {alternatives : List Value}
    (each : ∀ document ∈ alternatives, document.IsDataWith extra) :
    (ofUnion alternatives).AreDataWith extra :=
  AreDataWith.nil.cons "oneOf" (.list each)

theorem areDataWith_ofTuple {elements : List Value}
    (each : ∀ document ∈ elements, document.IsDataWith extra) :
    (ofTuple elements).AreDataWith extra := by
  apply AreDataWith.ofTexts
  simp only [List.forall_mem_cons]
  exact ⟨.str _, .list each, .bool _, .int _, .int _, List.forall_mem_nil _⟩

theorem areDataWith_withIf {document : Entries} {condition : Bool} {keyword : String}
    {value : Value} (whole : document.AreDataWith extra) (data : value.IsDataWith extra) :
    (withIf document condition keyword value).AreDataWith extra := by
  unfold withIf
  split
  · exact whole.put keyword data
  · exact whole

theorem areDataWith_ofRecord {schema : Schema} {descriptions strict : Bool} {properties : Entries}
    (title : schema.title.IsCaption) (description : schema.description.IsCaption)
    (data : properties.AreDataWith extra) :
    (ofRecord schema descriptions strict properties).AreDataWith extra := by
  apply areDataWith_withIf _ description.isDataWith
  apply areDataWith_withIf _ title.isDataWith
  apply AreDataWith.ofTexts
  simp only [List.forall_mem_cons]
  exact ⟨.str _, data.map, .ofStrings _, .bool _, List.forall_mem_nil _⟩

theorem areDataWith_withConstraints {document full : Entries} {constraints : List Constraint}
    (through : ∀ constraint ∈ constraints, constraint.2.IsLetThrough extra)
    (data : document.AreDataWith extra)
    (written : withConstraints document constraints = .ok full) :
    full.AreDataWith extra := by
  rw [withConstraints_eq] at written
  obtain ⟨keywords, keywordsWritten, same⟩ := Attempt.bind_eq_ok_iff.mp written
  cases same
  exact data.putTexts (isDataWith_of_constraintKeywords through keywordsWritten)

/-- The document of a type is data. -/
def TypeIsData (extra : Value → Prop) (spec : TypeSpec) : Prop :=
  ∀ document, spec.document = .ok document → document.AreDataWith extra

/-- The documents of types are data if that of each of them is. -/
theorem isDataWith_of_documents {specs : List TypeSpec}
    (each : ∀ spec ∈ specs, TypeIsData extra spec)
    {documents : List Value} (written : TypeSpec.documents specs = .ok documents) :
    ∀ document ∈ documents, document.IsDataWith extra := by
  induction specs generalizing documents with
  | nil =>
      cases written
      exact List.forall_mem_nil _
  | cons spec rest ih =>
      obtain ⟨specData, restData⟩ := List.forall_mem_cons.mp each
      obtain ⟨document, specWritten, others⟩ := Attempt.bind_eq_ok_iff.mp written
      obtain ⟨documents, restWritten, same⟩ := Attempt.bind_eq_ok_iff.mp others
      cases same
      exact List.forall_mem_cons.mpr ⟨(specData document specWritten).map, ih restData restWritten⟩

/-- The documents of what a value yields are data if those of its components are. -/
theorem isDataWith_of_memberDocuments {field : Value}
    (each : ∀ specs, field.components = .ok specs → ∀ spec ∈ specs, TypeIsData extra spec)
    {documents : List Value} (written : field.memberDocuments = .ok documents) :
    ∀ document ∈ documents, document.IsDataWith extra := by
  rw [Value.memberDocuments_eq] at written
  obtain ⟨specs, found, listed⟩ := Attempt.bind_eq_ok_iff.mp written
  exact isDataWith_of_documents (each specs found) listed

/-- The documents of fields are data under their names, if those of their types are. -/
theorem areDataWith_properties {fields : List Field}
    (captioned : ∀ field ∈ fields, field.description.IsCaption)
    (through : ∀ field ∈ fields, ∀ value ∈ field.written, value.IsLetThrough extra)
    (types : ∀ field ∈ fields, TypeIsData extra field.type) {descriptions : Bool}
    {properties : Entries} (written : Schema.properties descriptions fields = .ok properties) :
    properties.AreDataWith extra := by
  induction fields generalizing properties with
  | nil =>
      cases written
      exact .nil
  | cons field rest ih =>
      obtain ⟨fieldCaptioned, restCaptioned⟩ := List.forall_mem_cons.mp captioned
      obtain ⟨fieldThrough, restThrough⟩ := List.forall_mem_cons.mp through
      obtain ⟨typed, restTyped⟩ := List.forall_mem_cons.mp types
      rw [properties_cons, ofField_eq] at written
      obtain ⟨_, fieldWritten, others⟩ := Attempt.bind_eq_ok_iff.mp written
      obtain ⟨more, restWritten, same⟩ := Attempt.bind_eq_ok_iff.mp others
      cases same
      obtain ⟨document, typeWritten, others⟩ := Attempt.bind_eq_ok_iff.mp fieldWritten
      obtain ⟨keywords, keywordsWritten, same⟩ := Attempt.bind_eq_ok_iff.mp others
      cases same
      have data := ((typed document typeWritten).putTexts
        (isDataWith_of_keywordsOf fieldCaptioned fieldThrough keywordsWritten)).map
      exact (ih restCaptioned restThrough restTyped restWritten).cons field.name data

/-- The document of a type is data, if what goes into it is, at every depth. -/
theorem areDataWith_of_document (spec : TypeSpec)
    (supplied : spec.AllEntering (TypeSpec.Supplies extra)) : TypeIsData extra spec := by
  intro document written
  induction spec using TypeSpec.induction generalizing document with
  | primitive kind =>
      cases written
      exact areDataWith_ofKind kind
  | unknownKind kind => exact areDataWith_ofUnknownKind written
  | array inner minItems maxItems ih =>
      obtain ⟨own, innerSupplied⟩ := TypeSpec.allEntering_array.mp supplied
      obtain ⟨items, innerWritten, bounded⟩ := Attempt.bind_eq_ok_iff.mp written
      have data := (ih innerSupplied items innerWritten).map
      refine areDataWith_withConstraints (fun constraint among => own.through _ ?_)
        ((AreDataWith.nil.cons "items" data).cons "type" (.str "array")) bounded
      rw [TypeSpec.written, List.mem_pair]
      exact TypeSpec.bound_of_mem_boundConstraints among
  | union alternatives ih =>
      obtain ⟨-, parts⟩ := TypeSpec.allEntering_union.mp supplied
      obtain ⟨documents, each, same⟩ := Attempt.bind_eq_ok_iff.mp written
      cases same
      exact areDataWith_ofUnion
        (isDataWith_of_documents (fun spec among => ih spec among (parts spec among)) each)
  | rawUnion field ih =>
      obtain ⟨-, parts⟩ := TypeSpec.allEntering_rawUnion.mp supplied
      obtain ⟨documents, each, same⟩ := Attempt.bind_eq_ok_iff.mp written
      cases same
      exact areDataWith_ofUnion (isDataWith_of_memberDocuments
        (fun specs found spec among => ih specs found spec among (parts specs found spec among))
        each)
  | tuple elements ih =>
      obtain ⟨-, parts⟩ := TypeSpec.allEntering_tuple.mp supplied
      obtain ⟨documents, each, same⟩ := Attempt.bind_eq_ok_iff.mp written
      cases same
      exact areDataWith_ofTuple
        (isDataWith_of_documents (fun spec among => ih spec among (parts spec among)) each)
  | rawTuple field ih =>
      obtain ⟨-, parts⟩ := TypeSpec.allEntering_rawTuple.mp supplied
      obtain ⟨documents, each, same⟩ := Attempt.bind_eq_ok_iff.mp written
      cases same
      exact areDataWith_ofTuple (isDataWith_of_memberDocuments
        (fun specs found spec among => ih specs found spec among (parts specs found spec among))
        each)
  | map key value _ ih =>
      obtain ⟨-, valueSupplied⟩ := TypeSpec.allEntering_map.mp supplied
      obtain ⟨inner, valueWritten, same⟩ := Attempt.bind_eq_ok_iff.mp written
      cases same
      have data := (ih valueSupplied inner valueWritten).map
      exact (AreDataWith.nil.cons "additionalProperties" data).cons "type" (.str "object")
  | ref target ih =>
      cases target with
      | schema handle schema =>
          obtain ⟨⟨⟨title, description, described⟩, through⟩, types⟩ :=
            TypeSpec.allEntering_schema.mp supplied
          rw [document_reference] at written
          obtain ⟨properties, each, same⟩ := Attempt.bind_eq_ok_iff.mp written
          cases same
          refine areDataWith_ofRecord title description
            (areDataWith_properties described ?_ ?_ each)
          · exact fun field among value held =>
              through value (List.mem_flatMap.mpr ⟨field, among, held⟩)
          · exact fun field among => ih handle schema rfl field among (types field among)
      | _ =>
          cases written
          exact areDataWith_unresolved
  | raw component =>
      cases written
      exact areDataWith_unresolved

theorem isDataWith_withMetadata {document metadata : Entries} {full : Value}
    (through : (Value.map metadata).IsLetThrough extra) (data : document.AreDataWith extra)
    (written : withMetadata document metadata = .ok full) : full.IsDataWith extra := by
  unfold withMetadata at written
  split at written
  · cases written
    exact data.map
  · obtain ⟨plain, metadataWritten, same⟩ := Attempt.bind_eq_ok_iff.mp written
    cases same
    exact (data.put "x-metadata" (Value.isDataWith_of_toPlain _ through metadataWritten)).map

/-- A document is generated exactly if the provider is known and all that goes into it can be
written.  If the titles and descriptions are texts, it is plain data but for the sources of the
patterns of bytes that the schema writes; without such patterns it is plain data. -/
theorem generate_isPlainData (schema : Schema) (captioned : schema.Captioned) (options : Options) :
    ((generate schema options).Returns ↔ options.IsKnown ∧ schema.Expressible) ∧
      ∀ document, generate schema options = .ok document →
        document.IsDataWith schema.IsPatternBytes ∧
          ((∀ value, schema.Writes value → value.bytePatterns = []) → document.IsPlainData) := by
  refine ⟨returns_generate schema options, fun document generated => ?_⟩
  have data : document.IsDataWith schema.IsPatternBytes := by
    have through {value : Value} (writes : schema.Writes value) :
        value.IsLetThrough schema.IsPatternBytes :=
      fun octets among => ⟨value, octets, writes, among, rfl⟩
    rw [generate_eq (isKnown_of_generate generated)] at generated
    obtain ⟨properties, each, full⟩ := Attempt.bind_eq_ok_iff.mp generated
    refine isDataWith_withMetadata (through .metadata)
      (areDataWith_ofRecord captioned.title captioned.description ?_) full
    refine areDataWith_properties (fun field among => (captioned.fields field among).1)
      (fun field among value held => through (.field among held)) ?_ each
    exact fun field among => areDataWith_of_document field.type fun part enters =>
      ⟨(captioned.fields field among).2 part enters, fun value held =>
        through (.type among enters held)⟩
  refine ⟨data, fun bytesFree => data.mono ?_⟩
  rintro node ⟨value, octets, writes, among, -⟩
  rw [bytesFree value writes] at among
  cases among

/-- Symbols, patterns, types, sets and keys of any sort stand in a definition, and none of them in
its document. -/
theorem generate_isPlainData_of_foreign_values :
    let choices : Value := .tuple [.symbol "on", .type .text]
    let default : Value := .map [(.null, .set [.null]), (.bool false, .bool true)]
    let metadata : Entries := [(.tuple [], .member "Color" "RED" .null)]
    let target : Schema := ⟨[⟨"tag", .primitive .any, true, [(.choices, choices)], .str "a tag",
      .null, .null⟩], .str "Inner", .null, false, none, []⟩
    let schema : Schema := ⟨[⟨"inner", .ref (.schema 1 target), false, [], .null,
      .pattern ⟨.text "a+", {}⟩, default⟩], .null, .str "outer", false, none, metadata⟩
    (Schema.define (.list [.tuple [.str "tag", .str "any",
        .map [(.str "choices", choices), (.str "description", .str "a tag")]]])
      { title := some (.str "Inner") } = .ok target ∧
    Schema.define (.list [.tuple [.str "inner", .schema 1 target,
        .map [(.str "example", .pattern ⟨.text "a+", {}⟩), (.str "default", default)]]])
      { description := some (.str "outer"), metadata := some (.map metadata) } = .ok schema) ∧
    schema.Captioned ∧ ∃ document, generate schema {} = .ok document ∧ document.IsPlainData := by
  intro choices default metadata target schema
  have captioned : schema.Captioned := by
    refine ⟨.inl rfl, .inr ⟨_, rfl⟩, List.forall_mem_singleton.mpr ⟨.inl rfl, ?_⟩⟩
    rw [TypeSpec.allEntering_schema]
    refine ⟨⟨.inr ⟨_, rfl⟩, .inl rfl, List.forall_mem_singleton.mpr (.inr ⟨_, rfl⟩)⟩, ?_⟩
    exact List.forall_mem_singleton.mpr (TypeSpec.allEntering_primitive.mpr trivial)
  have bytesFree : ∀ value, schema.Writes value → value.bytePatterns = [] := by
    have types : (TypeSpec.ref (.schema 1 target)).AllEntering fun part =>
        ∀ value ∈ part.written, value.bytePatterns = [] := by
      rw [TypeSpec.allEntering_schema]
      exact ⟨by decide, List.forall_mem_singleton.mpr (TypeSpec.allEntering_primitive.mpr nofun)⟩
    intro value writes
    cases writes with
    | metadata => rfl
    | @field field among value held =>
        cases List.mem_singleton.mp among
        revert value
        decide
    | type among enters held =>
        cases List.mem_singleton.mp among
        exact types _ enters _ held
  obtain ⟨document, generated⟩ : ∃ document, generate schema {} = .ok document := ⟨_, rfl⟩
  exact ⟨⟨rfl, rfl⟩, captioned, document, generated,
    ((generate_isPlainData schema captioned {}).2 document generated).2 bytesFree⟩

/-- A pattern of bytes as a format leaves bytes in the document. -/
theorem generate_leaves_bytes :
    let pattern : Value := .pattern ⟨.bytes [120], {}⟩
    let schema : Schema := ⟨[⟨"a", .primitive .string, true, [(.format, pattern)], .null, .null,
      .null⟩], .null, .null, false, none, []⟩
    Schema.define (.list [.tuple [.str "a", .str "string", .map [(.str "format", pattern)]]]) {} =
        .ok schema ∧
      schema.Captioned ∧ ∃ document, generate schema {} = .ok document ∧
        ¬ document.IsPlainData := by
  intro pattern schema
  have captioned : schema.Captioned := by
    refine ⟨.inl rfl, .inl rfl, List.forall_mem_singleton.mpr ⟨.inl rfl, ?_⟩⟩
    exact TypeSpec.allEntering_primitive.mpr trivial
  refine ⟨rfl, captioned, _, rfl, fun plain => ?_⟩
  have properties := plain.of_entry (List.mem_cons_of_mem _ List.mem_cons_self)
  have field := properties.of_entry List.mem_cons_self
  have format := field.of_entry (List.mem_cons_of_mem _ List.mem_cons_self)
  exact Value.not_isPlainData_bytes [120] format

end Document

end Conform
