import Conform.Proofs.Conversions
import Conform.Proofs.Enforcement
import Conform.Proofs.Extension
import Conform.Proofs.Lookups
import Conform.Schema.Inference

/-!
# What inferred schemas accept

A schema is inferred from a sample by looking at the first member of every sequence.  If the members
of every sequence have one shape, the schema accepts every value of the shape of the sample, and
changes nothing about it except that sequences become lists.
-/

namespace Conform

/-! ## Shapes -/

/-- The shape of a value: the kind of a single value, the shape that the members of a sequence have
in common, if there are members, or the shapes of the values of a mapping under its keys. -/
inductive Shape where
  | boolean
  | integer
  | float
  | string
  | other
  | sequence (members : Option Shape)
  | mapping (members : String → Option Shape)

mutual

/-- The shape of a value; that of a sequence is given by its first member. -/
def Value.shape : Value → Shape
  | .bool _ => .boolean
  | .int _ => .integer
  | .float _ => .float
  | .str _ => .string
  | .list items => .sequence (Value.firstShape items)
  | .tuple items => .sequence (Value.firstShape items)
  | .map entries => .mapping (Value.shapesUnder entries)
  | _ => .other

/-- The shape of the first of several values. -/
def Value.firstShape : List Value → Option Shape
  | [] => none
  | first :: _ => some first.shape

/-- The shape of the value under a text among entries. -/
def Value.shapesUnder : List (Value × Value) → String → Option Shape
  | [], _ => none
  | (key, value) :: rest, name =>
    if key == .str name then some value.shape else Value.shapesUnder rest name

end

namespace Value

/-- Whether a value has members. -/
def isComposite : Value → Bool
  | .list _ | .tuple _ | .map _ => true
  | _ => false

/-- A value whose texts are no placeholders, whose mappings have distinct identifiers as keys, and
each of whose sequences has members of one shape. -/
inductive Regular : Value → Prop where
  | single {value : Value} (single : value.isComposite = false)
      (plain : ∀ text, value = .str text → placeholder? text = none) : Regular value
  | sequence {value : Value} {items : List Value} (read : value.items? = some items)
      (each : ∀ item ∈ items, Regular item)
      (alike : ∀ item ∈ items, ∀ other ∈ items, item.shape = other.shape) : Regular value
  | map {entries : Entries}
      (named : ∀ entry ∈ entries, ∃ name, entry.1 = .str name ∧ isIdentifier name = true)
      (distinct : (entries.map Prod.fst).Nodup) (each : ∀ entry ∈ entries, Regular entry.2) :
      Regular (.map entries)

/-- A value is equal to another one, except that sequences have become lists at any depth and
mappings may have their entries in another order. -/
inductive Relists : Value → Value → Prop where
  | single {value : Value} (single : value.isComposite = false) : Relists value value
  | sequence {value : Value} {items results : List Value} (read : value.items? = some items)
      (each : List.Forall₂ Relists items results) : Relists value (.list results)
  | map {entries results : Entries}
      (keys : (entries.map Prod.fst).Perm (results.map Prod.fst))
      (each : ∀ key value result, (key, value) ∈ entries → (key, result) ∈ results →
        Relists value result) : Relists (.map entries) (.map results)

theorem shape_of_items {value : Value} {items : List Value} (read : value.items? = some items) :
    value.shape = .sequence (firstShape items) := by
  cases value with
  | list _ | tuple _ =>
      cases read
      rfl
  | _ => cases read

theorem shapesUnder_eq (entries : Entries) (name : String) :
    shapesUnder entries name = (entries.get? (.str name)).map shape := by
  induction entries with
  | nil => rfl
  | cons entry rest ih =>
      obtain ⟨key, value⟩ := entry
      rw [Entries.get?_cons, shapesUnder, ih]
      cases key == .str name <;> rfl

theorem shapesUnder_perm {entries others : Entries} (distinct : entries.Distinct)
    (permuted : entries.Perm others) : shapesUnder entries = shapesUnder others := by
  funext name
  rw [shapesUnder_eq, shapesUnder_eq,
    Entries.get?_perm distinct permuted fun _ => Value.beq_str_iff]

/-- Records of regular values under distinct identifiers are regular. -/
theorem Regular.record (entries : List (String × Value))
    (identifiers : ∀ entry ∈ entries, isIdentifier entry.1 = true)
    (distinct : (entries.map Prod.fst).Nodup) (each : ∀ entry ∈ entries, entry.2.Regular) :
    (Value.record entries).Regular := by
  refine .map ?_ ?_ ?_
  · intro entry among
    obtain ⟨named, held, rfl⟩ := List.mem_map.mp among
    exact ⟨named.1, rfl, identifiers named held⟩
  · have keys : (Entries.ofTexts entries).map Prod.fst = (entries.map Prod.fst).map Value.str := by
      simp [Entries.ofTexts, Function.comp_def]
    rw [keys]
    exact distinct.map fun _ _ => Value.str.inj
  · intro entry among
    obtain ⟨named, held, rfl⟩ := List.mem_map.mp among
    exact each named held

theorem Regular.items_of_shape {value : Value} (regular : value.Regular) {members : Option Shape}
    (same : value.shape = .sequence members) :
    ∃ items, value.items? = some items ∧ firstShape items = members ∧
      (∀ item ∈ items, item.Regular) ∧
      ∀ item ∈ items, ∀ other ∈ items, item.shape = other.shape := by
  cases regular with
  | single single plain =>
      cases value with
      | list _ | tuple _ | map _ => cases single
      | _ => cases same
  | sequence read each alike =>
      rw [shape_of_items read] at same
      exact ⟨_, read, Shape.sequence.inj same, each, alike⟩
  | map named distinct each => cases same

theorem eq_map_of_shape {value : Value} {members : String → Option Shape}
    (same : value.shape = .mapping members) :
    ∃ entries, value = .map entries ∧ shapesUnder entries = members := by
  cases value with
  | map entries => exact ⟨entries, rfl, Shape.mapping.inj same⟩
  | _ => cases same

end Value

/-! ## What types read -/

/-- The kind of single values of a shape. -/
def Shape.kind? : Shape → Option Kind
  | .boolean => some .boolean
  | .integer => some .integer
  | .float => some .float
  | .string => some .string
  | .other => some .any
  | .sequence _ | .mapping _ => none

/-- A type accepts the regular values of a shape, and only makes lists of sequences in them. -/
def TypeSpec.Covers (env : Environment) (spec : TypeSpec) (shape : Shape) : Prop :=
  ∀ value, value.Regular → value.shape = shape →
    ∃ result, (spec.check env).Accepts value result ∧ value.Relists result

theorem exists_forall₂ {α β : Type} {related : α → β → Prop} {items : List α}
    (each : ∀ item ∈ items, ∃ result, related item result) :
    ∃ results, List.Forall₂ related items results := by
  induction items with
  | nil => exact ⟨[], .nil⟩
  | cons item rest ih =>
      obtain ⟨⟨result, first⟩, others⟩ := List.forall_mem_cons.mp each
      obtain ⟨results, restRelated⟩ := ih others
      exact ⟨result :: results, .cons first restRelated⟩

namespace TypeSpec

variable {env : Environment}

theorem covers_kind {kind : Kind} {shape : Shape} (known : shape.kind? = some kind) :
    (TypeSpec.primitive kind).Covers env shape := by
  rintro value - rfl
  have admitted : kind.admits value = true ∧ value.isComposite = false := by
    cases value <;> cases known <;> exact ⟨rfl, rfl⟩
  refine ⟨value, ⟨[], ?_⟩, .single admitted.2⟩
  simp [TypeSpec.check, Check.kind, admitted.1]

/-- Arrays of what a type covers; without members any type will do. -/
theorem covers_array {inner : TypeSpec} {members : Option Shape}
    (covers : ∀ shape, members = some shape → inner.Covers env shape) :
    (TypeSpec.array inner .null .null).Covers env (.sequence members) := by
  intro value regular same
  obtain ⟨items, read, first, each, alike⟩ := regular.items_of_shape same
  have covered : ∀ item ∈ items,
      ∃ result, (inner.check env).Accepts item result ∧ item.Relists result := by
    intro item among
    cases items with
    | nil => cases among
    | cons head rest =>
        exact covers head.shape first.symm item (each item among)
          (alike item among head List.mem_cons_self)
  obtain ⟨results, all⟩ := exists_forall₂ covered
  have checked := Coercion.members_of_items (inner.check_rooted env)
    (all.imp fun _ _ both => both.1) [] 0
  refine ⟨.list results, ⟨[], ?_⟩, .sequence read (all.imp fun _ _ both => both.2)⟩
  simp only [TypeSpec.check, Check.array, read, checked]
  rfl

end TypeSpec

/-! ## Records -/

/-- A field covers the shape of a value and has its name from the key. -/
structure Field.Mirrors (env : Environment) (entry : Value × Value) (field : Field) : Prop where
  named : entry.1 = .str field.name
  unconstrained : field.constraints = []
  covers : field.type.Covers env entry.2.shape

/-- A field reads its value among entries into the value of an entry of the same name. -/
structure Field.ReadsInto (env : Environment) (data : Entries) (field : Field)
    (entry : String × Value) : Prop where
  named : entry.1 = field.name
  reads : ∃ given, data.get? (.str field.name) = some given ∧
    (field.check env).Accepts given entry.2 ∧ given.Relists entry.2

namespace Field

variable {env : Environment} {sample data : Entries} {fields : List Field}

theorem keys_of_mirrors (mirrors : List.Forall₂ (Field.Mirrors env) sample fields) :
    sample.map Prod.fst = fields.map fun field => .str field.name := by
  rw [← List.forall₂_eq_eq_eq, List.forall₂_map_left_iff, List.forall₂_map_right_iff]
  exact mirrors.imp fun _ _ mirrors => mirrors.named

theorem exists_mirrored (mirrors : List.Forall₂ (Field.Mirrors env) sample fields) :
    ∀ field ∈ fields, ∃ entry ∈ sample, field.Mirrors env entry := by
  induction mirrors with
  | nil => exact List.forall_mem_nil _
  | cons first _ ih =>
      refine List.forall_mem_cons.mpr ⟨⟨_, List.mem_cons_self, first⟩, fun field among => ?_⟩
      obtain ⟨entry, entryAmong, mirrors⟩ := ih field among
      exact ⟨entry, List.mem_cons_of_mem _ entryAmong, mirrors⟩

theorem accepts_of_covers {field : Field} (unconstrained : field.constraints = [])
    {value result : Value} (accepts : (field.type.check env).Accepts value result) :
    (field.check env).Accepts value result := by
  rw [field.accepts_iff env, unconstrained]
  exact ⟨accepts, [], rfl⟩

/-- Fields that mirror entries read all the values of regular entries of the same shapes. -/
theorem exists_readsInto (mirrors : List.Forall₂ (Field.Mirrors env) sample fields)
    (distinct : sample.Distinct) (regular : ∀ entry ∈ data, entry.2.Regular)
    (same : Value.shapesUnder data = Value.shapesUnder sample) :
    ∃ values, List.Forall₂ (Field.ReadsInto env data) fields values := by
  apply exists_forall₂
  intro field among
  obtain ⟨⟨key, value⟩, entryAmong, mirrored⟩ := exists_mirrored mirrors field among
  cases mirrored.named
  have shaped : Value.shapesUnder data field.name = some value.shape := by
    rw [same, Value.shapesUnder_eq, Entries.get?_of_mem distinct entryAmong]
    rfl
  rw [Value.shapesUnder_eq] at shaped
  obtain ⟨given, found, sameShape⟩ := Option.map_eq_some_iff.mp shaped
  have givenAmong := Entries.mem_of_get? (fun other => Value.beq_str_iff) found
  obtain ⟨result, accepts, relists⟩ := mirrored.covers given (regular _ givenAmong) sameShape
  exact ⟨(field.name, result), rfl, given, found,
    accepts_of_covers mirrored.unconstrained accepts, relists⟩

/-- Values that fields read are gathered. -/
theorem gather_of_readsInto {values : List (String × Value)}
    (reads : List.Forall₂ (Field.ReadsInto env data) fields values) (path : Path) :
    Record.gather env data path (fields.map fun field => ⟨field, field.check env⟩) =
      .ok (values, []) := by
  induction reads with
  | nil => rfl
  | @cons field entry fields values first _ ih =>
      obtain ⟨name, result⟩ := entry
      obtain ⟨rfl, given, found, accepts, -⟩ := first
      have looked : Record.lookup env data field.name = some given := by
        rw [Record.lookup, found]
      have accepted := (field.check_rooted env).anywhere accepts (path ++ [.str field.name])
      simp only [List.map_cons, Record.gather, Record.fieldVerdict, looked, accepted, ih,
        Attempt.ok_bind]
      rfl

end Field

/-- The keys of entries are texts, none of which occurs twice. -/
structure Entries.Texts (entries : Entries) : Prop where
  named : ∀ entry ∈ entries, ∃ name, entry.1 = .str name
  nodup : (entries.map Prod.fst).Nodup

namespace Entries.Texts

variable {entries sample : Entries}

theorem distinct (texts : entries.Texts) : entries.Distinct := by
  refine (List.pairwise_map.mp texts.nodup).imp_of_mem ?_
  intro earlier later _ among differs
  obtain ⟨name, spelled⟩ := texts.named later among
  rw [spelled] at differs ⊢
  exact Bool.eq_false_iff.mpr fun same => differs (Value.beq_str_iff.mp same)

theorem keys_subset (texts : entries.Texts)
    (same : Value.shapesUnder entries = Value.shapesUnder sample) :
    entries.map Prod.fst ⊆ sample.map Prod.fst := by
  intro key among
  obtain ⟨⟨_, value⟩, entryAmong, rfl⟩ := List.mem_map.mp among
  obtain ⟨name, rfl⟩ := texts.named _ entryAmong
  have shaped : Value.shapesUnder sample name = some value.shape := by
    rw [← same, Value.shapesUnder_eq, get?_of_mem texts.distinct entryAmong]
    rfl
  rw [Value.shapesUnder_eq] at shaped
  obtain ⟨found, looked, -⟩ := Option.map_eq_some_iff.mp shaped
  have there := mem_of_get? (fun other => Value.beq_str_iff) looked
  exact List.mem_map.mpr ⟨_, there, rfl⟩

theorem keys_perm (texts : entries.Texts) (sampleTexts : sample.Texts)
    (same : Value.shapesUnder entries = Value.shapesUnder sample) :
    (entries.map Prod.fst).Perm (sample.map Prod.fst) :=
  (List.perm_ext_iff_of_nodup texts.nodup sampleTexts.nodup).mpr fun _ =>
    ⟨fun among => texts.keys_subset same among,
      fun among => sampleTexts.keys_subset same.symm among⟩

end Entries.Texts

namespace Record

variable {env : Environment} {sample data : Entries} {fields : List Field}
  {values : List (String × Value)}

theorem names_of_readsInto (reads : List.Forall₂ (Field.ReadsInto env data) fields values) :
    values.map Prod.fst = fields.map Field.name := by
  rw [← List.forall₂_eq_eq_eq, List.forall₂_map_left_iff, List.forall₂_map_right_iff]
  exact (reads.imp fun _ _ reads => reads.named).flip

/-- Values that fields read make up the data, apart from its order. -/
theorem relists_of_readsInto (texts : data.Texts)
    (reads : List.Forall₂ (Field.ReadsInto env data) fields values)
    (keys : (data.map Prod.fst).Perm (fields.map fun field => .str field.name)) :
    (Value.map data).Relists (.record values) := by
  have spelled : (Entries.ofTexts values).map Prod.fst =
      fields.map fun field => Value.str field.name := by
    have names := congrArg (List.map Value.str) (names_of_readsInto reads)
    simpa [Entries.ofTexts, Function.comp_def] using names
  have each : ∀ entry ∈ values, ∃ given,
      data.get? (.str entry.1) = some given ∧ given.Relists entry.2 := by
    apply forall_mem_of_forall₂
    refine reads.imp ?_
    rintro field entry ⟨named, given, found, -, relists⟩
    rw [named]
    exact ⟨given, found, relists⟩
  refine .map (spelled ▸ keys) ?_
  intro key value result held read
  obtain ⟨entry, among, same⟩ := List.mem_map.mp read
  cases same
  obtain ⟨given, found, relists⟩ := each entry among
  cases found.symm.trans (Entries.get?_of_mem texts.distinct held)
  exact relists

theorem extraNames_of_keys (texts : data.Texts)
    (keys : (data.map Prod.fst).Perm (fields.map fun field => .str field.name)) :
    extraNames (fields.map Field.name) [] (data.map Prod.fst) = .ok [] := by
  obtain ⟨names, spelled⟩ := exists_forall₂ texts.named
  have written : data.map Prod.fst = names.map Value.str := by
    rw [← List.forall₂_eq_eq_eq, List.forall₂_map_left_iff, List.forall₂_map_right_iff]
    exact spelled
  rw [written] at keys ⊢
  apply extraNames_of_known
  intro name among
  obtain ⟨field, fieldAmong, same⟩ := List.mem_map.mp (keys.subset (List.mem_map_of_mem among))
  cases same
  exact List.mem_map_of_mem fieldAmong

/-- Fields that mirror a sample accept data of its shape, in a strict record as well. -/
theorem check_of_mirrors (mirrors : List.Forall₂ (Field.Mirrors env) sample fields)
    (sampleTexts : sample.Texts) (texts : data.Texts) (regular : ∀ entry ∈ data, entry.2.Regular)
    (same : Value.shapesUnder data = Value.shapesUnder sample) :
    ∃ values, (Value.map data).Relists (.record values) ∧ ∀ strict path,
      Record.check env (fields.map fun field => ⟨field, field.check env⟩) strict none (.map data)
        path =
        .ok (.accepted (.record values)) := by
  obtain ⟨values, reads⟩ := Field.exists_readsInto mirrors sampleTexts.distinct regular same
  have keys := texts.keys_perm sampleTexts same
  rw [Field.keys_of_mirrors mirrors] at keys
  refine ⟨values, relists_of_readsInto texts reads keys, fun strict path => ?_⟩
  have gathered := Field.gather_of_readsInto reads path
  have present : ∀ field ∈ fields, (lookup env data field.name).isNone = false := by
    apply forall_mem_of_forall₂
    refine (reads.imp ?_).flip
    rintro field entry ⟨-, given, found, -⟩
    show (lookup env data field.name).isNone = false
    rw [lookup, found]
    rfl
  have complete : missing env fields data path = [] := by
    rw [missing, List.map_eq_nil_iff, List.filter_eq_nil_iff]
    intro field among
    rw [present field among, Bool.and_false]
    exact Bool.false_ne_true
  have known := extraNames_of_keys texts keys
  rw [← names_of_readsInto reads] at known
  have fieldsBack :
    (fields.map fun field => Rule.mk field (field.check env)).map Rule.field = fields := by
    rw [List.map_map]
    exact List.map_id fields
  simp only [Record.check, stages, candidate, fieldsBack, complete, gathered, Attempt.ok_bind]
  cases strict with
  | false => rfl
  | true =>
      simp only [known]
      rfl

end Record

/-! ## Definitions -/

variable {env : Environment}

theorem sampleOptions_cases (value : Value) :
    sampleOptions value = [] ∨ sampleOptions value = [(.str "example", value)] := by
  cases value with
  | str text =>
      rw [sampleOptions]
      cases (placeholder? text).isSome with
      | true => exact .inl rfl
      | false => exact .inr rfl
  | map _ | list _ | tuple _ => exact .inl rfl
  | _ => exact .inr rfl

theorem Field.ofSpec_of_sample {name : String} (identifier : isIdentifier name = true)
    {spec : TypeSpec} (admissible : spec.isAdmissible = true) (value : Value) :
    Field.ofSpec (.tuple [.str name, .spec spec, .map (sampleOptions value)]) =
      .ok ⟨name, spec, true, [], .null, (sampleOptions value).getText "example", .null⟩ := by
  have read : (Value.spec spec).toSpec = .ok spec :=
    (Value.Denotes.node (spec.checkForm_eq_ok_iff.mpr admissible)).toSpec
  have named := FieldSpec.checkName_eq_ok_iff.mpr ⟨rfl, identifier⟩
  apply (Field.ofSpec_eq_ok_iff rfl).mpr
  obtain given | given := sampleOptions_cases value
  all_goals
    rw [given]
    exact ⟨named, rfl, ⟨spec, read, FieldSpec.foldBounds_nil spec⟩, rfl, rfl, rfl, rfl, rfl⟩

/-- The entries of a sample whose values are covered define fields that mirror them. -/
theorem Value.inferFieldSpecs_mirror {entries : Entries}
    (named : ∀ entry ∈ entries, ∃ name, entry.1 = .str name ∧ isIdentifier name = true)
    (each : ∀ entry ∈ entries, ∃ spec, entry.2.inferSpec = .ok spec ∧ spec.isAdmissible = true ∧
      spec.Covers env entry.2.shape) :
    ∃ specs fields, Value.inferFieldSpecs entries = .ok specs ∧
      List.Forall₂ (fun spec field => Field.ofSpec spec = .ok field) specs fields ∧
      List.Forall₂ (Field.Mirrors env) entries fields := by
  induction entries with
  | nil => exact ⟨[], [], rfl, .nil, .nil⟩
  | cons entry rest ih =>
      obtain ⟨key, value⟩ := entry
      obtain ⟨⟨name, spelled, identifier⟩, restNamed⟩ := List.forall_mem_cons.mp named
      obtain ⟨⟨spec, inferred, admissible, covers⟩, restEach⟩ := List.forall_mem_cons.mp each
      obtain ⟨specs, fields, restInferred, defined, mirrors⟩ := ih restNamed restEach
      cases spelled
      have first := Field.ofSpec_of_sample identifier admissible value
      refine ⟨_, _, ?_, .cons first defined, .cons ⟨rfl, rfl, covers⟩ mirrors⟩
      simp [Value.inferFieldSpecs, Value.plain, inferred, restInferred]

theorem Value.Regular.texts {entries : Entries} (regular : (Value.map entries).Regular) :
    entries.Texts ∧ ∀ entry ∈ entries, entry.2.Regular := by
  cases regular with
  | single single plain => cases single
  | sequence read each alike => cases read
  | map named distinct each =>
      exact ⟨⟨fun entry among => (named entry among).imp fun _ both => both.1, distinct⟩, each⟩

namespace Schema

/-- A sample whose values are covered defines a schema whose fields mirror it. -/
theorem exists_define {entries : Entries}
    (named : ∀ entry ∈ entries, ∃ name, entry.1 = .str name ∧ isIdentifier name = true)
    (distinct : (entries.map Prod.fst).Nodup)
    (each : ∀ entry ∈ entries, ∃ spec, entry.2.inferSpec = .ok spec ∧ spec.isAdmissible = true ∧
      spec.Covers env entry.2.shape) :
    ∃ specs fields, Value.inferFieldSpecs entries = .ok specs ∧
      List.Forall₂ (Field.Mirrors env) entries fields ∧
      ∀ strict : Option Value, define (.list specs) { strict } =
        .ok ⟨fields, .null, .null, (strict.getD (.bool false)).truthy, none, []⟩ := by
  obtain ⟨specs, fields, inferred, defined, mirrors⟩ := Value.inferFieldSpecs_mirror named each
  have keys := Field.keys_of_mirrors mirrors
  have names : (([] ++ fields).map Field.name).Nodup := by
    rw [keys] at distinct
    exact List.Nodup.of_map Value.str (by rwa [List.nil_append, List.map_map])
  exact ⟨specs, fields, inferred, mirrors,
    fun strict => define_list (fieldsOfSpecs_of_each defined names) rfl rfl⟩

theorem covers_of_mirrors {sample : Entries} {fields : List Field}
    (mirrors : List.Forall₂ (Field.Mirrors env) sample fields) (texts : sample.Texts)
    (title description : Value) (strict : Bool) (handle : Nat) :
    (TypeSpec.ref (.schema handle ⟨fields, title, description, strict, none, []⟩)).Covers env
      (.mapping (Value.shapesUnder sample)) := by
  intro value regular same
  obtain ⟨data, rfl, sameShapes⟩ := Value.eq_map_of_shape same
  obtain ⟨dataTexts, each⟩ := regular.texts
  obtain ⟨values, relists, checked⟩ :=
    Record.check_of_mirrors mirrors texts dataTexts each sameShapes
  refine ⟨.record values, ⟨[], ?_⟩, relists⟩
  simp only [TypeSpec.check, Value.checkAsTarget, Check.nested, Schema.check, rules_eq_map, checked,
    Attempt.ok_bind]
  rfl

end Schema

namespace Value

theorem inferSpec_of_single {value : Value} (single : value.isComposite = false)
    (plain : ∀ text, value = .str text → placeholder? text = none) :
    ∃ kind, value.inferSpec = .ok (.primitive kind) ∧ value.shape.kind? = some kind := by
  cases value with
  | str text =>
      refine ⟨.string, ?_, rfl⟩
      rw [inferSpec, plain text rfl]
  | list _ | tuple _ | map _ => cases single
  | _ => exact ⟨_, rfl, rfl⟩

theorem inferSpec_of_items {value : Value} {items : List Value} (read : value.items? = some items) :
    value.inferSpec = match items with
      | [] => .ok (.array (.primitive .any) .null .null)
      | first :: _ => first.inferSpec.map fun inner => .array inner .null .null := by
  cases value with
  | list _ | tuple _ =>
      cases read
      cases items <;> rfl
  | _ => cases read

/-- The type of a regular sample covers the shape of the sample. -/
theorem Regular.infers {sample : Value} (regular : sample.Regular) (env : Environment) :
    ∃ spec, sample.inferSpec = .ok spec ∧ spec.isAdmissible = true ∧
      spec.Covers env sample.shape := by
  induction regular with
  | single single plain =>
      obtain ⟨kind, inferred, known⟩ := inferSpec_of_single single plain
      exact ⟨.primitive kind, inferred, rfl, TypeSpec.covers_kind known⟩
  | @sequence value items read _ _ ih =>
      rw [inferSpec_of_items read, shape_of_items read]
      cases items with
      | nil => exact ⟨_, rfl, rfl, TypeSpec.covers_array fun _ none => nomatch none⟩
      | cons first rest =>
          obtain ⟨inner, inferred, admissible, covers⟩ := ih first List.mem_cons_self
          refine ⟨.array inner .null .null, ?_, admissible, TypeSpec.covers_array ?_⟩
          · simp only [inferred]
            rfl
          · rintro shape same
            cases same
            exact covers
  | @map entries named distinct each ih =>
      obtain ⟨specs, fields, inferred, mirrors, defined⟩ := Schema.exists_define named distinct ih
      have texts := (Regular.map named distinct each).texts.1
      refine ⟨_, ?_, rfl, Schema.covers_of_mirrors mirrors texts .null .null false 0⟩
      simp only [inferSpec, inferred, defined none, Attempt.ok_bind]
      rfl

end Value

namespace Schema

theorem outcome_validate_of_mirrors {sample data : Entries} (schema : Schema) {options : Options}
    (mirrors : List.Forall₂ (Field.Mirrors env) sample schema.fields)
    (hookless : schema.hook = none) (texts : sample.Texts) (regular : (Value.map data).Regular)
    (same : Value.shapesUnder data = Value.shapesUnder sample)
    (unconverted : options.coerce = false) :
    ∃ result, (validate env schema (.map data) options).outcome = .ok (.accepted result) ∧
      (Value.map data).Relists result := by
  obtain ⟨dataTexts, each⟩ := regular.texts
  obtain ⟨values, relists, checked⟩ := Record.check_of_mirrors mirrors texts dataTexts each same
  have unchanged : schema.rulesWith env false =
      schema.fields.map fun field => ⟨field, field.check env⟩ := rfl
  refine ⟨.record values, ?_, relists⟩
  simp only [validate, verdict, unconverted, unchanged, hookless, checked, Run.outcome_bind,
    Run.outcome_emit, Run.outcome_lift, Attempt.ok_bind]
  cases options.debug <;> rfl

/-- A schema that is inferred from a regular sample accepts every regular mapping of the shape of
the sample, whether it is strict or not, and only makes lists of the sequences in it. -/
theorem validate_of_infer {env : Environment} {sample data : Entries} {options : Options}
    (regular : (Value.map sample).Regular) (dataRegular : (Value.map data).Regular)
    (same : (Value.map data).shape = (Value.map sample).shape)
    (unconverted : options.coerce = false) (strict : Option Value) :
    ∃ schema result, infer (.map sample) { strict } = .ok schema ∧
      (validate env schema (.map data) options).outcome = .ok (.accepted result) ∧
      (Value.map data).Relists result := by
  have texts := regular.texts.1
  cases regular with
  | single single plain => cases single
  | sequence read each alike => cases read
  | map named distinct each =>
      have covered := fun entry among => (each entry among).infers env
      obtain ⟨specs, fields, inferred, mirrors, defined⟩ := exists_define named distinct covered
      have given : infer (.map sample) { strict } = define (.list specs) { strict } := by
        simp [infer, inferred]
      let schema : Schema := ⟨fields, .null, .null, (strict.getD (.bool false)).truthy, none, []⟩
      obtain ⟨result, accepted⟩ := outcome_validate_of_mirrors schema mirrors rfl texts dataRegular
        (Shape.mapping.inj same) unconverted
      exact ⟨schema, result, given.trans (defined strict), accepted⟩

/-- The mappings have their entries in different orders, at two levels, and the schema is strict. -/
theorem validate_of_infer_of_reordered :
    let sample : Entries := [(.str "user", .map [(.str "name", .str "Ann"), (.str "age", .int 30)]),
      (.str "pairs", .list [.tuple [.int 1, .int 2], .list [.int 3]])]
    let data : Entries := [(.str "pairs", .tuple [.tuple [.int 7]]),
      (.str "user", .map [(.str "age", .int 4), (.str "name", .str "Bo")])]
    ∃ schema result, infer (.map sample) { strict := some (.bool true) } = .ok schema ∧
      (validate .bare schema (.map data) {}).outcome = .ok (.accepted result) ∧
      (Value.map data).Relists result := by
  intro sample data
  have number : ∀ value, (Value.int value).Regular := fun value => .single rfl nofun
  have text : ∀ value, placeholder? value = none → (Value.str value).Regular := fun value plain =>
    .single rfl fun _ same => Value.str.inj same ▸ plain
  have numbers : ∀ items : List Int,
      (Value.tuple (items.map .int)).Regular ∧ (Value.list (items.map .int)).Regular := fun items =>
    ⟨.sequence rfl (by simp [number]) (by simp [Value.shape]),
      .sequence rfl (by simp [number]) (by simp [Value.shape])⟩
  have regular : (Value.map sample).Regular := by
    have user :=
      Value.Regular.record [("name", .str "Ann"), ("age", .int 30)] (by decide) (by decide)
      (by simp [number, text "Ann" rfl])
    have pairs : (Value.list [.tuple [.int 1, .int 2], .list [.int 3]]).Regular :=
      .sequence rfl (List.forall_mem_cons.mpr
        ⟨(numbers [1, 2]).1, List.forall_mem_singleton.mpr (numbers [3]).2⟩)
        (by simp [Value.shape, Value.firstShape])
    exact .record [("user", _), ("pairs", _)] (by decide) (by decide)
      (List.forall_mem_cons.mpr ⟨user, List.forall_mem_singleton.mpr pairs⟩)
  have dataRegular : (Value.map data).Regular := by
    have user := Value.Regular.record [("age", .int 4), ("name", .str "Bo")] (by decide) (by decide)
      (by simp [number, text "Bo" rfl])
    have pairs : (Value.tuple [.tuple [.int 7]]).Regular :=
      .sequence rfl (List.forall_mem_singleton.mpr (numbers [7]).1) (by simp)
    exact .record [("pairs", _), ("user", _)] (by decide) (by decide)
      (List.forall_mem_cons.mpr ⟨pairs, List.forall_mem_singleton.mpr user⟩)
  have same : Value.shapesUnder data = Value.shapesUnder sample := by
    have user : Value.shapesUnder [(.str "age", .int 4), (.str "name", .str "Bo")] =
        Value.shapesUnder [(.str "name", .str "Bo"), (.str "age", .int 4)] :=
      Value.shapesUnder_perm (by decide) (.swap _ _ _)
    refine (Value.shapesUnder_perm (by decide) (.swap _ _ _)).trans ?_
    funext name
    exact congrArg (fun members =>
      if Value.str "user" == .str name then some (Shape.mapping members)
      else if Value.str "pairs" == .str name then
        some (.sequence (some (.sequence (some .integer)))) else none) user
  exact validate_of_infer regular dataRegular (congrArg Shape.mapping same) rfl _

end Schema

end Conform
