import Conform.Proofs.Expressibility
import Conform.Proofs.Rebuilding

/-!
# Documents under their own check

When the check of documents finds nothing wrong with a generated document.  It looks at the fields
of a schema and of the schemas that these refer to directly, and at each of them apart from the
others: the document of its type has to name properties if it is that of an object, and no lower
bound may lie above its upper bound, where the bounds of the field replace those that its type
writes.
-/

namespace Conform

/-! ## Plain data -/

/-- Plain data is a number if the value is. -/
theorem Value.numeric?_of_toPlain {value plain : Value} (written : value.toPlain = .ok plain) :
    plain.numeric? = value.numeric? := by
  cases value
  case list | tuple | set | frozenset | map =>
    obtain ⟨parts, _, same⟩ := Attempt.bind_eq_ok_iff.mp written
    cases same
    rfl
  case null | bool | int | float | str =>
    cases written
    rfl
  case pattern expression =>
    cases written
    unfold Pattern.sourceValue
    split <;> rfl
  all_goals
    obtain ⟨text, _, same⟩ := Attempt.bind_eq_ok_iff.mp written
    cases same
    rfl

@[simp] theorem Attempt.append_eq_nil_iff {α : Type} {first second : Attempt (List α)} :
    (first >>= fun found => second >>= fun more => .ok (found ++ more)) = .ok [] ↔
      first = .ok [] ∧ second = .ok [] := by
  simp only [Attempt.bind_eq_ok_iff, Except.ok.injEq, List.append_eq_nil_iff]
  constructor
  · rintro ⟨_, firstFound, _, secondFound, rfl, rfl⟩
    exact ⟨firstFound, secondFound⟩
  · rintro ⟨firstFound, secondFound⟩
    exact ⟨[], firstFound, [], secondFound, rfl, rfl⟩

/-! ## Bounds -/

/-- The bound that constraints set under a key; a later one replaces those before. -/
def Constraint.last? (key : ConstraintKey) : List Constraint → Option Value
  | [] => none
  | (other, bound) :: rest => (last? key rest).or (if other = key then some bound else none)

/-- The number that constraints set as the bound under a key. -/
def Constraint.number? (key : ConstraintKey) (constraints : List Constraint) : Option Number :=
  (last? key constraints).bind Value.numeric?

/-- The bounds on a number of items that has to be met. -/
def Constraint.exactly (count : Nat) : List Constraint :=
  [(.minItems, .int count), (.maxItems, .int count)]

/-- The bounds on the number of items that the document of a type holds by itself. -/
def TypeSpec.itemBounds : TypeSpec → List Constraint
  | .array _ minItems maxItems => TypeSpec.boundConstraints minItems maxItems
  | .tuple elements => Constraint.exactly elements.length
  | .rawTuple field => Constraint.exactly (field.elements?.getD []).length
  | _ => []

/-- The number that bounds a field under a key: that of the field, or else that of its type. -/
def Field.bound? (field : Field) (key : ConstraintKey) : Option Number :=
  match Constraint.last? key field.constraints with
  | some bound => bound.numeric?
  | none => Constraint.number? key field.type.itemBounds

/-- The pairs of constraints that bound the same thing from below and above. -/
def ConstraintKey.pairs : List (ConstraintKey × ConstraintKey) :=
  [(.gteq, .lteq), (.minLength, .maxLength), (.minItems, .maxItems)]

/-- A lower bound does not lie above an upper one, if both are there. -/
def Number.Ordered (lower upper : Option Number) : Prop :=
  ∀ x ∈ lower, ∀ y ∈ upper, y.lt x = false

instance (lower upper : Option Number) : Decidable (Number.Ordered lower upper) :=
  inferInstanceAs (Decidable (∀ x ∈ lower, ∀ y ∈ upper, y.lt x = false))

/-- No lower bound of constraints lies above the corresponding upper bound. -/
def Constraint.Ordered (constraints : List Constraint) : Prop :=
  ∀ pair ∈ ConstraintKey.pairs,
    Number.Ordered (number? pair.1 constraints) (number? pair.2 constraints)

instance (constraints : List Constraint) : Decidable (Constraint.Ordered constraints) :=
  inferInstanceAs (Decidable (∀ pair ∈ ConstraintKey.pairs, _))

theorem ConstraintKey.keyword_injective : Function.Injective ConstraintKey.keyword := by
  intro key other same
  cases key <;> cases other <;> first | rfl | exact absurd same (by decide)

namespace Document

/-- The number under a keyword. -/
def numberAt (document : Entries) (keyword : String) : Option Number :=
  (document.getText keyword).numeric?

theorem numberAt_congr {document other : Entries} {keyword : String}
    (same : document.get? (.str keyword) = other.get? (.str keyword)) :
    numberAt document keyword = numberAt other keyword := by
  rw [numberAt, numberAt, Entries.getText, Entries.getText, same]

/-- Constraints replace the numbers under their keywords. -/
theorem numberAt_constraintKeywords {constraints : List Constraint}
    {keywords : List (String × Value)} (written : constraintKeywords constraints = .ok keywords)
    (key : ConstraintKey) (document : Entries) :
    numberAt (document.putTexts keywords) key.keyword =
      match Constraint.last? key constraints with
      | some bound => bound.numeric?
      | none => numberAt document key.keyword := by
  induction constraints generalizing keywords document with
  | nil =>
      cases written
      rfl
  | cons constraint rest ih =>
      obtain ⟨other, bound⟩ := constraint
      obtain ⟨plain, plainWritten, others⟩ := Attempt.bind_eq_ok_iff.mp written
      obtain ⟨more, restWritten, same⟩ := Attempt.bind_eq_ok_iff.mp others
      cases same
      refine (ih restWritten _).trans ?_
      rw [Constraint.last?]
      cases Constraint.last? key rest with
      | some last => rfl
      | none =>
          rw [Option.none_or, numberAt, Entries.getText]
          by_cases same : other = key
          case pos =>
            subst same
            rw [if_pos rfl, Entries.get?_put_self]
            exact Value.numeric?_of_toPlain plainWritten
          case neg =>
            rw [if_neg same, Entries.get?_put_of_ne (ConstraintKey.keyword_injective.ne same)]
            rfl

/-- What is wrong with a pair of bounds: its text, if the lower one lies above the upper one. -/
def boundIssue (document : Entries) (low high : String) : Attempt (List String) :=
  match numberAt document low, numberAt document high with
  | some x, some y =>
    if y.lt x then do
      return [low ++ " (" ++ (← (document.getText low).plain) ++ ") cannot be greater than " ++
        high ++ " (" ++ (← (document.getText high).plain) ++ ")"]
    else .ok []
  | _, _ => .ok []

@[simp] theorem boundIssues_cons (document : Entries) (low high : String)
    (rest : List (String × String)) :
    boundIssues document ((low, high) :: rest) =
      boundIssue document low high >>= fun found =>
        boundIssues document rest >>= fun more => .ok (found ++ more) := by
  rw [boundIssues, boundIssue, numberAt, numberAt]
  cases (document.getText low).numeric? with
  | none => rfl
  | some x =>
      cases (document.getText high).numeric? with
      | none => rfl
      | some y =>
          dsimp only
          cases y.lt x with
          | false => rfl
          | true =>
              cases (document.getText low).plain with
              | error fault => rfl
              | ok text => cases (document.getText high).plain <;> rfl

/-- A pair of bounds is right exactly if it is ordered. -/
@[simp] theorem boundIssue_eq_nil_iff (document : Entries) (low high : String) :
    boundIssue document low high = .ok [] ↔
      Number.Ordered (numberAt document low) (numberAt document high) := by
  rw [boundIssue, Number.Ordered]
  split
  case h_1 x y lower upper =>
    simp only [lower, upper, Option.mem_some_iff, forall_eq']
    split
    case isTrue above =>
      refine iff_of_false ?_ (by rw [above]; exact Bool.false_ne_true.symm)
      intro silent
      obtain ⟨lowText, _, others⟩ := Attempt.bind_eq_ok_iff.mp silent
      obtain ⟨highText, _, said⟩ := Attempt.bind_eq_ok_iff.mp others
      cases said
    case isFalse below => exact iff_of_true rfl (Bool.not_eq_true _ ▸ below)
  case h_2 none =>
    refine iff_of_true rfl ?_
    intro x lower y upper
    exact absurd upper (none x y lower)

@[simp] theorem boundIssues_eq_nil_iff (document : Entries) (keywords : List (String × String)) :
    boundIssues document keywords = .ok [] ↔ ∀ pair ∈ keywords,
      Number.Ordered (numberAt document pair.1) (numberAt document pair.2) := by
  induction keywords with
  | nil => exact iff_of_true rfl (List.forall_mem_nil _)
  | cons pair rest ih =>
      obtain ⟨low, high⟩ := pair
      rw [List.forall_mem_cons, ← ih, boundIssues_cons, Attempt.append_eq_nil_iff,
        boundIssue_eq_nil_iff]

end Document

/-! ## Types in documents -/

/-- The type that the document of a kind names, if it names one. -/
def Kind.typeName? : Kind → Option String
  | .any => none
  | .string | .atom => some "string"
  | .integer => some "integer"
  | .float => some "number"
  | .boolean => some "boolean"
  | .map => some "object"

/-- The type that the document of a type names, if it names one. -/
def TypeSpec.typeName? : TypeSpec → Option String
  | .primitive kind => kind.typeName?
  | .unknownKind kind => (kind.text?.bind Kind.ofName?).bind Kind.typeName?
  | .union _ | .rawUnion _ => none
  | .array .. | .tuple _ | .rawTuple _ => some "array"
  | .map .. | .ref _ | .raw _ => some "object"

/-- Whether the document of a type is that of an object of which nothing more is said. -/
def TypeSpec.isBareObject : TypeSpec → Bool
  | .primitive .map | .raw _ => true
  | .unknownKind kind => kind.text?.bind Kind.ofName? == some .map
  | .ref (.schema ..) => false
  | .ref _ => true
  | _ => false

namespace Document

/-- What the document of a type consists of, whatever the documents of its components are. -/
inductive Outline : TypeSpec → Entries → Prop
  | primitive (kind : Kind) : Outline (.primitive kind) (ofKind kind)
  | known {name : Value} {kind : Kind} (denotes : name.text?.bind Kind.ofName? = some kind) :
      Outline (.unknownKind name) (ofKind kind)
  | array {inner : TypeSpec} {minItems maxItems : Value} (items : Entries)
      {keywords : List (String × Value)}
      (bounds : constraintKeywords (TypeSpec.boundConstraints minItems maxItems) = .ok keywords) :
      Outline (.array inner minItems maxItems)
        ((Entries.ofTexts [("type", .str "array"), ("items", .map items)]).putTexts keywords)
  | union {alternatives : List TypeSpec} (documents : List Value) :
      Outline (.union alternatives) (ofUnion documents)
  | rawUnion {field : Value} (documents : List Value) :
      Outline (.rawUnion field) (ofUnion documents)
  | tuple {elements : List TypeSpec} {documents : List Value}
      (each : documents.length = elements.length) : Outline (.tuple elements) (ofTuple documents)
  | rawTuple {field : Value} {documents : List Value}
      (each : documents.length = (field.elements?.getD []).length) :
      Outline (.rawTuple field) (ofTuple documents)
  | map {key value : TypeSpec} (values : Entries) :
      Outline (.map key value) (Entries.ofTexts [("type", .str "object"),
        ("additionalProperties", .map values)])
  | schema {handle : Nat} {target : Schema} (properties : Entries) :
      Outline (.ref (.schema handle target)) (ofRecord target true target.strict properties)
  | target {target : Value} (bare : (TypeSpec.ref target).isBareObject = true) :
      Outline (.ref target) [(.str "type", .str "object")]
  | raw (component : Value) : Outline (.raw component) [(.str "type", .str "object")]

theorem length_of_documents {specs : List TypeSpec} {documents : List Value}
    (written : TypeSpec.documents specs = .ok documents) : documents.length = specs.length := by
  induction specs generalizing documents with
  | nil =>
      cases written
      rfl
  | cons spec rest ih =>
      obtain ⟨document, _, others⟩ := Attempt.bind_eq_ok_iff.mp written
      obtain ⟨more, restWritten, same⟩ := Attempt.bind_eq_ok_iff.mp others
      cases same
      rw [List.length_cons, List.length_cons, ih restWritten]

theorem length_of_memberDocuments {field : Value} {documents : List Value}
    (written : field.memberDocuments = .ok documents) :
    documents.length = (field.elements?.getD []).length := by
  rw [Value.memberDocuments_eq] at written
  obtain ⟨specs, found, written⟩ := Attempt.bind_eq_ok_iff.mp written
  obtain ⟨members, elements, same⟩ := Attempt.bind_eq_ok_iff.mp found
  cases same
  rw [length_of_documents written, List.length_map, Value.elements_eq_ok_iff.mp elements,
    Option.getD_some]

/-- Documents of types follow the outline. -/
theorem outline_of_document {spec : TypeSpec} {document : Entries}
    (written : spec.document = .ok document) : Outline spec document := by
  cases spec with
  | primitive kind =>
      cases written
      exact .primitive kind
  | unknownKind name =>
      obtain ⟨kind, denotes, rfl⟩ := ofUnknownKind_eq_ok_iff.mp written
      exact .known denotes
  | array inner minItems maxItems =>
      obtain ⟨items, _, bounded⟩ := Attempt.bind_eq_ok_iff.mp written
      rw [withConstraints_eq] at bounded
      obtain ⟨keywords, bounds, same⟩ := Attempt.bind_eq_ok_iff.mp bounded
      cases same
      exact .array items bounds
  | union alternatives =>
      obtain ⟨documents, _, same⟩ := Attempt.bind_eq_ok_iff.mp written
      cases same
      exact .union documents
  | rawUnion field =>
      obtain ⟨documents, _, same⟩ := Attempt.bind_eq_ok_iff.mp written
      cases same
      exact .rawUnion documents
  | tuple elements =>
      obtain ⟨documents, each, same⟩ := Attempt.bind_eq_ok_iff.mp written
      cases same
      exact .tuple (length_of_documents each)
  | rawTuple field =>
      obtain ⟨documents, each, same⟩ := Attempt.bind_eq_ok_iff.mp written
      cases same
      exact .rawTuple (length_of_memberDocuments each)
  | map key value =>
      obtain ⟨values, _, same⟩ := Attempt.bind_eq_ok_iff.mp written
      cases same
      exact .map values
  | ref target =>
      cases target with
      | schema handle target =>
          rw [document_reference] at written
          obtain ⟨properties, _, same⟩ := Attempt.bind_eq_ok_iff.mp written
          cases same
          exact .schema properties
      | _ =>
          cases written
          exact .target rfl
  | raw component =>
      cases written
      exact .raw component

@[simp] theorem get?_ofRecord_type (schema : Schema) (descriptions strict : Bool)
    (properties : Entries) :
    (ofRecord schema descriptions strict properties).get? (.str "type") = some (.str "object") := by
  simp only [ofRecord, withIf]
  cases schema.title.truthy <;> cases descriptions && schema.description.truthy <;> rfl

theorem Outline.get?_type {spec : TypeSpec} {document : Entries}
    (outline : Outline spec document) :
    document.get? (.str "type") = spec.typeName?.map .str := by
  cases outline with
  | primitive kind => cases kind <;> rfl
  | @known name kind denotes =>
      rw [TypeSpec.typeName?, denotes]
      cases kind <;> rfl
  | array items bounds =>
      rw [get?_of_constraintKeywords bounds (fun key => by cases key <;> decide)]
      rfl
  | schema properties => exact get?_ofRecord_type _ _ _ _
  | union | rawUnion | tuple | rawTuple | map | target | raw => rfl

theorem contains_typeName {spec : TypeSpec} {name : String} (named : spec.typeName? = some name) :
    typeNames.contains name = true := by
  have ofKind {kind : Kind} (named : kind.typeName? = some name) :
    typeNames.contains name = true := by
    cases kind <;> cases named <;> decide
  cases spec with
  | primitive kind => exact ofKind named
  | unknownKind kind =>
      obtain ⟨kind, _, named⟩ := Option.bind_eq_some_iff.mp named
      exact ofKind named
  | _ => cases named <;> decide

@[simp] theorem typeIssues_of_get? {document : Entries} {name : String}
    (named : document.get? (.str "type") = some (.str name))
    (known : typeNames.contains name = true) : typeIssues document = .ok [] := by
  simp only [typeIssues, Entries.getText, named, Option.getD_some, known, if_true]

theorem ownIssues_eq_nil_iff {document : Entries} (right : typeIssues document = .ok []) :
    ownIssues document = .ok [] ↔ objectIssues document = [] ∧
      ∀ pair ∈ ConstraintKey.pairs, Number.Ordered (numberAt document pair.1.keyword)
        (numberAt document pair.2.keyword) := by
  have pairs : boundKeywords =
      ConstraintKey.pairs.map fun pair => (pair.1.keyword, pair.2.keyword) := rfl
  have bounded := boundIssues_eq_nil_iff document boundKeywords
  rw [pairs, List.forall_mem_map] at bounded
  rw [← bounded, ← pairs, ownIssues, right, Attempt.ok_bind, Attempt.bind_eq_ok_iff]
  constructor
  · rintro ⟨found, bounds, same⟩
    obtain ⟨object, rfl⟩ := List.append_eq_nil_iff.mp (Except.ok.inj same)
    exact ⟨object, bounds⟩
  · rintro ⟨object, bounds⟩
    exact ⟨[], bounds, by rw [object]; rfl⟩

/-- The document of a type says something of properties unless it is that of a bare object. -/
theorem Outline.objectIssues_eq_nil_iff {spec : TypeSpec} {document full : Entries}
    (outline : Outline spec document)
    (kept : ∀ name, isAddable name = false → full.get? (.str name) = document.get? (.str name)) :
    objectIssues full = [] ↔ spec.isBareObject = false := by
  have same : objectIssues full = objectIssues document := by
    simp only [objectIssues, Entries.getText, Entries.has_eq_isSome_get?, kept "type" rfl,
      kept "properties" rfl, kept "additionalProperties" rfl]
  have named : document.getText "type" = (spec.typeName?.map .str).getD .null := by
    rw [Entries.getText, outline.get?_type]
  rw [same]
  cases outline with
  | primitive kind => cases kind <;> decide
  | @known name kind denotes =>
      rw [TypeSpec.isBareObject, denotes]
      cases kind <;> decide
  | array items bounds =>
      rw [objectIssues, named]
      exact iff_of_true rfl rfl
  | union | rawUnion | tuple | rawTuple | map => exact iff_of_true rfl rfl
  | schema properties =>
      simp [objectIssues, Entries.has_eq_isSome_get?, get?_ofRecord_properties,
        TypeSpec.isBareObject]
  | target bare =>
      rw [bare]
      exact iff_of_false (List.cons_ne_nil _ _) Bool.false_ne_true.symm
  | raw component => exact iff_of_false (List.cons_ne_nil _ _) Bool.false_ne_true.symm

@[simp] theorem numberAt_ofRecord (schema : Schema) (descriptions strict : Bool)
    (properties : Entries) (key : ConstraintKey) :
    numberAt (ofRecord schema descriptions strict properties) key.keyword = none := by
  simp only [numberAt, ofRecord, withIf]
  cases schema.title.truthy <;> cases descriptions && schema.description.truthy <;>
    cases key <;> rfl

theorem Outline.numberAt_eq {spec : TypeSpec} {document : Entries}
    (outline : Outline spec document) (key : ConstraintKey) :
    numberAt document key.keyword = Constraint.number? key spec.itemBounds := by
  cases outline with
  | primitive kind => cases kind <;> cases key <;> rfl
  | @array inner minItems maxItems items keywords bounds =>
      rw [numberAt_constraintKeywords bounds, TypeSpec.itemBounds, Constraint.number?]
      cases Constraint.last? key (TypeSpec.boundConstraints minItems maxItems) with
      | some bound => rfl
      | none => cases key <;> rfl
  | @known name kind denotes => cases kind <;> cases key <;> rfl
  | tuple each | rawTuple each =>
      rw [TypeSpec.itemBounds, ← each]
      cases key <;> rfl
  | schema properties => exact numberAt_ofRecord _ _ _ _ key
  | union | rawUnion | map | target | raw => cases key <;> rfl

/-- The numbers in the document of a field are those that bound the field. -/
theorem numberAt_of_keywordsOf {field : Field} {descriptions : Bool}
    {keywords : List (String × Value)} (added : keywordsOf field descriptions = .ok keywords)
    {document : Entries} (written : field.type.document = .ok document) (key : ConstraintKey) :
    numberAt (document.putTexts keywords) key.keyword = field.bound? key := by
  obtain ⟨bounds, bounded, others⟩ := Attempt.bind_eq_ok_iff.mp added
  obtain ⟨description, described, others⟩ := Attempt.bind_eq_ok_iff.mp others
  obtain ⟨examples, exampled, others⟩ := Attempt.bind_eq_ok_iff.mp others
  obtain ⟨default, defaulted, same⟩ := Attempt.bind_eq_ok_iff.mp others
  cases same
  have behind : (document.putTexts (bounds ++ (description ++ (examples ++ default)))).get?
      (.str key.keyword) = (document.putTexts bounds).get? (.str key.keyword) := by
    simp only [Entries.putTexts_append]
    rw [get?_of_keywordIf defaulted (by cases key <;> decide),
      get?_of_keywordIf exampled (by cases key <;> decide),
      get?_of_keywordIf described (by cases key <;> decide)]
  rw [numberAt_congr behind, numberAt_constraintKeywords bounded,
    (outline_of_document written).numberAt_eq, Field.bound?]

end Document

/-- The document of a field is right about itself: it names no type, so that it is not looked at, or
it says of an object which properties it has, and its bounds are ordered. -/
def Field.IsClear (field : Field) : Prop :=
  field.type.typeName? = none ∨ field.type.isBareObject = false ∧
    ∀ pair ∈ ConstraintKey.pairs, Number.Ordered (field.bound? pair.1) (field.bound? pair.2)

instance (field : Field) : Decidable field.IsClear :=
  inferInstanceAs (Decidable (_ ∨ _ ∧ ∀ pair ∈ ConstraintKey.pairs, _))

namespace Document

theorem ownIssues_of_field {field : Field} {descriptions : Bool} {keywords : List (String × Value)}
    (added : keywordsOf field descriptions = .ok keywords) {document : Entries}
    (written : field.type.document = .ok document) (typed : field.type.typeName? ≠ none) :
    ownIssues (document.putTexts keywords) = .ok [] ↔ field.IsClear := by
  obtain ⟨name, named⟩ := Option.ne_none_iff_exists'.mp typed
  have kept (name : String) (structural : isAddable name = false) :
      (document.putTexts keywords).get? (.str name) = document.get? (.str name) :=
    get?_of_keywordsOf added structural document
  have right : typeIssues (document.putTexts keywords) = .ok [] := by
    refine typeIssues_of_get? ?_ (contains_typeName named)
    rw [kept "type" rfl, (outline_of_document written).get?_type, named]
    rfl
  rw [ownIssues_eq_nil_iff right, (outline_of_document written).objectIssues_eq_nil_iff kept,
    Field.IsClear, or_iff_right typed]
  simp [numberAt_of_keywordsOf added written]

/-- The properties of a document are looked up under their keyword. -/
@[simp] theorem issuesOfProperties_of_map {document properties : Entries}
    (found : document.get? (.str "properties") = some (.map properties)) :
    issuesOfProperties document = issuesOfEach properties := by
  induction document with
  | nil => cases found
  | cons entry rest ih =>
      obtain ⟨key, value⟩ := entry
      rw [Entries.get?, List.find?_cons] at found
      unfold issuesOfProperties
      cases same : key == .str "properties" with
      | true =>
          rw [same] at found
          cases found
          rfl
      | false =>
          rw [same] at found
          exact ih found

@[simp] theorem issuesOfProperties_of_none {document : Entries}
    (absent : document.get? (.str "properties") = none) :
    issuesOfProperties document = .ok [] := by
  induction document with
  | nil => rw [issuesOfProperties]
  | cons entry rest ih =>
      obtain ⟨key, value⟩ := entry
      rw [Entries.get?, List.find?_cons] at absent
      unfold issuesOfProperties
      cases same : key == .str "properties" with
      | true =>
          rw [same] at absent
          cases absent
      | false =>
          rw [same] at absent
          exact ih absent

/-- Nothing is wrong with several documents exactly if, one by one, they name no type or nothing is
wrong with them and their properties. -/
@[simp] theorem issuesOfEach_cons_iff (name : Value) (document rest : Entries) :
    issuesOfEach ((name, .map document) :: rest) = .ok [] ↔
      (document.get? (.str "type") = none ∨
        ownIssues document = .ok [] ∧ issuesOfProperties document = .ok []) ∧
      issuesOfEach rest = .ok [] := by
  rw [issuesOfEach, Entries.has_eq_isSome_get?]
  cases document.get? (.str "type") with
  | none => simp
  | some type =>
      rw [Option.isSome_some, if_pos rfl, or_iff_right (Option.some_ne_none type)]
      constructor
      · intro silent
        obtain ⟨own, ownFound, others⟩ := Attempt.bind_eq_ok_iff.mp silent
        obtain ⟨inner, innerFound, others⟩ := Attempt.bind_eq_ok_iff.mp others
        simp only [pure_bind] at others
        cases joined : own ++ inner with
        | nil =>
            obtain ⟨rfl, rfl⟩ := List.append_eq_nil_iff.mp joined
            obtain ⟨more, restFound, same⟩ := Attempt.bind_eq_ok_iff.mp others
            cases Except.ok.inj same
            exact ⟨⟨ownFound, innerFound⟩, restFound⟩
        | cons issue issues =>
            -- An issue keeps its place behind the name of the document.
            rw [joined] at others
            obtain ⟨text, _, others⟩ := Attempt.bind_eq_ok_iff.mp others
            obtain ⟨more, _, same⟩ := Attempt.bind_eq_ok_iff.mp others
            cases Except.ok.inj same
      · rintro ⟨⟨ownFound, innerFound⟩, restFound⟩
        simp [ownFound, innerFound, restFound]

end Document

mutual

/-- The fields that a check of the document of a type looks at: those of a schema that the type
refers to, and of the schemas that these refer to directly. -/
def TypeSpec.inspected : TypeSpec → List Field
  | .ref (.schema _ ⟨fields, _, _, _, _, _⟩) => Schema.inspectedOf fields
  | _ => []

/-- The fields that a check of the documents of fields looks at. -/
def Schema.inspectedOf : List Field → List Field
  | [] => []
  | ⟨name, type, required, constraints, description, sample, default⟩ :: rest =>
    ⟨name, type, required, constraints, description, sample, default⟩ ::
      (type.inspected ++ Schema.inspectedOf rest)
termination_by structural fields => fields

end

/-- The fields that a check of the document of a schema looks at. -/
def Schema.inspected (schema : Schema) : List Field := Schema.inspectedOf schema.fields

theorem TypeSpec.inspected_of_untyped {spec : TypeSpec} (untyped : spec.typeName? = none) :
    spec.inspected = [] := by
  cases spec with
  | ref => cases untyped
  | _ => rfl

/-- The document of a bare object names a type. -/
theorem TypeSpec.isBareObject_of_untyped {spec : TypeSpec} (untyped : spec.typeName? = none) :
    spec.isBareObject = false := by
  cases spec with
  | primitive kind =>
      cases kind with
      | map => cases untyped
      | _ => rfl
  | unknownKind name =>
      rw [TypeSpec.typeName?] at untyped
      rw [TypeSpec.isBareObject]
      cases denotes : name.text?.bind Kind.ofName? with
      | none => rfl
      | some kind =>
          rw [denotes] at untyped
          cases kind with
          | any => rfl
          | _ => cases untyped
  | ref | raw => cases untyped
  | _ => rfl

theorem Document.Outline.get?_properties_of_inspected {spec : TypeSpec} {document : Entries}
    (outline : Outline spec document) :
    document.get? (.str "properties") = none ∧ spec.inspected = [] ∨
      ∃ handle target, spec = .ref (.schema handle target) := by
  cases outline with
  | primitive kind => cases kind <;> exact .inl ⟨rfl, rfl⟩
  | @known name kind denotes => cases kind <;> exact .inl ⟨rfl, rfl⟩
  | array items bounds =>
      rw [get?_of_constraintKeywords bounds (fun key => by cases key <;> decide)]
      exact .inl ⟨rfl, rfl⟩
  | @schema handle target properties => exact .inr ⟨handle, target, rfl⟩
  | @target target bare =>
      refine .inl ⟨rfl, ?_⟩
      cases target with
      | schema => cases bare
      | _ => rfl
  | union | rawUnion | tuple | rawTuple | map | raw => exact .inl ⟨rfl, rfl⟩

namespace Document

/-- Nothing is wrong with the properties in the document of a type, possibly that of a field, when
the fields that are looked at are clear, and only then. -/
def ClearsType (spec : TypeSpec) : Prop :=
  ∀ document full : Entries, spec.document = .ok document →
    full.get? (.str "properties") = document.get? (.str "properties") →
    (issuesOfProperties full = .ok [] ↔ ∀ field ∈ spec.inspected, field.IsClear)

/-- Nothing is wrong with the documents of fields exactly if the fields that are looked at are
clear. -/
def ClearsFields (fields : List Field) : Prop :=
  ∀ descriptions properties, Schema.properties descriptions fields = .ok properties →
    (issuesOfEach properties = .ok [] ↔ ∀ field ∈ Schema.inspectedOf fields, field.IsClear)

theorem clearsType_of_reference {handle : Nat} {target : Schema}
    (fields : ClearsFields target.fields) : ClearsType (.ref (.schema handle target)) := by
  intro document full written kept
  rw [document_reference] at written
  obtain ⟨properties, listed, same⟩ := Attempt.bind_eq_ok_iff.mp written
  cases same
  rw [get?_ofRecord_properties] at kept
  have inspected : (TypeSpec.ref (.schema handle target)).inspected =
      Schema.inspectedOf target.fields := by
    cases target
    rfl
  rw [issuesOfProperties_of_map kept, inspected]
  exact fields true properties listed

theorem clearsFields_cons {field : Field} {rest : List Field} (type : ClearsType field.type)
    (others : ClearsFields rest) : ClearsFields (field :: rest) := by
  intro descriptions properties listed
  rw [properties_cons] at listed
  obtain ⟨fieldDocument, fieldWritten, listed⟩ := Attempt.bind_eq_ok_iff.mp listed
  obtain ⟨more, restListed, same⟩ := Attempt.bind_eq_ok_iff.mp listed
  cases same
  rw [ofField_eq] at fieldWritten
  obtain ⟨document, written, fieldWritten⟩ := Attempt.bind_eq_ok_iff.mp fieldWritten
  obtain ⟨keywords, added, same⟩ := Attempt.bind_eq_ok_iff.mp fieldWritten
  cases same
  have inspected : Schema.inspectedOf (field :: rest) =
      field :: (field.type.inspected ++ Schema.inspectedOf rest) := by
    cases field
    rfl
  have typed : (document.putTexts keywords).get? (.str "type") = field.type.typeName?.map .str :=
    (get?_of_keywordsOf added rfl document).trans ((outline_of_document written).get?_type)
  have inner := type document (document.putTexts keywords) written
    (get?_of_keywordsOf added rfl document)
  rw [issuesOfEach_cons_iff, others descriptions more restListed, inspected, List.forall_mem_cons,
    List.forall_mem_append, inner, typed, ← and_assoc]
  apply and_congr_left'
  cases named : field.type.typeName? with
  | none =>
      rw [TypeSpec.inspected_of_untyped named]
      exact iff_of_true (.inl rfl) ⟨.inl named, List.forall_mem_nil _⟩
  | some name =>
      have some : field.type.typeName? ≠ none := by
        rw [named]
        exact Option.some_ne_none name
      rw [Option.map_some, or_iff_right (Option.some_ne_none _),
        ownIssues_of_field added written some]

/-- By induction on the fields that are looked at. -/
theorem clearsFields (fields : List Field) : ClearsFields fields := by
  refine Schema.inspectedOf.induct ClearsType ClearsFields ?reference ?other ?nil ?cons fields
  case reference =>
    intro handle fields title description strict hook metadata clears
    exact clearsType_of_reference clears
  case other =>
    intro spec differs document full written kept
    rcases (outline_of_document written).get?_properties_of_inspected with
      ⟨absent, none⟩ | ⟨handle, target, rfl⟩
    · rw [none, issuesOfProperties_of_none (kept.trans absent)]
      exact iff_of_true rfl (List.forall_mem_nil _)
    · obtain ⟨fields, title, description, strict, hook, metadata⟩ := target
      exact (differs _ _ _ _ _ _ _ rfl).elim
  case nil =>
    intro descriptions properties listed
    cases listed
    rw [issuesOfEach]
    exact iff_of_true rfl (List.forall_mem_nil _)
  case cons =>
    intro name type required constraints description sample default rest clears others
    exact clearsFields_cons clears others

/-- Nothing is wrong with a generated document exactly if the fields that are looked at are
clear. -/
theorem issues_of_generate {schema : Schema} {options : Options} {document : Value}
    (generated : generate schema options = .ok document) :
    issues document = .ok [] ↔ ∀ field ∈ schema.inspected, field.IsClear := by
  rw [generate_eq (isKnown_of_generate generated)] at generated
  obtain ⟨properties, listed, enriched⟩ := Attempt.bind_eq_ok_iff.mp generated
  obtain ⟨full, rfl, kept⟩ := exists_of_withMetadata enriched
  have typed : full.get? (.str "type") = some (.str "object") := by
    rw [kept _ (by decide), get?_ofRecord_type]
  have found : full.get? (.str "properties") = some (.map properties) := by
    rw [kept _ (by decide), get?_ofRecord_properties]
  have unbounded (key : ConstraintKey) : numberAt full key.keyword = none := by
    rw [numberAt_congr (kept _ (by cases key <;> decide)), numberAt_ofRecord]
  have own : ownIssues full = .ok [] := by
    refine (ownIssues_eq_nil_iff (typeIssues_of_get? typed (by decide))).mpr ⟨?_, ?_⟩
    · simp [objectIssues, Entries.has_eq_isSome_get?, found]
    · intro pair _ x lower
      rw [unbounded] at lower
      cases lower
  rw [issues, own, Attempt.ok_bind, issuesOfProperties_of_map found]
  have each := clearsFields schema.fields _ properties listed
  rw [← show Schema.inspected schema = Schema.inspectedOf schema.fields from rfl] at each
  rw [← each]
  cases issuesOfEach properties <;> simp [pure, Except.pure, bind, Except.bind]

end Document

/-! ## Fields with ordered bounds -/

/-- The bounds of a field are ordered, and so are those of its type. -/
@[mk_iff]
structure Field.Ordered (field : Field) : Prop where
  own : Constraint.Ordered field.constraints
  type : Constraint.Ordered field.type.itemBounds

instance (field : Field) : Decidable field.Ordered := decidable_of_iff' _ field.ordered_iff

/-- Whether a type is that of tuples. -/
def TypeSpec.isTuple : TypeSpec → Bool
  | .tuple _ | .rawTuple _ => true
  | _ => false

/-- Where a field of a tuple type bounds the number of items from one side only, the bound fits the
number of the elements, which bounds the other side. -/
def Field.FitsArity (field : Field) : Prop :=
  field.type.isTuple = true → Number.Ordered (field.bound? .minItems) (field.bound? .maxItems)

theorem Constraint.last?_eq_none {key : ConstraintKey} {constraints : List Constraint}
    (unset : ∀ constraint ∈ constraints, constraint.1 ≠ key) : last? key constraints = none := by
  induction constraints with
  | nil => rfl
  | cons constraint rest ih =>
      obtain ⟨first, others⟩ := List.forall_mem_cons.mp unset
      rw [last?, ih others, Option.none_or, if_neg first]

namespace Field

variable {field : Field} {key : ConstraintKey}

theorem bound?_of_type_unset (unset : Constraint.last? key field.type.itemBounds = none) :
    field.bound? key = Constraint.number? key field.constraints := by
  rw [bound?, Constraint.number?, Constraint.number?, unset]
  cases Constraint.last? key field.constraints <;> rfl

theorem bound?_of_unset (unset : Constraint.last? key field.constraints = none) :
    field.bound? key = Constraint.number? key field.type.itemBounds := by
  rw [bound?, unset]

end Field

theorem TypeSpec.isItemBound_of_mem_itemBounds {spec : TypeSpec} :
    ∀ constraint ∈ spec.itemBounds, FieldSpec.isItemBound constraint = true := by
  cases spec with
  | array inner minItems maxItems =>
      rw [itemBounds, boundConstraints, List.forall_mem_append]
      constructor <;> split <;> simp [FieldSpec.isItemBound]
  | tuple | rawTuple => simp [itemBounds, Constraint.exactly, FieldSpec.isItemBound]
  | _ => exact List.forall_mem_nil _

theorem Field.Settled.isItemBound_eq_false {field : Field} (settled : field.Settled)
    {inner : TypeSpec} {minItems maxItems : Value}
    (array : field.type = .array inner minItems maxItems) :
    ∀ constraint ∈ field.constraints, FieldSpec.isItemBound constraint = false := by
  have folded := settled.folded
  rw [array, FieldSpec.foldBounds] at folded
  split at folded
  case isTrue =>
    obtain ⟨_, same⟩ := Attempt.then_eq_ok_iff.mp folded
    obtain ⟨_, kept⟩ := Prod.mk.inj (Except.ok.inj same)
    intro constraint among
    rw [← kept] at among
    simpa using List.of_mem_filter among
  case isFalse none =>
    simpa using none

namespace Field

variable {field : Field}

theorem bound?_of_not_isItemBound {key : ConstraintKey}
    (other : key ≠ .minItems ∧ key ≠ .maxItems) :
    field.bound? key = Constraint.number? key field.constraints := by
  apply bound?_of_type_unset
  apply Constraint.last?_eq_none
  rintro constraint among rfl
  have counted := TypeSpec.isItemBound_of_mem_itemBounds constraint among
  simp [FieldSpec.isItemBound, other] at counted

/-- The numbers of items that bound a settled field are ordered unless the field sets bounds that do
not fit the arity of a tuple. -/
theorem ordered_itemBounds_iff (settled : field.Settled) (ordered : field.Ordered) :
    Number.Ordered (field.bound? .minItems) (field.bound? .maxItems) ↔ field.FitsArity := by
  refine ⟨fun items _ => items, fun fits => ?_⟩
  cases type : field.type with
  | tuple | rawTuple => exact fits (by rw [type]; rfl)
  | array inner minItems maxItems =>
      have unset (key : ConstraintKey) (counted : FieldSpec.isItemBound (key, .null) = true) :
          Constraint.last? key field.constraints = none := by
        apply Constraint.last?_eq_none
        rintro constraint among rfl
        exact Bool.false_ne_true ((settled.isItemBound_eq_false type constraint among).symm.trans
          counted)
      rw [bound?_of_unset (unset .minItems rfl), bound?_of_unset (unset .maxItems rfl)]
      exact ordered.type (.minItems, .maxItems) (by decide)
  | _ =>
      have unset (key : ConstraintKey) : Constraint.last? key field.type.itemBounds = none := by
        rw [type]
        rfl
      rw [bound?_of_type_unset (unset .minItems), bound?_of_type_unset (unset .maxItems)]
      exact ordered.own (.minItems, .maxItems) (by decide)

theorem ordered_bounds_iff (ordered : field.Ordered) :
    (∀ pair ∈ ConstraintKey.pairs,
        Number.Ordered (field.bound? pair.1) (field.bound? pair.2)) ↔
      Number.Ordered (field.bound? .minItems) (field.bound? .maxItems) := by
  refine ⟨fun all => all (.minItems, .maxItems) (by decide), fun items => ?_⟩
  have own {low high : ConstraintKey} (among : (low, high) ∈ ConstraintKey.pairs)
      (lowOther : low ≠ .minItems ∧ low ≠ .maxItems)
      (highOther : high ≠ .minItems ∧ high ≠ .maxItems) :
      Number.Ordered (field.bound? low) (field.bound? high) := by
    rw [bound?_of_not_isItemBound lowOther, bound?_of_not_isItemBound highOther]
    exact ordered.own _ among
  simp only [ConstraintKey.pairs, List.forall_mem_cons]
  exact ⟨own (by decide) (by decide) (by decide), own (by decide) (by decide) (by decide), items,
    List.forall_mem_nil _⟩

theorem isClear_iff (settled : field.Settled) (ordered : field.Ordered) :
    field.IsClear ↔ field.type.isBareObject = false ∧ field.FitsArity := by
  rw [IsClear, ordered_bounds_iff ordered, ordered_itemBounds_iff settled ordered]
  refine ⟨?_, .inr⟩
  rintro (untyped | clear)
  · refine ⟨TypeSpec.isBareObject_of_untyped untyped, ?_⟩
    intro tuple
    cases type : field.type with
    | tuple | rawTuple =>
        rw [type] at untyped
        cases untyped
    | _ =>
        rw [type] at tuple
        cases tuple
  · exact clear

end Field

namespace Document

/-- When a generated document is found to be right.  A document is generated and nothing is wrong
with it exactly if the provider is known, the schema can be expressed and the fields that are looked
at are clear.  If these fields are as definitions leave them, and the bounds that they and their
types set are ordered, then all are clear but bare objects and tuples whose arity does not fit the
bounds of the field. -/
theorem issues_generate_iff (schema : Schema) (options : Options) :
    ((∃ document, generate schema options = .ok document ∧ issues document = .ok []) ↔
      options.IsKnown ∧ schema.Expressible ∧ ∀ field ∈ schema.inspected, field.IsClear) ∧
    ((∀ field ∈ schema.inspected, field.Settled ∧ field.Ordered) →
      ((∃ document, generate schema options = .ok document ∧ issues document = .ok []) ↔
        options.IsKnown ∧ schema.Expressible ∧ ∀ field ∈ schema.inspected,
          field.type.isBareObject = false ∧ field.FitsArity)) := by
  have silent : (∃ document, generate schema options = .ok document ∧ issues document = .ok []) ↔
      options.IsKnown ∧ schema.Expressible ∧ ∀ field ∈ schema.inspected, field.IsClear := by
    rw [← and_assoc, ← returns_generate]
    constructor
    · rintro ⟨document, generated, none⟩
      exact ⟨⟨document, generated⟩, (issues_of_generate generated).mp none⟩
    · rintro ⟨⟨document, generated⟩, clear⟩
      exact ⟨document, generated, (issues_of_generate generated).mpr clear⟩
  refine ⟨silent, fun bounded => ?_⟩
  rw [silent]
  have clear : (∀ field ∈ schema.inspected, field.IsClear) ↔
      ∀ field ∈ schema.inspected, field.type.isBareObject = false ∧ field.FitsArity :=
    forall₂_congr fun field among =>
      Field.isClear_iff (bounded field among).1 (bounded field among).2
  rw [clear]

/-- Nothing is wrong with the document of a record that bounds tags, and that holds another one with
a pair and a score. -/
theorem issues_generate_of_nested_pair :
    let target : Schema := ⟨[
      ⟨"pair", .tuple [.primitive .integer, .primitive .atom], true, [(.maxItems, .int 2)], .null,
        .null, .null⟩,
      ⟨"score", .primitive .float, true, [(.gteq, .int 0), (.lteq, .int 10)], .null, .int 5,
        .null⟩], .null, .null, true, none, []⟩
    let schema : Schema := ⟨[
      ⟨"tags", .array (.primitive .string) (.int 1) (.int 3), true, [], .null, .null, .null⟩,
      ⟨"inner", .ref (.schema 1 target), true, [], .str "inner", .null, .null⟩],
      .null, .null, false, none, []⟩
    ∃ document, generate schema {} = .ok document ∧ issues document = .ok [] := by
  intro target schema
  have inner : Schema.define (.list [
      .tuple [.str "pair", .tuple [.str "tuple", .list [.str "integer", .str "atom"]],
        .map [(.str "max_items", .int 2)]],
      .tuple [.str "score", .str "float", .map [(.str "gteq", .int 0), (.str "lteq", .int 10),
        (.str "example", .int 5)]]]) { strict := some (.bool true) } = .ok target := rfl
  have outer : Schema.define (.list [
      .tuple [.str "tags", .tuple [.str "array", .str "string"],
        .map [(.str "min_items", .int 1), (.str "max_items", .int 3)]],
      .tuple [.str "inner", .schema 1 target, .map [(.str "description", .str "inner")]]]) {} =
        .ok schema := rfl
  have settled : ∀ field ∈ schema.fields ++ target.fields, field.Settled :=
    List.forall_mem_append.mpr ⟨Schema.settled_of_define outer, Schema.settled_of_define inner⟩
  have ordered : ∀ field ∈ schema.fields ++ target.fields, field.Ordered := by decide
  have inspected : schema.inspected = schema.fields ++ target.fields := rfl
  obtain ⟨known, expressible⟩ := (returns_generate schema {}).mp ⟨_, rfl⟩
  have fits : ∀ field ∈ schema.inspected, field.type.isBareObject = false ∧ field.FitsArity := by
    rw [inspected]
    simp only [schema, target, List.cons_append, List.nil_append, List.forall_mem_cons]
    exact ⟨⟨rfl, nofun⟩, ⟨rfl, nofun⟩, ⟨rfl, fun _ => by decide⟩, ⟨rfl, nofun⟩,
      List.forall_mem_nil _⟩
  refine ((issues_generate_iff schema {}).2 ?_).mpr ⟨known, expressible, fits⟩
  exact fun field among => ⟨settled field (inspected ▸ among), ordered field (inspected ▸ among)⟩

/-- A field of an object type that says no more is found to be wrong, and so is one of a tuple type
with a bound that does not fit. -/
theorem generate_leaves_issues :
    let record (field : Field) : Schema := ⟨[field], .null, .null, false, none, []⟩
    let bare := record ⟨"m", .primitive .map, true, [], .null, .null, .null⟩
    let short := record ⟨"t", .tuple [.primitive .integer], true, [(.minItems, .int 2)], .null,
      .null, .null⟩
    (Schema.define (.list [.tuple [.str "m", .str "map"]]) {} = .ok bare ∧
      (∀ field ∈ bare.inspected, field.Ordered) ∧
      ∃ document, generate bare {} = .ok document ∧
        issues document = .ok ["m: Object schema missing 'properties'"]) ∧
    (Schema.define (.list [.tuple [.str "t", .tuple [.str "tuple", .list [.str "integer"]],
        .map [(.str "min_items", .int 2)]]]) {} = .ok short ∧
      (∀ field ∈ short.inspected, field.Ordered) ∧
      ∃ document, generate short {} = .ok document ∧ issues document ≠ .ok []) := by
  intro record bare short
  let properties : Entries := [(.str "m", .map (ofKind .map))]
  refine ⟨⟨rfl, by decide, .map (ofRecord bare true false properties), rfl, ?_⟩, rfl, by decide, ?_⟩
  · have found : issuesOfEach properties = .ok ["m: Object schema missing 'properties'"] := by
      rw [issuesOfEach, issuesOfProperties_of_none rfl, issuesOfEach]
      rfl
    rw [issues, issuesOfProperties_of_map (get?_ofRecord_properties bare true false properties),
      found]
    rfl
  · obtain ⟨document, generated⟩ : ∃ document, generate short {} = .ok document := ⟨_, rfl⟩
    have unclear : ¬ ∀ field ∈ short.inspected, field.IsClear := by decide
    exact ⟨document, generated, fun none => unclear ((issues_of_generate generated).mp none)⟩

end Document

end Conform
