import Conform.Proofs.Canonical
import Conform.Proofs.Inhabitation
import Conform.Schema.Document

/-!
# The meaning of documents

The keywords that make up the documents of types without references have a standard meaning, which
`Document.admits` states.  It leaves open how many branches of a `oneOf` have to match; by the
standard it is exactly one.  What the document of a type admits is given by recursion on the type.
-/

namespace Conform

/-! ## The meaning of documents -/

/-- Which values are admitted. -/
abbrev Admission := Value → Bool

/-- Whether a double is finite and has no fraction. -/
def Double.isWhole (x : Double) : Bool := x.isFinite && x.units % Double.gridOne == 0

namespace Document

/-- How many branches of a `oneOf` have to match by the standard. -/
def exactlyOne (count : Nat) : Bool := count == 1

/-- A reading of `oneOf` as of `anyOf`. -/
def atLeastOne (count : Nat) : Bool := decide (0 < count)

/-- Whether a value is of a type that documents name.  A number without a fraction is an integer,
however it is written. -/
def hasType : String → Admission
  | "null", .null => true
  | "boolean", .bool _ => true
  | "integer", .int _ => true
  | "integer", .float x => x.isWhole
  | "number", .int _ => true
  | "number", .float _ => true
  | "string", .str _ => true
  | "array", .list _ => true
  | "object", .map _ => true
  | _, _ => false

/-- The number of items that `prefixItems` speaks of, which `items` leaves out. -/
def leadingItems (document : Entries) : Nat :=
  match document.getText "prefixItems" with
  | .list documents => documents.length
  | _ => 0

/-- Whether a value keeps to a keyword, given what its operand admits as a document, and as a list
of documents.  Keywords about arrays or objects say nothing about other values, and keywords that
are not listed here say nothing at all. -/
def keyword (matching : Nat → Bool) (leading : Nat) (operand : Value) (own : Admission)
    (branches : List Admission) (value : Value) : String → Bool
  | "type" =>
    match operand with
    | .str type => hasType type value
    | _ => true
  | "items" =>
    match value with
    | .list items => (items.drop leading).all own
    | _ => true
  | "prefixItems" =>
    match value with
    | .list items => (branches.zip items).all fun part => part.1 part.2
    | _ => true
  | "minItems" =>
    match operand, value with
    | .int least, .list items => decide (least ≤ items.length)
    | _, _ => true
  | "maxItems" =>
    match operand, value with
    | .int most, .list items => decide (items.length ≤ most)
    | _, _ => true
  | "additionalProperties" =>
    match value with
    | .map entries => entries.all fun entry => own entry.2
    | _ => true
  | "oneOf" => matching (branches.countP fun admits => admits value)
  | _ => true

mutual

/-- What a document admits. -/
def admits (matching : Nat → Bool) : Value → Admission
  | .bool flag => fun _ => flag
  | .map keywords => keywordsAdmit matching (leadingItems keywords) keywords
  | _ => fun _ => true

/-- What keywords admit together. -/
def keywordsAdmit (matching : Nat → Bool) (leading : Nat) : List (Value × Value) → Admission
  | [] => fun _ => true
  | (.str name, operand) :: rest => fun value =>
    keyword matching leading operand (admits matching operand) (branches matching operand) value
      name && keywordsAdmit matching leading rest value
  | _ :: rest => keywordsAdmit matching leading rest

/-- What the members of a list of documents admit. -/
def branches (matching : Nat → Bool) : Value → List Admission
  | .list documents => eachAdmits matching documents
  | _ => []

/-- What documents admit. -/
def eachAdmits (matching : Nat → Bool) : List Value → List Admission
  | [] => []
  | document :: rest => admits matching document :: eachAdmits matching rest

end

end Document

/-! ## What the documents of types admit, by recursion on types -/

namespace Admission

/-- What the document of a primitive kind admits. -/
def kind : Kind → Admission
  | .any => fun _ => true
  | .string | .atom => Document.hasType "string"
  | .integer => Document.hasType "integer"
  | .float => Document.hasType "number"
  | .boolean => Document.hasType "boolean"
  | .map => Document.hasType "object"

/-- The lists of admitted items, within bounds on their number. -/
def array (inner : Admission) (minItems maxItems : Value) : Admission
  | .list items => items.all inner && TypeSpec.boundsAllow minItems maxItems items.length
  | _ => false

/-- The values that a sufficient number of alternatives admit. -/
def union (matching : Nat → Bool) (alternatives : List Admission) : Admission := fun value =>
  matching (alternatives.countP fun admits => admits value)

/-- The lists of as many items as elements, each admitted at its place. -/
def tuple (elements : List Admission) : Admission
  | .list items =>
    items.length == elements.length && (elements.zip items).all fun part => part.1 part.2
  | _ => false

/-- The mappings of admitted values. -/
def map (value : Admission) : Admission
  | .map entries => entries.all fun entry => value entry.2
  | _ => false

end Admission

mutual

/-- What the document of a type admits. -/
def TypeSpec.depicts (matching : Nat → Bool) : TypeSpec → Admission
  | .primitive kind => Admission.kind kind
  | .array inner minItems maxItems =>
    Admission.array (TypeSpec.depicts matching inner) minItems maxItems
  | .union alternatives => Admission.union matching (TypeSpec.depictions matching alternatives)
  | .tuple elements => Admission.tuple (TypeSpec.depictions matching elements)
  | .map _ value => Admission.map (TypeSpec.depicts matching value)
  | .unknownKind _ | .ref _ | .rawUnion _ | .rawTuple _ | .raw _ => fun _ => false

/-- What the documents of types admit. -/
def TypeSpec.depictions (matching : Nat → Bool) : List TypeSpec → List Admission
  | [] => []
  | spec :: rest => TypeSpec.depicts matching spec :: TypeSpec.depictions matching rest

end

@[simp] theorem TypeSpec.length_depictions (matching : Nat → Bool) (specs : List TypeSpec) :
    (depictions matching specs).length = specs.length := by
  induction specs with
  | nil => rfl
  | cons spec rest ih => exact congrArg Nat.succ ih

namespace Document

variable (matching : Nat → Bool) (leading : Nat)

@[simp] theorem keywordsAdmit_append (keywords more : Entries) (value : Value) :
    keywordsAdmit matching leading (keywords ++ more) value =
      (keywordsAdmit matching leading keywords value &&
        keywordsAdmit matching leading more value) := by
  induction keywords with
  | nil => rfl
  | cons entry rest ih =>
      obtain ⟨name, operand⟩ := entry
      cases name with
      | str name => simp only [List.cons_append, keywordsAdmit, ih, Bool.and_assoc]
      | _ => exact ih

@[simp] theorem admits_ofKind (kind : Kind) :
    admits matching (.map (ofKind kind)) = Admission.kind kind := by
  funext value
  cases kind with
  | any => rfl
  | _ => exact Bool.and_true _

/-- The keywords for the bounds of an array type. -/
def ofBounds (minItems maxItems : Value) : Entries :=
  (if minItems.isNull then [] else [(.str "minItems", minItems)]) ++
    (if maxItems.isNull then [] else [(.str "maxItems", maxItems)])

/-- The document of an array type, given that of its inner type. -/
def ofArray (inner : Entries) (minItems maxItems : Value) : Entries :=
  (.str "type", .str "array") :: (.str "items", .map inner) :: ofBounds minItems maxItems

section Arrays

variable {minItems maxItems : Value} (least : minItems.isBound = true)
  (most : maxItems.isBound = true)
include least most

@[simp] theorem withConstraints_bounds (inner : Entries) :
    withConstraints (.ofTexts [("type", .str "array"), ("items", .map inner)])
      (TypeSpec.boundConstraints minItems maxItems) = .ok (ofArray inner minItems maxItems) := by
  cases minItems with
  | null | int =>
      cases maxItems with
      | null | int => rfl
      | _ => cases most
  | _ => cases least

@[simp] theorem leadingItems_ofArray (inner : Entries) :
    leadingItems (ofArray inner minItems maxItems) = 0 := by
  cases minItems with
  | null | int =>
      cases maxItems with
      | null | int => rfl
      | _ => cases most
  | _ => cases least

@[simp] theorem keywordsAdmit_ofBounds (items : List Value) :
    keywordsAdmit matching leading (ofBounds minItems maxItems) (.list items) =
      TypeSpec.boundsAllow minItems maxItems items.length := by
  rw [ofBounds, keywordsAdmit_append, TypeSpec.boundsAllow]
  congr 1
  · cases minItems with
    | null => rfl
    | int => exact Bool.and_true _
    | _ => cases least
  · cases maxItems with
    | null => rfl
    | int => exact Bool.and_true _
    | _ => cases most

@[simp] theorem admits_ofArray (inner : Entries) :
    admits matching (.map (ofArray inner minItems maxItems)) =
      Admission.array (admits matching (.map inner)) minItems maxItems := by
  funext value
  cases value with
  | list items =>
      rw [admits, leadingItems_ofArray least most, Admission.array,
        ← keywordsAdmit_ofBounds matching 0 least most]
      rfl
  | _ => rfl

end Arrays

@[simp] theorem admits_ofUnion (documents : List Value) :
    admits matching (.map (ofUnion documents)) =
      Admission.union matching (eachAdmits matching documents) := by
  funext value
  exact Bool.and_true _

@[simp] theorem length_eachAdmits (documents : List Value) :
    (eachAdmits matching documents).length = documents.length := by
  induction documents with
  | nil => rfl
  | cons document rest ih => exact congrArg Nat.succ ih

@[simp] theorem admits_ofTuple (documents : List Value) :
    admits matching (.map (ofTuple documents)) =
      Admission.tuple (eachAdmits matching documents) := by
  funext value
  cases value with
  | list items =>
      have admitted : admits matching (.map (ofTuple documents)) (.list items) =
          (((eachAdmits matching documents).zip items).all (fun part => part.1 part.2) &&
            ((items.drop documents.length).all (fun _ => false) &&
              (decide ((documents.length : Int) ≤ items.length) &&
                (decide ((items.length : Int) ≤ documents.length) && true)))) := rfl
      rw [admitted, Admission.tuple, length_eachAdmits]
      -- The bounds settle the number of items; if it is right, `prefixItems` leaves no item over.
      by_cases same : items.length = documents.length
      case pos =>
        rw [List.drop_eq_nil_of_le (Nat.le_of_eq same), same]
        simp
      case neg =>
        have outside : (decide ((documents.length : Int) ≤ items.length) &&
            (decide ((items.length : Int) ≤ documents.length) && true)) = false := by
          simp only [Bool.and_true, Bool.and_eq_false_iff, decide_eq_false_iff_not]
          omega
        rw [outside, Bool.and_false, Bool.and_false, beq_false_of_ne same, Bool.false_and]
  | _ => rfl

/-- The document of a map type, given that of its values. -/
def ofMap (value : Entries) : Entries :=
  .ofTexts [("type", .str "object"), ("additionalProperties", .map value)]

@[simp] theorem admits_ofMap (value : Entries) :
    admits matching (.map (ofMap value)) = Admission.map (admits matching (.map value)) := by
  funext data
  cases data with
  | map entries => exact Bool.and_true _
  | _ => rfl

end Document

mutual

/-- A canonical type without references has a document, which admits what the type depicts. -/
theorem TypeSpec.document_eq_ok : (spec : TypeSpec) → spec.isCanonical = true →
    spec.isClosed = true → ∃ document, spec.document = .ok document ∧
      ∀ matching, Document.admits matching (.map document) = spec.depicts matching
  | .primitive kind, _, _ =>
      ⟨Document.ofKind kind, rfl, fun matching => Document.admits_ofKind matching kind⟩
  | .array inner minItems maxItems, canonical, closed => by
      simp only [isCanonical, everywhere_array, isCanonicalNode, Bool.and_eq_true] at canonical
      obtain ⟨⟨least, most⟩, innerCanonical⟩ := canonical
      obtain ⟨document, written, admits⟩ := TypeSpec.document_eq_ok inner innerCanonical closed
      refine ⟨Document.ofArray document minItems maxItems, ?_, ?_⟩
      · rw [TypeSpec.document, written]
        exact Document.withConstraints_bounds least most document
      · intro matching
        rw [Document.admits_ofArray matching least most, admits, depicts]
  | .union alternatives, canonical, closed => by
      simp only [isCanonical, everywhere_union, Bool.and_eq_true] at canonical
      obtain ⟨documents, written, admits⟩ :=
        TypeSpec.documents_eq_ok alternatives canonical.2 closed
      refine ⟨Document.ofUnion documents, by rw [TypeSpec.document, written]; rfl, ?_⟩
      intro matching
      rw [Document.admits_ofUnion, admits, depicts]
  | .tuple elements, canonical, closed => by
      simp only [isCanonical, everywhere_tuple, Bool.and_eq_true] at canonical
      obtain ⟨documents, written, admits⟩ :=
        TypeSpec.documents_eq_ok elements canonical.2 closed
      refine ⟨Document.ofTuple documents, by rw [TypeSpec.document, written]; rfl, ?_⟩
      intro matching
      rw [Document.admits_ofTuple, admits, depicts]
  | .map key value, canonical, closed => by
      simp only [isCanonical, everywhere_map, Bool.and_eq_true] at canonical
      obtain ⟨document, written, admits⟩ := TypeSpec.document_eq_ok value canonical.2.2
        (Bool.and_eq_true_iff.mp closed).2
      refine ⟨Document.ofMap document, by rw [TypeSpec.document, written]; rfl, ?_⟩
      intro matching
      rw [Document.admits_ofMap, admits, depicts]
  | .ref _, _, closed => nomatch closed
  | .unknownKind _, canonical, _ | .rawUnion _, canonical, _ | .rawTuple _, canonical, _
  | .raw _, canonical, _ => nomatch canonical

/-- Canonical types without references have documents, which admit what the types depict. -/
theorem TypeSpec.documents_eq_ok : (specs : List TypeSpec) →
    TypeSpec.allEverywhere TypeSpec.isCanonicalNode specs = true →
    TypeSpec.allEverywhere TypeSpec.isClosedNode specs = true →
    ∃ documents, TypeSpec.documents specs = .ok documents ∧
      ∀ matching, Document.eachAdmits matching documents = TypeSpec.depictions matching specs
  | [], _, _ => ⟨[], rfl, fun _ => rfl⟩
  | spec :: rest, canonical, closed => by
      simp only [allEverywhere_cons, Bool.and_eq_true] at canonical closed
      obtain ⟨document, written, admits⟩ := TypeSpec.document_eq_ok spec canonical.1 closed.1
      obtain ⟨documents, restWritten, restAdmit⟩ :=
        TypeSpec.documents_eq_ok rest canonical.2 closed.2
      refine ⟨.map document :: documents, ?_, ?_⟩
      · rw [TypeSpec.documents, written, restWritten]
        rfl
      · intro matching
        rw [Document.eachAdmits, TypeSpec.depictions, admits, restAdmit]

end

/-! ## Where unions decide -/

namespace Admission

/-- What two admissions both admit. -/
def both (first second : Admission) : Admission := fun value => first value && second value

/-- The lists of admitted items, and what is no list. -/
def ofItems (inner : Admission) : Admission
  | .list items => items.all inner
  | _ => true

/-- The lists of items that are admitted at their places, and what is no list. -/
def ofPlaces (elements : List Admission) : Admission
  | .list items => (elements.zip items).all fun part => part.1 part.2
  | _ => true

/-- The mappings of admitted values, and what is no mapping. -/
def ofValues (value : Admission) : Admission
  | .map entries => entries.all fun entry => value entry.2
  | _ => true

theorem all_both {α : Type} (first second : α → Bool) (items : List α) :
    (items.all fun item => first item && second item) = (items.all first && items.all second) := by
  induction items with
  | nil => rfl
  | cons item rest ih => simp [ih, Bool.and_assoc, Bool.and_left_comm]

theorem all_zip_both {firsts seconds : List Admission} (length : firsts.length = seconds.length)
    (items : List Value) :
    (((List.zipWith both firsts seconds).zip items).all fun part => part.1 part.2) =
      (((firsts.zip items).all fun part => part.1 part.2) &&
        (seconds.zip items).all fun part => part.1 part.2) := by
  induction firsts generalizing seconds items with
  | nil =>
      cases List.eq_nil_of_length_eq_zero length.symm
      rfl
  | cons first rest ih =>
      cases seconds with
      | nil => cases length
      | cons second others =>
          cases items with
          | nil => rfl
          | cons item items =>
              simp [both, ih (Nat.succ.inj length) items, Bool.and_assoc, Bool.and_left_comm]

theorem array_both (first second : Admission) (minItems maxItems : Value) :
    array (both first second) minItems maxItems =
      both (array first minItems maxItems) (ofItems second) := by
  funext value
  cases value with
  | list items =>
      have split : items.all (both first second) = (items.all first && items.all second) :=
        all_both first second items
      rw [array, both, array, ofItems, split, Bool.and_right_comm]
  | _ => rfl

theorem tuple_both {firsts seconds : List Admission} (length : firsts.length = seconds.length) :
    tuple (List.zipWith both firsts seconds) = both (tuple firsts) (ofPlaces seconds) := by
  funext value
  cases value with
  | list items =>
      rw [tuple, both, tuple, ofPlaces, all_zip_both length, List.length_zipWith, ← length,
        Nat.min_self, Bool.and_assoc]
  | _ => rfl

theorem map_both (first second : Admission) :
    map (both first second) = both (map first) (ofValues second) := by
  funext value
  cases value with
  | map entries => exact all_both _ _ entries
  | _ => rfl

end Admission

mutual

/-- Whether every union that reads a part of a value, those within other unions apart, has exactly
one alternative whose document admits that part. -/
def TypeSpec.singlesOut : TypeSpec → Admission
  | .array inner _ _ => Admission.ofItems (TypeSpec.singlesOut inner)
  | .union alternatives =>
    Admission.union Document.exactlyOne (TypeSpec.depictions Document.exactlyOne alternatives)
  | .tuple elements => Admission.ofPlaces (TypeSpec.allSingleOut elements)
  | .map _ value => Admission.ofValues (TypeSpec.singlesOut value)
  | _ => fun _ => true

/-- Whether the unions of several types single out alternatives. -/
def TypeSpec.allSingleOut : List TypeSpec → List Admission
  | [] => []
  | spec :: rest => TypeSpec.singlesOut spec :: TypeSpec.allSingleOut rest

end

@[simp] theorem TypeSpec.length_allSingleOut (specs : List TypeSpec) :
    (allSingleOut specs).length = specs.length := by
  induction specs with
  | nil => rfl
  | cons spec rest ih => exact congrArg Nat.succ ih

mutual

/-- A value is depicted by the standard if it is, unions left out of account, and the unions single
out alternatives. -/
theorem TypeSpec.depicts_exactlyOne : (spec : TypeSpec) → spec.depicts Document.exactlyOne =
    Admission.both (spec.depicts fun _ => true) spec.singlesOut
  | .primitive _ => funext fun _ => (Bool.and_true _).symm
  | .array inner minItems maxItems => by
      rw [depicts, TypeSpec.depicts_exactlyOne inner, Admission.array_both, depicts, singlesOut]
  | .union _ => rfl
  | .tuple elements => by
      have length :
        (depictions (fun _ => true) elements).length = (allSingleOut elements).length := by
        rw [length_depictions, length_allSingleOut]
      rw [depicts, TypeSpec.depictions_exactlyOne elements, Admission.tuple_both length, depicts,
        singlesOut]
  | .map _ value => by
      rw [depicts, TypeSpec.depicts_exactlyOne value, Admission.map_both, depicts, singlesOut]
  | .unknownKind _ | .ref _ | .rawUnion _ | .rawTuple _ | .raw _ => rfl

/-- Values are depicted by the standard if they are, unions left out of account, and the unions
single out alternatives. -/
theorem TypeSpec.depictions_exactlyOne : (specs : List TypeSpec) →
    TypeSpec.depictions Document.exactlyOne specs = List.zipWith Admission.both
      (TypeSpec.depictions (fun _ => true) specs) (TypeSpec.allSingleOut specs)
  | [] => rfl
  | spec :: rest => by
      rw [depictions, TypeSpec.depicts_exactlyOne spec, TypeSpec.depictions_exactlyOne rest]
      rfl

end

end Conform
