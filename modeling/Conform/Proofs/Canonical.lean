import Conform.Proofs.Components

/-!
# Canonical specifications and well-formed values

What statements about checks ask of their subjects.  A specification is canonical when its
components are resolved at every depth and its bounds are absent or natural numbers.  A value is
well-formed when the mappings in it are mappings: their keys can be keys, and no two of them are
equal.
-/

namespace Conform

/-! ## Properties of all components -/

mutual

/-- Whether a property holds of a specification and of its components at every depth. -/
def TypeSpec.everywhere (holds : TypeSpec → Bool) : TypeSpec → Bool
  | .array inner minItems maxItems =>
    holds (.array inner minItems maxItems) && TypeSpec.everywhere holds inner
  | .union alternatives =>
    holds (.union alternatives) && TypeSpec.allEverywhere holds alternatives
  | .tuple elements => holds (.tuple elements) && TypeSpec.allEverywhere holds elements
  | .map key value =>
    holds (.map key value) &&
      (TypeSpec.everywhere holds key && TypeSpec.everywhere holds value)
  | spec => holds spec

/-- Whether a property holds of specifications and of their components at every depth. -/
def TypeSpec.allEverywhere (holds : TypeSpec → Bool) : List TypeSpec → Bool
  | [] => true
  | spec :: rest => TypeSpec.everywhere holds spec && TypeSpec.allEverywhere holds rest

end

namespace TypeSpec

variable {holds : TypeSpec → Bool}

@[simp] theorem everywhere_array {inner : TypeSpec} {minItems maxItems : Value} :
    (TypeSpec.array inner minItems maxItems).everywhere holds =
      (holds (.array inner minItems maxItems) && inner.everywhere holds) := rfl

@[simp] theorem everywhere_union {alternatives : List TypeSpec} :
    (TypeSpec.union alternatives).everywhere holds =
      (holds (.union alternatives) && allEverywhere holds alternatives) := rfl

@[simp] theorem everywhere_tuple {elements : List TypeSpec} :
    (TypeSpec.tuple elements).everywhere holds =
      (holds (.tuple elements) && allEverywhere holds elements) := rfl

@[simp] theorem everywhere_map {key value : TypeSpec} :
    (TypeSpec.map key value).everywhere holds =
      (holds (.map key value) && (key.everywhere holds && value.everywhere holds)) := rfl

@[simp] theorem allEverywhere_cons {spec : TypeSpec} {rest : List TypeSpec} :
    allEverywhere holds (spec :: rest) =
      (spec.everywhere holds && allEverywhere holds rest) := rfl

@[simp] theorem allEverywhere_iff {specs : List TypeSpec} :
    allEverywhere holds specs = true ↔ ∀ spec ∈ specs, spec.everywhere holds = true := by
  induction specs with
  | nil => simp [allEverywhere]
  | cons spec rest ih => simp [ih]

/-- Whether a single node is canonical: it is resolved, its bounds bound and its union has an
alternative. -/
def isCanonicalNode : TypeSpec → Bool
  | .primitive _ | .tuple _ | .map .. => true
  | .array _ minItems maxItems => minItems.isBound && maxItems.isBound
  | .union alternatives => !alternatives.isEmpty
  | .ref target => target.validates
  | .unknownKind _ | .rawUnion _ | .rawTuple _ | .raw _ => false

/-- Whether a specification is canonical. -/
def isCanonical (spec : TypeSpec) : Bool := spec.everywhere isCanonicalNode

/-- Whether a single node refers to no schema and to no target. -/
def isClosedNode : TypeSpec → Bool
  | .ref _ => false
  | _ => true

/-- Whether a specification refers to no schema and to no target. -/
def isClosed (spec : TypeSpec) : Bool := spec.everywhere isClosedNode

/-- Whether a single node is no array type. -/
def isArrayFreeNode : TypeSpec → Bool
  | .array .. => false
  | _ => true

/-- Whether a specification holds no array type. -/
def isArrayFree (spec : TypeSpec) : Bool := spec.everywhere isArrayFreeNode

/-- Whether the keys of a single node hold no array type, so that the keys that are read stay
keys. -/
def keepsKeysNode : TypeSpec → Bool
  | .map key _ => key.isArrayFree
  | _ => true

/-- Whether the types of keys hold no array type. -/
def keepsKeys (spec : TypeSpec) : Bool := spec.everywhere keepsKeysNode

end TypeSpec

/-! ## Names -/

namespace TypeSpec

/-- Nothing in a specification is left unresolved at any depth, be it a component that is listed in
a node or one that a value yields in its place. -/
inductive Named : TypeSpec → Prop where
  | primitive (kind : Kind) : Named (.primitive kind)
  | array {inner : TypeSpec} (minItems maxItems : Value) (items : Named inner) :
      Named (.array inner minItems maxItems)
  | union {alternatives : List TypeSpec} (each : ∀ spec ∈ alternatives, Named spec) :
      Named (.union alternatives)
  | rawUnion {field : Value} {alternatives : List TypeSpec}
      (yields : field.components = .ok alternatives) (each : ∀ spec ∈ alternatives, Named spec) :
      Named (.rawUnion field)
  | tuple {elements : List TypeSpec} (each : ∀ spec ∈ elements, Named spec) :
      Named (.tuple elements)
  | rawTuple {field : Value} {elements : List TypeSpec} (yields : field.components = .ok elements)
      (each : ∀ spec ∈ elements, Named spec) : Named (.rawTuple field)
  | map {key value : TypeSpec} (ofKey : Named key) (ofValue : Named value) : Named (.map key value)
  | ref (target : Value) : Named (.ref target)

/-- Several specifications have names for messages exactly when each of them has one. -/
theorem describeAll_eq_ok_iff {specs : List TypeSpec} :
    (∃ texts, describeAll specs = .ok texts) ↔
      ∀ spec ∈ specs, ∃ text, spec.describe = .ok text := by
  induction specs with
  | nil => exact iff_of_true ⟨[], rfl⟩ (List.forall_mem_nil _)
  | cons spec rest ih =>
      rw [List.forall_mem_cons, ← ih, describeAll]
      constructor
      · rintro ⟨texts, named⟩
        obtain ⟨text, described, named⟩ := Attempt.bind_eq_ok_iff.mp named
        obtain ⟨others, restNamed, _⟩ := Attempt.bind_eq_ok_iff.mp named
        exact ⟨⟨text, described⟩, others, restNamed⟩
      · rintro ⟨⟨text, described⟩, others, restNamed⟩
        exact ⟨text :: others, by rw [described, restNamed]; rfl⟩

/-- What is resolved at every depth has a name for messages. -/
theorem Named.describe_eq_ok {spec : TypeSpec} (named : spec.Named) :
    ∃ text, spec.describe = .ok text := by
  induction named with
  | primitive kind => exact ⟨kind.name, rfl⟩
  | ref target => exact ⟨target.label, rfl⟩
  | array minItems maxItems items ih =>
      obtain ⟨text, described⟩ := ih
      exact ⟨_, by rw [describe, described]; rfl⟩
  | map ofKey ofValue keyIh valueIh =>
      obtain ⟨keyText, keyDescribed⟩ := keyIh
      obtain ⟨valueText, valueDescribed⟩ := valueIh
      exact ⟨_, by rw [describe, keyDescribed, valueDescribed]; rfl⟩
  | union each ih | tuple each ih =>
      obtain ⟨texts, described⟩ := describeAll_eq_ok_iff.mpr ih
      exact ⟨_, by rw [describe, described]; rfl⟩
  | rawUnion yields each ih | rawTuple yields each ih =>
      obtain ⟨texts, described⟩ := describeAll_eq_ok_iff.mpr ih
      exact ⟨_, by rw [describe, Value.describeMembers_eq, yields, Attempt.ok_bind, described]; rfl⟩

mutual

/-- A canonical type is resolved at every depth. -/
theorem named_of_canonical : (spec : TypeSpec) → spec.isCanonical = true → spec.Named
  | .primitive kind, _ => .primitive kind
  | .array inner minItems maxItems, canonical =>
      .array minItems maxItems (named_of_canonical inner (Bool.and_eq_true_iff.mp canonical).2)
  | .union alternatives, canonical =>
      .union (allNamed_of_canonical alternatives (Bool.and_eq_true_iff.mp canonical).2)
  | .tuple elements, canonical =>
      .tuple (allNamed_of_canonical elements canonical)
  | .map key value, canonical =>
      have components := Bool.and_eq_true_iff.mp canonical
      .map (named_of_canonical key components.1) (named_of_canonical value components.2)
  | .ref target, _ => .ref target
  | .unknownKind _, canonical | .rawUnion _, canonical | .rawTuple _, canonical
  | .raw _, canonical => nomatch canonical

theorem allNamed_of_canonical : (specs : List TypeSpec) →
    allEverywhere isCanonicalNode specs = true → ∀ spec ∈ specs, spec.Named
  | [], _ => List.forall_mem_nil _
  | spec :: rest, canonical =>
      have each := Bool.and_eq_true_iff.mp canonical
      List.forall_mem_cons.mpr
        ⟨named_of_canonical spec each.1, allNamed_of_canonical rest each.2⟩

end

theorem describe_eq_ok (spec : TypeSpec) (canonical : spec.isCanonical = true) :
    ∃ text, spec.describe = .ok text :=
  (named_of_canonical spec canonical).describe_eq_ok

end TypeSpec

/-! ## Well-formed values -/

mutual

/-- Whether the mappings in a value, at every depth that a type can read, are well-formed. -/
def Value.wellFormed : Value → Bool
  | .list items => Value.allWellFormed items
  | .tuple items => Value.allWellFormed items
  | .map entries =>
    decide (entries.Pairwise fun earlier later => (earlier.1 == later.1) = false) &&
      Value.entriesWellFormed entries
  | _ => true

/-- Whether all of the values are well-formed. -/
def Value.allWellFormed : List Value → Bool
  | [] => true
  | value :: rest => value.wellFormed && Value.allWellFormed rest

/-- Whether the keys of entries can be keys, and keys and values are well-formed. -/
def Value.entriesWellFormed : List (Value × Value) → Bool
  | [] => true
  | (key, value) :: rest =>
    key.hashable && (key.wellFormed && value.wellFormed) && Value.entriesWellFormed rest

end

namespace Value

@[simp] theorem allWellFormed_iff {items : List Value} :
    allWellFormed items = true ↔ ∀ item ∈ items, item.wellFormed = true := by
  induction items with
  | nil => simp [allWellFormed]
  | cons item rest ih => simp [allWellFormed, ih]

@[simp] theorem entriesWellFormed_iff {entries : Entries} :
    entriesWellFormed entries = true ↔ ∀ entry ∈ entries,
      entry.1.hashable = true ∧ entry.1.wellFormed = true ∧ entry.2.wellFormed = true := by
  induction entries with
  | nil => simp [entriesWellFormed]
  | cons entry rest ih =>
      obtain ⟨key, value⟩ := entry
      simp [entriesWellFormed, ih, and_assoc]

/-- The members of a well-formed sequence are well-formed. -/
theorem wellFormed_of_items {value : Value} {items : List Value}
    (found : value.items? = some items) (formed : value.wellFormed = true) :
    ∀ item ∈ items, item.wellFormed = true := by
  cases value with
  | list members | tuple members =>
      cases found
      exact allWellFormed_iff.mp formed
  | _ => cases found

@[simp] theorem wellFormed_map {entries : Entries} :
    (Value.map entries).wellFormed = true ↔
      (entries.Pairwise fun earlier later => (earlier.1 == later.1) = false) ∧
        ∀ entry ∈ entries,
          entry.1.hashable = true ∧ entry.1.wellFormed = true ∧ entry.2.wellFormed = true := by
  simp [wellFormed]

/-- A tuple can be a key exactly when its members can. -/
@[simp] theorem hashable_tuple {items : List Value} :
    (Value.tuple items).hashable = true ↔ ∀ item ∈ items, item.hashable = true := by
  have collected : (firstUnhashable? items).isNone = true ↔
      ∀ item ∈ items, item.unhashable?.isNone = true := by
    induction items with
    | nil => simp [firstUnhashable?]
    | cons item rest ih => simp [firstUnhashable?, ih]
  exact collected

end Value

/-! ## Storing distinct keys -/

namespace Entries

/-- A key that equals none of those stored goes last. -/
@[simp] theorem put_of_fresh {entries : Entries} {key value : Value}
    (fresh : ∀ entry ∈ entries, (entry.1 == key) = false) :
    entries.put key value = entries ++ [(key, value)] := by
  induction entries with
  | nil => rfl
  | cons entry rest ih =>
      obtain ⟨k, v⟩ := entry
      have differs : (k == key) = false := fresh (k, v) List.mem_cons_self
      have restFresh := ih fun other member => fresh other (List.mem_cons_of_mem _ member)
      simp [put, differs, restFresh]

end Entries

end Conform
