import Conform.Schema.Document

/-!
# Components of raw nodes

A raw union or tuple holds some value in the place of its components.  What the value yields one
after another counts as components, and everything that is done with a raw node is done with these:
this is what the equations of this module say.  With them statements about all type specifications
are proved by induction over components (`TypeSpec.induction`), be they listed in a node or yielded
by a value.
-/

namespace Conform

/-- The components that a value yields in the place of those of a union or a tuple. -/
def Value.components (field : Value) : Attempt (List TypeSpec) := do
  return (← field.elements).map TypeSpec.ofValue

namespace Value

@[simp] theorem elements_eq_ok_iff {field : Value} {members : List Value} :
    field.elements = .ok members ↔ field.elements? = some members := by
  rw [elements]
  cases field.elements? <;> simp

/-- A value that yields members at all yields values, nodes among them only from containers. -/
theorem sizeOf_lt_of_elements {field : Value} {members : List Value}
    (found : field.elements = .ok members) {spec : TypeSpec} (among : .spec spec ∈ members) :
    sizeOf spec < sizeOf field := by
  cases field with
  | list items | tuple items | set items | frozenset items =>
      cases found
      have smaller := List.sizeOf_lt_of_mem among
      simp only [Value.spec.sizeOf_spec] at smaller
      simp only [Value.list.sizeOf_spec, Value.tuple.sizeOf_spec, Value.set.sizeOf_spec,
        Value.frozenset.sizeOf_spec]
      omega
  | map entries =>
      cases found
      obtain ⟨⟨key, value⟩, entryAmong, rfl⟩ := List.mem_map.mp among
      have smaller := List.sizeOf_lt_of_mem entryAmong
      simp only [Prod.mk.sizeOf_spec, Value.spec.sizeOf_spec] at smaller
      simp only [Value.map.sizeOf_spec]
      omega
  | str | bytes | bytearray | enumeration =>
      cases found
      simp at among
  | _ => cases found

end Value

namespace TypeSpec

/-- Induction over the components of type specifications at every depth, with those that raw unions
and tuples yield and the types of the fields of schemas that are referred to. -/
@[elab_as_elim]
theorem induction {motive : TypeSpec → Prop}
    (primitive : ∀ kind, motive (.primitive kind))
    (unknownKind : ∀ kind, motive (.unknownKind kind))
    (array : ∀ inner minItems maxItems, motive inner → motive (.array inner minItems maxItems))
    (union : ∀ alternatives, (∀ spec ∈ alternatives, motive spec) → motive (.union alternatives))
    (rawUnion : ∀ field, (∀ specs, field.components = .ok specs → ∀ spec ∈ specs, motive spec) →
      motive (.rawUnion field))
    (tuple : ∀ elements, (∀ spec ∈ elements, motive spec) → motive (.tuple elements))
    (rawTuple : ∀ field, (∀ specs, field.components = .ok specs → ∀ spec ∈ specs, motive spec) →
      motive (.rawTuple field))
    (map : ∀ key value, motive key → motive value → motive (.map key value))
    (ref : ∀ target, (∀ handle schema, target = .schema handle schema →
      ∀ field ∈ schema.fields, motive field.type) → motive (.ref target))
    (raw : ∀ component, motive (.raw component)) (spec : TypeSpec) : motive spec := by
  have yielded (field : Value)
      (smaller : ∀ spec, sizeOf spec < sizeOf field → motive spec) :
      ∀ specs, field.components = .ok specs → ∀ spec ∈ specs, motive spec := by
    intro specs found spec among
    obtain ⟨members, elements, same⟩ := Attempt.bind_eq_ok_iff.mp found
    cases same
    obtain ⟨member, memberAmong, rfl⟩ := List.mem_map.mp among
    cases member with
    | spec inner => exact smaller inner (Value.sizeOf_lt_of_elements elements memberAmong)
    | _ => exact raw _
  induction size : sizeOf spec using Nat.strongRecOn generalizing spec with
  | _ size ih =>
      subst size
      have smaller (part : TypeSpec) (less : sizeOf part < sizeOf spec) : motive part :=
        ih _ less part rfl
      cases spec with
      | primitive kind => exact primitive kind
      | unknownKind kind => exact unknownKind kind
      | array inner minItems maxItems =>
          refine array inner minItems maxItems (smaller inner ?_)
          simp only [TypeSpec.array.sizeOf_spec]
          omega
      | union alternatives =>
          refine union alternatives fun spec among => smaller spec ?_
          have less := List.sizeOf_lt_of_mem among
          simp only [TypeSpec.union.sizeOf_spec]
          omega
      | rawUnion field =>
          refine rawUnion field (yielded field fun spec less => smaller spec ?_)
          simp only [TypeSpec.rawUnion.sizeOf_spec]
          omega
      | tuple elements =>
          refine tuple elements fun spec among => smaller spec ?_
          have less := List.sizeOf_lt_of_mem among
          simp only [TypeSpec.tuple.sizeOf_spec]
          omega
      | rawTuple field =>
          refine rawTuple field (yielded field fun spec less => smaller spec ?_)
          simp only [TypeSpec.rawTuple.sizeOf_spec]
          omega
      | map key value =>
          refine map key value (smaller key ?_) (smaller value ?_) <;>
          · simp only [TypeSpec.map.sizeOf_spec]
            omega
      | ref target =>
          refine ref target ?_
          rintro handle ⟨fields, title, description, strict, hook, metadata⟩ rfl field among
          refine smaller field.type ?_
          have less := List.sizeOf_lt_of_mem among
          cases field
          simp only [TypeSpec.ref.sizeOf_spec, Value.schema.sizeOf_spec, Schema.mk.sizeOf_spec,
            Field.mk.sizeOf_spec] at less ⊢
          omega
      | raw component => exact raw component

end TypeSpec

/-! ## What is done with the components -/

/-- The name of a kind has more than one character. -/
@[simp] theorem Kind.ofName?_singleton (c : Char) : Kind.ofName? (String.singleton c) = none := by
  unfold Kind.ofName?
  split
  case h_8 => rfl
  all_goals
    rename_i same
    have length := congrArg String.length same
    rw [String.length_singleton] at length
    revert length
    decide

namespace TypeSpec

/-- What holds of the check of each of some types holds of all their checkers. -/
theorem forall_checkers {holds : Checker → Prop} {env : Environment} {specs : List TypeSpec}
    (each : ∀ spec ∈ specs, holds (spec.check env)) :
    ∀ checker ∈ TypeSpec.checkers env specs, holds checker := by
  intro checker among
  rw [TypeSpec.checkers_eq_map] at among
  obtain ⟨spec, specAmong, rfl⟩ := List.mem_map.mp among
  exact each spec specAmong

/-- What holds of the conversion to each of some types holds of all of them. -/
theorem forall_coercers {holds : Checker → Prop} {env : Environment} {specs : List TypeSpec}
    (each : ∀ spec ∈ specs, holds (spec.coerce env)) :
    ∀ coercer ∈ TypeSpec.coercers env specs, holds coercer := by
  intro coercer among
  rw [TypeSpec.coercers_eq_map] at among
  obtain ⟨spec, specAmong, rfl⟩ := List.mem_map.mp among
  exact each spec specAmong

end TypeSpec

namespace Value

variable (env : Environment) (items : List Value) (entries : Entries) (field : Value)

@[simp] theorem components_list : (Value.list items).components = .ok (items.map .ofValue) := rfl

@[simp] theorem components_tuple : (Value.tuple items).components = .ok (items.map .ofValue) := rfl

@[simp] theorem components_set : (Value.set items).components = .ok (items.map .ofValue) := rfl

@[simp] theorem components_frozenset :
    (Value.frozenset items).components = .ok (items.map .ofValue) := rfl

@[simp] theorem components_map :
    (Value.map entries).components = .ok (entries.map (.ofValue ·.1)) := by
  simp [components, elements, elements?]

@[simp] theorem eachChecker_eq :
    eachChecker env items = (items.map TypeSpec.ofValue).map (TypeSpec.check env) := by
  induction items with
  | nil => rfl
  | cons item rest ih => cases item <;> simp only [eachChecker, ih] <;> rfl

@[simp] theorem keyCheckers_eq :
    keyCheckers env entries = (entries.map (.ofValue ·.1)).map (TypeSpec.check env) := by
  induction entries with
  | nil => rfl
  | cons entry rest ih =>
      obtain ⟨key, value⟩ := entry
      cases key <;> simp only [keyCheckers, ih] <;> rfl

/-- The checkers of what a value yields are those of its components. -/
@[simp] theorem memberCheckers_eq :
    field.memberCheckers env = do return (← field.components).map (TypeSpec.check env) := by
  cases field with
  | list items | tuple items | set items | frozenset items =>
      simp only [memberCheckers, eachChecker_eq]
      rfl
  | map entries =>
      simp only [memberCheckers, keyCheckers_eq, components_map]
      rfl
  | str | bytes | bytearray | enumeration =>
      simp only [memberCheckers, components, elements, elements?, Attempt.ok_bind, pure_bind,
        List.map_map]
      rfl
  | _ => rfl

/-- What holds of the checks of all components holds of the checkers of what a value yields. -/
theorem forall_memberCheckers {holds : Checker → Prop} {env : Environment} {field : Value}
    (each : ∀ specs, field.components = .ok specs → ∀ spec ∈ specs, holds (spec.check env)) :
    ∀ checkers, field.memberCheckers env = .ok checkers → ∀ checker ∈ checkers, holds checker := by
  intro checkers found checker among
  rw [memberCheckers_eq] at found
  obtain ⟨specs, components, same⟩ := Attempt.bind_eq_ok_iff.mp found
  cases same
  obtain ⟨spec, specAmong, rfl⟩ := List.mem_map.mp among
  exact each specs components spec specAmong

@[simp] theorem eachCoercer_eq :
    eachCoercer env items = (items.map TypeSpec.ofValue).map (TypeSpec.coerce env) := by
  induction items with
  | nil => rfl
  | cons item rest ih => cases item <;> simp only [eachCoercer, ih] <;> rfl

@[simp] theorem keyCoercers_eq :
    keyCoercers env entries = (entries.map (.ofValue ·.1)).map (TypeSpec.coerce env) := by
  induction entries with
  | nil => rfl
  | cons entry rest ih =>
      obtain ⟨key, value⟩ := entry
      cases key <;> simp only [keyCoercers, ih] <;> rfl

/-- The conversions to what a value yields are those to its components. -/
@[simp] theorem memberCoercers_eq :
    field.memberCoercers env = do return (← field.components).map (TypeSpec.coerce env) := by
  cases field with
  | list items | tuple items | set items | frozenset items =>
      simp only [memberCoercers, eachCoercer_eq]
      rfl
  | map entries =>
      simp only [memberCoercers, keyCoercers_eq, components_map]
      rfl
  | str | bytes | bytearray | enumeration =>
      simp only [memberCoercers, components, elements, elements?, Attempt.ok_bind, pure_bind,
        List.map_map]
      rfl
  | _ => rfl

/-- What holds of the conversions to all components holds of those to what a value yields. -/
theorem forall_memberCoercers {holds : Checker → Prop} {env : Environment} {field : Value}
    (each : ∀ specs, field.components = .ok specs → ∀ spec ∈ specs, holds (spec.coerce env)) :
    ∀ coercers, field.memberCoercers env = .ok coercers → ∀ coercer ∈ coercers, holds coercer := by
  intro coercers found coercer among
  rw [memberCoercers_eq] at found
  obtain ⟨specs, components, same⟩ := Attempt.bind_eq_ok_iff.mp found
  cases same
  obtain ⟨spec, specAmong, rfl⟩ := List.mem_map.mp among
  exact each specs components spec specAmong

@[simp] theorem describeEach_eq :
    describeEach items = TypeSpec.describeAll (items.map TypeSpec.ofValue) := by
  induction items with
  | nil => rfl
  | cons item rest ih =>
      cases item <;> simp only [describeEach, ih] <;> rfl

@[simp] theorem describeKeys_eq :
    describeKeys entries = TypeSpec.describeAll (entries.map (.ofValue ·.1)) := by
  induction entries with
  | nil => rfl
  | cons entry rest ih =>
      obtain ⟨key, value⟩ := entry
      cases key <;> simp only [describeKeys, ih] <;> rfl

/-- The names of what a value yields are those of its components. -/
@[simp] theorem describeMembers_eq :
    field.describeMembers = field.components >>= TypeSpec.describeAll := by
  cases field with
  | list | tuple | set | frozenset | map => simp [describeMembers]
  | str text =>
      simp only [describeMembers, components, elements, elements?, Attempt.ok_bind, List.map_map]
      cases text.toList <;> rfl
  | bytes octets | bytearray octets | enumeration _ octets => cases octets <;> rfl
  | _ => rfl

@[simp] theorem eachDocument_eq :
    eachDocument items = TypeSpec.documents (items.map TypeSpec.ofValue) := by
  induction items with
  | nil => rfl
  | cons item rest ih => cases item <;> simp only [eachDocument, ih] <;> rfl

@[simp] theorem keyDocuments_eq :
    keyDocuments entries = TypeSpec.documents (entries.map (.ofValue ·.1)) := by
  induction entries with
  | nil => rfl
  | cons entry rest ih =>
      obtain ⟨key, value⟩ := entry
      cases key <;> simp only [keyDocuments, ih] <;> rfl

@[simp] theorem documents_raw {α : Type} (given : α → Value) (items : List α) :
    TypeSpec.documents (items.map fun item => .raw (given item)) =
      .ok (items.map fun _ => .map Document.unresolved) := by
  induction items with
  | nil => rfl
  | cons item rest ih => simp only [List.map_cons, TypeSpec.documents, ih]; rfl

/-- The documents of what a value yields are those of its components. -/
@[simp] theorem memberDocuments_eq :
    field.memberDocuments = field.components >>= TypeSpec.documents := by
  cases field with
  | list | tuple | set | frozenset | map => simp [memberDocuments]
  | str | bytes | bytearray | enumeration =>
      simp only [memberDocuments, components, elements, elements?, Attempt.ok_bind, pure_bind,
        List.map_map]
      exact (documents_raw _ _).symm
  | _ => rfl

theorem checkKeys_eq (entries : Entries) :
    checkKeys entries = toSpecs (entries.map Prod.fst) >>= fun _ => .ok () := by
  induction entries with
  | nil => rfl
  | cons entry rest ih =>
      obtain ⟨key, value⟩ := entry
      simp only [checkKeys, List.map_cons, toSpecs, ih]
      cases key.toSpec with
      | error fault => rfl
      | ok spec => cases toSpecs (rest.map Prod.fst) <;> rfl

/-- The first of values that denote no type specifications ends their reading. -/
theorem refuseFirst_eq {members : List Value}
    (unread : ∀ member ∈ members, member.toSpec =
      TypeSpec.refuse member (if member.text?.isSome then .unknownName else .unrecognized)) :
    TypeSpec.refuseFirst members = toSpecs members >>= fun _ => .ok () := by
  cases members with
  | nil => rfl
  | cons first rest =>
      rw [TypeSpec.refuseFirst, toSpecs, unread first List.mem_cons_self]
      unfold TypeSpec.refuse DefinitionFlaw.refuse
      cases (DefinitionFlaw.type first _).account <;> rfl

/-- What a value yields is checked by reading it. -/
theorem checkMembers_eq (field : Value) :
    field.checkMembers = field.elements >>= fun members => toSpecs members >>= fun _ => .ok () := by
  cases field with
  | map entries =>
      exact checkKeys_eq entries
  | str text =>
      refine refuseFirst_eq fun member among => ?_
      obtain ⟨c, _, rfl⟩ := List.mem_map.mp among
      simp [toSpec, text?]
  | bytes octets | bytearray octets | enumeration _ octets =>
      refine refuseFirst_eq fun member among => ?_
      obtain ⟨octet, _, rfl⟩ := List.mem_map.mp among
      simp [toSpec, validates, text?]
  | _ => rfl

end Value

/-! ## Raw unions and tuples whose components can be told -/

section

variable (description : Attempt String) (checkers : List Checker) (fault : Fault)

@[simp] theorem Check.rawUnion_ok :
    Check.rawUnion description (.ok checkers) = Check.union description checkers := rfl

@[simp] theorem Check.rawUnion_error :
    Check.rawUnion description (.error fault) = fun _ _ => .error fault := rfl

@[simp] theorem Check.rawTuple_ok : Check.rawTuple (.ok checkers) = Check.tuple checkers := by
  funext value path
  simp only [Check.rawTuple, Check.tuple, Attempt.ok_bind]
  cases value.items? <;> rfl

@[simp] theorem Coercion.toRawUnion_ok (spec : TypeSpec) :
    Coercion.toRawUnion spec (.ok checkers) = Coercion.toUnion spec checkers := rfl

@[simp] theorem Coercion.toRawUnion_error (spec : TypeSpec) :
    Coercion.toRawUnion spec (.error fault) = fun _ _ => .error fault := rfl

end

end Conform
