import Conform.Proofs.Faults

/-!
# The compact form, as a grammar

`Value.Denotes` is the grammar that `Value.toSpec` reads, as a relation.  What is read passes the
check of ready-made nodes and is read again as it is.  It is canonical unless a ready-made node
brought a raw component along, or something other than a tuple that holds its components: these are
checked, but they are not resolved.
-/

namespace Conform

@[simp] theorem Attempt.then_eq_ok_iff {α : Type} {check : Attempt Unit} {next : Attempt α}
    {result : α} :
    (check >>= fun _ => next) = .ok result ↔ check = .ok () ∧ next = .ok result := by
  cases check <;> simp [bind, Except.bind]

/-! ## Refusals -/

namespace TypeSpec

@[simp] theorem refuse_ne_ok {α : Type} (spec : Value) (flaw : TypeFlaw) (result : α) :
    refuse spec flaw ≠ .ok result :=
  DefinitionFlaw.refuse_ne_ok _ result

@[simp] theorem checkBound_eq_ok_iff {spec : Value} {name : String} {bound : Value} :
    checkBound spec name bound = .ok () ↔ bound.isBound = true := by
  unfold checkBound
  split
  case isTrue isBound => simp [isBound]
  case isFalse unbound => simp [unbound, refuse_ne_ok]

/-- Whether a key of the options of an array type names a bound. -/
def namesBound (key : Value) : Bool := key == .str "min_items" || key == .str "max_items"

@[simp] theorem checkArrayOptions_eq_ok_iff {spec : Value} {options : Entries} :
    checkArrayOptions spec options = .ok () ↔
      ∀ option ∈ options, namesBound option.1 = true := by
  have unknown : ((options.map Prod.fst).filter fun key => !namesBound key).isEmpty = true ↔
      ∀ option ∈ options, namesBound option.1 = true := by simp
  rw [← unknown]
  show (if _ then _ else _) = _ ↔ _
  split
  case isTrue none => exact ⟨fun _ => none, fun _ => rfl⟩
  case isFalse found =>
    exact ⟨fun checked => absurd checked (refuse_ne_ok _ _ _), fun none => absurd none found⟩

end TypeSpec

/-! ## The grammar -/

mutual

/-- A value denotes a specification. -/
inductive Value.Denotes : Value → TypeSpec → Prop where
  | node {spec : TypeSpec} (checked : spec.checkForm = .ok ()) : Denotes (.spec spec) spec
  | name {name : String} {kind : Kind} (known : Kind.ofName? name = some kind) :
      Denotes (.str name) (.primitive kind)
  | dataType {type : DataType} {spec : TypeSpec} (known : type.toSpec? = some spec) :
      Denotes (.type type) spec
  | array {inner : Value} {spec : TypeSpec} (items : Denotes inner spec) :
      Denotes (.tuple [.str "array", inner]) (.array spec .null .null)
  | boundedArray {inner : Value} {options : Entries} {spec : TypeSpec}
      (known : ∀ option ∈ options, TypeSpec.namesBound option.1 = true)
      (items : Denotes inner spec) (least : (options.getText "min_items").isBound = true)
      (most : (options.getText "max_items").isBound = true) :
      Denotes (.tuple [.str "array", inner, .map options])
        (.array spec (options.getText "min_items") (options.getText "max_items"))
  | union {form : Value} {members : List Value} {specs : List TypeSpec}
      (listed : form.items? = some members) (each : DenoteAll members specs)
      (inhabited : specs ≠ []) : Denotes (.tuple [.str "union", form]) (.union specs)
  | tuple {form : Value} {members : List Value} {specs : List TypeSpec}
      (listed : form.items? = some members) (each : DenoteAll members specs) :
      Denotes (.tuple [.str "tuple", form]) (.tuple specs)
  | map {key value : Value} {keySpec valueSpec : TypeSpec} (ofKey : Denotes key keySpec)
      (ofValue : Denotes value valueSpec) :
      Denotes (.tuple [.str "map", key, value]) (.map keySpec valueSpec)
  | mapOfPair {key value : Value} {keySpec valueSpec : TypeSpec} (ofKey : Denotes key keySpec)
      (ofValue : Denotes value valueSpec) :
      Denotes (.tuple [.str "map", .tuple [key, value]]) (.map keySpec valueSpec)
  | ref {value : Value} (validates : value.validates = true) : Denotes value (.ref value)

/-- Values denote specifications, one each. -/
inductive Value.DenoteAll : List Value → List TypeSpec → Prop where
  | nil : DenoteAll [] []
  | cons {form : Value} {forms : List Value} {spec : TypeSpec} {specs : List TypeSpec}
      (first : Denotes form spec) (rest : DenoteAll forms specs) :
      DenoteAll (form :: forms) (spec :: specs)

end

/-- Several values are read when each of them is. -/
theorem Value.toSpecs_cons {form : Value} {forms : List Value} {specs : List TypeSpec}
    (read : Value.toSpecs (form :: forms) = .ok specs) : ∃ spec rest, form.toSpec = .ok spec ∧
      Value.toSpecs forms = .ok rest ∧ specs = spec :: rest := by
  simp only [Value.toSpecs] at read
  obtain ⟨spec, first, read⟩ := Attempt.bind_eq_ok_iff.mp read
  obtain ⟨rest, others, same⟩ := Attempt.bind_eq_ok_iff.mp read
  cases same
  exact ⟨spec, rest, first, others, rfl⟩

/-- What is read as a union has an alternative. -/
theorem TypeSpec.union_of_read {form : Value} {alternatives : Attempt (List TypeSpec)}
    {spec : TypeSpec}
    (read : (alternatives >>= fun found =>
      if found.isEmpty then TypeSpec.refuse form .emptyUnion else .ok (.union found)) = .ok spec) :
    ∃ found, alternatives = .ok found ∧ found ≠ [] ∧ spec = .union found := by
  obtain ⟨found, each, read⟩ := Attempt.bind_eq_ok_iff.mp read
  cases found with
  | nil => exact absurd read (TypeSpec.refuse_ne_ok _ _ _)
  | cons first rest =>
      cases read
      exact ⟨first :: rest, each, List.cons_ne_nil _ _, rfl⟩

/-- What is read from a value is denoted by it. -/
theorem Value.denotes_of_toSpec : (form : Value) → {spec : TypeSpec} → form.toSpec = .ok spec →
    form.Denotes spec := by
  -- the components of a ready-made node are checked, not read
  refine @Value.toSpec.induct
    (fun form => ∀ {spec : TypeSpec}, form.toSpec = .ok spec → form.Denotes spec)
    (fun forms => ∀ {specs : List TypeSpec}, Value.toSpecs forms = .ok specs →
      Value.DenoteAll forms specs) (fun _ => True) (fun _ => True) (fun _ => True) (fun _ => True)
    ?node ?name ?noName ?dataType ?noDataType ?noEnumeration ?array ?boundedArray ?noArray
    ?unionOfList ?unionOfTuple ?noUnion ?tupleOfList ?tupleOfTuple ?noTuple ?map ?mapOfPair ?noMap
    ?noTag ?reference ?noReference ?_ ?_ ?_ ?_ ?_ ?_ ?_ ?_ ?_ ?_ ?_ ?_ ?_ ?_ ?_ ?_ ?_ ?_ ?_ ?nil
    ?cons ?_ ?_ ?_ ?_
  case node =>
    intro node _ spec read
    simp only [Value.toSpec] at read
    obtain ⟨_, checked, same⟩ := Attempt.bind_eq_ok_iff.mp read
    cases same
    exact .node checked
  case name =>
    intro name kind known spec read
    simp only [Value.toSpec, known] at read
    cases read
    exact .name known
  case dataType =>
    intro type found known spec read
    simp only [Value.toSpec, known] at read
    cases read
    exact .dataType known
  case array =>
    intro inner ih spec read
    simp only [Value.toSpec] at read
    obtain ⟨items, itemsRead, same⟩ := Attempt.bind_eq_ok_iff.mp read
    cases same
    exact .array (ih itemsRead)
  case boundedArray =>
    intro inner options ih spec read
    simp only [Value.toSpec] at read
    obtain ⟨_, known, read⟩ := Attempt.bind_eq_ok_iff.mp read
    obtain ⟨items, itemsRead, read⟩ := Attempt.bind_eq_ok_iff.mp read
    obtain ⟨_, least, read⟩ := Attempt.bind_eq_ok_iff.mp read
    obtain ⟨_, most, same⟩ := Attempt.bind_eq_ok_iff.mp read
    cases same
    exact .boundedArray (TypeSpec.checkArrayOptions_eq_ok_iff.mp known) (ih itemsRead)
      (TypeSpec.checkBound_eq_ok_iff.mp least) (TypeSpec.checkBound_eq_ok_iff.mp most)
  case unionOfList | unionOfTuple =>
    intro members ih spec read
    simp only [Value.toSpec] at read
    obtain ⟨specs, each, inhabited, rfl⟩ := TypeSpec.union_of_read read
    exact .union rfl (ih each) inhabited
  case tupleOfList | tupleOfTuple =>
    intro members ih spec read
    simp only [Value.toSpec] at read
    obtain ⟨specs, each, same⟩ := Attempt.bind_eq_ok_iff.mp read
    cases same
    exact .tuple rfl (ih each)
  case map | mapOfPair =>
    intro key value ofKey ofValue spec read
    simp only [Value.toSpec] at read
    obtain ⟨keySpec, keyRead, read⟩ := Attempt.bind_eq_ok_iff.mp read
    obtain ⟨valueSpec, valueRead, same⟩ := Attempt.bind_eq_ok_iff.mp read
    cases same
    first
      | exact .map (ofKey keyRead) (ofValue valueRead)
      | exact .mapOfPair (ofKey keyRead) (ofValue valueRead)
  case reference =>
    intros
    rename_i validates spec read
    simp only [Value.toSpec, validates, if_true] at read
    cases read
    exact .ref validates
  case nil =>
    intro specs read
    cases read
    exact .nil
  case cons =>
    intro form forms first rest specs read
    obtain ⟨spec, others, formRead, formsRead, rfl⟩ := Value.toSpecs_cons read
    exact .cons (first formRead) (rest formsRead)
  case noName | noDataType =>
    intro _ unknown spec read
    simp only [Value.toSpec, unknown] at read
    exact absurd read (TypeSpec.refuse_ne_ok _ _ _)
  case noReference =>
    intros
    rename_i unable spec read
    simp only [Value.toSpec, unable] at read
    exact absurd read (TypeSpec.refuse_ne_ok _ _ _)
  case noEnumeration | noArray | noUnion | noTuple | noMap | noTag =>
    intros
    rename_i read
    simp only [Value.toSpec] at read
    exact absurd read (TypeSpec.refuse_ne_ok _ _ _)
  all_goals intros; trivial

mutual

/-- What a value denotes is read from it. -/
theorem Value.Denotes.toSpec {form : Value} {spec : TypeSpec} :
    form.Denotes spec → form.toSpec = .ok spec
  | .node checked => by simp only [Value.toSpec, checked]; rfl
  | .name known => by simp only [Value.toSpec, known]
  | .dataType known => by simp only [Value.toSpec, known]
  | .array items => by simp only [Value.toSpec, items.toSpec]; rfl
  | .boundedArray known items least most => by
      simp only [Value.toSpec, items.toSpec, TypeSpec.checkArrayOptions_eq_ok_iff.mpr known,
        TypeSpec.checkBound_eq_ok_iff.mpr least, TypeSpec.checkBound_eq_ok_iff.mpr most]
      rfl
  | @Value.Denotes.union members _ _ listed each inhabited => by
      have read := each.toSpecs
      cases members with
      | list members | tuple members =>
          cases listed
          simp only [Value.toSpec, read, Attempt.ok_bind, List.isEmpty_eq_false_iff.mpr inhabited]
          rfl
      | _ => cases listed
  | @Value.Denotes.tuple members _ _ listed each => by
      have read := each.toSpecs
      cases members with
      | list members | tuple members =>
          cases listed
          simp only [Value.toSpec, read]
          rfl
      | _ => cases listed
  | .map ofKey ofValue => by simp only [Value.toSpec, ofKey.toSpec, ofValue.toSpec]; rfl
  | .mapOfPair ofKey ofValue => by simp only [Value.toSpec, ofKey.toSpec, ofValue.toSpec]; rfl
  | .ref validates => by
      cases form with
      | target object | schema handle schema => rfl
      | _ => cases validates

theorem Value.DenoteAll.toSpecs {forms : List Value} {specs : List TypeSpec} :
    Value.DenoteAll forms specs → Value.toSpecs forms = .ok specs
  | .nil => rfl
  | .cons first rest => by simp only [Value.toSpecs, first.toSpec, rest.toSpecs]; rfl

end

theorem Value.toSpec_eq_ok_iff {form : Value} {spec : TypeSpec} :
    form.toSpec = .ok spec ↔ form.Denotes spec :=
  ⟨form.denotes_of_toSpec, Value.Denotes.toSpec⟩

/-! ## Ready-made nodes -/

namespace Value

/-- Whether a value yields members, and each of them denotes a type specification. -/
def yieldsSpecs (field : Value) : Bool :=
  match field.elements? with
  | some members => members.all fun member => member.toSpec.isOk
  | none => false

theorem toSpecs_isOk (forms : List Value) :
    (toSpecs forms).isOk = forms.all fun form => form.toSpec.isOk := by
  induction forms with
  | nil => rfl
  | cons form rest ih =>
      rw [List.all_cons, ← ih, toSpecs]
      cases form.toSpec with
      | error fault => rfl
      | ok spec => cases toSpecs rest <;> rfl

/-- What a value yields passes its check exactly when it denotes type specifications. -/
@[simp] theorem checkMembers_eq_ok_iff {field : Value} :
    field.checkMembers = .ok () ↔ field.yieldsSpecs = true := by
  rw [checkMembers_eq, yieldsSpecs, elements]
  cases field.elements? with
  | none => simp
  | some members =>
      simp only [Attempt.ok_bind, ← toSpecs_isOk]
      cases toSpecs members <;> simp [Except.isOk, Except.toBool]

/-- A value as a component is checked by reading it. -/
@[simp] theorem checkForm_ofValue (form : Value) :
    (TypeSpec.ofValue form).checkForm = form.toSpec >>= fun _ => .ok () := by
  cases form with
  | spec node =>
      simp only [TypeSpec.ofValue, toSpec]
      cases node.checkForm <;> rfl
  | _ => rfl

/-- The components that a value yields pass their checks if what it yields does. -/
theorem checkForm_of_components {field : Value} {specs : List TypeSpec}
    (checked : field.checkMembers = .ok ()) (yields : field.components = .ok specs) :
    ∀ spec ∈ specs, spec.checkForm = .ok () := by
  intro spec among
  obtain ⟨members, found, same⟩ := Attempt.bind_eq_ok_iff.mp yields
  cases same
  obtain ⟨member, memberAmong, rfl⟩ := List.mem_map.mp among
  rw [checkMembers_eq, found, Attempt.ok_bind] at checked
  obtain ⟨read, each, _⟩ := Attempt.bind_eq_ok_iff.mp checked
  have denotes : (toSpecs members).isOk = true := by rw [each]; rfl
  rw [toSpecs_isOk] at denotes
  have memberDenotes := List.all_eq_true.mp denotes member memberAmong
  rw [checkForm_ofValue]
  generalize member.toSpec = memberRead at memberDenotes ⊢
  cases memberRead with
  | error fault => cases memberDenotes
  | ok spec => rfl

end Value

namespace TypeSpec

/-- Whether a single node is resolved. -/
def isResolvedNode : TypeSpec → Bool
  | .rawUnion _ | .rawTuple _ | .raw _ => false
  | _ => true

/-- Whether the components of a specification are resolved at every depth. -/
def isResolved (spec : TypeSpec) : Bool := spec.everywhere isResolvedNode

@[simp] theorem isResolved_array (inner : TypeSpec) (minItems maxItems : Value) :
    (array inner minItems maxItems).isResolved = inner.isResolved := rfl

@[simp] theorem isResolved_union (alternatives : List TypeSpec) :
    (union alternatives).isResolved = allEverywhere isResolvedNode alternatives := rfl

@[simp] theorem isResolved_tuple (elements : List TypeSpec) :
    (tuple elements).isResolved = allEverywhere isResolvedNode elements := rfl

@[simp] theorem isResolved_map (key value : TypeSpec) :
    (map key value).isResolved = (key.isResolved && value.isResolved) := rfl

@[simp] theorem everywhere_isResolvedNode (spec : TypeSpec) :
    spec.everywhere isResolvedNode = spec.isResolved := rfl

/-- Whether a single node is canonical, a raw component that denotes a specification, or a raw union
or tuple that yields such components. -/
def isAdmissibleNode : TypeSpec → Bool
  | .raw component => component.toSpec.isOk
  | .rawUnion alternatives => alternatives.truthy && alternatives.yieldsSpecs
  | .rawTuple elements => elements.yieldsSpecs
  | spec => spec.isCanonicalNode

/-- Whether the nodes of a specification are such at every depth. -/
def isAdmissible (spec : TypeSpec) : Bool := spec.everywhere isAdmissibleNode

@[simp] theorem isAdmissible_array (inner : TypeSpec) (minItems maxItems : Value) :
    (array inner minItems maxItems).isAdmissible =
      (minItems.isBound && maxItems.isBound && inner.isAdmissible) := rfl

@[simp] theorem isAdmissible_union (alternatives : List TypeSpec) :
    (union alternatives).isAdmissible =
      (!alternatives.isEmpty && allEverywhere isAdmissibleNode alternatives) := rfl

@[simp] theorem isAdmissible_tuple (elements : List TypeSpec) :
    (tuple elements).isAdmissible = allEverywhere isAdmissibleNode elements := rfl

@[simp] theorem isAdmissible_map (key value : TypeSpec) :
    (map key value).isAdmissible = (key.isAdmissible && value.isAdmissible) := rfl

@[simp] theorem isAdmissible_ref (target : Value) :
    (ref target).isAdmissible = target.validates := rfl

@[simp] theorem isAdmissible_rawUnion (alternatives : Value) :
    (rawUnion alternatives).isAdmissible = (alternatives.truthy && alternatives.yieldsSpecs) := rfl

@[simp] theorem isAdmissible_rawTuple (elements : Value) :
    (rawTuple elements).isAdmissible = elements.yieldsSpecs := rfl

@[simp] theorem isAdmissible_raw (component : Value) :
    (raw component).isAdmissible = component.toSpec.isOk := rfl

@[simp] theorem everywhere_isAdmissibleNode (spec : TypeSpec) :
    spec.everywhere isAdmissibleNode = spec.isAdmissible := rfl

mutual

/-- Two properties of single nodes hold everywhere exactly when both of them do at every node. -/
theorem everywhere_and (first second : TypeSpec → Bool) : (spec : TypeSpec) →
    spec.everywhere (fun node => first node && second node) =
      (spec.everywhere first && spec.everywhere second)
  | .primitive _ | .unknownKind _ | .rawUnion _ | .rawTuple _ | .ref _ | .raw _ => rfl
  | .array inner _ _ => by
      simp only [everywhere_array, everywhere_and first second inner]
      ac_rfl
  | .union alternatives => by
      simp only [everywhere_union, allEverywhere_and first second alternatives]
      ac_rfl
  | .tuple elements => by
      simp only [everywhere_tuple, allEverywhere_and first second elements]
      ac_rfl
  | .map key value => by
      simp only [everywhere_map, everywhere_and first second key, everywhere_and first second value]
      ac_rfl

/-- Two properties of single nodes hold everywhere exactly when both of them do at every node. -/
theorem allEverywhere_and (first second : TypeSpec → Bool) : (specs : List TypeSpec) →
    allEverywhere (fun node => first node && second node) specs =
      (allEverywhere first specs && allEverywhere second specs)
  | [] => rfl
  | spec :: rest => by
      simp only [allEverywhere_cons, everywhere_and first second spec,
        allEverywhere_and first second rest]
      ac_rfl

end

theorem isCanonical_eq (spec : TypeSpec) :
    spec.isCanonical = (spec.isAdmissible && spec.isResolved) := by
  have single : isCanonicalNode = fun node => isAdmissibleNode node && isResolvedNode node := by
    funext node
    cases node <;> simp [isCanonicalNode, isAdmissibleNode, isResolvedNode]
  rw [isCanonical, single, everywhere_and, isAdmissible, isResolved]

mutual

/-- A ready-made node passes its check exactly when it is admissible. -/
@[simp] theorem checkForm_eq_ok_iff : (spec : TypeSpec) →
    (spec.checkForm = .ok () ↔ spec.isAdmissible = true)
  | .primitive _ => by simp [checkForm, isAdmissible, everywhere, isAdmissibleNode, isCanonicalNode]
  | .unknownKind _ => by
      simp [checkForm, refuse_ne_ok, isAdmissible, everywhere, isAdmissibleNode, isCanonicalNode]
  | .array inner minItems maxItems => by
      simp [checkForm, Attempt.then_eq_ok_iff, checkBound_eq_ok_iff, checkForm_eq_ok_iff inner,
        and_assoc]
  | .union alternatives => by
      cases alternatives with
      | nil => simp [checkForm, refuse_ne_ok]
      | cons first rest => simp [checkForm, checkForms_eq_ok_iff (first :: rest)]
  | .rawUnion alternatives => by
      cases present : alternatives.truthy <;>
        simp [checkForm, refuse_ne_ok, present, Value.checkMembers_eq_ok_iff]
  | .tuple elements => by simp [checkForm, checkForms_eq_ok_iff elements]
  | .rawTuple elements => by simp [checkForm, Value.checkMembers_eq_ok_iff]
  | .map key value => by
      simp [checkForm, Attempt.then_eq_ok_iff, checkForm_eq_ok_iff key, checkForm_eq_ok_iff value]
  | .ref target => by
      cases valid : target.validates <;> simp [checkForm, valid, refuse_ne_ok]
  | .raw component => by
      cases read : component.toSpec <;>
        simp [checkForm, read, Except.isOk, Except.toBool]

@[simp] theorem checkForms_eq_ok_iff : (specs : List TypeSpec) →
    (checkForms specs = .ok () ↔ allEverywhere isAdmissibleNode specs = true)
  | [] => by simp [checkForms, allEverywhere]
  | spec :: rest => by
      simp [checkForms, Attempt.then_eq_ok_iff, checkForm_eq_ok_iff spec, checkForms_eq_ok_iff rest]

end

end TypeSpec

/-! ## What is read -/

mutual

/-- What a value denotes passes the check of ready-made nodes. -/
theorem Value.Denotes.isAdmissible {form : Value} {spec : TypeSpec} :
    form.Denotes spec → spec.isAdmissible = true
  | .node checked => TypeSpec.checkForm_eq_ok_iff _ |>.mp checked
  | .name _ => rfl
  | @Value.Denotes.dataType named _ known => by cases named <;> cases known <;> rfl
  | .array items => by simpa [Value.isBound] using items.isAdmissible
  | .boundedArray _ items least most => by simp [least, most, items.isAdmissible]
  | .union _ each inhabited => by
      simp [inhabited, each.allAdmissible]
  | .tuple _ each => each.allAdmissible
  | .map ofKey ofValue | .mapOfPair ofKey ofValue => by
      simp [ofKey.isAdmissible, ofValue.isAdmissible]
  | .ref validates => validates

theorem Value.DenoteAll.allAdmissible {forms : List Value} {specs : List TypeSpec} :
    Value.DenoteAll forms specs →
      TypeSpec.allEverywhere TypeSpec.isAdmissibleNode specs = true
  | .nil => rfl
  | .cons first rest => by simp [first.isAdmissible, rest.allAdmissible]

end

theorem TypeSpec.toSpec_of_toSpec {form : Value} {spec : TypeSpec} (read : form.toSpec = .ok spec) :
    (Value.spec spec).toSpec = .ok spec :=
  (Value.Denotes.node
    (spec.checkForm_eq_ok_iff.mpr (form.denotes_of_toSpec read).isAdmissible)).toSpec

mutual

/-- Whether the ready-made nodes in a compact form are resolved. -/
def Value.nodesResolved : Value → Bool
  | .spec node => node.isResolved
  | .list forms | .tuple forms => Value.allNodesResolved forms
  | _ => true

/-- Whether the ready-made nodes in compact forms are resolved. -/
def Value.allNodesResolved : List Value → Bool
  | [] => true
  | form :: rest => Value.nodesResolved form && Value.allNodesResolved rest

end

/-- The ready-made nodes in a sequence of forms are those in its members. -/
theorem Value.nodesResolved_of_items {form : Value} {members : List Value}
    (listed : form.items? = some members) :
    form.nodesResolved = Value.allNodesResolved members := by
  cases form with
  | list items | tuple items =>
      cases listed
      rfl
  | _ => cases listed

@[simp] theorem Value.nodesResolved_tagged (tag : String) (arguments : List Value) :
    (Value.tuple (.str tag :: arguments)).nodesResolved = Value.allNodesResolved arguments := rfl

@[simp] theorem Value.allNodesResolved_cons (form : Value) (rest : List Value) :
    Value.allNodesResolved (form :: rest) = (form.nodesResolved && Value.allNodesResolved rest) :=
  rfl

@[simp] theorem Value.allNodesResolved_nil : Value.allNodesResolved [] = true := rfl

mutual

/-- A value denotes a resolved specification exactly when its ready-made nodes are resolved. -/
theorem Value.Denotes.isResolved {form : Value} {spec : TypeSpec} :
    form.Denotes spec → spec.isResolved = form.nodesResolved
  | .node _ => rfl
  | .name _ => rfl
  | @Value.Denotes.dataType named _ known => by cases named <;> cases known <;> rfl
  | .array items => by simp [items.isResolved]
  | .boundedArray _ items _ _ => by simp [items.isResolved, Value.nodesResolved]
  | .union listed each _ | .tuple listed each => by
      simp [each.allResolved, Value.nodesResolved_of_items listed]
  | .map ofKey ofValue => by simp [ofKey.isResolved, ofValue.isResolved]
  | .mapOfPair ofKey ofValue => by
      simp [ofKey.isResolved, ofValue.isResolved, Value.nodesResolved]
  | .ref validates => by cases form <;> first | rfl | cases validates

theorem Value.DenoteAll.allResolved {forms : List Value} {specs : List TypeSpec} :
    Value.DenoteAll forms specs →
      TypeSpec.allEverywhere TypeSpec.isResolvedNode specs = Value.allNodesResolved forms
  | .nil => rfl
  | .cons first rest => by simp [first.isResolved, rest.allResolved]

end

/-! ## Names of what is read -/

namespace TypeSpec

@[simp] theorem named_array {inner : TypeSpec} {minItems maxItems : Value} :
    (array inner minItems maxItems).Named ↔ inner.Named :=
  ⟨fun (.array _ _ items) => items, .array minItems maxItems⟩

@[simp] theorem named_union {alternatives : List TypeSpec} :
    (union alternatives).Named ↔ ∀ spec ∈ alternatives, spec.Named :=
  ⟨fun (.union each) => each, .union⟩

@[simp] theorem named_tuple {elements : List TypeSpec} :
    (tuple elements).Named ↔ ∀ spec ∈ elements, spec.Named :=
  ⟨fun (.tuple each) => each, .tuple⟩

@[simp] theorem named_map {key value : TypeSpec} :
    (map key value).Named ↔ key.Named ∧ value.Named :=
  ⟨fun (.map ofKey ofValue) => ⟨ofKey, ofValue⟩, fun ⟨ofKey, ofValue⟩ => .map ofKey ofValue⟩

/-- A ready-made node that passes its check has a name for messages only if it is resolved at every
depth. -/
theorem named_of_describe (spec : TypeSpec) : spec.checkForm = .ok () →
    (∃ text, spec.describe = .ok text) → spec.Named := by
  induction spec using TypeSpec.induction with
  | primitive kind => exact fun _ _ => .primitive kind
  | ref target => exact fun _ _ => .ref target
  | raw component => exact fun _ ⟨_, described⟩ => nomatch described
  | unknownKind kind => exact fun checked _ => absurd checked (refuse_ne_ok _ _ _)
  | array inner minItems maxItems ih =>
      rintro checked ⟨_, described⟩
      obtain ⟨_, _, checked⟩ := Attempt.bind_eq_ok_iff.mp checked
      obtain ⟨_, _, checked⟩ := Attempt.bind_eq_ok_iff.mp checked
      obtain ⟨text, ofInner, _⟩ := Attempt.bind_eq_ok_iff.mp described
      exact .array minItems maxItems (ih checked ⟨text, ofInner⟩)
  | map key value keyIh valueIh =>
      rintro checked ⟨_, described⟩
      obtain ⟨_, keyChecked, valueChecked⟩ := Attempt.bind_eq_ok_iff.mp checked
      obtain ⟨keyText, ofKey, described⟩ := Attempt.bind_eq_ok_iff.mp described
      obtain ⟨valueText, ofValue, _⟩ := Attempt.bind_eq_ok_iff.mp described
      exact .map (keyIh keyChecked ⟨keyText, ofKey⟩) (valueIh valueChecked ⟨valueText, ofValue⟩)
  | union alternatives ih =>
      rintro checked ⟨_, described⟩
      obtain ⟨texts, ofEach, _⟩ := Attempt.bind_eq_ok_iff.mp described
      have described := describeAll_eq_ok_iff.mp ⟨texts, ofEach⟩
      have admissible := allEverywhere_iff.mp
        (Bool.and_eq_true_iff.mp (checkForm_eq_ok_iff _ |>.mp checked)).2
      exact .union fun spec among =>
        ih spec among (checkForm_eq_ok_iff spec |>.mpr (admissible spec among))
          (described spec among)
  | tuple elements ih =>
      rintro checked ⟨_, described⟩
      obtain ⟨texts, ofEach, _⟩ := Attempt.bind_eq_ok_iff.mp described
      have described := describeAll_eq_ok_iff.mp ⟨texts, ofEach⟩
      have admissible := allEverywhere_iff.mp (checkForm_eq_ok_iff (.tuple elements) |>.mp checked)
      exact .tuple fun spec among =>
        ih spec among (checkForm_eq_ok_iff spec |>.mpr (admissible spec among))
          (described spec among)
  | rawUnion field ih =>
      rintro checked ⟨_, described⟩
      obtain ⟨texts, ofEach, _⟩ := Attempt.bind_eq_ok_iff.mp described
      rw [Value.describeMembers_eq] at ofEach
      obtain ⟨specs, yields, ofEach⟩ := Attempt.bind_eq_ok_iff.mp ofEach
      have described := describeAll_eq_ok_iff.mp ⟨texts, ofEach⟩
      have members := Bool.and_eq_true_iff.mp (checkForm_eq_ok_iff (.rawUnion field) |>.mp checked)
      have each := Value.checkForm_of_components (Value.checkMembers_eq_ok_iff.mpr members.2) yields
      exact .rawUnion yields fun spec among =>
        ih specs yields spec among (each spec among) (described spec among)
  | rawTuple field ih =>
      rintro checked ⟨_, described⟩
      obtain ⟨texts, ofEach, _⟩ := Attempt.bind_eq_ok_iff.mp described
      rw [Value.describeMembers_eq] at ofEach
      obtain ⟨specs, yields, ofEach⟩ := Attempt.bind_eq_ok_iff.mp ofEach
      have described := describeAll_eq_ok_iff.mp ⟨texts, ofEach⟩
      have each := Value.checkForm_of_components checked yields
      exact .rawTuple yields fun spec among =>
        ih specs yields spec among (each spec among) (described spec among)

end TypeSpec

mutual

/-- The ready-made nodes in a compact form leave nothing unresolved at any depth. -/
def Value.NodesNamed : Value → Prop
  | .spec node => node.Named
  | .list forms | .tuple forms => Value.AllNodesNamed forms
  | _ => True

/-- The ready-made nodes in compact forms leave nothing unresolved at any depth. -/
def Value.AllNodesNamed : List Value → Prop
  | [] => True
  | form :: rest => Value.NodesNamed form ∧ Value.AllNodesNamed rest

end

/-- The ready-made nodes in a sequence of forms are those in its members. -/
theorem Value.nodesNamed_of_items {form : Value} {members : List Value}
    (listed : form.items? = some members) : form.NodesNamed ↔ Value.AllNodesNamed members := by
  cases form with
  | list items | tuple items =>
      cases listed
      exact Iff.rfl
  | _ => cases listed

@[simp] theorem Value.nodesNamed_tagged (tag : String) (arguments : List Value) :
    (Value.tuple (.str tag :: arguments)).NodesNamed ↔ Value.AllNodesNamed arguments :=
  and_iff_right trivial

@[simp] theorem Value.allNodesNamed_cons (form : Value) (rest : List Value) :
    Value.AllNodesNamed (form :: rest) ↔ form.NodesNamed ∧ Value.AllNodesNamed rest := Iff.rfl

@[simp] theorem Value.allNodesNamed_nil : Value.AllNodesNamed [] ↔ True := Iff.rfl

mutual

/-- A value denotes something resolved exactly when its ready-made nodes leave nothing
unresolved. -/
theorem Value.Denotes.named_iff {form : Value} {spec : TypeSpec} :
    form.Denotes spec → (spec.Named ↔ form.NodesNamed)
  | .node _ => Iff.rfl
  | .name _ => iff_of_true (.primitive _) trivial
  | @Value.Denotes.dataType named _ known => by
      refine iff_of_true ?_ trivial
      cases named <;> cases known <;> first | exact .primitive _ | exact .array _ _ (.primitive _)
  | .array items => by simp [items.named_iff]
  | .boundedArray _ items _ _ => by simp [items.named_iff, Value.NodesNamed]
  | .union listed each _ | .tuple listed each => by
      simp [each.allNamed_iff, Value.nodesNamed_of_items listed]
  | .map ofKey ofValue => by simp [ofKey.named_iff, ofValue.named_iff]
  | .mapOfPair ofKey ofValue => by simp [ofKey.named_iff, ofValue.named_iff, Value.NodesNamed]
  | .ref validates => by
      refine iff_of_true (.ref _) ?_
      cases form with
      | spec | list | tuple => cases validates
      | _ => trivial

theorem Value.DenoteAll.allNamed_iff {forms : List Value} {specs : List TypeSpec} :
    Value.DenoteAll forms specs → ((∀ spec ∈ specs, spec.Named) ↔ Value.AllNodesNamed forms)
  | .nil => iff_of_true (List.forall_mem_nil _) trivial
  | .cons first rest => by
      rw [List.forall_mem_cons, first.named_iff, rest.allNamed_iff, Value.allNodesNamed_cons]

end

namespace TypeSpec

theorem isCanonical_iff_of_toSpec {form : Value} {spec : TypeSpec} (read : form.toSpec = .ok spec) :
    spec.isCanonical = true ↔ form.nodesResolved = true := by
  have denoted := form.denotes_of_toSpec read
  rw [isCanonical_eq, denoted.isAdmissible, denoted.isResolved, Bool.true_and]

/-- What is read consists of canonical nodes and of raw ones whose components denote specifications,
and is read again as it is.  It is canonical exactly when the ready-made nodes in the form are
resolved.  It has a name for messages exactly when these nodes leave nothing unresolved, as those do
that are resolved, and then conversions to it fault only for data.  So do checks by it when the
schemas that it refers to are canonical as well. -/
theorem admissible_and_canonical_iff_of_toSpec {form : Value} {spec : TypeSpec}
    (read : form.toSpec = .ok spec) :
    spec.isAdmissible = true ∧ (Value.spec spec).toSpec = .ok spec ∧
      (spec.isCanonical = true ↔ form.nodesResolved = true) ∧
      (form.nodesResolved = true → form.NodesNamed) ∧
      ((∃ text, spec.describe = .ok text) ↔ form.NodesNamed) ∧
      (form.NodesNamed → ∀ env, (spec.coerce env).OfData) ∧
      (spec.isCanonicalThroughout = true → ∀ env, env.Contained → (spec.check env).OfData) := by
  have denoted := form.denotes_of_toSpec read
  have canonical := isCanonical_iff_of_toSpec read
  refine ⟨denoted.isAdmissible, toSpec_of_toSpec read, canonical, ?named, ⟨?described, ?describes⟩,
    ?coerced, ?checked⟩
  case named =>
    intro resolved
    exact denoted.named_iff.mp (named_of_canonical spec (canonical.mpr resolved))
  case described =>
    intro described
    have checked := spec.checkForm_eq_ok_iff.mpr denoted.isAdmissible
    exact denoted.named_iff.mp (named_of_describe spec checked described)
  case describes =>
    intro named
    exact (denoted.named_iff.mpr named).describe_eq_ok
  case coerced =>
    intro named env
    exact (denoted.named_iff.mpr named).coerce_ofData env
  case checked =>
    intro throughout env contained
    exact check_ofData contained spec throughout

/-- A tagged form around a ready-made node is read, and is canonical. -/
theorem toSpec_of_tagged_node :
    let form := Value.tuple [.str "union", .list [.str "string",
      .spec (.array (.primitive .integer) (.int 1) .null)]]
    let spec := TypeSpec.union [.primitive .string, .array (.primitive .integer) (.int 1) .null]
    form.toSpec = .ok spec ∧ spec.isCanonical = true ∧ (Value.spec spec).toSpec = .ok spec ∧
      Environment.bare.Contained ∧ (spec.check .bare).OfData := by
  intro form spec
  have read : form.toSpec = .ok spec := by rfl
  obtain ⟨_, again, canonical, _, _, _, checked⟩ := admissible_and_canonical_iff_of_toSpec read
  have contained := Environment.bare_contained
  exact ⟨read, canonical.mpr rfl, again, contained, checked rfl .bare contained⟩

/-- An array node over the name of a kind is read as it is: the name is not resolved, the type has
no name for messages, and checking data by it ends in the fault that the type is malformed. -/
theorem toSpec_keeps_name :
    let spec := TypeSpec.array (.raw (.str "integer")) .null .null
    (Value.spec spec).toSpec = .ok spec ∧ spec.isCanonical = false ∧
      spec.describe = .error .missingAttribute ∧
      spec.check .bare (.list [.int 1]) [] =
        .error (.malformedDefinition "Invalid type specification: 'integer'") := by
  exact ⟨rfl, rfl, rfl, rfl⟩

end TypeSpec

end Conform
