import Conform.Proofs.Accounts
import Conform.Proofs.Components
import Mathlib.Logic.Relation

/-!
# The first obstacle in a form

A form is read part by part.  `Value.plan` says what is looked into before its parts, which parts
these are and whether they can be told, and what is looked into afterwards; `Value.FirstObstacle` is
the obstacle at which the reading stops.
-/

namespace Conform

/-! ## Plans -/

/-- How a form is read: the flaw that is found in it at first, whether its parts can be told, the
parts that are read then, one after another, and the flaw that is found in it afterwards. -/
structure ReadingPlan where
  early : Option TypeFlaw := none
  listed : Bool := true
  parts : List Value := []
  late : Option TypeFlaw := none

namespace TypeSpec

/-- The flaw of the bounds of an array type, if one of them can be none. -/
def boundFlaw? (minItems maxItems : Value) : Option TypeFlaw :=
  if !minItems.isBound then some (.malformedBound "min_items")
  else if !maxItems.isBound then some (.malformedBound "max_items")
  else none

theorem exists_bound_of_flaw {minItems maxItems : Value} {flaw : TypeFlaw}
    (found : boundFlaw? minItems maxItems = some flaw) : ∃ name, flaw = .malformedBound name := by
  unfold boundFlaw? at found
  split at found
  · exact ⟨_, (Option.some.inj found).symm⟩
  · split at found
    · exact ⟨_, (Option.some.inj found).symm⟩
    · cases found

/-- The keys among the options of an array type that name no bound. -/
def unknownOptions (options : Entries) : List Value :=
  (options.map Prod.fst).filter fun key => !namesBound key

/-- The flaw of the options of an array type, if some of them are unknown. -/
def optionsFlaw? (options : Entries) : Option TypeFlaw :=
  if (unknownOptions options).isEmpty then none
  else some (.unknownArrayOptions (unknownOptions options))

/-- How a ready-made node is checked. -/
def plan : TypeSpec → ReadingPlan
  | .primitive _ => {}
  | .unknownKind _ => { early := some .unknownKind }
  | .array inner minItems maxItems =>
    { early := boundFlaw? minItems maxItems, parts := [.spec inner] }
  | .union alternatives =>
    { early := if alternatives.isEmpty then some .emptyUnion else none
      parts := alternatives.map .spec }
  | .rawUnion field =>
    { early := if field.truthy then none else some .emptyUnion
      listed := field.elements?.isSome, parts := field.elements?.getD [] }
  | .tuple elements => { parts := elements.map .spec }
  | .rawTuple field => { listed := field.elements?.isSome, parts := field.elements?.getD [] }
  | .map key value => { parts := [.spec key, .spec value] }
  | .ref target => { early := if target.validates then none else some .cannotValidate }
  | .raw component => { parts := [component] }

end TypeSpec

namespace Value

open TypeSpec

/-- How a form is read. -/
def plan : Value → ReadingPlan
  | .spec node => node.plan
  | .str name => { early := if (Kind.ofName? name).isSome then none else some .unknownName }
  | .type named => { early := if named.toSpec?.isSome then none else some .unsupportedDataType }
  | .enumeration .. => { early := some .unsupportedDataType }
  | .tuple [.str "array", inner] => { parts := [inner] }
  | .tuple [.str "array", inner, .map options] =>
    { early := optionsFlaw? options, parts := [inner]
      late := boundFlaw? (Entries.getText options "min_items")
        (Entries.getText options "max_items") }
  | .tuple (.str "array" :: _) => { early := some .arrayForm }
  | .tuple [.str "union", .list members] | .tuple [.str "union", .tuple members] =>
    { parts := members, late := if members.isEmpty then some .emptyUnion else none }
  | .tuple (.str "union" :: _) => { early := some (.membersForm "union") }
  | .tuple [.str "tuple", .list members] | .tuple [.str "tuple", .tuple members] =>
    { parts := members }
  | .tuple (.str "tuple" :: _) => { early := some (.membersForm "tuple") }
  | .tuple [.str "map", key, value] | .tuple [.str "map", .tuple [key, value]] =>
    { parts := [key, value] }
  | .tuple (.str "map" :: _) => { early := some .mapForm }
  | .tuple (.str tag :: _) => { early := some (.unknownTag tag) }
  | value => { early := if value.validates then none else some .unrecognized }

/-! ## Reading by the plan -/

/-- Read the parts of a form, and look for flaws of the form before and after. -/
def readParts (form : Value) : Attempt (List TypeSpec) :=
  match form.plan.early, form.plan.listed with
  | some flaw, _ => refuse form flaw
  | none, false => .error .notIterable
  | none, true => do
    let specs ← toSpecs form.plan.parts
    match form.plan.late with
    | some flaw => refuse form flaw
    | none => .ok specs

@[simp] theorem refuse_bind {α β : Type} (form : Value) (flaw : TypeFlaw) (next : α → Attempt β) :
    refuse form flaw >>= next = refuse form flaw := by
  unfold refuse DefinitionFlaw.refuse
  cases (DefinitionFlaw.type form flaw).account <;> rfl

@[simp] theorem readParts_of_early {form : Value} {flaw : TypeFlaw}
    (early : form.plan.early = some flaw) : form.readParts = refuse form flaw := by
  rw [readParts, early]

theorem readParts_of_sound {form : Value} (sound : form.plan.early = none)
    (listed : form.plan.listed = true) :
    form.readParts = toSpecs form.plan.parts >>= fun specs =>
      match form.plan.late with
      | some flaw => refuse form flaw
      | none => .ok specs := by
  rw [readParts, sound, listed]

@[simp] theorem readParts_of_unlisted {form : Value} (sound : form.plan.early = none)
    (unlisted : form.plan.listed = false) : form.readParts = .error .notIterable := by
  rw [readParts, sound, unlisted]

theorem checkMembers_bind_eq {α : Type} (field : Value) (next : Attempt α) :
    (field.checkMembers >>= fun _ => next) =
      if field.elements?.isSome then toSpecs (field.elements?.getD []) >>= fun _ => next
      else .error .notIterable := by
  rw [checkMembers_eq, elements]
  cases field.elements? with
  | none => rfl
  | some members =>
      simp only [Attempt.ok_bind, Option.isSome_some, if_true, Option.getD_some]
      cases toSpecs members <;> rfl

@[simp] theorem toSpecs_map_spec (specs : List TypeSpec) :
    toSpecs (specs.map .spec) = checkForms specs >>= fun _ => .ok specs := by
  induction specs with
  | nil => rfl
  | cons spec rest ih =>
      simp only [List.map_cons, toSpecs, toSpec, ih, checkForms]
      cases spec.checkForm with
      | error fault => rfl
      | ok _ => cases checkForms rest <;> rfl

theorem checkBounds_eq (form : Value) (minItems maxItems : Value) {α : Type} (next : Attempt α) :
    (checkBound form "min_items" minItems >>= fun _ =>
      checkBound form "max_items" maxItems >>= fun _ => next) =
      match boundFlaw? minItems maxItems with
      | some flaw => refuse form flaw
      | none => next := by
  rw [checkBound, checkBound, boundFlaw?]
  cases minItems.isBound with
  | false => exact refuse_bind _ _ _
  | true =>
      cases maxItems.isBound with
      | false => exact refuse_bind _ _ _
      | true => rfl

theorem checkArrayOptions_eq (form : Value) (options : Entries) {α : Type} (next : Attempt α) :
    (checkArrayOptions form options >>= fun _ => next) =
      match optionsFlaw? options with
      | some flaw => refuse form flaw
      | none => next := by
  have unfolded : checkArrayOptions form options = if (unknownOptions options).isEmpty then .ok ()
      else refuse form (.unknownArrayOptions (unknownOptions options)) := rfl
  rw [unfolded, optionsFlaw?]
  split
  case isTrue => rfl
  case isFalse => exact refuse_bind _ _ _

/-- A ready-made node is read by looking for its flaws and checking its components. -/
theorem toSpec_spec_eq (node : TypeSpec) :
    (Value.spec node).toSpec = (Value.spec node).readParts >>= fun _ => .ok node := by
  have read : (Value.spec node).toSpec = node.checkForm >>= fun _ => .ok node := rfl
  rw [read]
  cases node with
  | primitive kind => rfl
  | unknownKind name =>
      rw [readParts_of_early rfl, refuse_bind]
      exact refuse_bind _ _ _
  | array inner minItems maxItems =>
      simp only [checkForm, checkBounds_eq, readParts, plan, TypeSpec.plan]
      cases boundFlaw? minItems maxItems with
      | some flaw => rw [refuse_bind, refuse_bind]
      | none =>
          simp only [toSpecs, toSpec]
          cases inner.checkForm <;> rfl
  | union alternatives =>
      simp only [checkForm, readParts, plan, TypeSpec.plan]
      cases alternatives with
      | nil => exact (refuse_bind _ _ _).trans (refuse_bind _ _ _).symm
      | cons first rest =>
          simp only [List.isEmpty_cons, Bool.false_eq_true, if_false, toSpecs_map_spec]
          cases checkForms (first :: rest) <;> rfl
  | rawUnion field =>
      simp only [checkForm, readParts, plan, TypeSpec.plan]
      cases field.truthy with
      | false => exact (refuse_bind _ _ _).trans (refuse_bind _ _ _).symm
      | true =>
          simp only [if_true, checkMembers_bind_eq]
          cases field.elements?.isSome with
          | false => rfl
          | true => cases toSpecs (field.elements?.getD []) <;> rfl
  | tuple elements =>
      simp only [checkForm, readParts, plan, TypeSpec.plan, toSpecs_map_spec]
      cases checkForms elements <;> rfl
  | rawTuple field =>
      simp only [checkForm, readParts, plan, TypeSpec.plan, checkMembers_bind_eq]
      cases field.elements?.isSome with
      | false => rfl
      | true => cases toSpecs (field.elements?.getD []) <;> rfl
  | map key value =>
      simp only [checkForm, readParts, plan, TypeSpec.plan, toSpecs, toSpec]
      cases key.checkForm with
      | error fault => rfl
      | ok _ => cases value.checkForm <;> rfl
  | ref target =>
      simp only [checkForm, readParts, plan, TypeSpec.plan]
      cases target.validates with
      | false => exact (refuse_bind _ _ _).trans (refuse_bind _ _ _).symm
      | true => rfl
  | raw component =>
      simp only [checkForm, readParts, plan, TypeSpec.plan, toSpecs]
      cases component.toSpec <;> rfl

/-- A union is read by reading its members, and is refused if there are none. -/
theorem union_toSpecs_eq (form : Value) (members : List Value) :
    (toSpecs members >>= fun alternatives =>
      if alternatives.isEmpty then refuse form .emptyUnion else .ok (TypeSpec.union alternatives)) =
    (toSpecs members >>= fun specs =>
      match if members.isEmpty then some TypeFlaw.emptyUnion else none with
      | some flaw => refuse form flaw
      | none => .ok specs) >>= fun specs => .ok (TypeSpec.union specs) := by
  cases members with
  | nil => exact (refuse_bind _ _ _).symm
  | cons first rest =>
      simp only [toSpecs]
      cases first.toSpec with
      | error fault => rfl
      | ok spec => cases toSpecs rest <;> rfl

/-- A form is read when its parts are, and it is built from what they give. -/
theorem exists_build (form : Value) :
    ∃ build : List TypeSpec → TypeSpec,
      form.toSpec = form.readParts >>= fun specs => .ok (build specs) := by
  have refused : ∀ {form : Value} {flaw : TypeFlaw}, form.plan.early = some flaw →
      ∃ build : List TypeSpec → TypeSpec,
        refuse form flaw = form.readParts >>= fun specs => .ok (build specs) := by
    intro form flaw early
    exact ⟨fun _ => .primitive .any, by rw [readParts_of_early early, refuse_bind]⟩
  -- A plan leaves it open what is built: of a list of the wrong length anything can be.
  refine @Value.toSpec.fun_cases_unfolding (fun form read => ∃ build : List TypeSpec → TypeSpec,
      read = form.readParts >>= fun specs => .ok (build specs)) ?node ?name ?noName ?dataType
    ?noDataType ?noEnumeration ?array ?boundedArray ?noArray ?unionOfList ?unionOfTuple ?noUnion
    ?tupleOfList ?tupleOfTuple ?noTuple ?map ?mapOfPair ?noMap ?noTag ?reference ?noReference form
  case node =>
    intro node
    exact ⟨fun _ => node, toSpec_spec_eq node⟩
  case name =>
    intro name kind known
    exact ⟨fun _ => .primitive kind, by simp only [readParts, plan, known]; rfl⟩
  case dataType =>
    intro named spec known
    exact ⟨fun _ => spec, by simp only [readParts, plan, known]; rfl⟩
  case array =>
    intro inner
    refine ⟨fun specs => .array (specs.headD (.primitive .any)) .null .null, ?_⟩
    simp only [readParts, plan, toSpecs]
    cases inner.toSpec <;> rfl
  case boundedArray =>
    intro inner options
    refine ⟨fun specs => .array (specs.headD (.primitive .any))
      (Entries.getText options "min_items") (Entries.getText options "max_items"), ?_⟩
    simp only [checkArrayOptions_eq, checkBounds_eq, readParts, plan, toSpecs]
    cases optionsFlaw? options with
    | some flaw => exact (refuse_bind _ _ _).symm
    | none =>
        cases inner.toSpec with
        | error fault => rfl
        | ok spec =>
            cases boundFlaw? (Entries.getText options "min_items")
                (Entries.getText options "max_items") with
            | some flaw => exact (refuse_bind _ _ _).symm
            | none => rfl
  case unionOfList | unionOfTuple =>
    intro members
    exact ⟨.union, union_toSpecs_eq _ members⟩
  case tupleOfList | tupleOfTuple =>
    intro members
    refine ⟨.tuple, ?_⟩
    simp only [readParts, plan]
    cases toSpecs members <;> rfl
  case map | mapOfPair =>
    intro key value
    refine ⟨fun specs => .map (specs.headD (.primitive .any))
      (specs.tail.headD (.primitive .any)), ?_⟩
    simp only [readParts, plan, toSpecs]
    cases key.toSpec with
    | error fault => rfl
    | ok spec => cases value.toSpec <;> rfl
  case reference =>
    intros
    rename_i validates
    exact ⟨fun _ => .ref _, by simp only [readParts, plan, validates]; rfl⟩
  case noName | noDataType =>
    intro _ unknown
    exact refused (by simp only [plan, unknown]; rfl)
  case noReference =>
    intros
    rename_i unable
    exact refused (by simp only [plan, unable]; rfl)
  case noEnumeration | noArray | noUnion | noTuple | noMap | noTag =>
    intros
    exact refused (by simp only [plan])

/-! ## The obstacle at which the reading stops -/

/-- The obstacle that is met first in a form: a flaw of its own, found before its parts are read, or
that these cannot be told, or the first obstacle in the first part that denotes no specification, or
a flaw of its own that is found in the end. -/
inductive FirstObstacle : Value → Obstacle → Prop where
  | early {form : Value} {flaw : TypeFlaw} (found : form.plan.early = some flaw) :
      FirstObstacle form (.flawed (.type form flaw))
  | unlisted {form : Value} (sound : form.plan.early = none) (unlisted : form.plan.listed = false) :
      FirstObstacle form (.unlisted form)
  | part {form part : Value} {before after : List Value} {obstacle : Obstacle}
      (sound : form.plan.early = none) (listed : form.plan.listed = true)
      (parts : form.plan.parts = before ++ part :: after)
      (earlier : ∀ other ∈ before, ∃ spec, other.Denotes spec)
      (within : FirstObstacle part obstacle) : FirstObstacle form obstacle
  | late {form : Value} {flaw : TypeFlaw} (sound : form.plan.early = none)
      (listed : form.plan.listed = true)
      (each : ∀ part ∈ form.plan.parts, ∃ spec, part.Denotes spec)
      (found : form.plan.late = some flaw) : FirstObstacle form (.flawed (.type form flaw))

@[simp] theorem returns_toSpec_iff {form : Value} :
    form.toSpec.Returns ↔ ∃ spec, form.Denotes spec :=
  exists_congr fun _ => toSpec_eq_ok_iff

@[simp] theorem returns_toSpecs_iff {forms : List Value} :
    (toSpecs forms).Returns ↔ ∀ form ∈ forms, ∃ spec, form.Denotes spec := by
  induction forms with
  | nil => exact iff_of_true ⟨[], rfl⟩ (List.forall_mem_nil _)
  | cons form rest ih =>
      rw [List.forall_mem_cons, ← ih, ← returns_toSpec_iff, toSpecs]
      exact Attempt.returns_bind_iff fun _ => Attempt.returns_map_iff

theorem endsBy_toSpecs {before after : List Value} {form : Value} {obstacle : Obstacle}
    (earlier : ∀ other ∈ before, ∃ spec, other.Denotes spec) (ends : form.toSpec.EndsBy obstacle) :
    (toSpecs (before ++ form :: after)).EndsBy obstacle := by
  induction before with
  | nil => exact ends.bind _
  | cons first rest ih =>
      obtain ⟨⟨spec, read⟩, others⟩ := List.forall_mem_cons.mp earlier
      rw [List.cons_append, toSpecs, read.toSpec]
      exact (ih others).bind _

theorem exists_stuck_form {forms : List Value}
    (stuck : ¬∀ form ∈ forms, ∃ spec, form.Denotes spec) :
    ∃ before form after, forms = before ++ form :: after ∧
      (∀ other ∈ before, ∃ spec, other.Denotes spec) ∧ ¬∃ spec, form.Denotes spec := by
  induction forms with
  | nil => exact absurd (List.forall_mem_nil _) stuck
  | cons first rest ih =>
      by_cases read : ∃ spec, first.Denotes spec
      · obtain ⟨before, form, after, rfl, earlier, unread⟩ :=
          ih fun others => stuck (List.forall_mem_cons.mpr ⟨read, others⟩)
        exact ⟨first :: before, form, after, rfl, List.forall_mem_cons.mpr ⟨read, earlier⟩, unread⟩
      · exact ⟨[], first, rest, rfl, List.forall_mem_nil _, read⟩

/-- The first obstacle in a form ends its reading. -/
theorem FirstObstacle.endsBy {form : Value} {obstacle : Obstacle}
    (first : form.FirstObstacle obstacle) : form.toSpec.EndsBy obstacle := by
  induction first with
  | @early form flaw found =>
      obtain ⟨build, read⟩ := form.exists_build
      rw [read, readParts_of_early found]
      exact (Attempt.endsBy_refuse _).bind _
  | @unlisted form sound unlisted =>
      obtain ⟨build, read⟩ := form.exists_build
      rw [read, readParts_of_unlisted sound unlisted]
      exact .untold rfl
  | @part form part before after obstacle sound listed parts earlier _ ends =>
      obtain ⟨build, read⟩ := form.exists_build
      rw [read, readParts_of_sound sound listed, parts]
      exact ((endsBy_toSpecs earlier ends).bind _).bind _
  | @late form flaw sound listed each found =>
      obtain ⟨build, read⟩ := form.exists_build
      obtain ⟨specs, partsRead⟩ := returns_toSpecs_iff.mpr each
      rw [read, readParts_of_sound sound listed, partsRead, found]
      exact (Attempt.endsBy_refuse _).bind _

theorem mem_items_of_mem_parts {form part : Value} (among : part ∈ form.plan.parts) :
    (∃ node, form = .spec node ∧ part ∈ node.plan.parts) ∨
      ∃ items, form = .tuple items ∧
        (part ∈ items ∨ ∃ form ∈ items, ∃ members, form.items? = some members ∧
          part ∈ members) := by
  -- The parts are arguments in arrays and maps, and members of the only argument in unions, tuples
  -- and maps over a pair.
  fun_cases Value.plan form
  case case1 => exact .inl ⟨_, rfl, among⟩
  all_goals simp only [plan, List.not_mem_nil, List.mem_cons, or_false] at among
  case case5 | case6 | case14 => exact .inr ⟨_, rfl, .inl (by simp [among])⟩
  case case8 | case9 | case11 | case12 =>
    exact .inr ⟨_, rfl, .inr ⟨_, .tail _ (.head _), _, rfl, among⟩⟩
  case case15 =>
    exact .inr ⟨_, rfl, .inr ⟨_, .tail _ (.head _), _, rfl, by simpa using among⟩⟩

/-- What a value yields is smaller than it, or it is a letter, a number or a member of an
enumeration, and these denote no specification. -/
theorem smaller_or_flawed_of_elements {field part : Value}
    (among : part ∈ field.elements?.getD []) :
    sizeOf part < sizeOf field ∨ ∃ flaw, part.plan.early = some flaw := by
  cases field with
  | list items | tuple items | set items | frozenset items =>
      have smaller : sizeOf part < sizeOf items := List.sizeOf_lt_of_mem among
      left
      simp only [Value.list.sizeOf_spec, Value.tuple.sizeOf_spec, Value.set.sizeOf_spec,
        Value.frozenset.sizeOf_spec]
      omega
  | map entries =>
      obtain ⟨⟨key, value⟩, entryAmong, rfl⟩ := List.mem_map.mp among
      have smaller := List.sizeOf_lt_of_mem entryAmong
      left
      simp only [Prod.mk.sizeOf_spec] at smaller
      simp only [Value.map.sizeOf_spec]
      omega
  | str text =>
      obtain ⟨c, -, rfl⟩ := List.mem_map.mp among
      exact .inr ⟨.unknownName, by rw [plan, Kind.ofName?_singleton]; rfl⟩
  | bytes octets | bytearray octets =>
      obtain ⟨octet, -, rfl⟩ := List.mem_map.mp among
      exact .inr ⟨.unrecognized, rfl⟩
  | enumeration name members =>
      obtain ⟨⟨label, payload⟩, -, rfl⟩ := List.mem_map.mp among
      exact .inr ⟨.unrecognized, rfl⟩
  | _ => cases among

/-- The parts of a form are smaller than it, or have a flaw that is found at first. -/
theorem smaller_or_flawed_of_mem_parts {form part : Value} (among : part ∈ form.plan.parts) :
    sizeOf part < sizeOf form ∨ ∃ flaw, part.plan.early = some flaw := by
  obtain ⟨node, rfl, among⟩ | ⟨items, rfl, direct | ⟨form, listed, members, same, nested⟩⟩ :=
    mem_items_of_mem_parts among
  · cases node with
    | array inner minItems maxItems =>
        obtain rfl := List.mem_singleton.mp among
        left
        simp only [Value.spec.sizeOf_spec, TypeSpec.array.sizeOf_spec]
        omega
    | raw component =>
        obtain rfl := List.mem_singleton.mp among
        left
        simp only [Value.spec.sizeOf_spec, TypeSpec.raw.sizeOf_spec]
        omega
    | map key value =>
        left
        obtain rfl | rfl := List.mem_pair.mp among
        all_goals
          simp only [Value.spec.sizeOf_spec, TypeSpec.map.sizeOf_spec]
          omega
    | union specs | tuple specs =>
        obtain ⟨spec, listed, rfl⟩ := List.mem_map.mp among
        have smaller := List.sizeOf_lt_of_mem listed
        left
        simp only [Value.spec.sizeOf_spec, TypeSpec.union.sizeOf_spec, TypeSpec.tuple.sizeOf_spec]
        omega
    | rawUnion field | rawTuple field =>
        refine (smaller_or_flawed_of_elements among).imp_left fun smaller => ?_
        simp only [Value.spec.sizeOf_spec, TypeSpec.rawUnion.sizeOf_spec,
          TypeSpec.rawTuple.sizeOf_spec]
        omega
    | _ => cases among
  · have smaller := List.sizeOf_lt_of_mem direct
    left
    simp only [Value.tuple.sizeOf_spec]
    omega
  · have smaller := List.sizeOf_lt_of_mem listed
    have smallest := List.sizeOf_lt_of_mem nested
    left
    cases form with
    | list found | tuple found =>
        cases same
        simp only [Value.list.sizeOf_spec, Value.tuple.sizeOf_spec] at smaller ⊢
        omega
    | _ => cases same

/-- A form that is not read has a first obstacle. -/
theorem exists_firstObstacle {form : Value} (stuck : ¬∃ spec, form.Denotes spec) :
    ∃ obstacle, form.FirstObstacle obstacle := by
  cases early : form.plan.early with
  | some flaw => exact ⟨_, .early early⟩
  | none =>
      cases listed : form.plan.listed with
      | false => exact ⟨_, .unlisted early listed⟩
      | true =>
          by_cases each : ∀ part ∈ form.plan.parts, ∃ spec, part.Denotes spec
          · cases late : form.plan.late with
            | some flaw => exact ⟨_, .late early listed each late⟩
            | none =>
                obtain ⟨build, read⟩ := form.exists_build
                obtain ⟨specs, partsRead⟩ := returns_toSpecs_iff.mpr each
                rw [readParts_of_sound early listed, partsRead, late] at read
                exact absurd (returns_toSpec_iff.mp ⟨_, read⟩) stuck
          · obtain ⟨before, part, after, parts, earlier, partStuck⟩ := exists_stuck_form each
            have among : part ∈ form.plan.parts := by simp [parts]
            obtain smaller | ⟨flaw, flawed⟩ := smaller_or_flawed_of_mem_parts among
            · obtain ⟨obstacle, within⟩ := exists_firstObstacle partStuck
              exact ⟨obstacle, .part early listed parts earlier within⟩
            · exact ⟨_, .part early listed parts earlier (.early flawed)⟩
termination_by sizeOf form

theorem toSpec_reports (form : Value) : form.toSpec.Reports form.FirstObstacle where
  total := or_iff_not_imp_left.mpr fun stuck =>
    exists_firstObstacle (mt returns_toSpec_iff.mpr stuck)
  exact _ := FirstObstacle.endsBy

/-! ## Obstacles that can be told -/

/-- A form is another one, or one of its parts at some depth. -/
def PartOf : Value → Value → Prop :=
  Relation.ReflTransGen fun part form => part ∈ form.plan.parts

/-- Whether the options of array types in a form, at every depth, are named by texts. -/
def NamesOptions (form : Value) : Prop :=
  ∀ inner options, (Value.tuple [.str "array", inner, .map options]).PartOf form →
    ∀ option ∈ options, ∃ name, option.1 = .str name

/-- Of all that can stand in the way of reading a form, an account can be given: the form and its
parts, at every depth, can be shown, their components can be told, and options are named by
texts. -/
structure Accountable (form : Value) : Prop where
  shown : ∀ part : Value, part.PartOf form → part.isShowable = true
  listed : ∀ part : Value, part.PartOf form → part.plan.listed = true
  named : form.NamesOptions

theorem FirstObstacle.exists_within {form : Value} {obstacle : Obstacle}
    (first : form.FirstObstacle obstacle) : ∃ part, part.PartOf form ∧
      (part.plan.listed = false ∨ ∃ flaw, obstacle = .flawed (.type part flaw) ∧
        (part.plan.early = some flaw ∨ part.plan.late = some flaw)) := by
  induction first with
  | early found => exact ⟨_, .refl, .inr ⟨_, rfl, .inl found⟩⟩
  | unlisted _ unlisted => exact ⟨_, .refl, .inl unlisted⟩
  | part _ _ parts _ _ ih =>
      obtain ⟨part, within, own⟩ := ih
      exact ⟨part, within.tail (by simp [parts]), own⟩
  | late _ _ _ found => exact ⟨_, .refl, .inr ⟨_, rfl, .inr found⟩⟩

theorem allShowable_of_items {form : Value} {members : List Value}
    (listed : form.items? = some members) (shown : form.isShowable = true) :
    Value.allShowable members = true := by
  cases form with
  | list items | tuple items =>
      cases listed
      exact shown
  | _ => cases listed

/-- Options are unknown in tagged forms of array types only. -/
theorem exists_options_of_flaw {form : Value} {keys : List Value}
    (own : form.plan.early = some (.unknownArrayOptions keys) ∨
      form.plan.late = some (.unknownArrayOptions keys)) :
    ∃ inner options, form = .tuple [.str "array", inner, .map options] ∧
      keys = unknownOptions options := by
  have bounds : ∀ minItems maxItems,
      boundFlaw? minItems maxItems ≠ some (.unknownArrayOptions keys) := by
    intro minItems maxItems found
    obtain ⟨name, other⟩ := exists_bound_of_flaw found
    cases other
  fun_cases Value.plan form
  case case1 node =>
    change node.plan.early = _ ∨ node.plan.late = _ at own
    cases node <;> simp [TypeSpec.plan, bounds] at own
  case case6 inner options =>
    refine ⟨inner, options, rfl, ?_⟩
    obtain early | late := own
    · simp only [plan, optionsFlaw?] at early
      split at early
      · cases early
      · cases early
        rfl
    · exact absurd late (bounds _ _)
  all_goals simp [plan] at own

/-- In an accountable form each obstacle can be told. -/
theorem FirstObstacle.isTold {form : Value} {obstacle : Obstacle}
    (first : form.FirstObstacle obstacle) (accountable : form.Accountable) :
    obstacle.isTold = true := by
  obtain ⟨part, within, unlisted | ⟨flaw, rfl, own⟩⟩ := first.exists_within
  · cases unlisted.symm.trans (accountable.listed part within)
  · rw [Obstacle.isTold, DefinitionFlaw.isTold, accountable.shown part within, Bool.and_true]
    cases flaw with
    | unknownArrayOptions keys =>
        obtain ⟨inner, options, rfl, rfl⟩ := exists_options_of_flaw own
        have texts : ∀ key ∈ unknownOptions options, ∃ name, key = .str name := by
          intro key among
          obtain ⟨option, listed, rfl⟩ := List.mem_map.mp (List.mem_of_mem_filter among)
          exact accountable.named inner options within option listed
        obtain ⟨found, sorted⟩ := returns_sorted_of_texts texts
        have keysShown : Value.allShowable (unknownOptions options) = true := by
          refine allShowable_iff.mpr fun key among => ?_
          obtain ⟨name, rfl⟩ := texts key among
          rfl
        rw [TypeFlaw.isWritable, sorted, keysShown]
        rfl
    | _ => rfl

end Value

end Conform
