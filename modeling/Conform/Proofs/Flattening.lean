import Conform.Proofs.Canonical

/-!
# Unions within unions

A union that is an alternative of another can be replaced by its own alternatives.  Where the first
alternative decides, and where a refusal names all of them, it makes no difference to the outer
union whether it meets the inner alternatives one by one or behind a union of their own.  So a
canonical type can be flattened at every depth without a change to its name, its check or its
conversion.
-/

namespace Conform

/-! ## The flat form -/

namespace TypeSpec

/-- The alternatives that a type stands for within a union. -/
def alternatives : TypeSpec → List TypeSpec
  | .union specs => specs
  | spec => [spec]

mutual

/-- A type with the unions within its unions replaced by their alternatives, at every depth. -/
def flatten : TypeSpec → TypeSpec
  | .array inner minItems maxItems => .array inner.flatten minItems maxItems
  | .union specs => .union ((flattenAll specs).flatMap alternatives)
  | .tuple elements => .tuple (flattenAll elements)
  | .map key value => .map key.flatten value.flatten
  | spec => spec

/-- Types with the unions within their unions replaced. -/
def flattenAll : List TypeSpec → List TypeSpec
  | [] => []
  | spec :: rest => spec.flatten :: flattenAll rest

end

/-- Whether a type is no union. -/
def isNoUnion : TypeSpec → Bool
  | .union _ => false
  | _ => true

/-- Whether a single node is no union with a union among its alternatives. -/
def isFlatNode : TypeSpec → Bool
  | .union specs => specs.all isNoUnion
  | _ => true

/-- Whether no union stands directly within another. -/
def isFlat (spec : TypeSpec) : Bool := spec.everywhere isFlatNode

theorem everywhere_alternatives {holds : TypeSpec → Bool} {specs : List TypeSpec}
    (each : ∀ spec ∈ specs, spec.everywhere holds = true) :
    allEverywhere holds (specs.flatMap alternatives) = true := by
  refine allEverywhere_iff.mpr fun alternative among => ?_
  obtain ⟨spec, specAmong, among⟩ := List.mem_flatMap.mp among
  have own := each spec specAmong
  cases spec with
  | union specs => exact allEverywhere_iff.mp (Bool.and_eq_true_iff.mp own).2 alternative among
  | _ =>
      cases List.mem_singleton.mp among
      exact own

@[simp] theorem isCanonicalNode_union {specs : List TypeSpec} :
    (union specs).isCanonicalNode = true ↔ specs ≠ [] := by
  rw [isCanonicalNode, Bool.not_eq_true', List.isEmpty_eq_false_iff]

theorem alternatives_ne_nil {spec : TypeSpec} (canonical : spec.isCanonical = true) :
    spec.alternatives ≠ [] := by
  cases spec with
  | union specs => exact isCanonicalNode_union.mp (Bool.and_eq_true_iff.mp canonical).1
  | _ => exact List.cons_ne_nil _ _

theorem isNoUnion_of_alternatives {spec : TypeSpec} (flat : spec.isFlat = true) :
    ∀ alternative ∈ spec.alternatives, alternative.isNoUnion = true := by
  cases spec with
  | union specs => exact List.all_eq_true.mp (Bool.and_eq_true_iff.mp flat).1
  | _ => exact List.forall_mem_singleton.mpr rfl

mutual

theorem isFlat_flatten : (spec : TypeSpec) → spec.flatten.isFlat = true
  | .array inner _ _ => isFlat_flatten inner
  | .union specs => by
      have each := isFlat_flattenAll specs
      refine Bool.and_eq_true_iff.mpr ⟨List.all_eq_true.mpr fun alternative among => ?_,
        everywhere_alternatives each⟩
      obtain ⟨spec, specAmong, among⟩ := List.mem_flatMap.mp among
      exact isNoUnion_of_alternatives (each spec specAmong) alternative among
  | .tuple elements => allEverywhere_iff.mpr (isFlat_flattenAll elements)
  | .map key value => Bool.and_eq_true_iff.mpr ⟨isFlat_flatten key, isFlat_flatten value⟩
  | .primitive _ | .unknownKind _ | .rawUnion _ | .rawTuple _ | .ref _ | .raw _ => rfl

theorem isFlat_flattenAll : (specs : List TypeSpec) → ∀ spec ∈ flattenAll specs, spec.isFlat = true
  | [] => fun _ among => nomatch among
  | spec :: rest => List.forall_mem_cons.mpr ⟨isFlat_flatten spec, isFlat_flattenAll rest⟩

end

mutual

/-- The flat form of a canonical type is canonical. -/
theorem isCanonical_flatten : (spec : TypeSpec) → spec.isCanonical = true →
    spec.flatten.isCanonical = true
  | .array inner _ _, canonical => by
      obtain ⟨bounds, innerCanonical⟩ := Bool.and_eq_true_iff.mp canonical
      exact Bool.and_eq_true_iff.mpr ⟨bounds, isCanonical_flatten inner innerCanonical⟩
  | .union specs, canonical => by
      obtain ⟨some, canonical⟩ := Bool.and_eq_true_iff.mp canonical
      have each := isCanonical_flattenAll specs canonical
      refine Bool.and_eq_true_iff.mpr
        ⟨isCanonicalNode_union.mpr ?_, everywhere_alternatives each⟩
      cases specs with
      | nil => cases some
      | cons spec rest =>
          have first := alternatives_ne_nil (List.forall_mem_cons.mp each).1
          exact List.append_ne_nil_of_left_ne_nil first _
  | .tuple elements, canonical =>
      allEverywhere_iff.mpr (isCanonical_flattenAll elements canonical)
  | .map key value, canonical => by
      obtain ⟨keyCanonical, valueCanonical⟩ := Bool.and_eq_true_iff.mp canonical
      exact Bool.and_eq_true_iff.mpr
        ⟨isCanonical_flatten key keyCanonical, isCanonical_flatten value valueCanonical⟩
  | .primitive _, canonical | .ref _, canonical => canonical
  | .unknownKind _, canonical | .rawUnion _, canonical | .rawTuple _, canonical
  | .raw _, canonical => nomatch canonical

theorem isCanonical_flattenAll : (specs : List TypeSpec) →
    allEverywhere isCanonicalNode specs = true →
    ∀ spec ∈ flattenAll specs, spec.isCanonical = true
  | [], _ => fun _ among => nomatch among
  | spec :: rest, canonical => by
      obtain ⟨specCanonical, restCanonical⟩ := Bool.and_eq_true_iff.mp canonical
      exact List.forall_mem_cons.mpr
        ⟨isCanonical_flatten spec specCanonical, isCanonical_flattenAll rest restCanonical⟩

end

end TypeSpec

/-! ## Names -/

/-- Two lists of texts are joined by joining each of them. -/
theorem joinWith_append (separator : String) {first rest : List String} (some : first ≠ [])
    (more : rest ≠ []) :
    joinWith separator (first ++ rest) =
      joinWith separator first ++ separator ++ joinWith separator rest := by
  induction first with
  | nil => cases some rfl
  | cons text others ih =>
      cases others with
      | nil =>
          obtain ⟨next, behind, rfl⟩ := List.exists_cons_of_ne_nil more
          rfl
      | cons next behind =>
          have joined := ih (List.cons_ne_nil _ _)
          simp only [List.cons_append, joinWith] at joined ⊢
          rw [joined]
          simp [String.append_assoc]

/-- Groups of texts are joined by joining each of them first. -/
theorem joinWith_flatten (separator : String) {groups : List (List String)}
    (each : ∀ group ∈ groups, group ≠ []) :
    joinWith separator groups.flatten = joinWith separator (groups.map (joinWith separator)) := by
  induction groups with
  | nil => rfl
  | cons group rest ih =>
      obtain ⟨some, each⟩ := List.forall_mem_cons.mp each
      cases rest with
      | nil => rw [List.flatten_singleton, List.map_singleton, joinWith]
      | cons next behind =>
          have more : (next :: behind).flatten ≠ [] :=
            List.append_ne_nil_of_left_ne_nil (each next List.mem_cons_self) _
          rw [List.flatten_cons, joinWith_append separator some more, ih each]
          rfl

namespace TypeSpec

/-- The names of types are those of the first of them and those of the rest. -/
theorem describeAll_append {first rest : List TypeSpec} {texts others : List String}
    (named : describeAll first = .ok texts) (othersNamed : describeAll rest = .ok others) :
    describeAll (first ++ rest) = .ok (texts ++ others) := by
  induction first generalizing texts with
  | nil =>
      cases named
      exact othersNamed
  | cons spec first ih =>
      obtain ⟨text, described, named⟩ := Attempt.bind_eq_ok_iff.mp named
      obtain ⟨behind, behindNamed, same⟩ := Attempt.bind_eq_ok_iff.mp named
      cases same
      simp [describeAll, described, ih behindNamed]

/-- The name of a canonical type joins those of the alternatives that it stands for. -/
theorem describe_alternatives {spec : TypeSpec} (canonical : spec.isCanonical = true) :
    ∃ texts, texts ≠ [] ∧ describeAll spec.alternatives = .ok texts ∧
      spec.describe = .ok (joinWith " | " texts) := by
  obtain ⟨text, described⟩ := describe_eq_ok spec canonical
  cases spec with
  | union specs =>
      obtain ⟨texts, named, same⟩ := Attempt.bind_eq_ok_iff.mp described
      refine ⟨texts, ?_, named, by rw [described, ← same]; rfl⟩
      rintro rfl
      cases specs with
      | nil => exact alternatives_ne_nil canonical rfl
      | cons spec rest =>
          obtain ⟨_, _, named⟩ := Attempt.bind_eq_ok_iff.mp named
          obtain ⟨_, _, same⟩ := Attempt.bind_eq_ok_iff.mp named
          cases same
  | _ =>
      refine ⟨[text], List.cons_ne_nil _ _, ?_, described⟩
      simp only [alternatives, describeAll, described]
      rfl

/-- Canonical types are named one by one as the alternatives that they stand for are in groups. -/
theorem describeAll_alternatives {specs : List TypeSpec}
    (canonical : ∀ spec ∈ specs, spec.isCanonical = true) :
    ∃ groups : List (List String), (∀ group ∈ groups, group ≠ []) ∧
      describeAll (specs.flatMap alternatives) = .ok groups.flatten ∧
      describeAll specs = .ok (groups.map (joinWith " | ")) := by
  induction specs with
  | nil => exact ⟨[], List.forall_mem_nil _, rfl, rfl⟩
  | cons spec rest ih =>
      obtain ⟨specCanonical, restCanonical⟩ := List.forall_mem_cons.mp canonical
      obtain ⟨texts, some, named, described⟩ := describe_alternatives specCanonical
      obtain ⟨groups, each, groupsNamed, restNamed⟩ := ih restCanonical
      refine ⟨texts :: groups, List.forall_mem_cons.mpr ⟨some, each⟩,
        describeAll_append named groupsNamed, ?_⟩
      simp only [describeAll, described, restNamed]
      rfl

theorem describe_union_alternatives {specs : List TypeSpec}
    (canonical : ∀ spec ∈ specs, spec.isCanonical = true) :
    (union (specs.flatMap alternatives)).describe = (union specs).describe := by
  obtain ⟨groups, each, groupsNamed, named⟩ := describeAll_alternatives canonical
  simp [describe, groupsNamed, named, joinWith_flatten " | " each]

end TypeSpec

/-! ## First agreeing checks -/

/-- A checker tries others in order and accepts what the first agreeing one accepts. -/
def Checker.Tries (checker : Checker) (others : List Checker) : Prop :=
  ∀ value path, ∃ violations, checker value path =
    Check.firstAccepted value path others >>= fun found =>
      .ok (found.elim (.rejected violations) .accepted)

theorem Checker.tries_self (checker : Checker) : checker.Tries [checker] := by
  intro value path
  simp only [Check.firstAccepted]
  cases checker value path with
  | error fault => exact ⟨[], rfl⟩
  | ok verdict =>
      cases verdict with
      | accepted result => exact ⟨[], rfl⟩
      | rejected violations => exact ⟨violations, rfl⟩

namespace Check

theorem union_tries {description : Attempt String} {text : String}
    (described : description = .ok text)
    (alternatives : List Checker) : (Check.union description alternatives).Tries alternatives := by
  intro value path
  refine ⟨[.noAlternative path text value.sortName], ?_⟩
  rw [Check.union, described]
  apply bind_congr
  intro found
  cases found <;> rfl

@[simp] theorem firstAccepted_append (value : Value) (path : Path) (first rest : List Checker) :
    firstAccepted value path (first ++ rest) =
      firstAccepted value path first >>= fun found =>
        found.elim (firstAccepted value path rest) (fun result => .ok (some result)) := by
  induction first with
  | nil => rfl
  | cons checker others ih =>
      simp only [List.cons_append, firstAccepted, ih, bind_assoc]
      apply bind_congr
      intro verdict
      cases verdict <;> rfl

/-- The first agreement among types is that among the alternatives that they stand for, if each type
tries its own. -/
theorem firstAccepted_alternatives {check : TypeSpec → Checker} {specs : List TypeSpec}
    (tries : ∀ spec ∈ specs, (check spec).Tries (spec.alternatives.map check)) (value : Value)
    (path : Path) :
    firstAccepted value path ((specs.flatMap TypeSpec.alternatives).map check) =
      firstAccepted value path (specs.map check) := by
  induction specs with
  | nil => rfl
  | cons spec rest ih =>
      obtain ⟨tried, restTried⟩ := List.forall_mem_cons.mp tries
      obtain ⟨violations, same⟩ := tried value path
      rw [List.flatMap_cons, List.map_append, firstAccepted_append, ih restTried, List.map_cons,
        firstAccepted, same, bind_assoc]
      apply bind_congr
      intro found
      cases found <;> rfl

end Check

namespace Coercion

theorem toUnion_tries {spec : TypeSpec} {text : String} (described : spec.describe = .ok text)
    (alternatives : List Checker) : (toUnion spec alternatives).Tries alternatives := by
  intro value path
  refine ⟨[.notCoercible path text value.sortName "no type in union could coerce value"], ?_⟩
  simp only [toUnion, refuse, described]
  apply bind_congr
  intro found
  cases found <;> rfl

end Coercion

namespace TypeSpec

theorem check_tries (env : Environment) {spec : TypeSpec} (canonical : spec.isCanonical = true) :
    (spec.check env).Tries (spec.alternatives.map (check env)) := by
  obtain ⟨text, described⟩ := describe_eq_ok spec canonical
  cases spec with
  | union specs =>
      rw [alternatives, ← checkers_eq_map]
      exact Check.union_tries described _
  | _ => exact Checker.tries_self _

theorem coerce_tries (env : Environment) {spec : TypeSpec} (canonical : spec.isCanonical = true) :
    (spec.coerce env).Tries (spec.alternatives.map (coerce env)) := by
  obtain ⟨text, described⟩ := describe_eq_ok spec canonical
  cases spec with
  | union specs =>
      rw [alternatives, ← coercers_eq_map]
      exact Coercion.toUnion_tries described _
  | _ => exact Checker.tries_self _

end TypeSpec

/-! ## Types that stand for each other -/

/-- Two types have the same name, the same check and the same conversion. -/
structure TypeSpec.Interchangeable (env : Environment) (spec other : TypeSpec) : Prop where
  described : spec.describe = other.describe
  checked : spec.check env = other.check env
  coerced : spec.coerce env = other.coerce env

/-- Types in sequence have the same names, the same checks and the same conversions. -/
structure TypeSpec.AllInterchangeable (env : Environment) (specs others : List TypeSpec) :
    Prop where
  described : describeAll specs = describeAll others
  checked : checkers env specs = checkers env others
  coerced : coercers env specs = coercers env others

namespace TypeSpec

variable {env : Environment}

/-- A union of canonical types can be replaced by that of the alternatives that they stand for. -/
theorem union_alternatives {specs : List TypeSpec}
    (canonical : ∀ spec ∈ specs, spec.isCanonical = true) :
    (union (specs.flatMap alternatives)).Interchangeable env (union specs) where
  described := describe_union_alternatives canonical
  checked := by
    funext value path
    have first := Check.firstAccepted_alternatives
      (fun spec among => check_tries env (canonical spec among)) value path
    simp [check, Check.union, describe_union_alternatives canonical, first]
  coerced := by
    funext value path
    have first := Check.firstAccepted_alternatives
      (fun spec among => coerce_tries env (canonical spec among)) value path
    simp [coerce, Coercion.toUnion, Coercion.refuse, describe_union_alternatives canonical, first]

namespace Interchangeable

variable {spec other third : TypeSpec}

theorem refl (spec : TypeSpec) : spec.Interchangeable env spec := ⟨rfl, rfl, rfl⟩

theorem trans (first : spec.Interchangeable env other) (second : other.Interchangeable env third) :
    spec.Interchangeable env third where
  described := first.described.trans second.described
  checked := first.checked.trans second.checked
  coerced := first.coerced.trans second.coerced

theorem array (items : spec.Interchangeable env other) (minItems maxItems : Value) :
    (array spec minItems maxItems).Interchangeable env (.array other minItems maxItems) where
  described := by simp only [describe, items.described]
  checked := by simp only [check, items.checked]
  coerced := by simp [coerce, items.coerced]

theorem map {key otherKey value otherValue : TypeSpec} (keys : key.Interchangeable env otherKey)
    (values : value.Interchangeable env otherValue) :
    (map key value).Interchangeable env (.map otherKey otherValue) where
  described := by simp only [describe, keys.described, values.described]
  checked := by simp only [check, keys.checked, values.checked]
  coerced := rfl

theorem cons {specs others : List TypeSpec} (first : spec.Interchangeable env other)
    (rest : AllInterchangeable env specs others) :
    AllInterchangeable env (spec :: specs) (other :: others) where
  described := by simp only [describeAll, first.described, rest.described]
  checked := by simp only [checkers, first.checked, rest.checked]
  coerced := by simp only [coercers, first.coerced, rest.coerced]

end Interchangeable

namespace AllInterchangeable

variable {specs others : List TypeSpec}

theorem tuple (elements : AllInterchangeable env specs others) :
    (tuple specs).Interchangeable env (.tuple others) where
  described := by simp only [describe, elements.described]
  checked := by simp only [check, elements.checked]
  coerced := rfl

theorem union (alternatives : AllInterchangeable env specs others) :
    (union specs).Interchangeable env (.union others) where
  described := by simp only [describe, alternatives.described]
  checked := by simp only [check, describe, alternatives.described, alternatives.checked]
  coerced := by
    funext value path
    simp only [coerce, Coercion.toUnion, Coercion.refuse, describe, alternatives.described,
      alternatives.coerced]

end AllInterchangeable

mutual

/-- A canonical type can be replaced by its flat form. -/
theorem flatten_interchangeable (env : Environment) : (spec : TypeSpec) → spec.isCanonical = true →
    spec.flatten.Interchangeable env spec
  | .array inner minItems maxItems, canonical =>
      (flatten_interchangeable env inner (Bool.and_eq_true_iff.mp canonical).2).array
        minItems maxItems
  | .union specs, canonical => by
      obtain ⟨_, canonical⟩ := Bool.and_eq_true_iff.mp canonical
      exact (union_alternatives (isCanonical_flattenAll specs canonical)).trans
        (flattenAll_interchangeable env specs canonical).union
  | .tuple elements, canonical => (flattenAll_interchangeable env elements canonical).tuple
  | .map key value, canonical => by
      obtain ⟨keyCanonical, valueCanonical⟩ := Bool.and_eq_true_iff.mp canonical
      exact (flatten_interchangeable env key keyCanonical).map
        (flatten_interchangeable env value valueCanonical)
  | .primitive _, _ | .unknownKind _, _ | .ref _, _
  | .rawUnion _, _ | .rawTuple _, _ | .raw _, _ => .refl _

theorem flattenAll_interchangeable (env : Environment) : (specs : List TypeSpec) →
    allEverywhere isCanonicalNode specs = true → AllInterchangeable env (flattenAll specs) specs
  | [], _ => ⟨rfl, rfl, rfl⟩
  | spec :: rest, canonical => by
      obtain ⟨specCanonical, restCanonical⟩ := Bool.and_eq_true_iff.mp canonical
      exact (flatten_interchangeable env spec specCanonical).cons
        (flattenAll_interchangeable env rest restCanonical)

end

/-- Unions within the unions of a canonical type can be replaced by their alternatives at every
depth.  The flat form has the name of the type, and it checks and converts every value as the type
does, with the same result, the same violations or the same fault. -/
theorem flatten_conservative (env : Environment) {spec : TypeSpec}
    (canonical : spec.isCanonical = true) :
    spec.flatten.isFlat = true ∧ spec.flatten.describe = spec.describe ∧
      ∀ value path, spec.flatten.check env value path = spec.check env value path ∧
        spec.flatten.coerce env value path = spec.coerce env value path := by
  have same := flatten_interchangeable env spec canonical
  exact ⟨isFlat_flatten spec, same.described, fun value path =>
    ⟨congrFun (congrFun same.checked value) path, congrFun (congrFun same.coerced value) path⟩⟩

/-- A union two levels deep within an array refuses an item in the words of its flat form. -/
theorem flatten_conservative_of_nested_unions :
    let deep : TypeSpec := .array (.union [.union [.primitive .integer,
      .union [.primitive .boolean, .primitive .atom]], .primitive .string]) .null .null
    deep.flatten = .array (.union [.primitive .integer, .primitive .boolean, .primitive .atom,
      .primitive .string]) .null .null ∧
    deep.isCanonical = true ∧
    deep.flatten.check .bare (.list [.null]) [] = deep.check .bare (.list [.null]) [] := by
  intro deep
  have canonical : deep.isCanonical = true := rfl
  obtain ⟨-, -, same⟩ := flatten_conservative .bare canonical
  exact ⟨rfl, canonical, (same _ _).1⟩

end TypeSpec

end Conform
