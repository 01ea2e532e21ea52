import Conform.Proofs.Components
import Conform.Validation.Basic

/-!
# Checks under a root

A checker is rooted if checking a value at a place below a root gives what checking it at that place
gives, with every violation moved below the root.  All checks of types and all conversions are
rooted, and so is everything about a record that comes before its hook.
-/

namespace Conform

namespace Violation

/-- Moving below nothing changes nothing. -/
@[simp] theorem under_nil (violation : Violation) : violation.under [] = violation := by
  cases violation
  rfl

/-- Moving below a path is moving below its end first. -/
theorem under_append (root path : Path) (violation : Violation) :
    violation.under (root ++ path) = (violation.under path).under root := by
  simp [under]

/-- Violations moved below the end of a path and then below its start. -/
theorem map_under_append (root path : Path) (violations : List Violation) :
    violations.map (under (root ++ path)) = (violations.map (under path)).map (under root) := by
  rw [List.map_map]
  exact List.map_congr_left fun violation _ => under_append root path violation

end Violation

/-- A verdict with its violations moved below a root. -/
def Verdict.under {α : Type} (root : Path) : Verdict α → Verdict α
  | .accepted value => .accepted value
  | .rejected violations => .rejected (violations.map (Violation.under root))

namespace Attempt

variable {α β γ : Type}

/-- A function of the outcome of a sequence is one of the outcome of its second step. -/
@[simp] theorem map_bind (attempt : Attempt α) (next : α → Attempt β) (f : β → γ) :
    (attempt >>= next).map f = attempt >>= fun value => (next value).map f := by
  cases attempt <;> rfl

/-- A sequence whose first step was mapped. -/
@[simp] theorem bind_map (attempt : Attempt α) (f : α → β) (next : β → Attempt γ) :
    attempt.map f >>= next = attempt >>= fun value => next (f value) := by
  cases attempt <;> rfl

/-- Sequences agree if their second steps do. -/
theorem bind_congr {attempt : Attempt α} {next other : α → Attempt β}
    (agree : ∀ value, next value = other value) : attempt >>= next = attempt >>= other := by
  cases attempt with
  | error fault => rfl
  | ok value => exact agree value

end Attempt

/-- Checking below a root gives the same, moved below the root. -/
def Checker.Rooted (checker : Checker) : Prop :=
  ∀ root value path, checker value (root ++ path) = (checker value path).map (Verdict.under root)

/-! ## Constraints -/

namespace Constraint

@[simp] theorem check_under (constraint : Constraint) (value : Value) (root path : Path) :
    check constraint value (root ++ path) =
      (check constraint value path).map (Option.map (Violation.under root)) := by
  obtain ⟨key, bound⟩ := constraint
  simp only [check, Attempt.map_bind]
  apply Attempt.bind_congr
  intro text
  cases text <;> rfl

@[simp] theorem violations_under (constraints : List Constraint) (value : Value)
    (root path : Path) :
    violations constraints value (root ++ path) =
      (violations constraints value path).map (List.map (Violation.under root)) := by
  induction constraints with
  | nil => rfl
  | cons constraint rest ih =>
      simp only [violations, check_under, ih, Attempt.map_bind, Attempt.bind_map]
      apply Attempt.bind_congr
      intro found
      apply Attempt.bind_congr
      intro others
      cases found <;> rfl

@[simp] theorem checkAll_under (constraints : List Constraint) (value : Value) (root path : Path) :
    checkAll constraints value (root ++ path) =
      (checkAll constraints value path).map (Verdict.under root) := by
  simp only [checkAll, violations_under, Attempt.map_bind, Attempt.bind_map]
  apply Attempt.bind_congr
  intro found
  cases found <;> rfl

end Constraint

/-! ## Parts -/

namespace Check

/-- What became of parts, with the violations moved below a root. -/
def partsUnder {α : Type} (root : Path) (parts : α × List Violation) : α × List Violation :=
  (parts.1, parts.2.map (Violation.under root))

@[simp] theorem conclude_under (build : List Value → Value) (root : Path)
    (parts : List Value × List Violation) :
    conclude build (partsUnder root parts) = (conclude build parts).under root := by
  obtain ⟨values, violations⟩ := parts
  cases violations <;> rfl

theorem members_under (root path : Path) {parts : List (Checker × Value)}
    (rooted : ∀ part ∈ parts, part.1.Rooted) (index : Nat) :
    members (root ++ path) index parts = (members path index parts).map (partsUnder root) := by
  induction parts generalizing index with
  | nil => rfl
  | cons part rest ih =>
      obtain ⟨checker, item⟩ := part
      obtain ⟨headRooted, restRooted⟩ : checker.Rooted ∧ ∀ part ∈ rest, part.1.Rooted :=
        List.forall_mem_cons.mp rooted
      simp only [members, List.append_assoc, headRooted root, ih restRooted, Attempt.map_bind,
        Attempt.bind_map]
      apply Attempt.bind_congr
      intro verdict
      apply Attempt.bind_congr
      intro others
      cases verdict with
      | accepted value => rfl
      | rejected found =>
          simp [Verdict.under, partsUnder, Except.map]

/-- The violations of the items of a sequence move with it. -/
theorem items_under {checker : Checker} (rooted : checker.Rooted) (root path : Path)
    (items : List Value) (index : Nat) :
    members (root ++ path) index (items.map fun item => (checker, item)) =
      (members path index (items.map fun item => (checker, item))).map (partsUnder root) := by
  apply members_under
  intro part among
  obtain ⟨item, _, rfl⟩ := List.mem_map.mp among
  exact rooted

theorem firstAccepted_under (value : Value) (root path : Path) {checkers : List Checker}
    (rooted : ∀ checker ∈ checkers, checker.Rooted) :
    firstAccepted value (root ++ path) checkers = firstAccepted value path checkers := by
  induction checkers with
  | nil => rfl
  | cons checker rest ih =>
      obtain ⟨headRooted, restRooted⟩ := List.forall_mem_cons.mp rooted
      simp only [firstAccepted, headRooted root, Attempt.bind_map]
      apply Attempt.bind_congr
      intro verdict
      cases verdict with
      | accepted result => rfl
      | rejected found => exact ih restRooted

theorem entries_under {key value : Checker} (keyRooted : key.Rooted) (valueRooted : value.Rooted)
    (root path : Path) (position : Nat) (found done : Entries) :
    entries key value (root ++ path) position found done =
      (entries key value path position found done).map (partsUnder root) := by
  induction found generalizing position done with
  | nil => rfl
  | cons entry rest ih =>
      obtain ⟨k, v⟩ := entry
      simp only [entries, List.append_assoc, keyRooted root, valueRooted root, ih, Attempt.map_bind,
        Attempt.bind_map]
      apply Attempt.bind_congr
      intro keyVerdict
      apply Attempt.bind_congr
      intro valueVerdict
      -- Only a pair of accepted verdicts stores an entry; the rest goes on with those there were.
      have goOn (done : Entries) :
          (entries key value path (position + 1) rest done >>= fun others => Except.ok
              ((partsUnder root others).1, (keyVerdict.under root).violations ++
                ((valueVerdict.under root).violations ++ (partsUnder root others).2))) =
            (entries key value path (position + 1) rest done >>= fun others => Except.ok
              (others.1, keyVerdict.violations ++ (valueVerdict.violations ++ others.2))).map
                (partsUnder root) := by
        rw [Attempt.map_bind]
        apply Attempt.bind_congr
        intro others
        cases keyVerdict <;> cases valueVerdict <;>
          simp [Verdict.under, Verdict.violations, partsUnder, Except.map]
      cases keyVerdict with
      | rejected keyFound =>
          exact goOn done
      | accepted newKey =>
          cases valueVerdict with
          | rejected valueFound => exact goOn done
          | accepted newValue =>
              exact (Attempt.bind_congr fun k => goOn (done.put k newValue)).trans
                (Attempt.map_bind _ _ _).symm

end Check

/-! ## Types -/

namespace Check

theorem kind_rooted (kind : Kind) : (Check.kind kind).Rooted := by
  intro root value path
  simp only [Check.kind]
  split <;> rfl

theorem unknownKind_rooted (description : Attempt String) :
    (Check.unknownKind description).Rooted := by
  intro root value path
  simp only [Check.unknownKind]
  split
  · rfl
  · cases description <;> rfl

theorem array_rooted {inner : Checker} (rooted : inner.Rooted) (bounds : List Constraint) :
    (Check.array inner bounds).Rooted := by
  intro root value path
  simp only [Check.array]
  cases value.items? with
  | none => rfl
  | some items =>
      dsimp only
      rw [items_under rooted, Attempt.map_bind, Attempt.bind_map]
      apply Attempt.bind_congr
      intro parts
      rw [conclude_under]
      cases conclude .list parts with
      | accepted result => exact Constraint.checkAll_under bounds result root path
      | rejected violations => rfl

theorem union_rooted (description : Attempt String) {alternatives : List Checker}
    (rooted : ∀ checker ∈ alternatives, checker.Rooted) :
    (Check.union description alternatives).Rooted := by
  intro root value path
  simp only [Check.union, firstAccepted_under value root path rooted, Attempt.map_bind]
  apply Attempt.bind_congr
  intro found
  cases found with
  | some result => rfl
  | none => cases description <;> rfl

theorem rawUnion_rooted (description : Attempt String) {alternatives : Attempt (List Checker)}
    (rooted : ∀ checkers, alternatives = .ok checkers → ∀ checker ∈ checkers, checker.Rooted) :
    (Check.rawUnion description alternatives).Rooted := by
  cases alternatives with
  | ok checkers => exact union_rooted description (rooted checkers rfl)
  | error fault => exact fun _ _ _ => rfl

theorem tuple_rooted {elements : List Checker} (rooted : ∀ checker ∈ elements, checker.Rooted) :
    (Check.tuple elements).Rooted := by
  intro root value path
  simp only [Check.tuple]
  cases value.items? with
  | none => rfl
  | some items =>
      dsimp only
      split
      · have partsRooted : ∀ part ∈ elements.zip items, part.1.Rooted := by
          intro part among
          exact rooted part.1 (List.of_mem_zip among).1
        rw [members_under root path partsRooted, Attempt.map_bind, Attempt.bind_map]
        apply Attempt.bind_congr
        intro parts
        exact congrArg Except.ok (conclude_under .tuple root parts)
      · rfl

theorem rawTuple_rooted {elements : Attempt (List Checker)}
    (rooted : ∀ checkers, elements = .ok checkers → ∀ checker ∈ checkers, checker.Rooted) :
    (Check.rawTuple elements).Rooted := by
  cases elements with
  | ok checkers =>
      rw [rawTuple_ok]
      exact tuple_rooted (rooted checkers rfl)
  | error fault =>
      intro root value path
      simp only [Check.rawTuple]
      cases value.items? <;> rfl

theorem map_rooted {key value : Checker} (keyRooted : key.Rooted) (valueRooted : value.Rooted) :
    (Check.map key value).Rooted := by
  intro root data path
  cases data with
  | map found =>
      simp only [Check.map, entries_under keyRooted valueRooted, Attempt.map_bind, Attempt.bind_map]
      apply Attempt.bind_congr
      rintro ⟨done, violations⟩
      cases violations <;> rfl
  | _ => rfl

theorem targetViolations_under (reason : Value) (root path : Path) :
    targetViolations reason (root ++ path) =
      (targetViolations reason path).map (List.map (Violation.under root)) := by
  have refused : (reason.plain >>= fun text =>
    .ok [Violation.refusedByTarget (root ++ path) text]) =
      ((reason.plain >>= fun text => .ok [Violation.refusedByTarget path text]) :
        Attempt (List Violation)).map (List.map (Violation.under root)) := by
    cases reason.plain <;> rfl
  simp only [targetViolations]
  split
  · simp [Violation.under_append, Except.map]
  case h_4 => exact refused
  all_goals
    split
    · simp [Except.map, Violation.map_under_append]
    · exact refused

theorem target_rooted (env : Environment) (target : Target) :
    (Check.target env target).Rooted := by
  intro root value path
  simp only [Check.target, Attempt.map_bind]
  apply Attempt.bind_congr
  intro answer
  cases answer with
  | ok result => rfl
  | error reason =>
      simp only [targetViolations_under, Attempt.map_bind, Attempt.bind_map]
      rfl

/-- The check by a whole schema is rooted whatever the schema does, because it checks at no place
and moves the violations itself. -/
theorem nested_rooted (record : Checker) : (Check.nested record).Rooted := by
  intro root value path
  simp only [Check.nested, Attempt.map_bind]
  apply Attempt.bind_congr
  intro verdict
  cases verdict with
  | accepted result => rfl
  | rejected violations =>
      simp only [Violation.map_under_append]
      rfl

theorem constrained_rooted {checker : Checker} (rooted : checker.Rooted)
    (constraints : List Constraint) : (Check.constrained checker constraints).Rooted := by
  intro root value path
  simp only [Check.constrained, rooted root, Attempt.map_bind, Attempt.bind_map]
  apply Attempt.bind_congr
  intro verdict
  cases verdict with
  | accepted result => exact Constraint.checkAll_under constraints result root path
  | rejected violations => rfl

theorem coerced_rooted {coercion checker : Checker} (coercionRooted : coercion.Rooted)
    (checkerRooted : checker.Rooted) : (Check.coerced coercion checker).Rooted := by
  intro root value path
  simp only [Check.coerced, coercionRooted root, Attempt.map_bind, Attempt.bind_map]
  apply Attempt.bind_congr
  intro verdict
  cases verdict with
  | accepted result => exact checkerRooted root result path
  | rejected violations => rfl

end Check

/-- A reference is rooted. -/
theorem Value.checkAsTarget_rooted (env : Environment) (target : Value) :
    (target.checkAsTarget env).Rooted := by
  cases target with
  | target object => exact Check.target_rooted env object
  | schema handle schema => exact Check.nested_rooted _
  | _ =>
      intro root value path
      rfl

/-- The check of a type is rooted. -/
theorem TypeSpec.check_rooted (env : Environment) (spec : TypeSpec) : (spec.check env).Rooted := by
  induction spec using TypeSpec.induction with
  | primitive kind => exact Check.kind_rooted kind
  | unknownKind kind => exact Check.unknownKind_rooted _
  | array inner minItems maxItems ih => exact Check.array_rooted ih _
  | union alternatives ih => exact Check.union_rooted _ (TypeSpec.forall_checkers ih)
  | rawUnion field ih => exact Check.rawUnion_rooted _ (Value.forall_memberCheckers ih)
  | tuple elements ih => exact Check.tuple_rooted (TypeSpec.forall_checkers ih)
  | rawTuple field ih => exact Check.rawTuple_rooted (Value.forall_memberCheckers ih)
  | map key value keyIh valueIh => exact Check.map_rooted keyIh valueIh
  | ref target => exact Value.checkAsTarget_rooted env target
  | raw component =>
      intro root value path
      simp only [TypeSpec.check, Check.raw, TypeSpec.refuse, DefinitionFlaw.refuse]
      split <;> rfl

/-- The check of the values of a field is rooted. -/
theorem Field.check_rooted (env : Environment) (field : Field) : (field.check env).Rooted := by
  obtain ⟨name, type, required, constraints, description, sample, default⟩ := field
  exact Check.constrained_rooted (type.check_rooted env) constraints

/-! ## Conversions -/

namespace Coercion

theorem refuse_under (spec : TypeSpec) (value : Value) (root path : Path) (reason : String) :
    refuse spec value (root ++ path) reason =
      (refuse spec value path reason).map (Verdict.under root) := by
  simp only [refuse, Attempt.map_bind]
  rfl

theorem accept_bind_under {α : Type} (attempt : Attempt α) (build : α → Value) (root : Path) :
    (attempt >>= fun found => accept (build found)) =
      (attempt >>= fun found => accept (build found)).map (Verdict.under root) := by
  cases attempt <;> rfl

theorem accept_under (value : Value) (root : Path) :
    accept value = (accept value).map (Verdict.under root) := rfl

theorem acceptNearest_under (nearest : Option Double) (root : Path) :
    acceptNearest nearest = (acceptNearest nearest).map (Verdict.under root) := by
  cases nearest <;> rfl

theorem toAtom_rooted (env : Environment) (spec : TypeSpec) :
    Checker.Rooted (toAtom env spec) := by
  intro root value path
  simp only [toAtom]
  split
  · exact accept_under _ root
  · exact accept_under _ root
  · split
    · exact accept_under _ root
    · exact refuse_under _ _ root path _
  · exact refuse_under _ _ root path _

/-- A conversion to a primitive kind is rooted: it looks at its path only to refuse. -/
theorem toKind_rooted (env : Environment) (kind : Kind) : (toKind env kind).Rooted := by
  intro root value path
  cases kind with
  | any | map => exact accept_under value root
  | string =>
      simp only [toKind, toText]
      split
      case h_3 => exact accept_bind_under _ _ root
      case h_7 => exact refuse_under _ _ root path _
      all_goals exact accept_under _ root
  | integer =>
      simp only [toKind, toInteger]
      split
      · exact accept_under _ root
      · split
        · exact accept_bind_under _ _ root
        · exact refuse_under _ _ root path _
      · exact refuse_under _ _ root path _
  | float =>
      simp only [toKind, toFloat]
      split
      · exact accept_under _ root
      · exact acceptNearest_under _ root
      · split
        · exact accept_under _ root
        · exact refuse_under _ _ root path _
      · exact refuse_under _ _ root path _
  | boolean =>
      simp only [toKind, toBoolean]
      split
      case h_4 => exact refuse_under _ _ root path _
      all_goals exact accept_under _ root
  | atom => exact toAtom_rooted env _ root value path

theorem toUnknownKind_rooted (env : Environment) (kind : Value) :
    (toUnknownKind env kind).Rooted := by
  unfold toUnknownKind
  split
  · exact fun _ _ _ => rfl
  · exact toAtom_rooted env _

theorem toArray_rooted {inner : Checker} (rooted : inner.Rooted) : (toArray inner).Rooted := by
  intro root value path
  simp only [toArray]
  cases value.items? with
  | none => rfl
  | some items =>
      dsimp only
      rw [Check.items_under rooted, Attempt.map_bind, Attempt.bind_map]
      apply Attempt.bind_congr
      intro parts
      exact congrArg Except.ok (Check.conclude_under .list root parts)

theorem toUnion_rooted (spec : TypeSpec) {alternatives : List Checker}
    (rooted : ∀ checker ∈ alternatives, checker.Rooted) : (toUnion spec alternatives).Rooted := by
  intro root value path
  simp only [toUnion, Check.firstAccepted_under value root path rooted, Attempt.map_bind]
  apply Attempt.bind_congr
  intro found
  cases found with
  | some result => rfl
  | none => exact refuse_under _ _ root path _

theorem toRawUnion_rooted (spec : TypeSpec) {alternatives : Attempt (List Checker)}
    (rooted : ∀ checkers, alternatives = .ok checkers → ∀ checker ∈ checkers, checker.Rooted) :
    (toRawUnion spec alternatives).Rooted := by
  cases alternatives with
  | ok checkers => exact toUnion_rooted spec (rooted checkers rfl)
  | error fault => exact fun _ _ _ => rfl

end Coercion

/-- The conversion to a type is rooted. -/
theorem TypeSpec.coerce_rooted (env : Environment) (spec : TypeSpec) :
    (spec.coerce env).Rooted := by
  induction spec using TypeSpec.induction with
  | primitive kind => exact Coercion.toKind_rooted env kind
  | unknownKind kind => exact Coercion.toUnknownKind_rooted env kind
  | array inner minItems maxItems ih => exact Coercion.toArray_rooted ih
  | union alternatives ih => exact Coercion.toUnion_rooted _ (TypeSpec.forall_coercers ih)
  | rawUnion field ih => exact Coercion.toRawUnion_rooted _ (Value.forall_memberCoercers ih)
  | tuple | rawTuple | map | ref | raw => exact fun _ _ _ => rfl

/-- The check of the values of a field is rooted, also after a conversion. -/
theorem Field.checkWith_rooted (env : Environment) (coerce : Bool) (field : Field) :
    (field.checkWith env coerce).Rooted := by
  unfold Field.checkWith
  split
  · exact Check.coerced_rooted (field.type.coerce_rooted env) (field.check_rooted env)
  · exact field.check_rooted env

/-! ## Records before their hook -/

namespace Record

theorem missing_under (env : Environment) (fields : List Field) (data : Entries)
    (root path : Path) :
    missing env fields data (root ++ path) =
      (missing env fields data path).map (Violation.under root) := by
  simp only [missing, List.map_map]
  refine List.map_congr_left fun field _ => ?_
  simp [Violation.missingField, Violation.plain, Violation.under]

theorem fieldVerdict_under (env : Environment) (data : Entries) (root path : Path) {rule : Rule}
    (rooted : rule.check.Rooted) :
    fieldVerdict env data (root ++ path) rule =
      (fieldVerdict env data path rule).map (Option.map (Verdict.under root)) := by
  simp only [fieldVerdict, List.append_assoc]
  split
  · rw [rooted root, Attempt.map_bind, Attempt.bind_map]
    rfl
  · split
    · cases rule.field.default.copy <;> rfl
    · split <;> rfl

theorem gather_under (env : Environment) (data : Entries) (root path : Path) {rules : List Rule}
    (rooted : ∀ rule ∈ rules, rule.check.Rooted) :
    gather env data (root ++ path) rules =
      (gather env data path rules).map (Check.partsUnder root) := by
  induction rules with
  | nil => rfl
  | cons rule rest ih =>
      obtain ⟨ruleRooted, restRooted⟩ := List.forall_mem_cons.mp rooted
      simp only [gather, fieldVerdict_under env data root path ruleRooted, ih restRooted,
        Attempt.map_bind, Attempt.bind_map]
      apply Attempt.bind_congr
      intro verdict
      apply Attempt.bind_congr
      intro others
      cases verdict with
      | none => rfl
      | some verdict =>
          cases verdict with
          | accepted value => rfl
          | rejected found =>
              simp [Verdict.under, addVerdict, Check.partsUnder, Except.map]

/-- What is wrong with a record before its hook is asked is rooted, if the checks of the fields
are. -/
theorem candidate_rooted (env : Environment) {rules : List Rule}
    (rooted : ∀ rule ∈ rules, rule.check.Rooted) (strict : Bool) :
    (candidate env rules strict).Rooted := by
  intro root value path
  cases value with
  | map data =>
      simp only [candidate, missing_under]
      cases missing env (rules.map Rule.field) data path with
      | cons first rest => rfl
      | nil =>
          simp only [List.map_nil, gather_under env data root path rooted, Attempt.map_bind,
            Attempt.bind_map]
          apply Attempt.bind_congr
          rintro ⟨values, violations⟩
          cases violations with
          | cons first rest => rfl
          | nil =>
              cases strict with
              | false => rfl
              | true =>
                  refine (Attempt.bind_congr fun extra => ?_).trans (Attempt.map_bind _ _ _).symm
                  cases extra <;> rfl
  | _ => rfl

end Record

/-! ## The law -/

/-- Types check and convert below a root as they do without it, and so do constraints: the value is
the same, or the fault, or the same violations in the same order with the root in front of every
path. -/
theorem TypeSpec.rerooting (env : Environment) (spec : TypeSpec) (constraints : List Constraint)
    (value : Value) (root path : Path) :
    spec.check env value (root ++ path) = (spec.check env value path).map (Verdict.under root) ∧
      spec.coerce env value (root ++ path) = (spec.coerce env value path).map (Verdict.under root) ∧
      Constraint.checkAll constraints value (root ++ path) =
        (Constraint.checkAll constraints value path).map (Verdict.under root) := by
  refine ⟨?check, ?coerce, ?constraints⟩
  case check => exact spec.check_rooted env root value path
  case coerce => exact spec.coerce_rooted env root value path
  case constraints => exact Constraint.checkAll_under constraints value root path

end Conform
