import Conform.Proofs.Components

/-!
# Rejections say why

A check that decides by whether a list of violations is empty is right only if no rejection comes
without a violation.  Every check of the library is of that kind: those of types and of schemas,
with hooks and opaque targets of any behaviour, and all conversions.
-/

namespace Conform

/-- Whatever a check rejects, it gives a reason. -/
def Checker.Evident (checker : Checker) : Prop :=
  ∀ value path, checker value path ≠ .ok (.rejected [])

/-! ## Verdicts on parts -/

namespace Check

/-- A verdict on a whole rejects only for a reason. -/
theorem conclude_ne_rejected_nil (build : List Value → Value)
    (parts : List Value × List Violation) : conclude build parts ≠ .rejected [] := by
  obtain ⟨values, violations⟩ := parts
  cases violations with
  | nil => simp [conclude]
  | cons first rest => simp [conclude]

/-- A verdict on a whole that accepts found nothing wrong with the parts. -/
@[simp] theorem conclude_eq_accepted_iff {build : List Value → Value}
    {parts : List Value × List Violation} {result : Value} :
    conclude build parts = .accepted result ↔ parts.2 = [] ∧ result = build parts.1 := by
  obtain ⟨values, violations⟩ := parts
  cases violations with
  | nil => simp [conclude, eq_comm]
  | cons first rest => simp [conclude]

end Check

/-- Violated constraints are reasons. -/
theorem Constraint.checkAll_ne_rejected_nil (constraints : List Constraint) (value : Value)
    (path : Path) : Constraint.checkAll constraints value path ≠ .ok (.rejected []) := by
  simp only [Constraint.checkAll]
  cases Constraint.violations constraints value path with
  | error fault => simp
  | ok found =>
      intro rejected
      cases found with
      | nil => cases rejected
      | cons first rest => cases rejected

/-! ## Types -/

namespace Check

theorem kind_evident (kind : Kind) : (Check.kind kind).Evident := by
  intro value path
  unfold Check.kind
  split <;> simp

theorem unknownKind_evident (description : Attempt String) :
    (Check.unknownKind description).Evident := by
  intro value path
  unfold Check.unknownKind
  split
  · simp
  · intro rejected
    obtain ⟨text, _, reasoned⟩ := Attempt.bind_eq_ok_iff.mp rejected
    cases reasoned

/-- An array is rejected for its items or for their number. -/
theorem array_evident (inner : Checker) (bounds : List Constraint) :
    (Check.array inner bounds).Evident := by
  intro value path
  simp only [Check.array]
  cases value.items? with
  | none => simp
  | some items =>
      intro rejected
      obtain ⟨parts, _, concluded⟩ := Attempt.bind_eq_ok_iff.mp rejected
      cases verdict : conclude .list parts with
      | accepted result =>
          rw [verdict] at concluded
          exact Constraint.checkAll_ne_rejected_nil bounds result path concluded
      | rejected violations =>
          rw [verdict] at concluded
          cases concluded
          exact conclude_ne_rejected_nil .list parts verdict

theorem union_evident (description : Attempt String) (alternatives : List Checker) :
    (Check.union description alternatives).Evident := by
  intro value path rejected
  obtain ⟨found, _, concluded⟩ := Attempt.bind_eq_ok_iff.mp rejected
  cases found with
  | some result => cases concluded
  | none =>
      obtain ⟨text, _, reasoned⟩ := Attempt.bind_eq_ok_iff.mp concluded
      cases reasoned

theorem rawUnion_evident (description : Attempt String) (alternatives : Attempt (List Checker)) :
    (Check.rawUnion description alternatives).Evident := by
  cases alternatives with
  | ok checkers => exact union_evident description checkers
  | error fault =>
      intro value path rejected
      cases rejected

theorem tuple_evident (elements : List Checker) : (Check.tuple elements).Evident := by
  intro value path
  simp only [Check.tuple]
  cases value.items? with
  | none => simp
  | some items =>
      dsimp only
      split
      · intro rejected
        obtain ⟨parts, _, concluded⟩ := Attempt.bind_eq_ok_iff.mp rejected
        exact conclude_ne_rejected_nil .tuple parts (Except.ok.inj concluded)
      · simp

theorem rawTuple_evident (elements : Attempt (List Checker)) :
    (Check.rawTuple elements).Evident := by
  cases elements with
  | ok checkers =>
      rw [rawTuple_ok]
      exact tuple_evident checkers
  | error fault =>
      intro value path
      unfold Check.rawTuple
      cases value.items? <;> simp

theorem map_evident (key value : Checker) : (Check.map key value).Evident := by
  intro data path
  cases data with
  | map found =>
      intro rejected
      obtain ⟨⟨done, violations⟩, _, concluded⟩ := Attempt.bind_eq_ok_iff.mp rejected
      cases violations with
      | nil => cases concluded
      | cons first rest => cases concluded
  | _ =>
      intro rejected
      cases rejected

/-- Records are as many as the members of the reason that consists of them. -/
theorem length_of_records? {members : List Value} {records : List Violation}
    (found : records? members = some records) : records.length = members.length := by
  induction members generalizing records with
  | nil =>
      cases found
      rfl
  | cons member rest ih =>
      cases member with
      | violation record =>
          simp only [records?, Option.map_eq_some_iff] at found
          obtain ⟨others, othersFound, rfl⟩ := found
          exact congrArg Nat.succ (ih othersFound)
      | _ => cases found

/-- The reason of an opaque target amounts to at least one violation. -/
theorem targetViolations_ne_nil (reason : Value) (path : Path) :
    targetViolations reason path ≠ .ok [] := by
  have refused : (reason.plain >>= fun text => .ok [Violation.refusedByTarget path text]) ≠
      (.ok [] : Attempt (List Violation)) := by
    intro empty
    obtain ⟨text, _, reasoned⟩ := Attempt.bind_eq_ok_iff.mp empty
    cases reasoned
  unfold targetViolations
  split
  · simp
  case h_4 => exact refused
  all_goals
    split
    · rename_i records found
      intro empty
      have none := List.map_eq_nil_iff.mp (Except.ok.inj empty)
      rw [none] at found
      cases length_of_records? found
    · exact refused

theorem target_evident (env : Environment) (target : Target) :
    (Check.target env target).Evident := by
  intro value path rejected
  obtain ⟨answer, _, concluded⟩ := Attempt.bind_eq_ok_iff.mp rejected
  cases answer with
  | ok result => cases concluded
  | error reason =>
      obtain ⟨violations, reasoned, empty⟩ := Attempt.bind_eq_ok_iff.mp concluded
      cases empty
      exact targetViolations_ne_nil reason path reasoned

theorem nested_evident {record : Checker} (evident : record.Evident) :
    (Check.nested record).Evident := by
  intro value path rejected
  obtain ⟨verdict, checked, concluded⟩ := Attempt.bind_eq_ok_iff.mp rejected
  cases verdict with
  | accepted result => cases concluded
  | rejected violations =>
      cases List.map_eq_nil_iff.mp (Verdict.rejected.inj (Except.ok.inj concluded))
      exact evident value [] checked

theorem constrained_evident {checker : Checker} (evident : checker.Evident)
    (constraints : List Constraint) : (Check.constrained checker constraints).Evident := by
  intro value path rejected
  obtain ⟨verdict, checked, concluded⟩ := Attempt.bind_eq_ok_iff.mp rejected
  cases verdict with
  | accepted result => exact Constraint.checkAll_ne_rejected_nil constraints result path concluded
  | rejected violations =>
      cases concluded
      exact evident value path checked

theorem coerced_evident {coercion checker : Checker} (coercionEvident : coercion.Evident)
    (checkerEvident : checker.Evident) : (Check.coerced coercion checker).Evident := by
  intro value path rejected
  obtain ⟨verdict, converted, concluded⟩ := Attempt.bind_eq_ok_iff.mp rejected
  cases verdict with
  | accepted result => exact checkerEvident result path concluded
  | rejected violations =>
      cases concluded
      exact coercionEvident value path converted

end Check

/-! ## Records -/

namespace Record

mutual

/-- The reason of a hook amounts to at least one violation. -/
theorem hookViolations_ne_nil (path : Path) : (reason : Value) →
    hookViolations path reason ≠ .ok []
  | .list (first :: rest) => hookViolationsOfAll_ne_nil path first rest
  | .tuple (first :: rest) => hookViolationsOfAll_ne_nil path first rest
  | .violation _ | .str _ => by simp [hookViolations]
  | .list [] | .tuple [] | .null | .bool _ | .int _ | .float _ | .bytes _ | .bytearray _ | .set _
  | .frozenset _ | .map _ | .symbol _ | .member .. | .enumeration .. | .pattern _ | .type _
  | .spec _
  | .ok _ | .err _ | .target _ | .schema .. => by
      intro empty
      obtain ⟨text, _, reasoned⟩ := Attempt.bind_eq_ok_iff.mp empty
      cases reasoned

/-- Several reasons of a hook amount to at least one violation. -/
theorem hookViolationsOfAll_ne_nil (path : Path) : (first : Value) → (rest : List Value) →
    hookViolationsOfAll path (first :: rest) ≠ .ok []
  | first, rest => by
      intro empty
      obtain ⟨found, reasoned, others⟩ := Attempt.bind_eq_ok_iff.mp empty
      obtain ⟨more, _, joined⟩ := Attempt.bind_eq_ok_iff.mp others
      have none := (List.append_eq_nil_iff.mp (Except.ok.inj joined)).1
      rw [none] at reasoned
      exact hookViolations_ne_nil path first reasoned

end

theorem concludeReview_evident (outcome : HookOutcome) (path : Path) :
    concludeReview outcome path ≠ .ok (.rejected []) := by
  unfold concludeReview
  split
  · intro rejected
    obtain ⟨text, _, reasoned⟩ := Attempt.bind_eq_ok_iff.mp rejected
    cases reasoned
  · simp
  · simp
  · rename_i reason
    intro rejected
    obtain ⟨violations, reasoned, empty⟩ := Attempt.bind_eq_ok_iff.mp rejected
    cases empty
    exact hookViolations_ne_nil path reason reasoned
  · intro rejected
    obtain ⟨text, _, reasoned⟩ := Attempt.bind_eq_ok_iff.mp rejected
    cases reasoned

theorem review_evident (env : Environment) (hook : Option Nat) :
    Checker.Evident (review env hook) := by
  intro record path
  cases hook with
  | none =>
      intro rejected
      cases rejected
  | some handle => exact concludeReview_evident _ path

/-- What is wrong with a record before its hook is asked has a reason. -/
theorem candidate_evident (env : Environment) (rules : List Rule) (strict : Bool) :
    (candidate env rules strict).Evident := by
  intro value path
  cases value with
  | map data =>
      simp only [candidate]
      split
      · intro rejected
        cases rejected
      · intro rejected
        obtain ⟨⟨values, violations⟩, _, gathered⟩ := Attempt.bind_eq_ok_iff.mp rejected
        cases violations with
        | cons first rest => cases gathered
        | nil =>
            cases strict with
            | false => cases gathered
            | true =>
                obtain ⟨extra, _, concluded⟩ := Attempt.bind_eq_ok_iff.mp gathered
                cases extra with
                | nil => cases concluded
                | cons first rest => cases concluded
  | _ =>
      intro rejected
      cases rejected

theorem stages_evident (env : Environment) (rules : List Rule) (strict : Bool)
    (hook : Option Nat) : (stages env rules strict hook).Evident := by
  intro value path rejected
  obtain ⟨verdict, proposed, concluded⟩ := Attempt.bind_eq_ok_iff.mp rejected
  cases verdict with
  | accepted record => exact review_evident env hook record path concluded
  | rejected violations =>
      cases concluded
      exact candidate_evident env rules strict value path proposed

/-- A record is rejected only for a reason, whatever its fields and its hook do. -/
theorem check_evident (env : Environment) (rules : List Rule) (strict : Bool)
    (hook : Option Nat) : (Record.check env rules strict hook).Evident := by
  intro value path rejected
  obtain ⟨verdict, staged, concluded⟩ := Attempt.bind_eq_ok_iff.mp rejected
  cases verdict with
  | accepted record => cases concluded
  | rejected violations =>
      obtain ⟨_, _, same⟩ := Attempt.bind_eq_ok_iff.mp concluded
      cases same
      exact stages_evident env rules strict hook value path staged

end Record

theorem Schema.check_evident (env : Environment) (schema : Schema) :
    (schema.check env).Evident := by
  obtain ⟨fields, title, description, strict, hook, metadata⟩ := schema
  exact Record.check_evident env (Schema.rules env fields) strict hook

/-- The check of a type rejects only for a reason. -/
theorem TypeSpec.check_evident (env : Environment) (spec : TypeSpec) :
    (spec.check env).Evident := by
  cases spec with
  | primitive kind => exact Check.kind_evident kind
  | unknownKind kind => exact Check.unknownKind_evident _
  | array inner minItems maxItems => exact Check.array_evident _ _
  | union alternatives => exact Check.union_evident _ _
  | rawUnion alternatives => exact Check.rawUnion_evident _ _
  | tuple elements => exact Check.tuple_evident _
  | rawTuple elements => exact Check.rawTuple_evident _
  | map key value => exact Check.map_evident _ _
  | ref referent =>
      cases referent with
      | target object => exact Check.target_evident env object
      | schema handle schema => exact Check.nested_evident (schema.check_evident env)
      | _ =>
          intro value path rejected
          cases rejected
  | raw component =>
      intro value path
      simp only [TypeSpec.check, Check.raw, TypeSpec.refuse, DefinitionFlaw.refuse]
      split <;> simp

/-- The check of the values of a field rejects only for a reason. -/
theorem Field.check_evident (env : Environment) (field : Field) : (field.check env).Evident := by
  obtain ⟨name, type, required, constraints, description, sample, default⟩ := field
  exact Check.constrained_evident (type.check_evident env) constraints

/-! ## Conversions -/

namespace Coercion

theorem refuse_evident (spec : TypeSpec) (value : Value) (path : Path) (reason : String) :
    refuse spec value path reason ≠ .ok (.rejected []) := by
  intro rejected
  obtain ⟨text, _, reasoned⟩ := Attempt.bind_eq_ok_iff.mp rejected
  cases reasoned

theorem accept_evident (value : Value) : accept value ≠ .ok (.rejected []) := by
  simp [accept]

/-- A conversion of what may be too long to read or to write accepts or faults. -/
theorem accept_bind_evident {α : Type} (attempt : Attempt α) (build : α → Value) :
    (attempt >>= fun found => accept (build found)) ≠ .ok (.rejected []) := by
  intro rejected
  obtain ⟨found, _, accepted⟩ := Attempt.bind_eq_ok_iff.mp rejected
  cases accepted

theorem toText_evident (spec : TypeSpec) : Checker.Evident (toText spec) := by
  intro value path
  unfold toText
  split
  case h_3 => exact accept_bind_evident _ _
  case h_7 => exact refuse_evident _ _ _ _
  all_goals exact accept_evident _

theorem toInteger_evident (spec : TypeSpec) : Checker.Evident (toInteger spec) := by
  intro value path
  unfold toInteger
  split
  · exact accept_evident _
  · split
    · exact accept_bind_evident _ _
    · exact refuse_evident _ _ _ _
  · exact refuse_evident _ _ _ _

theorem acceptNearest_evident (nearest : Option Double) :
    acceptNearest nearest ≠ .ok (.rejected []) := by
  cases nearest with
  | some x => exact accept_evident _
  | none =>
      intro rejected
      cases rejected

theorem toFloat_evident (spec : TypeSpec) : Checker.Evident (toFloat spec) := by
  intro value path
  unfold toFloat
  split
  · exact accept_evident _
  · exact acceptNearest_evident _
  · split
    · exact accept_evident _
    · exact refuse_evident _ _ _ _
  · exact refuse_evident _ _ _ _

theorem toBoolean_evident (spec : TypeSpec) : Checker.Evident (toBoolean spec) := by
  intro value path
  unfold toBoolean
  split
  case h_4 => exact refuse_evident _ _ _ _
  all_goals exact accept_evident _

theorem toAtom_evident (env : Environment) (spec : TypeSpec) :
    Checker.Evident (toAtom env spec) := by
  intro value path
  unfold toAtom
  split
  · exact accept_evident _
  · exact accept_evident _
  · split
    · exact accept_evident _
    · exact refuse_evident _ _ _ _
  · exact refuse_evident _ _ _ _

theorem toKind_evident (env : Environment) (kind : Kind) : (toKind env kind).Evident := by
  cases kind with
  | any | map =>
      intro value path rejected
      cases rejected
  | string => exact toText_evident _
  | integer => exact toInteger_evident _
  | float => exact toFloat_evident _
  | boolean => exact toBoolean_evident _
  | atom => exact toAtom_evident env _

theorem toUnknownKind_evident (env : Environment) (kind : Value) :
    (toUnknownKind env kind).Evident := by
  unfold toUnknownKind
  split
  · exact fun value _ => accept_evident value
  · exact toAtom_evident env _

theorem toArray_evident (inner : Checker) : (toArray inner).Evident := by
  intro value path
  simp only [toArray]
  cases value.items? with
  | none => exact accept_evident _
  | some items =>
      intro rejected
      obtain ⟨parts, _, concluded⟩ := Attempt.bind_eq_ok_iff.mp rejected
      exact Check.conclude_ne_rejected_nil .list parts (Except.ok.inj concluded)

theorem toUnion_evident (spec : TypeSpec) (alternatives : List Checker) :
    (toUnion spec alternatives).Evident := by
  intro value path rejected
  obtain ⟨found, _, concluded⟩ := Attempt.bind_eq_ok_iff.mp rejected
  cases found with
  | some result => cases concluded
  | none => exact refuse_evident _ _ _ _ concluded

theorem toRawUnion_evident (spec : TypeSpec) (alternatives : Attempt (List Checker)) :
    (toRawUnion spec alternatives).Evident := by
  cases alternatives with
  | ok checkers => exact toUnion_evident spec checkers
  | error fault =>
      intro value path rejected
      cases rejected

end Coercion

/-- A conversion refuses only for a reason. -/
theorem TypeSpec.coerce_evident (env : Environment) (spec : TypeSpec) :
    (spec.coerce env).Evident := by
  cases spec with
  | primitive kind => exact Coercion.toKind_evident env kind
  | unknownKind kind => exact Coercion.toUnknownKind_evident env kind
  | array inner minItems maxItems => exact Coercion.toArray_evident _
  | union alternatives => exact Coercion.toUnion_evident _ _
  | rawUnion alternatives => exact Coercion.toRawUnion_evident _ _
  | tuple _ | rawTuple _ | map _ _ | ref _ | raw _ =>
      intro value path rejected
      cases rejected

end Conform
