import Conform.Proofs.Soundness
import Conform.Proofs.Stages

/-!
# When a review ends in a verdict

A hook may do anything with a record that passed the stages before it.  What it says becomes
violations, these are summed up by their codes, and messages about it show what it gave.  The
outcomes of hooks for which all of this works are described here; for every other one a validation
ends without a verdict.
-/

namespace Conform

/-! ## What messages show -/

/-- A value has a literal form. -/
def Value.HasLiteral (value : Value) : Prop := ∃ text, value.literal = .ok text

mutual

/-- The parts of the reason of a hook that are neither records nor texts, and are shown in
messages. -/
def Value.strayParts : Value → List Value
  | .violation _ => []
  | .str _ => []
  | .list (first :: rest) => Value.allStrayParts (first :: rest)
  | .tuple (first :: rest) => Value.allStrayParts (first :: rest)
  | reason => [reason]

/-- The stray parts of several reasons, in order. -/
def Value.allStrayParts : List Value → List Value
  | [] => []
  | reason :: rest => reason.strayParts ++ Value.allStrayParts rest

end

namespace HookOutcome

/-- The values that messages about the outcome of a hook show. -/
def strayParts : HookOutcome → List Value
  | .raised _ _ => []
  | .returned (.ok (.map _)) => []
  | .returned (.map _) => []
  | .returned (.err reason) => reason.strayParts
  | .returned other => [other]

/-- An outcome of a hook about which everything can be reported that a validation reports. -/
structure Reportable (outcome : HookOutcome) : Prop where
  /-- The records that the hook hands out have codes that can be sorted. -/
  codes : ∀ record ∈ outcome.handedRecords, record.HasTextCode
  /-- What the hook gives instead of a result or a reason can be shown. -/
  parts : ∀ part ∈ outcome.strayParts, part.HasLiteral
  /-- A failure of the hook can be accounted for. -/
  account : ∀ exception account, outcome = .raised exception account → ∃ text, account = .ok text

end HookOutcome

namespace Record

/-! ## Reasons -/

/-- Violations are found and can be summed up by their codes. -/
def SummedUp (found : Attempt (List Violation)) : Prop :=
  ∃ violations, found = .ok violations ∧ ∀ violation ∈ violations, violation.HasTextCode

@[simp] theorem summedUp_shown_iff (path : Path) (lead : String) (value : Value) :
    SummedUp (value.literal >>= fun text => .ok [.review path (lead ++ text)]) ↔
      value.HasLiteral := by
  constructor
  · rintro ⟨_, found, _⟩
    obtain ⟨text, shown, _⟩ := Attempt.bind_eq_ok_iff.mp found
    exact ⟨text, shown⟩
  · rintro ⟨text, shown⟩
    refine ⟨_, Attempt.bind_eq_ok_iff.mpr ⟨text, shown, rfl⟩, List.forall_mem_singleton.mpr ?_⟩
    exact ⟨"post_validation", rfl⟩

@[simp] theorem summedUp_append_iff (first second : Attempt (List Violation)) :
    SummedUp (do return (← first) ++ (← second)) ↔ SummedUp first ∧ SummedUp second := by
  constructor
  · rintro ⟨_, found, each⟩
    obtain ⟨one, oneFound, others⟩ := Attempt.bind_eq_ok_iff.mp found
    obtain ⟨two, twoFound, joined⟩ := Attempt.bind_eq_ok_iff.mp others
    cases joined
    obtain ⟨oneEach, twoEach⟩ := List.forall_mem_append.mp each
    exact ⟨⟨one, oneFound, oneEach⟩, two, twoFound, twoEach⟩
  · rintro ⟨⟨one, rfl, oneEach⟩, two, rfl, twoEach⟩
    exact ⟨one ++ two, rfl, List.forall_mem_append.mpr ⟨oneEach, twoEach⟩⟩

mutual

@[simp] theorem summedUp_hookViolations_iff (path : Path) : (reason : Value) →
    (SummedUp (hookViolations path reason) ↔
      (∀ record ∈ reason.handedRecords, record.HasTextCode) ∧
      ∀ part ∈ reason.strayParts, part.HasLiteral)
  | .violation record => by
      simp [SummedUp, hookViolations, Value.handedRecords, Value.strayParts]
  | .str message => by
      simp [SummedUp, hookViolations, Value.handedRecords, Value.strayParts, Violation.review,
        Violation.plain, Violation.HasTextCode]
  | .list (first :: rest) => summedUp_hookViolationsOfAll_iff path (first :: rest)
  | .tuple (first :: rest) => summedUp_hookViolationsOfAll_iff path (first :: rest)
  | .list [] | .tuple [] | .null | .bool _ | .int _ | .float _ | .bytes _ | .bytearray _ | .set _
  | .frozenset _ | .map _ | .symbol _ | .member .. | .enumeration .. | .pattern _ | .type _
  | .spec _
  | .ok _ | .err _ | .target _ | .schema .. => by
      refine (summedUp_shown_iff path _ _).trans ⟨fun shown => ?_, fun both => ?_⟩
      · exact ⟨List.forall_mem_nil _, List.forall_mem_singleton.mpr shown⟩
      · exact List.forall_mem_singleton.mp both.2

@[simp] theorem summedUp_hookViolationsOfAll_iff (path : Path) : (reasons : List Value) →
    (SummedUp (hookViolationsOfAll path reasons) ↔
      (∀ record ∈ Value.allHandedRecords reasons, record.HasTextCode) ∧
      ∀ part ∈ Value.allStrayParts reasons, part.HasLiteral)
  | [] => by
      simp [SummedUp, hookViolationsOfAll, Value.allHandedRecords, Value.allStrayParts]
  | reason :: rest => by
      simp only [hookViolationsOfAll, summedUp_append_iff, summedUp_hookViolations_iff path reason,
        summedUp_hookViolationsOfAll_iff path rest, Value.allHandedRecords, Value.allStrayParts,
        List.forall_mem_append]
      exact and_and_and_comm

end

/-! ## Outcomes -/

/-- A verdict is reached and can be summed up by the codes of its violations. -/
def SummedUpVerdict (attempt : Attempt (Verdict Value)) : Prop :=
  ∃ verdict, attempt = .ok verdict ∧ ∀ violation ∈ verdict.violations, violation.HasTextCode

@[simp] theorem summedUpVerdict_rejected_iff (found : Attempt (List Violation)) :
    SummedUpVerdict (found >>= fun violations => .ok (.rejected violations)) ↔ SummedUp found := by
  constructor
  · rintro ⟨_, concluded, each⟩
    rcases Attempt.bind_eq_ok_iff.mp concluded with ⟨violations, rfl, same⟩
    cases same
    exact ⟨violations, rfl, each⟩
  · rintro ⟨violations, rfl, each⟩
    exact ⟨.rejected violations, rfl, each⟩

theorem summedUpVerdict_accepted (result : Value) :
    SummedUpVerdict (.ok (.accepted result)) :=
  ⟨.accepted result, rfl, List.forall_mem_nil _⟩

theorem summedUpVerdict_invalid_iff (path : Path) (value : Value) :
    SummedUpVerdict (value.literal >>= fun text => .ok (.rejected [.review path
      ("post-validation hook returned an invalid result: " ++ text)])) ↔ value.HasLiteral := by
  rw [← summedUp_shown_iff path "post-validation hook returned an invalid result: ",
    ← summedUpVerdict_rejected_iff]
  cases value.literal <;> exact Iff.rfl

/-- The outcome of a hook amounts to a verdict that is summed up exactly when it is reportable. -/
@[simp] theorem concludeReview_iff (outcome : HookOutcome) (path : Path) :
    SummedUpVerdict (concludeReview outcome path) ↔ outcome.Reportable := by
  -- A value that is neither a record nor a reason holds no records, and is its only stray part.
  have invalid {value : Value} (stray : (HookOutcome.returned value).strayParts = [value])
      (handed : (HookOutcome.returned value).handedRecords = []) :
      value.HasLiteral ↔ (HookOutcome.returned value).Reportable := by
    constructor
    · intro shown
      refine ⟨?_, ?_, nofun⟩
      · simp [handed]
      · simp [stray, shown]
    · intro reportable
      exact reportable.parts value (by simp [stray])
  cases outcome with
  | raised exception account =>
      constructor
      · rintro ⟨_, concluded, _⟩
        rcases Attempt.bind_eq_ok_iff.mp concluded with ⟨text, written, _⟩
        refine ⟨List.forall_mem_nil _, List.forall_mem_nil _, ?_⟩
        rintro _ _ ⟨⟩
        exact ⟨text, written⟩
      · intro reportable
        rcases reportable.account exception account rfl with ⟨text, rfl⟩
        exact ⟨_, rfl, List.forall_mem_singleton.mpr ⟨"post_validation", rfl⟩⟩
  | returned value =>
      cases value with
      | map entries =>
          exact iff_of_true (summedUpVerdict_accepted _)
            ⟨List.forall_mem_nil _, List.forall_mem_nil _, nofun⟩
      | err reason =>
          apply (summedUpVerdict_rejected_iff _).trans
          apply (summedUp_hookViolations_iff path reason).trans
          constructor
          · rintro ⟨codes, parts⟩
            exact ⟨codes, parts, nofun⟩
          · intro reportable
            exact ⟨reportable.codes, reportable.parts⟩
      | ok inner =>
          cases inner with
          | map entries =>
              exact iff_of_true (summedUpVerdict_accepted _)
                ⟨List.forall_mem_nil _, List.forall_mem_nil _, nofun⟩
          | _ => exact (summedUpVerdict_invalid_iff path _).trans (invalid rfl rfl)
      | _ => exact (summedUpVerdict_invalid_iff path _).trans (invalid rfl rfl)

variable {env : Environment} {rules : List Rule} {strict : Bool} {hook : Option Nat}
  {value record : Value} {path : Path}

theorem review_iff : SummedUpVerdict (review env hook record path) ↔
    ∀ handle, hook = some handle → (env.review handle record).Reportable := by
  cases hook with
  | none => exact iff_of_true (summedUpVerdict_accepted record) nofun
  | some handle => simp [review, concludeReview_iff]

/-- A check whose earlier stages pass ends in a verdict exactly when the review is summed up. -/
theorem check_iff_of_candidate (passed : candidate env rules strict value path =
      .ok (.accepted record)) :
    (∃ verdict, Record.check env rules strict hook value path = .ok verdict) ↔
      SummedUpVerdict (review env hook record path) := by
  simp only [Record.check, stages, passed, Attempt.ok_bind, SummedUpVerdict]
  cases review env hook record path with
  | error fault => simp
  | ok verdict =>
      cases verdict with
      | accepted result => exact iff_of_true ⟨_, rfl⟩ (summedUpVerdict_accepted result)
      | rejected violations =>
          simp only [Attempt.ok_bind, Attempt.bind_eq_ok_iff, Except.ok.injEq, exists_eq_left',
            Verdict.violations, ← exists_codes_iff]
          constructor
          · rintro ⟨_, texts, summed, _⟩
            exact ⟨texts, summed⟩
          · rintro ⟨texts, summed⟩
            exact ⟨_, texts, summed, rfl⟩

theorem map_of_concludeReview {outcome : HookOutcome} {result : Value}
    (concluded : concludeReview outcome path = .ok (.accepted result)) :
    ∃ entries, result = .map entries := by
  have never {α : Type} (attempt : Attempt α) (reasons : α → List Violation) :
      (attempt >>= fun found => .ok (.rejected (reasons found))) ≠
        (.ok (.accepted result) : Attempt (Verdict Value)) := by
    intro accepted
    rcases Attempt.bind_eq_ok_iff.mp accepted with ⟨_, _, same⟩
    cases same
  simp only [concludeReview] at concluded
  split at concluded
  case h_2 entries | h_3 entries =>
    cases concluded
    exact ⟨entries, rfl⟩
  all_goals exact absurd concluded (never _ _)

theorem map_of_check {result : Value}
    (checked : Record.check env rules strict hook value path = .ok (.accepted result)) :
    ∃ entries, result = .map entries := by
  rcases Attempt.bind_eq_ok_iff.mp (stages_of_check checked) with ⟨proposal, proposed, reviewed⟩
  cases proposal with
  | rejected violations => cases reviewed
  | accepted record =>
      rcases gather_of_candidate proposed with ⟨_, values, _, rfl, _⟩
      cases hook with
      | none =>
          cases reviewed
          exact ⟨_, rfl⟩
      | some handle => exact map_of_concludeReview reviewed

end Record

/-! ## Validations -/

namespace Schema

/-- A validation ends in a verdict exactly when the check does and the verdict can be displayed if
it has to be. -/
theorem validate_returns_iff_check {env : Environment} {schema : Schema} {data : Value}
    {options : Options} :
    (∃ verdict, (validate env schema data options).outcome = .ok verdict) ↔
      (∃ verdict, schema.verdict env data options = .ok verdict) ∧
      (options.debug = true → ∀ verdict, schema.verdict env data options = .ok verdict →
        ∃ display, Display.ofVerdict verdict schema.title = .ok display) := by
  simp only [validate, Run.outcome_bind, Run.outcome_emit, Run.outcome_lift, Attempt.ok_bind]
  cases schema.verdict env data options with
  | error fault => simp
  | ok verdict =>
      cases options.debug with
      | false => simp
      | true =>
          simp only [if_true, Attempt.ok_bind, Run.outcome_bind, Run.outcome_lift,
            Except.ok.injEq, exists_eq', true_and, forall_const, forall_eq']
          cases Display.ofVerdict verdict schema.title with
          | error fault => simp
          | ok display => exact iff_of_true ⟨verdict, rfl⟩ ⟨display, rfl⟩

/-- A validation whose stages before the hook pass ends in a verdict exactly when the outcome of
the hook is reportable and the verdict can be displayed if it has to be; and the verdict accepts a
mapping or rejects for a reason. -/
theorem validate_returns_iff (env : Environment) (schema : Schema) (data : Value)
    (options : Options) (record : Value)
    (passed : Record.candidate env (schema.rulesWith env options.coerce)
      (options.strict.getD schema.strict) data options.path = .ok (.accepted record)) :
    ((∃ verdict, (validate env schema data options).outcome = .ok verdict) ↔
      (∀ handle, schema.hook = some handle → (env.review handle record).Reportable) ∧
      (options.debug = true → ∀ verdict, schema.verdict env data options = .ok verdict →
        ∃ display, Display.ofVerdict verdict schema.title = .ok display)) ∧
    ∀ verdict, (validate env schema data options).outcome = .ok verdict →
      (∃ entries, verdict = .accepted (.map entries)) ∨
        ∃ first rest, verdict = .rejected (first :: rest) := by
  constructor
  · rw [validate_returns_iff_check, Schema.verdict, Record.check_iff_of_candidate passed,
      Record.review_iff]
  · intro verdict validated
    have checked := verdict_of_validate validated
    cases verdict with
    | accepted result =>
        rcases Record.map_of_check checked with ⟨entries, rfl⟩
        exact .inl ⟨entries, rfl⟩
    | rejected violations =>
        cases violations with
        | nil => exact absurd checked (Record.check_evident _ _ _ _ _ _)
        | cons first rest => exact .inr ⟨first, rest, rfl⟩

/-- A hook that gives messages and records with text codes, at several depths, and things that are
neither: the validation ends in a verdict. -/
theorem validate_returns_of_nested_reason :
    let record : Violation := ⟨[.str "end"], .str "range", .str "end before start", .null⟩
    let reason : Value := .list [.str "first", .list [.violation record, .tuple [.str "second"]],
      .list [], .bool true]
    let env : Environment := { Environment.bare with review := fun _ _ => .returned (.err reason) }
    let field : Field := ⟨"end", .primitive .integer, true, [], .null, .null, .null⟩
    let schema : Schema := ⟨[field], .null, .null, true, some 0, []⟩
    ∃ verdict, (validate env schema (.map [(.str "end", .int 1)])
      ⟨false, none, [.int 3], false⟩).outcome = .ok verdict := by
  intro record reason env field schema
  refine (validate_returns_iff env schema (.map [(.str "end", .int 1)])
    ⟨false, none, [.int 3], false⟩ (.record [("end", .int 1)]) rfl).1.mpr ⟨?_, nofun⟩
  intro handle _
  refine ⟨?_, ?_, nofun⟩
  · intro handed among
    cases List.mem_singleton.mp among
    exact ⟨"range", rfl⟩
  · have stray : (env.review handle (.record [("end", .int 1)])).strayParts =
        [.list [], .bool true] := rfl
    rw [stray]
    simp only [List.forall_mem_cons, List.not_mem_nil, false_implies, implies_true, and_true]
    exact ⟨⟨"[]", rfl⟩, ⟨"True", rfl⟩⟩

/-- A hook that hands out a record whose code is a number leaves the validation without a verdict,
though all stages before the hook pass. -/
theorem validate_faults_of_numeric_code :
    let record : Violation := ⟨[], .int 42, .str "m", .null⟩
    let env : Environment := { Environment.bare with
      review := fun _ _ => .returned (.err (.violation record)) }
    let field : Field := ⟨"a", .primitive .integer, true, [], .null, .null, .null⟩
    let schema : Schema := ⟨[field], .null, .null, false, some 0, []⟩
    let data : Value := .map [(.str "a", .int 1)]
    Record.candidate env (schema.rulesWith env false) false data [] = .ok (.accepted data) ∧
      ∀ verdict, (validate env schema data ⟨false, none, [], false⟩).outcome ≠ .ok verdict := by
  intro record env field schema data
  refine ⟨rfl, ?_⟩
  intro verdict validated
  have faulted : (validate env schema data ⟨false, none, [], false⟩).outcome =
      .error .notText := rfl
  rw [faulted] at validated
  cases validated

end Schema

end Conform
