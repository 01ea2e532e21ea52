import Conform.Proofs.Assembly
import Conform.Proofs.Codes
import Conform.Proofs.Lookups

/-!
# Values on their own

A value on its own is validated as the only field of a temporary record, and the name of that field
is taken off the front of every path.  Without a base path this gives what the conversion, the type
and the constraints of the field give one after another: the other stages of a record find nothing.
Below a base path it is the base path that stands in front, so the name usually stays where it is.
-/

namespace Conform

/-- What a field does with a value on its own: its conversion, if asked for, then its type, then its
constraints, each of which decides if it rejects. -/
def Field.chain (env : Environment) (coerce : Bool) (field : Field) (value : Value) :
    Attempt (Verdict Value) := do
  match ← if coerce then field.type.coerce env value [] else .ok (.accepted value) with
  | .rejected violations => return .rejected violations
  | .accepted converted =>
    match ← (field.type.validate env converted []).outcome with
    | .rejected violations => return .rejected violations
    | .accepted checked => Constraint.checkAll field.constraints checked []

/-- The chain is the check of the field, with a conversion before it if asked for. -/
@[simp] theorem Field.chain_eq (env : Environment) (coerce : Bool) (field : Field) (value : Value) :
    field.chain env coerce value = field.checkWith env coerce value [] := by
  have checked (converted : Value) : field.check env converted [] =
      (field.type.validate env converted []).outcome >>= fun verdict => match verdict with
        | .rejected violations => return .rejected violations
        | .accepted result => Constraint.checkAll field.constraints result [] := by
    rw [Field.check_eq]
    simp only [TypeSpec.validate, Run.outcome_bind, Run.outcome_emit, Run.outcome_lift,
      Attempt.ok_bind]
    apply Attempt.bind_congr
    intro verdict
    cases verdict <;> rfl
  cases coerce with
  | false =>
      rw [checkWith, if_neg Bool.false_ne_true, checked]
      rfl
  | true =>
      apply Attempt.bind_congr
      intro verdict
      cases verdict with
      | rejected violations => rfl
      | accepted converted => exact (checked converted).symm

namespace Verdict

variable {verdict : Verdict Value}

@[simp] theorem under_nil (verdict : Verdict Value) : verdict.under [] = verdict := by
  cases verdict with
  | accepted result => rfl
  | rejected violations =>
      exact congrArg rejected (List.map_id'' Violation.under_nil violations)

@[simp] theorem isAccepted_under (root : Path) :
    (verdict.under root).isAccepted = verdict.isAccepted := by
  cases verdict <;> rfl

theorem under_eq_under_iff (evident : verdict ≠ .rejected []) {root other : Path} :
    verdict.under root = verdict.under other ↔ verdict.isAccepted = true ∨ root = other := by
  cases verdict with
  | accepted result => exact iff_of_true rfl (.inl rfl)
  | rejected violations =>
      constructor
      · intro same
        cases violations with
        | nil => exact absurd rfl evident
        | cons first rest =>
            have heads := (List.cons.inj (rejected.inj same)).1
            exact .inr (List.append_cancel_right (congrArg Violation.path heads))
      · rintro (accepted | rfl)
        · cases accepted
        · rfl

end Verdict

/-- Whether an attempt gives a result, or else its fault. -/
def Attempt.settled {α : Type} (attempt : Attempt α) : Attempt Unit := attempt.map fun _ => ()

theorem Attempt.settled_bind {α β γ δ : Type} {attempt : Attempt α} {other : Attempt β}
    {next : α → Attempt γ} {otherNext : β → Attempt δ} (same : attempt.settled = other.settled)
    (each : ∀ result otherResult, (next result).settled = (otherNext otherResult).settled) :
    (attempt >>= next).settled = (other >>= otherNext).settled := by
  cases attempt with
  | error fault =>
      cases other with
      | error otherFault => exact congrArg Except.error (Except.error.inj same)
      | ok otherResult => cases same
  | ok result =>
      cases other with
      | error otherFault => cases same
      | ok otherResult => exact each result otherResult

namespace Single

/-! ## Records of one field -/

/-- The field of the temporary record. -/
def fieldOf (name spec constraints : Value) : Attempt Field := do
  let options ← constraints.entriesIfAny
  Field.ofSpec (.tuple [name, spec, .map options])

/-- The schema with a single field. -/
def schemaFor (field : Field) : Schema := ⟨[field], .null, .null, false, none, []⟩

theorem schemaOf_eq_map (name spec constraints : Value) :
    schemaOf name spec constraints = (fieldOf name spec constraints).map schemaFor := by
  simp only [schemaOf, fieldOf, Attempt.map_bind]
  apply Attempt.bind_congr
  intro options
  show (Schema.fieldsOfSpecs [] [Value.tuple [name, spec, .map options]] >>= _) = _
  simp only [Schema.fieldsOfSpecs]
  cases Field.ofSpec (.tuple [name, spec, .map options]) <;> rfl

/-- A record that holds nothing but its only field passes every stage except the check of that
field. -/
theorem stages_of_only (env : Environment) (rule : Rule) (evident : rule.check.Evident)
    (strict : Bool) (value : Value) (path : Path) :
    Record.stages env [rule] strict none (.map [(.str rule.field.name, value)]) path =
      (rule.check value (path ++ [.str rule.field.name])).map
        (Verdict.map fun result => .record [(rule.field.name, result)]) := by
  have self : (Value.str rule.field.name == .str rule.field.name) = true :=
    beq_self_eq_true rule.field.name
  have found : Record.lookup env [(.str rule.field.name, value)] rule.field.name = some value := by
    simp [Record.lookup, Entries.get?, self]
  have complete : Record.missing env [rule.field] [(.str rule.field.name, value)] path = [] := by
    simp [Record.missing, found]
  have known : Record.extraNames [rule.field.name] [] [.str rule.field.name] = .ok [] := by
    simp [Record.extraNames, Record.keyName, Value.plain]
  simp only [Record.stages, Record.candidate, List.map_cons, List.map_nil, complete, Record.gather,
    Record.fieldVerdict, found]
  cases answered : rule.check value (path ++ [.str rule.field.name]) with
  | error fault => rfl
  | ok verdict =>
      cases verdict with
      | accepted result =>
          cases strict with
          | false => rfl
          | true =>
              simp only [Attempt.ok_bind, pure, Except.pure, Record.addVerdict, List.map_cons,
                List.map_nil, known]
              rfl
      | rejected violations =>
          cases violations with
          | nil => exact absurd answered (evident _ _)
          | cons first rest =>
              simp only [Attempt.ok_bind, pure, Except.pure, Record.addVerdict, List.append_nil]
              rfl

/-! ## Paths -/

/-- What is left of the path of the value, which is the base path with the name behind it, when the
name is taken off the front. -/
def residue (name : String) : Path → Path
  | [] => []
  | first :: rest => (if first == .str name then rest else first :: rest) ++ [.str name]

@[simp] theorem stripField_under_residue (name : String) (path : Path) (violation : Violation) :
    stripField (.str name) (violation.under (path ++ [.str name])) =
      violation.under (residue name path) := by
  cases path with
  | nil =>
      rw [List.nil_append, Pairs.stripField_under, residue, Violation.under_nil]
  | cons first rest =>
      simp only [stripField, Violation.under, residue, List.cons_append]
      split <;> rfl

@[simp] theorem append_singleton_eq_cons_iff {α : Type} {places : List α} {place : α} :
    places ++ [place] = place :: places ↔ ∀ other ∈ places, other = place := by
  induction places with
  | nil => simp
  | cons first rest ih =>
      rw [List.cons_append, List.cons.injEq, List.forall_mem_cons]
      constructor
      · rintro ⟨rfl, same⟩
        exact ⟨rfl, ih.mp same⟩
      · rintro ⟨rfl, each⟩
        exact ⟨rfl, ih.mpr each⟩

/-- Nothing but the base path is left exactly if the name stands at all of its places. -/
@[simp] theorem residue_eq_self_iff {name : String} {path : Path} :
    residue name path = path ↔ ∀ place ∈ path, place = .str name := by
  cases path with
  | nil => exact iff_of_true rfl (List.forall_mem_nil _)
  | cons first rest =>
      rw [List.forall_mem_cons, residue]
      split
      case isTrue same =>
        cases Value.beq_str_iff.mp same
        rw [append_singleton_eq_cons_iff]
        exact (and_iff_right rfl).symm
      case isFalse differs =>
        constructor
        · intro same
          simpa using congrArg List.length same
        · rintro ⟨rfl, _⟩
          exact absurd (Value.beq_str_iff.mpr rfl) differs

@[simp] theorem residue_eq_iff {first second : String} {path : Path} :
    residue first path = residue second path ↔ first = second ∨ path = [] := by
  cases path with
  | nil => exact iff_of_true rfl (.inr rfl)
  | cons place rest =>
      simp only [reduceCtorEq, or_false]
      constructor
      · intro same
        -- The name stands at the end of what is left.
        have ends := (List.append_inj_right' same rfl)
        cases ends
        rfl
      · rintro rfl
        rfl

/-! ## Displays -/

/-- The display of the verdict on the value, if there is to be one: it may fault. -/
def shown (options : Options) : Verdict Value → Attempt Unit
  | .accepted _ => .ok ()
  | .rejected violations =>
    if options.debug then
      (Panel.ofViolations (violations.map (Violation.under options.path)) .null).settled
    else .ok ()

theorem placeTexts_settled (path : Path) (name : String) (rest : Path) :
    (Violation.placeTexts (path ++ .str name :: rest)).settled =
      (Violation.placeTexts (path ++ rest)).settled := by
  induction path with
  | nil =>
      show (Violation.placeTexts rest >>= fun texts => .ok (name :: texts)).settled =
        (Violation.placeTexts rest).settled
      cases Violation.placeTexts rest <;> rfl
  | cons place path ih =>
      exact Attempt.settled_bind rfl fun _ _ => Attempt.settled_bind ih fun _ _ => rfl

theorem row_settled (path : Path) (name : String) (violation : Violation) :
    (Panel.row (violation.under (path ++ [.str name]))).settled =
      (Panel.row (violation.under path)).settled := by
  have places : (Violation.placeTexts (violation.under (path ++ [.str name])).path).settled =
      (Violation.placeTexts (violation.under path).path).settled := by
    rw [Violation.under, Violation.under, List.append_assoc]
    exact placeTexts_settled path name violation.path
  exact Attempt.settled_bind places fun _ _ =>
    Attempt.settled_bind rfl fun _ _ => Attempt.settled_bind rfl fun _ _ => rfl

theorem ofViolations_settled (violations : List Violation) :
    (Panel.ofViolations violations .null).settled = (violations.mapM Panel.row).settled := by
  simp only [Panel.ofViolations]
  cases violations.mapM Panel.row <;> rfl

theorem panel_settled (path : Path) (name : String) (violations : List Violation) :
    (Panel.ofViolations (violations.map (Violation.under (path ++ [.str name]))) .null).settled =
      (Panel.ofViolations (violations.map (Violation.under path)) .null).settled := by
  rw [ofViolations_settled, ofViolations_settled]
  induction violations with
  | nil => rfl
  | cons violation rest ih =>
      simp only [List.map_cons, List.mapM_cons]
      exact Attempt.settled_bind (row_settled path name violation) fun _ _ =>
        Attempt.settled_bind ih fun _ _ => rfl

/-! ## Outcomes -/

theorem display_settled (options : Options) (field : Field) (alone : Verdict Value) :
    (if options.debug then
      (Display.ofVerdict ((alone.under (options.path ++ [.str field.name])).map fun result =>
        .record [(field.name, result)]) .null).settled
    else .ok ()) = shown options alone := by
  cases alone with
  | accepted result => exact ite_self (Except.ok ())
  | rejected violations =>
      rw [shown]
      split
      · rw [← panel_settled options.path field.name]
        simp only [Verdict.under, Verdict.map, Display.ofVerdict]
        cases Panel.ofViolations (violations.map
          (Violation.under (options.path ++ [.str field.name]))) .null <;> rfl
      · rfl

/-- The record of a single field has the verdict of the chain below the name of the field, if that
verdict can be summed up. -/
theorem verdict_schemaFor (env : Environment) (field : Field) (value : Value) (options : Options) :
    (schemaFor field).verdict env (.map [(.str field.name, value)]) options = (do
      let alone ← field.chain env options.coerce value
      let _ ← Record.codes alone.violations
      return (alone.under (options.path ++ [.str field.name])).map fun result =>
        .record [(field.name, result)]) := by
  have staged := stages_of_only env ⟨field, field.checkWith env options.coerce⟩
    (field.checkWith_evident env options.coerce) (options.strict.getD false) value options.path
  have rooted :=
    field.checkWith_rooted env options.coerce (options.path ++ [.str field.name]) value []
  rw [List.append_nil] at rooted
  simp only [Schema.verdict, Schema.rulesWith, schemaFor, List.map_cons, List.map_nil, Record.check,
    staged, rooted, field.chain_eq]
  cases field.checkWith env options.coerce value [] with
  | error fault => rfl
  | ok alone =>
      cases alone with
      | accepted result => rfl
      | rejected violations =>
          have same : Record.codes (violations.map
              (Violation.under (options.path ++ [.str field.name]))) = Record.codes violations :=
            Record.codes_congr (by rw [List.map_map]; rfl)
          simp [Verdict.under, Verdict.map, same, Verdict.violations]

theorem unwrap_under (name : String) (path : Path) (alone : Verdict Value) :
    unwrap (.str name) ((alone.under (path ++ [.str name])).map fun result =>
      .record [(name, result)]) = alone.under (residue name path) := by
  cases alone with
  | accepted result =>
      simp [Verdict.under, Verdict.map, unwrap, Value.record, Value.entries?, Entries.get?_ofTexts]
  | rejected violations =>
      simp only [Verdict.under, Verdict.map, unwrap, List.map_map]
      exact congrArg Verdict.rejected
        (List.map_congr_left fun violation _ => stripField_under_residue name path violation)

/-- The outcome for a value on its own: that of the chain, below what is left of its path. -/
theorem outcome_run (env : Environment) (field : Field) (value : Value) (named : NamedOptions) :
    (run env (schemaFor field) (.str field.name) value named).outcome = (do
      let options ← Options.ofNamed named
      let alone ← field.chain env options.coerce value
      let _ ← Record.codes alone.violations
      shown options alone
      return alone.under (residue field.name options.path)) := by
  simp only [run, validateNamed, validate, Run.outcome_bind, Run.outcome_lift, Run.outcome_pure,
    Run.outcome_emit, Attempt.ok_bind, verdict_schemaFor]
  cases Options.ofNamed named with
  | error fault => rfl
  | ok options =>
      simp only [Attempt.ok_bind]
      cases field.chain env options.coerce value with
      | error fault => rfl
      | ok alone =>
          simp only [Attempt.ok_bind]
          cases Record.codes alone.violations with
          | error fault => rfl
          | ok texts =>
              rw [← display_settled options field alone, ← unwrap_under]
              simp only [Attempt.ok_bind, pure, Except.pure]
              generalize (alone.under (options.path ++ [.str field.name])).map
                (fun result => Value.record [(field.name, result)]) = verdict
              cases options.debug with
              | false => rfl
              | true =>
                  simp only [if_true, Run.outcome_bind, Run.outcome_lift, Run.outcome_emit]
                  show _ = (Display.ofVerdict verdict (schemaFor field).title).settled >>= _
                  cases Display.ofVerdict verdict (schemaFor field).title <;> rfl

/-! ## Definitions under two names -/

/-- Two attempts that differ in the name of a field give results that are related, or end with the
same fault, or with accounts that begin with the names. -/
inductive Alike (first second : String) {α : Type} (related : α → α → Prop) :
    Attempt α → Attempt α → Prop where
  | results {result other : α} (same : related result other) :
      Alike first second related (.ok result) (.ok other)
  | faults (fault : Fault) : Alike first second related (.error fault) (.error fault)
  | accounts (account : String) : Alike first second related
      (.error (.malformedDefinition ("Field " ++ quoted first ++ account)))
      (.error (.malformedDefinition ("Field " ++ quoted second ++ account)))

section Definitions

variable {first second : String}

theorem Alike.of_eq {α : Type} (attempt : Attempt α) : Alike first second Eq attempt attempt := by
  cases attempt with
  | error fault => exact .faults fault
  | ok result => exact .results rfl

theorem Alike.bind {α β : Type} {related : α → α → Prop} {relatedNext : β → β → Prop}
    {attempt other : Attempt α} {next otherNext : α → Attempt β}
    (alike : Alike first second related attempt other)
    (each : ∀ result otherResult, related result otherResult →
      Alike first second relatedNext (next result) (otherNext otherResult)) :
    Alike first second relatedNext (attempt >>= next) (other >>= otherNext) := by
  cases alike with
  | results same => exact each _ _ same
  | faults fault => exact .faults fault
  | accounts account => exact .accounts account

theorem refuse_alike {α : Type} {related : α → α → Prop} (flaw : String → DefinitionFlaw)
    (rest : Attempt String)
    (leads : ∀ name, (flaw name).account = rest.map fun text => "Field " ++ quoted name ++ text) :
    Alike first second related (flaw first).refuse (flaw second).refuse := by
  simp only [DefinitionFlaw.refuse, leads]
  cases rest with
  | error fault => exact .faults fault
  | ok text => exact .accounts text

theorem checkOptions_alike (options : Entries) : Alike first second Eq
    (FieldSpec.checkOptions first options) (FieldSpec.checkOptions second options) := by
  simp only [FieldSpec.checkOptions]
  generalize (options.map Prod.fst).filter (fun key => !FieldSpec.isOption key) = unknown
  cases unknown with
  | nil => exact .results rfl
  | cons option others =>
      refine refuse_alike (DefinitionFlaw.fieldOptions · (option :: others))
        ((Value.list (option :: others)).literal.map fun text => ": invalid field options " ++ text)
        fun name => ?_
      simp only [DefinitionFlaw.account]
      cases (Value.list (option :: others)).literal with
      | error fault => rfl
      | ok text => exact congrArg Except.ok String.append_assoc

theorem resolveType_alike (type : Value) : Alike first second Eq
    (FieldSpec.resolveType first type) (FieldSpec.resolveType second type) := by
  unfold FieldSpec.resolveType
  cases type.toSpec with
  | ok spec => exact .results rfl
  | error fault =>
      cases fault with
      | malformedDefinition account =>
          exact refuse_alike (DefinitionFlaw.inField · account) (.ok (": " ++ account))
            fun _ => congrArg Except.ok String.append_assoc
      | _ => exact .faults _

theorem resolveRequired_alike (options : Entries) : Alike first second Eq
    (FieldSpec.resolveRequired first options) (FieldSpec.resolveRequired second options) := by
  unfold FieldSpec.resolveRequired
  dsimp only
  generalize
    ((options.get? (.str "required")).isSome && (options.get? (.str "optional")).isSome) = both
  cases both with
  | true =>
      exact refuse_alike DefinitionFlaw.requiredAndOptional
        (.ok ": cannot specify both 'required' and 'optional'") fun _ => rfl
  | false =>
      simp only [Bool.false_eq_true, if_false]
      split
      all_goals
        split
        · exact refuse_alike DefinitionFlaw.requiredWithDefault
            (.ok ": a field with a default cannot be required") fun _ => rfl
        · exact .results rfl

theorem checkChoices_alike (options : Entries) : Alike first second Eq
    (FieldSpec.checkChoices first options) (FieldSpec.checkChoices second options) := by
  unfold FieldSpec.checkChoices
  cases options.get? (.str "choices") with
  | none => exact .results rfl
  | some allowed =>
      dsimp only
      split
      case isTrue => exact .results rfl
      case isFalse =>
        refine refuse_alike (DefinitionFlaw.choicesForm · allowed)
          (allowed.literal.map fun text => ": choices must be a collection of values, got " ++ text)
          fun name => ?_
        simp only [DefinitionFlaw.account]
        cases allowed.literal with
        | error fault => rfl
        | ok text => exact congrArg Except.ok String.append_assoc

/-- Under two names the same field is defined but for its name, or it is refused for the same
flaw. -/
theorem fieldOf_alike (identifier : isIdentifier first = true)
    (otherIdentifier : isIdentifier second = true) (spec constraints : Value) :
    Alike first second (fun field other =>
      field.name = first ∧ other = { field with name := second })
      (fieldOf (.str first) spec constraints) (fieldOf (.str second) spec constraints) := by
  have named := FieldSpec.checkName_eq_ok_iff.mpr ⟨rfl, identifier⟩
  have otherNamed := FieldSpec.checkName_eq_ok_iff.mpr ⟨rfl, otherIdentifier⟩
  refine (Alike.of_eq constraints.entriesIfAny).bind ?_
  rintro options _ rfl
  simp only [Field.ofSpec, FieldSpec.split, named, otherNamed, Attempt.ok_bind]
  refine (checkOptions_alike options).bind ?_
  rintro _ _ rfl
  refine (resolveType_alike spec).bind ?_
  rintro type _ rfl
  refine (resolveRequired_alike options).bind ?_
  rintro required _ rfl
  refine (checkChoices_alike options).bind ?_
  rintro _ _ rfl
  refine (Alike.of_eq (FieldSpec.foldBounds type (FieldSpec.constraintsOf options))).bind ?_
  rintro folded _ rfl
  exact .results ⟨rfl, rfl⟩

end Definitions

theorem name_of_fieldOf {name : String} {spec constraints : Value} {field : Field}
    (defined : fieldOf (.str name) spec constraints = .ok field) : field.name = name := by
  obtain ⟨options, _, defined⟩ := Attempt.bind_eq_ok_iff.mp defined
  have named := ((Field.ofSpec_eq_ok_iff rfl).mp defined).named
  exact (Value.str.inj (FieldSpec.checkName_eq_ok_iff.mp named).1).symm

/-! ## The name of the field -/

section Names

variable {env : Environment} {spec value constraints : Value} {named : NamedOptions}

theorem outcome_validateValue (name : Value) :
    (validateValue env name spec value constraints named).outcome =
      fieldOf name spec constraints >>= fun field =>
        (run env (schemaFor field) name value named).outcome := by
  simp [validateValue, schemaOf_eq_map]

theorem chain_of_validateValue {name : String} {options : Options} {verdict : Verdict Value}
    (read : Options.ofNamed named = .ok options)
    (validated : (validateValue env (.str name) spec value constraints named).outcome =
      .ok verdict) :
    ∃ field alone, fieldOf (.str name) spec constraints = .ok field ∧
      field.chain env options.coerce value = .ok alone ∧
      verdict = alone.under (residue name options.path) := by
  rw [outcome_validateValue] at validated
  obtain ⟨field, defined, validated⟩ := Attempt.bind_eq_ok_iff.mp validated
  cases name_of_fieldOf defined
  rw [outcome_run, read, Attempt.ok_bind] at validated
  obtain ⟨alone, chained, validated⟩ := Attempt.bind_eq_ok_iff.mp validated
  obtain ⟨_, _, validated⟩ := Attempt.bind_eq_ok_iff.mp validated
  obtain ⟨_, same⟩ := Attempt.then_eq_ok_iff.mp validated
  exact ⟨field, alone, defined, chained, (Except.ok.inj same).symm⟩

/-- Two verdicts are one and the same verdict, below what two names leave of a base path. -/
def Relocated (named : NamedOptions) (first second : String)
    (verdict other : Verdict Value) : Prop :=
  ∃ (options : Options) (alone : Verdict Value), Options.ofNamed named = .ok options ∧
    alone ≠ .rejected [] ∧ verdict = alone.under (residue first options.path) ∧
    other = alone.under (residue second options.path)

/-- Under two names the verdicts on a value are the same, apart from where their violations lie. -/
theorem validateValue_alike {first second : String} (identifier : isIdentifier first = true)
    (otherIdentifier : isIdentifier second = true) :
    Alike first second (Relocated named first second)
      (validateValue env (.str first) spec value constraints named).outcome
      (validateValue env (.str second) spec value constraints named).outcome := by
  rw [outcome_validateValue, outcome_validateValue]
  refine (fieldOf_alike identifier otherIdentifier spec constraints).bind ?_
  rintro field _ ⟨rfl, rfl⟩
  rw [outcome_run env field, outcome_run env { field with name := second }]
  cases read : Options.ofNamed named with
  | error fault => exact .faults fault
  | ok options =>
      have evident := field.checkWith_evident env options.coerce value []
      rw [← field.chain_eq] at evident
      show Alike _ _ _ (field.chain env options.coerce value >>= _)
        (field.chain env options.coerce value >>= _)
      cases chained : field.chain env options.coerce value with
      | error fault => exact .faults fault
      | ok alone =>
          have reasoned : alone ≠ .rejected [] := fun none => evident (none ▸ chained)
          refine (Alike.of_eq (Record.codes alone.violations)).bind ?_
          rintro _ _ rfl
          refine (Alike.of_eq (shown options alone)).bind ?_
          rintro _ _ rfl
          exact .results ⟨options, alone, read, reasoned, rfl, rfl⟩

/-- What the name of the field means for the validation of a value on its own. -/
structure NameLaw (env : Environment) (spec value constraints : Value) (named : NamedOptions) :
    Prop where
  /-- Under two names there is the same verdict, apart from where its violations lie, or the same
  fault, apart from the name in an account. -/
  alike : ∀ first second, isIdentifier first = true → isIdentifier second = true →
    Alike first second (Relocated named first second)
      (validateValue env (.str first) spec value constraints named).outcome
      (validateValue env (.str second) spec value constraints named).outcome
  /-- Validation against a type is validation under a name like any other. -/
  anonymous : ∀ name, isIdentifier name = true →
    Alike name "value" (Relocated named name "value")
      (validateValue env (.str name) spec value constraints named).outcome
      (validateType env spec value constraints named).outcome
  /-- Two names give the same verdict exactly if it accepts, or the names are one, or there is no
  base path. -/
  agree_iff : ∀ first second options verdict, isIdentifier first = true →
    isIdentifier second = true → Options.ofNamed named = .ok options →
    (validateValue env (.str first) spec value constraints named).outcome = .ok verdict →
    ((validateValue env (.str second) spec value constraints named).outcome = .ok verdict ↔
      verdict.isAccepted = true ∨ first = second ∨ options.path = [])
  /-- The verdict is that of the chain of the field, below what is left of the path of the value.
  This is the base path exactly if the verdict accepts or the name stands at all places of the base
  path. -/
  located : ∀ name options verdict, Options.ofNamed named = .ok options →
    (validateValue env (.str name) spec value constraints named).outcome = .ok verdict →
    ∃ field alone, fieldOf (.str name) spec constraints = .ok field ∧
      field.chain env options.coerce value = .ok alone ∧
      verdict = alone.under (residue name options.path) ∧
      (verdict = alone.under options.path ↔
        verdict.isAccepted = true ∨ ∀ place ∈ options.path, place = .str name)

/-- The name of the field shows in a verdict only behind a base path, where it is not taken off. -/
theorem nameLaw (env : Environment) (spec value constraints : Value) (named : NamedOptions) :
    NameLaw env spec value constraints named where
  alike first second := validateValue_alike
  anonymous name identifier := validateValue_alike identifier (by decide)
  agree_iff := by
    intro first second options verdict identifier otherIdentifier read validated
    have alike := @validateValue_alike env spec value constraints named first second identifier
      otherIdentifier
    rw [validated] at alike
    generalize (validateValue env (.str second) spec value constraints named).outcome = outcome
      at alike
    obtain ⟨_, alone, sameRead, evident, rfl, rfl⟩ | _ := alike
    cases read.symm.trans sameRead
    rw [Verdict.isAccepted_under, ← residue_eq_iff, ← Verdict.under_eq_under_iff evident,
      Except.ok.injEq]
    exact eq_comm
  located := by
    intro name options verdict read validated
    obtain ⟨field, alone, defined, chained, rfl⟩ := chain_of_validateValue read validated
    have evident : alone ≠ .rejected [] := by
      rintro rfl
      rw [field.chain_eq] at chained
      exact field.checkWith_evident env options.coerce value [] chained
    refine ⟨field, alone, defined, chained, rfl, ?_⟩
    rw [Verdict.under_eq_under_iff evident, residue_eq_self_iff, Verdict.isAccepted_under]

/-- Behind a base path the name of the field stays in the path of a violation. -/
theorem name_stays_in_path :
    isIdentifier "age" = true ∧ isIdentifier "size" = true ∧
    (validateValue .bare (.str "age") (.str "integer") (.str "x") .null
      [("path", .list [.int 3])]).outcome =
        .ok (.rejected [.wrongSort [.int 3, .str "age"] "integer" "string"]) ∧
    (validateValue .bare (.str "age") (.str "integer") (.str "x") .null
      [("path", .list [.int 3])]).outcome ≠
    (validateValue .bare (.str "size") (.str "integer") (.str "x") .null
      [("path", .list [.int 3])]).outcome ∧
    (validateValue .bare (.str "age") (.str "integer") (.str "x") .null
      [("path", .list [.int 3])]).outcome ≠
    (validateType .bare (.str "integer") (.str "x") .null [("path", .list [.int 3])]).outcome := by
  let refused (name : String) : Attempt (Verdict Value) :=
    .ok (.rejected [.wrongSort [.int 3, .str name] "integer" "string"])
  have apart {name other : String} (same : refused name = refused other) : name = other := by
    have violations := Verdict.rejected.inj (Except.ok.inj same)
    have paths := congrArg Violation.path (List.cons.inj violations).1
    cases paths
    rfl
  have sized : "age" ≠ "size" := by decide
  have valued : "age" ≠ "value" := by decide
  exact ⟨by decide, by decide, rfl, fun same => sized (apart same), fun same => valued (apart same)⟩

end Names

/-! ## The chain of the field -/

/-- Moving bounds into a type changes nothing about the targets that it refers to. -/
theorem targets_of_foldBounds {type folded : TypeSpec} {constraints kept : List Constraint}
    (moved : FieldSpec.foldBounds type constraints = .ok (folded, kept)) :
    folded.targets = type.targets := by
  unfold FieldSpec.foldBounds at moved
  split at moved
  case h_1 inner minItems maxItems =>
    split at moved
    case isTrue =>
      obtain ⟨_, same⟩ := Attempt.then_eq_ok_iff.mp moved
      cases same
      rfl
    case isFalse =>
      cases moved
      rfl
  case h_2 =>
    cases moved
    rfl

theorem targets_of_fieldOf {name spec constraints : Value} {field : Field}
    (defined : fieldOf name spec constraints = .ok field) :
    ∃ type, spec.toSpec = .ok type ∧ field.type.targets = type.targets := by
  obtain ⟨options, _, defined⟩ := Attempt.bind_eq_ok_iff.mp defined
  obtain ⟨type, resolved, moved⟩ := ((Field.ofSpec_eq_ok_iff rfl).mp defined).typed
  exact ⟨type, resolved, targets_of_foldBounds moved⟩

variable {env : Environment} {spec constraints : Value} {named : NamedOptions}
  {options : Options}

/-- Without a base path and without a display, the outcome for a value on its own is that of the
chain of its field. -/
theorem outcome_run_of_coded {field : Field} (read : Options.ofNamed named = .ok options)
    (rootless : options.path = []) (silent : options.debug = false)
    (coded : field.type.TargetsCoded env) (value : Value) :
    (run env (schemaFor field) (.str field.name) value named).outcome =
      field.chain env options.coerce value := by
  have texts := field.checkWith_coded coded options.coerce value []
  rw [← field.chain_eq] at texts
  rw [outcome_run, read, Attempt.ok_bind]
  cases chained : field.chain env options.coerce value with
  | error fault => rfl
  | ok alone =>
      have each : ∀ violation ∈ alone.violations, violation.HasTextCode := by
        cases alone with
        | accepted result => exact List.forall_mem_nil _
        | rejected violations => exact texts violations chained
      obtain ⟨codes, summed⟩ := Record.exists_codes_iff.mpr each
      have unseen : shown options alone = .ok () := by
        cases alone with
        | accepted result => rfl
        | rejected violations => rw [shown, silent, if_neg Bool.false_ne_true]
      simp [summed, unseen, rootless, residue]

/-- Validating values against a type agrees with the conversion, the type and the constraints of its
field, one after another. -/
structure CoreAgreement (env : Environment) (spec constraints : Value) (named : NamedOptions)
    (coerce : Bool) : Prop where
  /-- The field is defined, or refused with its fault, and then has the value go through its
  chain. -/
  validated : ∀ value, (validateType env spec value constraints named).outcome =
    fieldOf fieldName spec constraints >>= fun field => field.chain env coerce value
  /-- A validator is made exactly if the field is defined, and refused with the fault of the
  field. -/
  made : (ValueValidator.make spec constraints named).settled =
    (fieldOf fieldName spec constraints).settled
  /-- A validator answers to every value as a single validation does. -/
  reused : ∀ validator, ValueValidator.make spec constraints named = .ok validator → ∀ value,
    (validator.validate env value).outcome = (validateType env spec value constraints named).outcome

/-- Without a base path and without a display, validating values against a type is running the core
functions on the field of that type.  The options of the field, and whether the record is strict,
make no difference to that. -/
theorem coreAgreement (read : Options.ofNamed named = .ok options) (rootless : options.path = [])
    (silent : options.debug = false)
    (coded : ∀ type, spec.toSpec = .ok type → type.TargetsCoded env) :
    CoreAgreement env spec constraints named options.coerce := by
  have unrepeated : refuseRepeated ["type_spec", "constraints"] named = .ok () :=
    Options.refuseRepeated_of_ofNamed read (by decide)
  have made : ValueValidator.make spec constraints named =
      (fieldOf fieldName spec constraints).map fun field => ⟨schemaFor field, named⟩ := by
    simp only [ValueValidator.make, unrepeated, schemaOf_eq_map, Attempt.ok_bind]
    cases fieldOf fieldName spec constraints <;> rfl
  constructor
  case validated =>
    intro value
    rw [validateType, outcome_validateValue]
    cases defined : fieldOf fieldName spec constraints with
    | error fault => rfl
    | ok field =>
        obtain ⟨type, resolved, same⟩ := targets_of_fieldOf defined
        have fieldCoded : field.type.TargetsCoded env := by
          rw [TypeSpec.TargetsCoded, same]
          exact coded type resolved
        have outcome := outcome_run_of_coded read rootless silent fieldCoded value
        rw [name_of_fieldOf defined] at outcome
        exact outcome
  case made =>
    rw [made]
    cases fieldOf fieldName spec constraints <;> rfl
  case reused =>
    intro validator built value
    rw [made] at built
    rw [validateType, outcome_validateValue]
    cases defined : fieldOf fieldName spec constraints with
    | error fault =>
        rw [defined] at built
        cases built
    | ok field =>
        rw [defined] at built
        cases built
        rfl

/-- The items of an array go to a target that refuses with a record of its own, in whose path the
name of the field occurs; the bound of the array is moved into its type. -/
theorem coreAgreement_of_target :
    let object : Target := ⟨0, "T", "T"⟩
    let record : Violation := ⟨[.str "value"], .str "odd", .str "not a text", .null⟩
    let env : Environment := { Environment.bare with
      respond := fun _ value => match value with
        | .str text => .ok (.ok (.str text))
        | _ => .ok (.error (.violation record)) }
    let spec : Value := .tuple [.str "array", .target object]
    let constraints : Value := .map [(.str "optional", .bool true), (.str "default", .list []),
      (.str "min_items", .int 1)]
    let named : NamedOptions := [("coerce", .bool true), ("strict", .bool true)]
    CoreAgreement env spec constraints named true ∧
      (validateType env spec (.list [.str "a", .int 1]) constraints named).outcome =
        .ok (.rejected [record.under [.int 1]]) := by
  intro object record env spec constraints named
  have read : Options.ofNamed named = .ok ⟨true, some true, [], false⟩ := rfl
  have coded : ∀ type, spec.toSpec = .ok type → type.TargetsCoded env := by
    intro type resolved
    have denoted : spec.toSpec = .ok (.array (.ref (.target object)) .null .null) := rfl
    cases denoted.symm.trans resolved
    intro other among
    cases List.mem_singleton.mp among
    intro value path
    cases value with
    | str text => exact Attempt.coded_accepted (.str text)
    | _ => exact Attempt.coded_single ⟨"odd", rfl⟩
  have agreement : CoreAgreement env spec constraints named true :=
    coreAgreement read rfl rfl coded
  refine ⟨agreement, ?_⟩
  rw [agreement.validated]
  rfl

end Single

end Conform
