import Conform.Proofs.Enforcement

/-!
# Accounts of flaws

A definition is refused with an account of its flaw.  The account shows the values at hand, in which
a whole number may be too long to be written, and lists unknown options in ascending order, which
they may not have.  `DefinitionFlaw.isTold` says which accounts can be written; an operation that
comes upon a flaw ends with the refusal if they can, and with the fault of the account otherwise.
No account at all is given of a node in which something stands in the place of the components that
yields none.
-/

namespace Conform

/-! ## Sorted lists -/

namespace Value

/-- A value is put among others, unless it has no order with one of them. -/
theorem insertSorted_within (value : Value) (values : List Value) :
    (insertSorted value values).Within fun fault => fault = .unordered := by
  induction values with
  | nil => exact .ok _
  | cons first rest ih =>
      unfold insertSorted
      split
      · exact .error rfl
      · exact .ok _
      · exact ih.bind_ok _

theorem insertSorted_perm {value : Value} {values found : List Value}
    (inserted : insertSorted value values = .ok found) : found.Perm (value :: values) := by
  induction values generalizing found with
  | nil =>
      cases inserted
      exact .refl _
  | cons first rest ih =>
      unfold insertSorted at inserted
      split at inserted
      · cases inserted
      · cases inserted
        exact .refl _
      · obtain ⟨others, behind, same⟩ := Attempt.bind_eq_ok_iff.mp inserted
        cases same
        exact ((ih behind).cons first).trans (.swap value first rest)

/-- Putting values one after another among others leaves them and the others. -/
theorem perm_of_foldlM {values done found : List Value}
    (sorted : values.foldlM (fun done value => insertSorted value done) done = .ok found) :
    found.Perm (values ++ done) := by
  induction values generalizing done with
  | nil =>
      cases sorted
      exact .refl _
  | cons value rest ih =>
      obtain ⟨next, inserted, sorted⟩ := Attempt.bind_eq_ok_iff.mp sorted
      exact (ih sorted).trans
        (((insertSorted_perm inserted).append_left rest).trans List.perm_middle)

theorem sorted_perm {values found : List Value} (sorted : Value.sorted values = .ok found) :
    found.Perm values := by
  simpa using perm_of_foldlM sorted

theorem sorted_within (values : List Value) :
    (Value.sorted values).Within fun fault => fault = .unordered := by
  unfold sorted
  generalize ([] : List Value) = done
  induction values generalizing done with
  | nil => exact .ok _
  | cons value rest ih => exact (insertSorted_within value done).bind fun next _ => ih next

/-- Texts have an order. -/
theorem insertSorted_texts (text : String) (texts : List String) :
    ∃ others : List String,
      insertSorted (.str text) (texts.map .str) = .ok (others.map .str) := by
  induction texts with
  | nil => exact ⟨[text], rfl⟩
  | cons first rest ih =>
      obtain ⟨others, inserted⟩ := ih
      have ordered : (Value.str text).precedes? (.str first) = some (decide (text < first)) := rfl
      rw [List.map_cons, insertSorted, ordered]
      cases decide (text < first) with
      | true => exact ⟨text :: first :: rest, rfl⟩
      | false => exact ⟨first :: others, by rw [inserted]; rfl⟩

/-- Texts are sorted among others. -/
theorem sorted_texts (texts done : List String) :
    Attempt.Returns ((texts.map Value.str).foldlM (fun done value => insertSorted value done)
      (done.map Value.str)) := by
  induction texts generalizing done with
  | nil => exact ⟨_, rfl⟩
  | cons text rest ih =>
      obtain ⟨others, inserted⟩ := insertSorted_texts text done
      rw [List.map_cons, List.foldlM_cons, inserted]
      exact ih others

/-- Texts can be sorted. -/
theorem returns_sorted_of_texts {values : List Value}
    (texts : ∀ value ∈ values, ∃ text, value = .str text) : (Value.sorted values).Returns := by
  obtain ⟨names, rfl⟩ : ∃ names : List String, values = names.map Value.str := by
    induction values with
    | nil => exact ⟨[], rfl⟩
    | cons value rest ih =>
        obtain ⟨⟨text, rfl⟩, others⟩ := List.forall_mem_cons.mp texts
        obtain ⟨names, rfl⟩ := ih others
        exact ⟨text :: names, rfl⟩
  exact sorted_texts names []

end Value

/-! ## What can be shown -/

namespace Value

@[simp] theorem allShowable_iff {values : List Value} :
    Value.allShowable values = true ↔ ∀ value ∈ values, value.isShowable = true := by
  induction values with
  | nil => simp [Value.allShowable]
  | cons value rest ih => simp [Value.allShowable, ih]

@[simp] theorem entriesShowable_iff {entries : Entries} :
    Value.entriesShowable entries = true ↔
      ∀ entry ∈ entries, entry.1.isShowable = true ∧ entry.2.isShowable = true := by
  induction entries with
  | nil => simp [Value.entriesShowable]
  | cons entry rest ih =>
      obtain ⟨key, value⟩ := entry
      simp [Value.entriesShowable, ih, and_assoc]

theorem isShowable_of_get? {entries : Entries} {key value : Value}
    (shown : Value.entriesShowable entries = true) (found : entries.get? key = some value) :
    value.isShowable = true := by
  obtain ⟨entry, hit, rfl⟩ := Option.map_eq_some_iff.mp found
  exact (entriesShowable_iff.mp shown entry (List.mem_of_find?_eq_some hit)).2

theorem isShowable_getText {entries : Entries} (shown : Value.entriesShowable entries = true)
    (name : String) : (entries.getText name).isShowable = true := by
  rw [Entries.getText]
  cases found : entries.get? (.str name) with
  | none => rfl
  | some value => exact isShowable_of_get? shown found

theorem allShowable_perm {values others : List Value} (permuted : values.Perm others) :
    Value.allShowable values = Value.allShowable others := by
  rw [Bool.eq_iff_iff, allShowable_iff, allShowable_iff]
  simp [permuted.mem_iff]

end Value

@[simp] theorem TypeSpec.allShowable_iff {specs : List TypeSpec} :
    TypeSpec.allShowable specs = true ↔ ∀ spec ∈ specs, spec.isShowable = true := by
  induction specs with
  | nil => simp [TypeSpec.allShowable]
  | cons spec rest ih => simp [TypeSpec.allShowable, ih]

/-- Whether the reason of a flaw can be written: the options that it lists have an order, and the
values in them are short enough. -/
def TypeFlaw.isWritable : TypeFlaw → Bool
  | .unknownArrayOptions options => (Value.sorted options).isOk && Value.allShowable options
  | _ => true

/-- Whether the account of a flaw can be written. -/
def DefinitionFlaw.isTold : DefinitionFlaw → Bool
  | .type value flaw => flaw.isWritable && value.isShowable
  | .fieldForm value | .fieldName value | .choicesForm _ value => value.isShowable
  | .fieldOptions _ unknown => Value.allShowable unknown
  | .inField .. | .requiredAndOptional _ | .requiredWithDefault _ | .duplicateField _ | .fieldsForm
  | .hookForm _ | .exampleForm _ => true

@[simp] theorem TypeFlaw.returns_reason_iff (flaw : TypeFlaw) :
    flaw.reason.Returns ↔ flaw.isWritable = true := by
  cases flaw with
  | unknownArrayOptions options =>
      simp only [reason, isWritable]
      cases sorted : Value.sorted options with
      | error fault => exact iff_of_false nofun nofun
      | ok found =>
          rw [Attempt.ok_bind, ← Value.allShowable_perm (Value.sorted_perm sorted)]
          exact Attempt.returns_map_iff.trans (Value.list found).returns_literal_iff
  | _ => exact iff_of_true (Attempt.returns_ok _) rfl

theorem TypeFlaw.reason_within (flaw : TypeFlaw) :
    flaw.reason.Within fun fault => fault = .unordered ∨ fault = .digitsToWrite := by
  cases flaw with
  | unknownArrayOptions options =>
      exact ((Value.sorted_within options).mono fun _ => .inl).bind fun found _ =>
        ((Value.list found).literal_worded.mono fun _ => .inr).bind_ok _
  | _ => exact .ok _

namespace DefinitionFlaw

/-- A flaw has an account exactly when it can be told. -/
@[simp] theorem returns_account_iff (flaw : DefinitionFlaw) :
    flaw.account.Returns ↔ flaw.isTold = true := by
  cases flaw with
  | type value flaw =>
      exact Attempt.returns_sequence_iff flaw.returns_reason_iff fun _ =>
        Attempt.returns_map_iff.trans value.returns_literal_iff
  | fieldForm value | fieldName value | choicesForm _ value =>
      exact Attempt.returns_map_iff.trans value.returns_literal_iff
  | fieldOptions _ unknown =>
      exact Attempt.returns_map_iff.trans (Value.list unknown).returns_literal_iff
  | _ => exact iff_of_true (Attempt.returns_ok _) rfl

/-- Accounts fail for two reasons only. -/
theorem account_within (flaw : DefinitionFlaw) :
    flaw.account.Within fun fault => fault = .unordered ∨ fault = .digitsToWrite := by
  have shown : ∀ value : Value,
      value.literal.Within fun fault => fault = .unordered ∨ fault = .digitsToWrite :=
    fun value => value.literal_worded.mono fun _ => .inr
  cases flaw with
  | type value flaw => exact flaw.reason_within.bind fun _ _ => (shown value).bind_ok _
  | fieldForm value | fieldName value | choicesForm _ value => exact (shown value).bind_ok _
  | fieldOptions _ unknown => exact (shown (.list unknown)).bind_ok _
  | _ => exact .ok _

end DefinitionFlaw

/-- What a definition cannot get past: a flaw, or a node whose components cannot be told, since what
stands in their place yields none. -/
inductive Obstacle where
  | flawed (flaw : DefinitionFlaw)
  | unlisted (node : Value)

namespace Obstacle

/-- The account that is given of an obstacle. -/
def account : Obstacle → Attempt String
  | .flawed flaw => flaw.account
  | .unlisted _ => .error .notIterable

/-- Whether an account of an obstacle can be given. -/
def isTold : Obstacle → Bool
  | .flawed flaw => flaw.isTold
  | .unlisted _ => false

@[simp] theorem returns_account_iff (obstacle : Obstacle) :
    obstacle.account.Returns ↔ obstacle.isTold = true := by
  cases obstacle with
  | flawed flaw => exact flaw.returns_account_iff
  | unlisted node => exact iff_of_false nofun nofun

theorem account_within (obstacle : Obstacle) : obstacle.account.Within fun fault =>
    fault = .unordered ∨ fault = .digitsToWrite ∨ fault = .notIterable := by
  cases obstacle with
  | flawed flaw => exact flaw.account_within.mono fun _ => Or.imp_right .inl
  | unlisted node => exact .error (.inr (.inr rfl))

end Obstacle

/-! ## Ending at an obstacle -/

namespace Attempt

variable {α β : Type}

/-- An operation ends at an obstacle: as a refused definition, or with the fault of the account if
none can be given. -/
inductive EndsBy : Attempt α → Obstacle → Prop where
  | told {obstacle : Obstacle} {text : String} (written : obstacle.account = .ok text)
      (account : String) : EndsBy (.error (.malformedDefinition account)) obstacle
  | untold {obstacle : Obstacle} {fault : Fault} (unwritten : obstacle.account = .error fault) :
      EndsBy (.error fault) obstacle

/-- An operation returns, unless there is a first obstacle, at which it then ends. -/
structure Reports (attempt : Attempt α) (first : Obstacle → Prop) : Prop where
  total : attempt.Returns ∨ ∃ obstacle, first obstacle
  exact : ∀ obstacle, first obstacle → attempt.EndsBy obstacle

/-- An operation returns or refuses the definition. -/
def Orderly (attempt : Attempt α) : Prop :=
  attempt.Returns ∨ ∃ account, attempt = .error (.malformedDefinition account)

theorem endsBy_refuse (flaw : DefinitionFlaw) :
    (flaw.refuse : Attempt α).EndsBy (.flawed flaw) := by
  rw [DefinitionFlaw.refuse]
  cases written : flaw.account with
  | ok account =>
      have written : (Obstacle.flawed flaw).account = .ok account := written
      exact .told written account
  | error fault => exact .untold written

theorem EndsBy.not_returns {attempt : Attempt α} {obstacle : Obstacle}
    (ends : attempt.EndsBy obstacle) : ¬attempt.Returns := by
  rintro ⟨result, rfl⟩
  cases ends

theorem EndsBy.bind {attempt : Attempt α} {obstacle : Obstacle} (ends : attempt.EndsBy obstacle)
    (next : α → Attempt β) : (attempt >>= next).EndsBy obstacle := by
  cases ends with
  | told written account => exact .told written account
  | untold unwritten => exact .untold unwritten

namespace Reports

variable {attempt : Attempt α} {first : Obstacle → Prop}

/-- An operation is orderly exactly when the obstacle that ends it can be told. -/
theorem orderly_iff (reports : attempt.Reports first) :
    attempt.Orderly ↔ ∀ obstacle, first obstacle → obstacle.isTold = true := by
  constructor
  · intro orderly obstacle found
    rw [← obstacle.returns_account_iff]
    cases reports.exact obstacle found with
    | told written => exact ⟨_, written⟩
    | untold unwritten =>
        -- no account fails as a refused definition does
        obtain ⟨_, ⟨⟩⟩ | ⟨_, ⟨⟩⟩ := orderly
        obtain impossible | impossible | impossible := obstacle.account_within _ unwritten <;>
          cases impossible
  · intro told
    refine reports.total.imp_right ?_
    rintro ⟨obstacle, found⟩
    obtain ⟨text, written⟩ := obstacle.returns_account_iff.mpr (told obstacle found)
    cases reports.exact obstacle found with
    | told _ account => exact ⟨account, rfl⟩
    | untold unwritten => cases written.symm.trans unwritten

/-- Besides a refusal there are three faults by which an operation can end. -/
theorem within (reports : attempt.Reports first) : attempt.Within fun fault =>
    (∃ account, fault = .malformedDefinition account) ∨ fault = .unordered ∨
      fault = .digitsToWrite ∨ fault = .notIterable := by
  rintro fault rfl
  obtain ⟨result, ⟨⟩⟩ | ⟨obstacle, found⟩ := reports.total
  cases reports.exact obstacle found with
  | told _ account => exact .inl ⟨account, rfl⟩
  | untold unwritten => exact .inr (obstacle.account_within _ unwritten)

end Reports

end Attempt

end Conform
