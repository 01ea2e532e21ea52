import Conform.Proofs.Soundness
import Conform.Proofs.Stages

/-!
# Nothing that is rejected is lost

All checks that look at several parts accept when the violations of the parts are none.  As every
rejection of a part has a violation, whatever is accepted as a whole is accepted part by part:
items, members, entries, fields and the inputs of a batch.
-/

namespace Conform

/-! ## Entries of mappings -/

/-- A key, or one that counts as the same, is stored. -/
def Entries.Stores (entries : Entries) (key : Value) : Prop :=
  ∃ entry ∈ entries, entry.1 = key ∨ (entry.1 == key) = true

namespace Entries

theorem stores_put (entries : Entries) (key value : Value) :
    (entries.put key value).Stores key := by
  induction entries with
  | nil => exact ⟨(key, value), List.mem_cons_self, .inl rfl⟩
  | cons entry rest ih =>
      rcases entry with ⟨k, v⟩
      simp only [put]
      split
      case isTrue same => exact ⟨(k, value), List.mem_cons_self, .inr same⟩
      case isFalse =>
        rcases ih with ⟨stored, among, kept⟩
        exact ⟨stored, List.mem_cons_of_mem _ among, kept⟩

/-- What is stored stays stored when an entry is put. -/
theorem Stores.put {entries : Entries} {kept : Value} (stores : entries.Stores kept)
    (key value : Value) : (entries.put key value).Stores kept := by
  induction entries with
  | nil =>
      rcases stores with ⟨_, among, _⟩
      cases among
  | cons entry rest ih =>
      rcases entry with ⟨k, v⟩
      rcases stores with ⟨stored, among, same⟩
      simp only [Entries.put]
      split
      · rcases List.mem_cons.mp among with rfl | later
        · exact ⟨(k, value), List.mem_cons_self, same⟩
        · exact ⟨stored, List.mem_cons_of_mem _ later, same⟩
      · rcases List.mem_cons.mp among with rfl | later
        · exact ⟨(k, v), List.mem_cons_self, same⟩
        · rcases ih ⟨stored, later, same⟩ with ⟨other, otherAmong, otherSame⟩
          exact ⟨other, List.mem_cons_of_mem _ otherAmong, otherSame⟩

end Entries

namespace Check

variable {key value : Checker}

/-- The checkers of keys and of values accept an entry, and its key is stored. -/
def EntryKept (key value : Checker) (stored : Entries) (entry : Value × Value) : Prop :=
  ∃ newKey newValue, key.Accepts entry.1 newKey ∧ value.Accepts entry.2 newValue ∧
    stored.Stores newKey

/-- Entries without violations are all accepted, and their keys are stored behind those that were
there. -/
theorem entries_kept (keyEvident : key.Evident) (valueEvident : value.Evident) {path : Path}
    {position : Nat} {found done stored : Entries}
    (checked : entries key value path position found done = .ok (stored, [])) :
    (∀ kept, done.Stores kept → stored.Stores kept) ∧
      ∀ entry ∈ found, EntryKept key value stored entry := by
  induction found generalizing done position with
  | nil =>
      cases checked
      exact ⟨fun _ stores => stores, List.forall_mem_nil _⟩
  | cons entry rest ih =>
      rcases entry with ⟨k, v⟩
      rcases entries_cons_accepted keyEvident valueEvident checked with
        ⟨newKey, newValue, keyChecked, valueChecked, _, restChecked⟩
      rcases ih restChecked with ⟨before, each⟩
      constructor
      · intro kept stores
        exact before kept (stores.put newKey newValue)
      · have kept : EntryKept key value stored (k, v) :=
          ⟨newKey, newValue, ⟨_, keyChecked⟩, ⟨_, valueChecked⟩,
            before newKey (done.stores_put newKey newValue)⟩
        exact List.forall_mem_cons.mpr ⟨kept, each⟩

/-- Every entry of an accepted mapping is accepted and kept. -/
theorem map_kept (keyEvident : key.Evident) (valueEvident : value.Evident) {data result : Value}
    {path : Path} (accepted : Check.map key value data path = .ok (.accepted result)) :
    ∃ found stored, data = .map found ∧ result = .map stored ∧
      ∀ entry ∈ found, EntryKept key value stored entry := by
  cases data with
  | map found =>
      rcases Attempt.bind_eq_ok_iff.mp accepted with ⟨⟨done, violations⟩, checked, concluded⟩
      cases violations with
      | cons first rest => cases concluded
      | nil =>
          cases concluded
          exact ⟨found, done, rfl, rfl, (entries_kept keyEvident valueEvident checked).2⟩
  | _ => cases accepted

end Check

/-! ## Conversions -/

theorem Coercion.toArray_accepted {inner : Checker} (evident : inner.Evident)
    {value result : Value} {path : Path} {items : List Value} (found : value.items? = some items)
    (accepted : toArray inner value path = .ok (.accepted result)) :
    ∃ values, result = .list values ∧ List.Forall₂ inner.Accepts items values := by
  simp only [toArray, found] at accepted
  rcases Attempt.bind_eq_ok_iff.mp accepted with ⟨⟨values, violations⟩, checked, concluded⟩
  rcases Check.conclude_eq_accepted_iff.mp (Except.ok.inj concluded) with ⟨rfl, rfl⟩
  exact ⟨values, rfl, Check.items_accepted evident checked⟩

/-! ## Fields -/

namespace Record

theorem passes_of_check {env : Environment} {rules : List Rule}
    (evident : ∀ rule ∈ rules, rule.check.Evident) {strict : Bool} {hook : Option Nat}
    {value result : Value} {path : Path}
    (accepted : Record.check env rules strict hook value path = .ok (.accepted result)) :
    ∃ data, value = .map data ∧ Passes env rules strict data path ∧
      Record.review env hook (.record (validated env data path rules)) path =
        .ok (.accepted result) := by
  cases value with
  | map data =>
      rcases decided_of_check evident accepted with ⟨stage, decided, _⟩
      cases decided with
      | review passes reviewed => exact ⟨data, rfl, passes, reviewed⟩
  | _ => cases accepted

theorem mem_validated {env : Environment} {rules : List Rule} {data : Entries} {path : Path}
    {rule : Rule} (among : rule ∈ rules) (agrees : rule.Agrees env data path) {given : Value}
    (found : lookup env data rule.field.name = some given) :
    ∃ value, rule.check given (path ++ [.str rule.field.name]) = .ok (.accepted value) ∧
      (rule.field.name, value) ∈ validated env data path rules := by
  have answered : rule.answer env data path =
      some (rule.check given (path ++ [.str rule.field.name])) := by
    rw [Rule.answer, found, Option.map_some]
  rcases agrees _ answered with ⟨value, accepted⟩
  refine ⟨value, accepted, List.mem_filterMap.mpr ⟨rule, among, ?_⟩⟩
  rw [Rule.entry?, answered, accepted]

end Record

/-! ## Batches -/

theorem BatchResult.success_ofVerdict_iff {index : Nat} {verdict : Verdict Value}
    (evident : verdict ≠ .rejected []) :
    (BatchResult.ofVerdict index verdict).success = true ↔ ∃ value, verdict = .accepted value := by
  cases verdict with
  | accepted value => exact iff_of_true rfl ⟨value, rfl⟩
  | rejected violations =>
      cases violations with
      | nil => exact absurd rfl evident
      | cons first rest => exact iff_of_false nofun nofun

/-! ## The law -/

/-- Every rejection has a reason, and whatever is accepted is accepted part by part. -/
structure Environment.Retention (env : Environment) : Prop where
  /-- Types reject only for a reason. -/
  types : ∀ (spec : TypeSpec) value path,
    (spec.validate env value path).outcome ≠ .ok (.rejected [])
  /-- Conversions refuse only for a reason. -/
  conversions : ∀ (spec : TypeSpec) value path, spec.coerce env value path ≠ .ok (.rejected [])
  /-- Constraints are violated only for a reason. -/
  constraints : ∀ constraints value path,
    Constraint.checkAll constraints value path ≠ .ok (.rejected [])
  /-- Schemas reject only for a reason, whatever their hooks do. -/
  schemas : ∀ schema data options, (validate env schema data options).outcome ≠ .ok (.rejected [])
  /-- An accepted array has as many items as the value, and they are all accepted. -/
  arrays : ∀ inner minItems maxItems value path result,
    (TypeSpec.array inner minItems maxItems).check env value path = .ok (.accepted result) →
    ∃ items results, value.items? = some items ∧ result = .list results ∧
      results.length = items.length ∧ List.Forall₂ (inner.check env).Accepts items results
  /-- An accepted tuple has as many members as the value, and they are all accepted. -/
  tuples : ∀ elements value path result,
    (TypeSpec.tuple elements).check env value path = .ok (.accepted result) →
    ∃ items results, value.items? = some items ∧ result = .tuple results ∧
      results.length = items.length ∧
      List.Forall₂ (fun part value => (TypeSpec.check env part.1).Accepts part.2 value)
        (elements.zip items) results
  /-- All entries of an accepted mapping are accepted and kept. -/
  maps : ∀ key value data path result,
    (TypeSpec.map key value).check env data path = .ok (.accepted result) →
    ∃ found stored, data = .map found ∧ result = .map stored ∧
      ∀ entry ∈ found, Check.EntryKept (key.check env) (value.check env) stored entry
  /-- A sequence that is converted to an array keeps its items, each of which is converted. -/
  convertedArrays : ∀ inner minItems maxItems (value : Value) path items result,
    value.items? = some items →
    (TypeSpec.array inner minItems maxItems).coerce env value path = .ok (.accepted result) →
    ∃ results, result = .list results ∧ results.length = items.length ∧
      List.Forall₂ (inner.coerce env).Accepts items results
  /-- All present fields of an accepted record are accepted and kept, for the hook to see, which
  accepts the result. -/
  records : ∀ schema value options result,
    (validate env schema value options).outcome = .ok (.accepted result) →
    ∃ data, value = .map data ∧
      (∀ rule ∈ schema.rulesWith env options.coerce, ∀ given,
        Record.lookup env data rule.field.name = some given →
        ∃ kept, rule.check given (options.path ++ [.str rule.field.name]) = .ok (.accepted kept) ∧
          (rule.field.name, kept) ∈
            Record.validated env data options.path (schema.rulesWith env options.coerce)) ∧
      Record.review env schema.hook (.record (Record.validated env data options.path
        (schema.rulesWith env options.coerce))) options.path = .ok (.accepted result)
  /-- A result of a batch is a success exactly when the validation of its input accepts. -/
  batches : ∀ batch items metrics report,
    (Batch.process env batch items metrics).outcome = .ok report →
    ∀ result ∈ report.results, ∃ members item options verdict,
      items.elements? = some members ∧ members[result.index]? = some item ∧
      Options.ofNamed batch.named = .ok options ∧
      (validate env batch.schema item
        { options with path := .int result.index :: options.path }).outcome = .ok verdict ∧
      (result.success = true ↔ ∃ value, verdict = .accepted value)

section

variable (env : Environment)

theorem Schema.outcome_validate_evident (schema : Schema) (data : Value) (options : Options) :
    (validate env schema data options).outcome ≠ .ok (.rejected []) := by
  intro rejected
  exact Record.check_evident _ _ _ _ _ _ (verdict_of_validate rejected)

theorem Batch.success_iff_of_process {batch : Batch} {items : Value} {metrics : Metrics}
    {report : BatchReport} (processed : (process env batch items metrics).outcome = .ok report) :
    ∀ result ∈ report.results, ∃ members item options verdict,
      items.elements? = some members ∧ members[result.index]? = some item ∧
      Options.ofNamed batch.named = .ok options ∧
      (validate env batch.schema item
        { options with path := .int result.index :: options.path }).outcome = .ok verdict ∧
      (result.success = true ↔ ∃ value, verdict = .accepted value) := by
  intro result among
  simp only [process, Run.outcome_bind, Run.outcome_lift] at processed
  rcases Attempt.bind_eq_ok_iff.mp processed with ⟨members, found, others⟩
  rcases Attempt.bind_eq_ok_iff.mp others with ⟨⟨results, after⟩, each, same⟩
  cases same
  have elements : items.elements? = some members := by
    split at found
    · cases found
      assumption
    · cases found
  rcases result_of_processItems each result among with ⟨place, item, verdict, stands, outcome, rfl⟩
  rw [Nat.zero_add] at outcome ⊢
  rw [Series.validateItem, Run.outcome_bind] at outcome
  rcases Attempt.bind_eq_ok_iff.mp outcome with ⟨options, read, validated⟩
  rw [BatchResult.index_ofVerdict]
  refine ⟨members, item, options, verdict, elements, stands, read, validated, ?_⟩
  apply BatchResult.success_ofVerdict_iff
  rintro rfl
  exact Schema.outcome_validate_evident env _ _ _ validated

/-- In every environment rejections have reasons and what is accepted is accepted part by part. -/
theorem Environment.retention : env.Retention where
  types spec value path := spec.check_evident env value path
  conversions spec value path := spec.coerce_evident env value path
  constraints := Constraint.checkAll_ne_rejected_nil
  schemas := Schema.outcome_validate_evident env
  arrays := by
    intro inner minItems maxItems value path result accepted
    rcases Check.array_accepted (inner.check_evident env) accepted with
      ⟨items, results, found, same, each, _⟩
    exact ⟨items, results, found, same, each.length_eq.symm, each⟩
  tuples := by
    intro elements value path result accepted
    simp only [TypeSpec.check, TypeSpec.checkers_eq_map] at accepted
    have evident : ∀ checker ∈ elements.map (TypeSpec.check env), checker.Evident := by
      intro checker among
      rcases List.mem_map.mp among with ⟨spec, _, rfl⟩
      exact spec.check_evident env
    rcases Check.tuple_accepted evident accepted with
      ⟨items, results, found, same, sameLength, each⟩
    rw [List.length_map] at sameLength
    refine ⟨items, results, found, same, ?_, ?_⟩
    · rw [← each.length_eq, List.length_zip, List.length_map, ← sameLength, Nat.min_self]
    · rw [List.zip_map_left, List.forall₂_map_left_iff] at each
      exact each
  maps := by
    intro key value data path result accepted
    exact Check.map_kept (key.check_evident env) (value.check_evident env) accepted
  convertedArrays := by
    intro inner minItems maxItems value path items result found accepted
    rcases Coercion.toArray_accepted (inner.coerce_evident env) found accepted with
      ⟨results, same, each⟩
    exact ⟨results, same, each.length_eq.symm, each⟩
  records := by
    intro schema value options result accepted
    rcases Record.passes_of_check (schema.rulesWith_evident env options.coerce)
      (Schema.verdict_of_validate accepted) with ⟨data, rfl, passes, reviewed⟩
    refine ⟨data, rfl, ?_, reviewed⟩
    intro rule among given found
    exact Record.mem_validated among (passes.agreed rule among) found
  batches := by
    intro batch items metrics report processed
    exact Batch.success_iff_of_process env processed

end

end Conform
