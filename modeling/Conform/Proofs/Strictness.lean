import Conform.Proofs.Retention

/-!
# Keys that are no fields

The strict stage compares the keys of the data with the entries of the validated record, and not
with the fields of the schema.  The two differ where optional fields are absent; but then the data
has no key of such a name either, so that exactly the keys that are no fields are reported.
-/

namespace Conform

/-! ## Names of keys -/

/-- The name that a key spells, if it is a text or a symbol. -/
def Value.spelling? : Value → Option String
  | .str name => some name
  | .symbol name => some name
  | _ => none

/-- Whether a key is a text, or a symbol that exists. -/
def Environment.spells (env : Environment) : Value → Bool
  | .str _ => true
  | .symbol name => env.knows name
  | _ => false

/-- The names that the keys of a mapping spell, in order. -/
def Entries.names (entries : Entries) : List String :=
  entries.filterMap fun entry => entry.1.spelling?

/-- The names that keys spell and that are no fields, each once, in the order in which they first
occur. -/
def Schema.unknownNames (schema : Schema) (data : Entries) : List String :=
  (data.names.filter fun name => !schema.fieldNames.contains name).eraseDups

theorem Environment.exists_spelling {env : Environment} {key : Value}
    (spells : env.spells key = true) :
    ∃ name, key.spelling? = some name ∧ Record.keyName key = .ok name := by
  cases key with
  | str name | symbol name => exact ⟨name, rfl, rfl⟩
  | _ => cases spells

theorem Entries.forall₂_names {env : Environment} {entries : Entries}
    (spelled : ∀ entry ∈ entries, env.spells entry.1 = true) :
    List.Forall₂ (fun key name => Record.keyName key = .ok name) (entries.map Prod.fst)
      entries.names := by
  induction entries with
  | nil => exact .nil
  | cons entry rest ih =>
      obtain ⟨first, others⟩ := List.forall_mem_cons.mp spelled
      obtain ⟨name, spelling, named⟩ := Environment.exists_spelling first
      simp only [names, List.map_cons, List.filterMap_cons, spelling]
      exact .cons named (ih others)

/-- A name that a key spells is found in the data. -/
theorem Record.exists_lookup_of_spelling {env : Environment} {data : Entries}
    {entry : Value × Value} (among : entry ∈ data) (spells : env.spells entry.1 = true)
    {name : String} (spelled : entry.1.spelling? = some name) :
    ∃ value, lookup env data name = some value := by
  have found (key : Value) (same : (entry.1 == key) = true) : (data.get? key).isSome = true := by
    rw [Entries.get?, Option.isSome_map, List.find?_isSome]
    exact ⟨entry, among, same⟩
  apply Option.isSome_iff_exists.mp
  unfold lookup
  cases byText : data.get? (.str name) with
  | some value => rfl
  | none =>
      obtain ⟨key, held⟩ := entry
      cases key with
      | str text =>
          cases spelled
          have missed := found (.str name) (beq_self_eq_true name)
          rw [byText] at missed
          cases missed
      | symbol text =>
          cases spelled
          have known : env.knows name = true := spells
          show (if env.knows name then data.get? (.symbol name) else none).isSome = true
          rw [if_pos known]
          exact found (.symbol name) (beq_self_eq_true name)
      | _ => cases spelled

/-! ## First occurrences -/

section FirstOccurrences

variable {α : Type} [BEq α] [LawfulBEq α]

/-- What is left of a list keeps the order of first occurrences. -/
theorem idxOf_lt_of_filter {kept : α → Bool} {items : List α} {first second : α}
    (firstKept : kept first = true) (secondKept : kept second = true)
    (before : (items.filter kept).idxOf first < (items.filter kept).idxOf second) :
    items.idxOf first < items.idxOf second := by
  induction items with
  | nil => exact before
  | cons item rest ih =>
      by_cases here : kept item = true
      case pos =>
        rw [List.filter_cons_of_pos here] at before
        simp only [List.idxOf_cons] at before ⊢
        grind
      case neg =>
        rw [List.filter_cons_of_neg here] at before
        have notFirst : (item == first) = false := by grind
        have notSecond : (item == second) = false := by grind
        simp only [List.idxOf_cons, notFirst, notSecond, cond_false]
        exact Nat.succ_lt_succ (ih before)

/-- Without repetitions a list is in the order of first occurrences. -/
theorem pairwise_idxOf_eraseDups (items : List α) :
    items.eraseDups.Pairwise fun first second => items.idxOf first < items.idxOf second := by
  -- The induction is on the length: what follows the head is a list without it.
  match items with
  | [] => simp
  | item :: rest =>
      rw [List.eraseDups_cons, List.pairwise_cons]
      have behind : ∀ other ∈ (rest.filter fun other => !other == item).eraseDups,
          (item == other) = false := by
        intro other among
        have differs := (List.mem_filter.mp (List.mem_eraseDups.mp among)).2
        grind
      constructor
      · intro other among
        simp only [List.idxOf_cons, behind other among, beq_self_eq_true, cond_true, cond_false]
        exact Nat.succ_pos _
      · refine (pairwise_idxOf_eraseDups (rest.filter fun other => !other == item)).imp_of_mem ?_
        intro first second firstAmong secondAmong before
        simp only [List.idxOf_cons, behind first firstAmong, behind second secondAmong, cond_false]
        have firstKept := (List.mem_filter.mp (List.mem_eraseDups.mp firstAmong)).2
        have secondKept := (List.mem_filter.mp (List.mem_eraseDups.mp secondAmong)).2
        exact Nat.succ_lt_succ (idxOf_lt_of_filter firstKept secondKept before)
termination_by items.length
decreasing_by exact Nat.lt_succ_of_le (List.length_filter_le _ _)

end FirstOccurrences

theorem Schema.pairwise_unknownNames (schema : Schema) (data : Entries) :
    (schema.unknownNames data).Pairwise fun first second =>
      data.names.idxOf first < data.names.idxOf second := by
  refine (pairwise_idxOf_eraseDups _).imp_of_mem ?_
  intro first second firstAmong secondAmong before
  exact idxOf_lt_of_filter (List.mem_filter.mp (List.mem_eraseDups.mp firstAmong)).2
    (List.mem_filter.mp (List.mem_eraseDups.mp secondAmong)).2 before

@[simp] theorem Schema.mem_unknownNames {schema : Schema} {data : Entries} {name : String} :
    name ∈ schema.unknownNames data ↔ name ∈ data.names ∧ name ∉ schema.fieldNames := by
  simp [unknownNames]

@[simp] theorem Schema.unknownNames_eq_nil_iff {schema : Schema} {data : Entries} :
    schema.unknownNames data = [] ↔ ∀ name ∈ data.names, name ∈ schema.fieldNames := by
  simp [List.eq_nil_iff_forall_not_mem]

/-! ## The strict stage -/

namespace Record

/-- The names that are collected from keys are those that are not known, each once, in the order in
which they first occur. -/
theorem extraNames_eq {known extra names : List String} {keys : List Value}
    (named : List.Forall₂ (fun key name => keyName key = .ok name) keys names) :
    extraNames known extra keys =
      .ok (extra ++ (names.filter fun name =>
        !(known.contains name || extra.contains name)).eraseDups) := by
  induction named generalizing extra with
  | nil => simp [extraNames]
  | @cons key name keys names first others ih =>
      rw [extraNames, first, Attempt.ok_bind, ih]
      cases seen : known.contains name || extra.contains name with
      | true =>
          simp only [if_true, List.filter_cons, seen, Bool.not_true, Bool.false_eq_true, if_false]
      | false =>
          simp only [Bool.false_eq_true, if_false, List.filter_cons, seen, Bool.not_false, if_true,
            List.eraseDups_cons, List.filter_filter, List.append_assoc, List.singleton_append]
          congr 4
          apply List.filter_congr
          intro other _
          simp only [List.contains_append, List.contains_cons, List.contains_nil, Bool.or_false]
          cases other == name <;> cases known.contains other <;> cases extra.contains other <;> rfl

theorem Gathered.mem_names_of_lookup {env : Environment} {data : Entries} {rules : List Rule}
    {values : List (String × Value)} (gathered : Gathered env data rules values) {name : String}
    (isField : name ∈ rules.map fun rule => rule.field.name) {given : Value}
    (found : lookup env data name = some given) : name ∈ values.map Prod.fst := by
  induction gathered with
  | nil => cases isField
  | present _ _ _ ih | filled _ _ _ ih =>
      rcases List.mem_cons.mp isField with rfl | behind
      · exact List.mem_cons_self
      · exact List.mem_cons_of_mem _ (ih behind)
  | left absent _ _ _ ih =>
      rcases List.mem_cons.mp isField with rfl | behind
      · rw [absent] at found
        cases found
      · exact ih behind

end Record

namespace Schema

variable {env : Environment} {schema : Schema} {data : Entries} {coerce : Bool} {path : Path}
  {values : List (String × Value)}

/-- The fields of a mapping pass the stages of presence and of values, with the given entries in the
validated record. -/
structure FieldsPass (env : Environment) (schema : Schema) (coerce : Bool) (path : Path)
    (data : Entries) (values : List (String × Value)) : Prop where
  present : Record.missing env schema.fields data path = []
  gathered : Record.gather env data path (schema.rulesWith env coerce) = .ok (values, [])

@[simp] theorem fields_rulesWith (env : Environment) (coerce : Bool) (schema : Schema) :
    (schema.rulesWith env coerce).map Rule.field = schema.fields := by
  rw [rulesWith, List.map_map]
  exact List.map_id' schema.fields

theorem FieldsPass.mem_names_iff (passes : schema.FieldsPass env coerce path data values)
    (spelled : ∀ entry ∈ data, env.spells entry.1 = true) {name : String}
    (among : name ∈ data.names) : name ∈ values.map Prod.fst ↔ name ∈ schema.fieldNames := by
  have gathered := Record.gather_accepted (schema.rulesWith_evident env coerce) passes.gathered
  have named : (schema.rulesWith env coerce).map (fun rule => rule.field.name) =
      schema.fieldNames := by
    rw [fieldNames, ← fields_rulesWith env coerce schema, List.map_map]
    rfl
  constructor
  · intro entered
    rw [← named]
    exact gathered.names_sublist.subset entered
  · intro isField
    obtain ⟨entry, entryAmong, spelling⟩ := List.mem_filterMap.mp among
    obtain ⟨given, found⟩ :=
      Record.exists_lookup_of_spelling entryAmong (spelled entry entryAmong) spelling
    rw [← named] at isField
    exact gathered.mem_names_of_lookup isField found

theorem FieldsPass.extraNames_eq (passes : schema.FieldsPass env coerce path data values)
    (spelled : ∀ entry ∈ data, env.spells entry.1 = true) :
    Record.extraNames (values.map Prod.fst) [] (data.map Prod.fst) =
      .ok (schema.unknownNames data) := by
  rw [Record.extraNames_eq (Entries.forall₂_names spelled), unknownNames, List.nil_append]
  congr 2
  apply List.filter_congr
  intro name among
  rw [List.contains_nil, Bool.or_false, Bool.not_inj_iff, Bool.eq_iff_iff, List.contains_iff_mem,
    List.contains_iff_mem]
  exact passes.mem_names_iff spelled among

theorem FieldsPass.outcome (passes : schema.FieldsPass env coerce path data values)
    (hookFree : schema.hook = none) (spelled : ∀ entry ∈ data, env.spells entry.1 = true)
    (strict : Bool) :
    (validate env schema (.map data) ⟨coerce, some strict, path, false⟩).outcome =
      .ok (if strict = true ∧ schema.unknownNames data ≠ [] then
        .rejected [.unexpectedFields path (schema.unknownNames data)]
        else .accepted (.record values)) := by
  rw [outcome_validate, verdict, hookFree]
  simp only [Record.check, Record.stages, Record.candidate, fields_rulesWith, passes.present,
    passes.gathered, passes.extraNames_eq spelled, Option.getD_some, Attempt.ok_bind]
  cases strict with
  | false => rfl
  | true => cases schema.unknownNames data <;> rfl

/-! ## The law -/

/-- How strict validation decides on data whose fields pass. -/
structure StrictLaw (env : Environment) (schema : Schema) (coerce : Bool) (path : Path)
    (data : Entries) (values : List (String × Value)) : Prop where
  /-- It accepts exactly when every key is the name of a field. -/
  accepts_iff :
    (∃ result, (validate env schema (.map data) ⟨coerce, some true, path, false⟩).outcome =
      .ok (.accepted result)) ↔ ∀ name ∈ data.names, name ∈ schema.fieldNames
  /-- The record is then the one that is accepted without strictness. -/
  accepted : (∀ name ∈ data.names, name ∈ schema.fieldNames) → ∀ strict,
    (validate env schema (.map data) ⟨coerce, some strict, path, false⟩).outcome =
      .ok (.accepted (.record values))
  /-- Otherwise there is one violation, which lists the names of the other keys. -/
  rejected : (∃ name ∈ data.names, name ∉ schema.fieldNames) →
    (validate env schema (.map data) ⟨coerce, some true, path, false⟩).outcome =
      .ok (.rejected [.unexpectedFields path (schema.unknownNames data)])
  /-- Exactly the names of keys that are no fields are listed. -/
  listed : ∀ name, name ∈ schema.unknownNames data ↔
    name ∈ data.names ∧ name ∉ schema.fieldNames
  /-- Each of them is listed once, in the order in which they first occur among the keys. -/
  ordered : (schema.unknownNames data).Pairwise fun first second =>
    data.names.idxOf first < data.names.idxOf second
  /-- Other data with the same keys besides those of fields has the same verdict but for the
  accepted record, whichever of the optional fields it holds. -/
  independent : ∀ (other : Entries) (others : List (String × Value)),
    (∀ entry ∈ other, env.spells entry.1 = true) →
    schema.FieldsPass env coerce path other others →
    schema.unknownNames other = schema.unknownNames data →
    ∃ verdict otherVerdict,
      (validate env schema (.map data) ⟨coerce, some true, path, false⟩).outcome = .ok verdict ∧
      (validate env schema (.map other) ⟨coerce, some true, path, false⟩).outcome =
        .ok otherVerdict ∧
      verdict.isAccepted = otherVerdict.isAccepted ∧ verdict.violations = otherVerdict.violations

/-- A schema without a hook that forbids keys that are no fields rejects exactly those, in data
whose keys are texts or existing symbols and whose fields pass. -/
theorem strict_exact (env : Environment) (schema : Schema) (hookFree : schema.hook = none)
    (coerce : Bool) (path : Path) (data : Entries)
    (spelled : ∀ entry ∈ data, env.spells entry.1 = true) (values : List (String × Value))
    (passes : schema.FieldsPass env coerce path data values) :
    schema.StrictLaw env coerce path data values := by
  have verdict := passes.outcome hookFree spelled
  have strictly := verdict true
  have noneUnknown : schema.unknownNames data = [] ↔
      ∀ name ∈ data.names, name ∈ schema.fieldNames := unknownNames_eq_nil_iff
  constructor
  case accepts_iff =>
    rw [strictly, ← noneUnknown]
    by_cases none : schema.unknownNames data = []
    · simp [none]
    · simp [none]
  case accepted =>
    intro all strict
    rw [verdict strict, if_neg (fun unknown => unknown.2 (noneUnknown.mpr all))]
  case rejected =>
    rintro ⟨name, among, foreign⟩
    rw [strictly, if_pos ⟨rfl, fun none => foreign (noneUnknown.mp none name among)⟩]
  case listed =>
    intro name
    exact mem_unknownNames
  case ordered => exact schema.pairwise_unknownNames data
  case independent =>
    intro other others otherSpelled otherPasses same
    have otherStrictly := otherPasses.outcome hookFree otherSpelled true
    rw [same] at otherStrictly
    refine ⟨_, _, strictly, otherStrictly, ?_⟩
    split
    · exact ⟨rfl, rfl⟩
    · exact ⟨rfl, rfl⟩

/-- A field under its symbol, one that is filled in and one that is absent, between keys that are no
fields, one of them in both spellings. -/
theorem strict_exact_of_two_spellings :
    let schema : Schema := ⟨[⟨"id", .primitive .integer, true, [], .null, .null, .null⟩,
      ⟨"note", .primitive .string, false, [], .null, .null, .str "none"⟩,
      ⟨"size", .primitive .float, false, [], .null, .null, .null⟩], .null, .null, false, none, []⟩
    let env : Environment := { Environment.bare with symbols := ["id", "x"] }
    let data : Entries :=
      [(.str "x", .null), (.symbol "id", .int 7), (.str "y", .null), (.symbol "x", .null)]
    schema.StrictLaw env false [] data [("id", .int 7), ("note", .str "none")] ∧
      (validate env schema (.map data) { strict := some true }).outcome =
        .ok (.rejected [.unexpectedFields [] ["x", "y"]]) := by
  intro schema env data
  have law := strict_exact env schema rfl false [] data (by decide)
    [("id", .int 7), ("note", .str "none")] ⟨rfl, rfl⟩
  refine ⟨law, law.rejected ⟨"y", ?_, ?_⟩⟩
  · decide
  · decide

end Schema

end Conform
