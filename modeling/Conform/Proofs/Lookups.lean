import Conform.Proofs.Rebuilding
import Conform.Validation.Basic

/-!
# Validation reads fields only

Each stage of a validation walks through the fields of the schema and looks them up in the data, and
only the strict one walks through the data.  So without strictness the data matters through what is
found in it under the names of fields: not through the order of its entries, nor through other keys,
nor through the spelling of keys.
-/

namespace Conform

/-! ## Fields of two mappings -/

/-- Two rules are about the same field, for which two mappings hold the same, and they check that
alike. -/
structure Rule.Matches (env other : Environment) (data others : Entries) (rule twin : Rule) :
    Prop where
  field : twin.field = rule.field
  found : Record.lookup env data rule.field.name = Record.lookup other others rule.field.name
  checked : ∀ value, Record.lookup env data rule.field.name = some value →
    ∀ place, rule.check value place = twin.check value place

namespace Record

variable {env other : Environment} {data others : Entries} {rules twins : List Rule}

/-- As many required fields are absent from the one mapping as from the other. -/
theorem missing_congr
    (each : List.Forall₂ (Rule.Matches env other data others) rules twins) (path : Path) :
    missing env (rules.map Rule.field) data path =
      missing other (twins.map Rule.field) others path := by
  induction each with
  | nil => rfl
  | cons first _ ih =>
      simp only [missing] at ih
      simp only [missing, List.map_cons, List.filter_cons, first.field, first.found]
      split
      · rw [List.map_cons, List.map_cons, ih]
      · exact ih

theorem fieldVerdict_congr {rule twin : Rule}
    (matched : rule.Matches env other data others twin) (path : Path) :
    fieldVerdict env data path rule = fieldVerdict other others path twin := by
  simp only [fieldVerdict, matched.field, ← matched.found]
  cases found : lookup env data rule.field.name with
  | none => rfl
  | some value => simp [matched.checked value found]

theorem gather_congr
    (each : List.Forall₂ (Rule.Matches env other data others) rules twins) (path : Path) :
    gather env data path rules = gather other others path twins := by
  induction each with
  | nil => rfl
  | cons first _ ih => simp [gather, fieldVerdict_congr first path, first.field, ih]

theorem candidate_congr
    (each : List.Forall₂ (Rule.Matches env other data others) rules twins) (strict : Bool)
    (strictly : strict = true → data.map Prod.fst = others.map Prod.fst) (path : Path) :
    candidate env rules strict (.map data) path =
      candidate other twins strict (.map others) path := by
  simp only [candidate, missing_congr each path, gather_congr each path]
  cases strict with
  | false => rfl
  | true => rw [strictly rfl]

theorem candidate_lenient_congr
    (each : List.Forall₂ (Rule.Matches env other data others) rules twins) (path : Path) :
    candidate env rules false (.map data) path = candidate other twins false (.map others) path :=
  candidate_congr each false (fun strictly => absurd strictly Bool.false_ne_true) path

theorem stages_congr
    (each : List.Forall₂ (Rule.Matches env env data others) rules rules) (hook : Option Nat)
    (path : Path) :
    stages env rules false hook (.map data) path =
      stages env rules false hook (.map others) path := by
  simp [stages, candidate_lenient_congr each path]

/-- Without a look at the keys checking a record reports the same of two mappings. -/
theorem trace_congr {traced : List (Rule × Tracer)}
    (each : List.Forall₂ (Rule.Matches env env data others) (traced.map Prod.fst)
      (traced.map Prod.fst)) (hook : Option Nat) :
    Trace.record env traced false hook (.map data) =
      Trace.record env traced false hook (.map others) := by
  have fields : Trace.fields env data traced = Trace.fields env others traced := by
    rw [List.forall₂_same] at each
    induction traced with
    | nil => rfl
    | cons first rest ih =>
        obtain ⟨here, behind⟩ := List.forall_mem_cons.mp each
        simp only [Trace.fields, here.found, ih behind]
  simp only [Trace.record, missing_congr each, fields, candidate_lenient_congr each,
    stages_congr each]

end Record

namespace Schema

/-- A validation that does not look at the keys says and reports the same of two mappings that hold
the same for every field. -/
theorem validate_congr {env : Environment} {schema : Schema} {data others : Entries}
    (same : ∀ name ∈ schema.fieldNames, Record.lookup env data name = Record.lookup env others name)
    (coerce : Bool) (path : Path) (debug : Bool) :
    validate env schema (.map data) ⟨coerce, some false, path, debug⟩ =
      validate env schema (.map others) ⟨coerce, some false, path, debug⟩ := by
  have each : List.Forall₂ (Rule.Matches env env data others) (schema.rulesWith env coerce)
      (schema.rulesWith env coerce) := by
    rw [List.forall₂_same]
    intro rule among
    obtain ⟨field, fieldAmong, rfl⟩ := List.mem_map.mp among
    exact ⟨rfl, same field.name (List.mem_map_of_mem fieldAmong), fun _ _ _ => rfl⟩
  have zipped : ((schema.rulesWith env coerce).zip
      (schema.fields.map (traceWith env coerce))).map Prod.fst = schema.rulesWith env coerce := by
    apply List.map_fst_zip
    simp [rulesWith]
  have reports : schema.events env (.map data) ⟨coerce, some false, path, debug⟩ =
      schema.events env (.map others) ⟨coerce, some false, path, debug⟩ := by
    apply Record.trace_congr
    rw [zipped]
    exact each
  have verdicts : schema.verdict env (.map data) ⟨coerce, some false, path, debug⟩ =
      schema.verdict env (.map others) ⟨coerce, some false, path, debug⟩ := by
    simp [verdict, Record.check, Record.stages_congr each]
  simp [validate, reports, verdicts]

end Schema

/-! ## Ways to write the same data -/

/-- No key of a mapping equals another. -/
def Entries.Distinct (entries : Entries) : Prop :=
  entries.Pairwise fun earlier later => (earlier.1 == later.1) = false

instance (entries : Entries) : Decidable entries.Distinct :=
  inferInstanceAs (Decidable (entries.Pairwise fun earlier later => (earlier.1 == later.1) = false))

namespace Value

@[simp] theorem beq_str_iff {key : Value} {name : String} :
    (key == .str name) = true ↔ key = .str name := by
  cases key with
  | str text =>
      show (text == name) = true ↔ _
      simp
  | _ => exact iff_of_false Bool.false_ne_true nofun

@[simp] theorem beq_symbol_iff {key : Value} {name : String} :
    (key == .symbol name) = true ↔ key = .symbol name := by
  cases key with
  | symbol text =>
      show (text == name) = true ↔ _
      simp
  | _ => exact iff_of_false Bool.false_ne_true nofun

end Value

namespace Entries

variable {entries : Entries} {key value : Value}

@[simp] theorem get?_cons (entry : Value × Value) (rest : Entries) (key : Value) :
    get? (entry :: rest) key = if entry.1 == key then some entry.2 else get? rest key := by
  rw [get?, List.find?_cons]
  cases entry.1 == key <;> rfl

/-- Among distinct keys, one that equals itself occurs with one value. -/
theorem Distinct.value_unique (distinct : entries.Distinct) (self : (key == key) = true)
    {first second : Value} (one : (key, first) ∈ entries) (two : (key, second) ∈ entries) :
    first = second := by
  induction entries with
  | nil => cases one
  | cons entry rest ih =>
      obtain ⟨fresh, behind⟩ := List.pairwise_cons.mp distinct
      have elsewhere {value : Value} (here : (key, value) = entry) {next : Value}
          (later : (key, next) ∈ rest) : False := by
        have differs := fresh _ later
        rw [← here, self] at differs
        cases differs
      rcases List.mem_cons.mp one with here | later
      · rcases List.mem_cons.mp two with too | later
        · exact congrArg Prod.snd (here.trans too.symm)
        · exact (elsewhere here later).elim
      · rcases List.mem_cons.mp two with too | laterToo
        · exact (elsewhere too later).elim
        · exact ih behind later laterToo

theorem mem_of_get? (exactly : ∀ other, (other == key) = true ↔ other = key)
    (found : entries.get? key = some value) : (key, value) ∈ entries := by
  obtain ⟨entry, hit, rfl⟩ := Option.map_eq_some_iff.mp found
  have here := List.find?_some hit
  rw [← (exactly entry.1).mp here]
  exact List.mem_of_find?_eq_some hit

theorem get?_eq_some_iff (exactly : ∀ other, (other == key) = true ↔ other = key)
    (unique : ∀ first second, (key, first) ∈ entries → (key, second) ∈ entries → first = second) :
    entries.get? key = some value ↔ (key, value) ∈ entries := by
  constructor
  · exact mem_of_get? exactly
  · intro among
    cases looked : entries.get? key with
    | some found => exact congrArg some (unique _ _ (mem_of_get? exactly looked) among)
    | none =>
        rw [get?, Option.map_eq_none_iff, List.find?_eq_none] at looked
        exact absurd ((exactly key).mpr rfl) (looked _ among)

/-- The order of entries with distinct keys does not matter to such a key. -/
theorem get?_perm {others : Entries} (distinct : entries.Distinct) (permuted : entries.Perm others)
    (exactly : ∀ other, (other == key) = true ↔ other = key) :
    entries.get? key = others.get? key := by
  have unique (first second : Value) (one : (key, first) ∈ entries)
      (two : (key, second) ∈ entries) : first = second :=
    distinct.value_unique ((exactly key).mpr rfl) one two
  have uniqueThere (first second : Value) (one : (key, first) ∈ others)
      (two : (key, second) ∈ others) : first = second :=
    unique first second (permuted.mem_iff.mpr one) (permuted.mem_iff.mpr two)
  apply Option.ext
  intro value
  rw [get?_eq_some_iff exactly unique, get?_eq_some_iff exactly uniqueThere, permuted.mem_iff]

variable {front rest : Entries} {name : String}

theorem get?_around {sought : Value} (differs : (key == sought) = false) :
    (front ++ (key, value) :: rest).get? sought = (front ++ rest).get? sought := by
  rw [get?_append, get?_append, get?_cons, differs]
  rfl

theorem get?_str_around (distinct : Distinct (front ++ (.str name, value) :: rest)) :
    (front ++ rest).get? (.str name) = none := by
  rw [get?, Option.map_eq_none_iff, List.find?_eq_none]
  intro entry among same
  obtain ⟨-, fromHere, across⟩ := List.pairwise_append.mp distinct
  have self : (Value.str name == .str name) = true := beq_self_eq_true name
  rcases List.mem_append.mp among with before | after
  · have differs := across entry before (.str name, value) List.mem_cons_self
    exact Bool.false_ne_true (differs.symm.trans same)
  · have differs := (List.pairwise_cons.mp fromHere).1 entry after
    rw [Value.beq_str_iff.mp same, self] at differs
    cases differs

end Entries

namespace Record

variable {env : Environment} {front rest : Entries} {name : String} {key value : Value}

theorem lookup_perm {data others : Entries} (distinct : data.Distinct) (permuted : data.Perm others)
    (env : Environment) (name : String) : lookup env data name = lookup env others name := by
  rw [lookup, lookup, Entries.get?_perm distinct permuted fun _ => Value.beq_str_iff,
    Entries.get?_perm distinct permuted fun _ => Value.beq_symbol_iff]

theorem lookup_of_foreign (noText : key ≠ .str name) (noSymbol : key ≠ .symbol name) :
    lookup env (front ++ (key, value) :: rest) name = lookup env (front ++ rest) name := by
  have noTextHere : (key == .str name) = false :=
    Bool.eq_false_iff.mpr fun same => noText (Value.beq_str_iff.mp same)
  have noSymbolHere : (key == .symbol name) = false :=
    Bool.eq_false_iff.mpr fun same => noSymbol (Value.beq_symbol_iff.mp same)
  rw [lookup, lookup, Entries.get?_around noTextHere, Entries.get?_around noSymbolHere]

/-- Of an entry under the symbol of a name, instead of the name, a field finds the value, too. -/
theorem lookup_of_symbol (known : env.knows name = true)
    (distinct : Entries.Distinct (front ++ (.str name, value) :: rest))
    (symbolDistinct : Entries.Distinct (front ++ (.symbol name, value) :: rest)) (sought : String) :
    lookup env (front ++ (.str name, value) :: rest) sought =
      lookup env (front ++ (.symbol name, value) :: rest) sought := by
  by_cases same : sought = name
  case neg =>
    have differs : name ≠ sought := fun equal => same equal.symm
    have byText : lookup env (front ++ (.str name, value) :: rest) sought =
        lookup env (front ++ rest) sought :=
      lookup_of_foreign (fun equal => differs (Value.str.inj equal)) nofun
    have bySymbol : lookup env (front ++ (.symbol name, value) :: rest) sought =
        lookup env (front ++ rest) sought :=
      lookup_of_foreign nofun fun equal => differs (Value.symbol.inj equal)
    rw [byText, bySymbol]
  case pos =>
    subst same
    have byText : (front ++ (.str sought, value) :: rest).get? (.str sought) = some value :=
      (Entries.get?_eq_some_iff (fun _ => Value.beq_str_iff) fun _ _ =>
        distinct.value_unique (beq_self_eq_true sought)).mpr (by simp)
    have bySymbol : (front ++ (.symbol sought, value) :: rest).get? (.symbol sought) = some value :=
      (Entries.get?_eq_some_iff (fun _ => Value.beq_symbol_iff) fun _ _ =>
        symbolDistinct.value_unique (beq_self_eq_true sought)).mpr (by simp)
    have noText : (front ++ (.symbol sought, value) :: rest).get? (.str sought) = none := by
      rw [Entries.get?_around rfl]
      exact Entries.get?_str_around distinct
    rw [lookup, lookup, byText, noText, bySymbol]
    simp [known]

end Record

/-! ## The law -/

namespace Schema

/-- Two mappings are the same to a schema: without strictness a validation of the one is, with all
that it logs and displays, a validation of the other. -/
def Alike (env : Environment) (schema : Schema) (data others : Entries) : Prop :=
  ∀ coerce path debug, validate env schema (.map data) ⟨coerce, some false, path, debug⟩ =
    validate env schema (.map others) ⟨coerce, some false, path, debug⟩

/-- A schema that is not strict reads its fields, and nothing else. -/
structure ReadsFieldsOnly (env : Environment) (schema : Schema) : Prop where
  /-- What is looked up for the fields decides. -/
  agree : ∀ data others : Entries,
    (∀ name ∈ schema.fieldNames, Record.lookup env data name = Record.lookup env others name) →
    schema.Alike env data others
  /-- The order of the entries does not matter. -/
  permuted : ∀ data others : Entries, data.Distinct → data.Perm others →
    schema.Alike env data others
  /-- An entry that is no field may be added and removed. -/
  foreign : ∀ (front rest : Entries) (key value : Value),
    (∀ name ∈ schema.fieldNames, key ≠ .str name ∧ key ≠ .symbol name) →
    schema.Alike env (front ++ (key, value) :: rest) (front ++ rest)
  /-- A name may be written as a text and as an existing symbol. -/
  respelled : ∀ (front rest : Entries) (name : String) (value : Value), env.knows name = true →
    Entries.Distinct (front ++ (.str name, value) :: rest) →
    Entries.Distinct (front ++ (.symbol name, value) :: rest) →
    schema.Alike env (front ++ (.str name, value) :: rest) (front ++ (.symbol name, value) :: rest)

/-- Whatever is written into a mapping beside its fields, in whatever order and in whichever
spelling, a validation that is not strict gives the same results, violations and reports. -/
theorem reads_fields_only (env : Environment) (schema : Schema) : schema.ReadsFieldsOnly env := by
  have agree {data others : Entries}
      (same : ∀ name ∈ schema.fieldNames,
        Record.lookup env data name = Record.lookup env others name) :
      schema.Alike env data others := fun coerce path debug => validate_congr same coerce path debug
  constructor
  case agree =>
    intro data others same
    exact agree same
  case permuted =>
    intro data others distinct permuted
    exact agree fun name _ => Record.lookup_perm distinct permuted env name
  case foreign =>
    intro front rest key value elsewhere
    apply agree
    intro name among
    obtain ⟨noText, noSymbol⟩ := elsewhere name among
    exact Record.lookup_of_foreign noText noSymbol
  case respelled =>
    intro front rest name value known distinct symbolDistinct
    exact agree fun sought _ => Record.lookup_of_symbol known distinct symbolDistinct sought

/-- A field and a foreign entry in two orders, then the field under its symbol. -/
theorem reads_fields_only_of_respelled :
    let env : Environment := { Environment.bare with symbols := ["id"] }
    let schema : Schema :=
      ⟨[⟨"id", .primitive .integer, true, [], .null, .null, .null⟩], .null, .null, false, none, []⟩
    schema.Alike env [(.str "id", .int 7), (.str "x", .null)]
      [(.str "x", .null), (.symbol "id", .int 7)] := by
  intro env schema coerce path debug
  have law := reads_fields_only env schema
  have reordered := law.permuted [(.str "id", .int 7), (.str "x", .null)]
    [(.str "x", .null), (.str "id", .int 7)] (by decide) (List.Perm.swap _ _ _) coerce path debug
  have respelled := law.respelled [(.str "x", .null)] [] "id" (.int 7) (by decide) (by decide)
    (by decide) coerce path debug
  exact reordered.trans respelled

end Schema

end Conform
