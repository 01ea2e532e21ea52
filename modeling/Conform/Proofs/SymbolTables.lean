import Conform.Proofs.Conversions
import Conform.Proofs.Lookups

/-!
# The symbols that exist

Two things ask which symbols exist: the lookup of a field under its symbol, and the conversion of a
text to an atom.  A lookup finds a symbol only if it occurs in the data, so that other symbols do
not matter to it; a conversion does depend on them.  Hence what a check says is the same wherever
the symbols of its data exist, and so is what it says after a conversion that makes no atoms.
-/

namespace Conform

/-! ## Symbols in data -/

mutual

/-- The names of the symbols in a value that a check can come upon: those at every depth of its
sequences and mappings. -/
def Value.symbolNames : Value → List String
  | .symbol name => [name]
  | .list items => Value.symbolNamesOfAll items
  | .tuple items => Value.symbolNamesOfAll items
  | .map entries => Value.symbolNamesOfEntries entries
  | _ => []

/-- The names of the symbols in several values. -/
def Value.symbolNamesOfAll : List Value → List String
  | [] => []
  | value :: rest => value.symbolNames ++ Value.symbolNamesOfAll rest

/-- The names of the symbols in the keys and values of entries. -/
def Value.symbolNamesOfEntries : List (Value × Value) → List String
  | [] => []
  | (key, value) :: rest =>
    key.symbolNames ++ (value.symbolNames ++ Value.symbolNamesOfEntries rest)

end

namespace Value

@[simp] theorem mem_symbolNamesOfAll {items : List Value} {name : String} :
    name ∈ symbolNamesOfAll items ↔ ∃ item ∈ items, name ∈ item.symbolNames := by
  induction items with
  | nil => simp [symbolNamesOfAll]
  | cons item rest ih => simp [symbolNamesOfAll, ih]

@[simp] theorem mem_symbolNamesOfEntries {entries : Entries} {name : String} :
    name ∈ symbolNamesOfEntries entries ↔
      ∃ entry ∈ entries, name ∈ entry.1.symbolNames ∨ name ∈ entry.2.symbolNames := by
  induction entries with
  | nil => simp [symbolNamesOfEntries]
  | cons entry rest ih =>
      obtain ⟨key, value⟩ := entry
      simp [symbolNamesOfEntries, ih, or_assoc]

theorem symbolNames_of_items {value : Value} {items : List Value}
    (found : value.items? = some items) : value.symbolNames = symbolNamesOfAll items := by
  cases value with
  | list | tuple =>
      cases found
      rfl
  | _ => cases found

theorem symbolNamesOfAll_subset {items made : List Value}
    (each : List.Forall₂ (fun item made => made.symbolNames ⊆ item.symbolNames) items made) :
    symbolNamesOfAll made ⊆ symbolNamesOfAll items := by
  induction each with
  | nil => exact List.Subset.refl _
  | cons first _ ih =>
      exact List.append_subset.mpr
        ⟨List.subset_append_of_subset_left _ first, List.subset_append_of_subset_right _ ih⟩

/-- Every symbol in a value exists in both of two environments. -/
def ExistsIn (env other : Environment) (value : Value) : Prop :=
  ∀ name ∈ value.symbolNames, env.knows name = true ∧ other.knows name = true

instance (env other : Environment) (value : Value) : Decidable (value.ExistsIn env other) :=
  inferInstanceAs (Decidable (∀ name ∈ value.symbolNames, _))

variable {env other : Environment}

theorem ExistsIn.item {value : Value} (exist : value.ExistsIn env other) {items : List Value}
    (found : value.items? = some items) {item : Value} (among : item ∈ items) :
    item.ExistsIn env other := by
  intro name within
  apply exist
  rw [symbolNames_of_items found, mem_symbolNamesOfAll]
  exact ⟨item, among, within⟩

theorem ExistsIn.entry {entries : Entries} (exist : (Value.map entries).ExistsIn env other)
    {entry : Value × Value} (among : entry ∈ entries) :
    entry.1.ExistsIn env other ∧ entry.2.ExistsIn env other := by
  constructor
  · exact fun name within => exist name (mem_symbolNamesOfEntries.mpr ⟨entry, among, .inl within⟩)
  · exact fun name within => exist name (mem_symbolNamesOfEntries.mpr ⟨entry, among, .inr within⟩)

end Value

/-! ## Lookups -/

namespace Record

variable {env other : Environment} {data : Entries}

theorem mem_of_lookup {name : String} {value : Value} (found : lookup env data name = some value) :
    ∃ key, (key, value) ∈ data := by
  simp only [lookup] at found
  split at found
  case h_1 value byText =>
    cases found
    exact ⟨_, Entries.mem_of_get? (fun _ => Value.beq_str_iff) byText⟩
  case h_2 =>
    split at found
    · exact ⟨_, Entries.mem_of_get? (fun _ => Value.beq_symbol_iff) found⟩
    · cases found

/-- A symbol that does not occur in data is of no use to a lookup there, whether it exists or
not. -/
theorem lookup_of_existsIn (exist : (Value.map data).ExistsIn env other) (name : String) :
    lookup env data name = lookup other data name := by
  simp only [lookup]
  cases byText : data.get? (.str name) with
  | some value => rfl
  | none =>
      cases bySymbol : data.get? (.symbol name) with
      | none => simp only [ite_self]
      | some value =>
          have among := Entries.mem_of_get? (fun _ => Value.beq_symbol_iff) bySymbol
          have known := (exist.entry among).1 name List.mem_cons_self
          rw [known.1, known.2]

end Record

/-! ## Checks -/

/-- Two checkers say the same of every value whose symbols exist in both of two environments. -/
def Checker.Twins (env other : Environment) (checker twin : Checker) : Prop :=
  ∀ value path, value.ExistsIn env other → checker value path = twin value path

namespace Check

variable {env other : Environment}

theorem members_congr {parts twins : List (Checker × Value)}
    (each : List.Forall₂ (fun part twin => ∀ place, part.1 part.2 place = twin.1 twin.2 place)
      parts twins) (path : Path) (index : Nat) :
    members path index parts = members path index twins := by
  induction each generalizing index with
  | nil => rfl
  | cons first _ ih => simp [members, first, ih]

theorem firstAccepted_congr {value : Value} {checkers twins : List Checker}
    (each : List.Forall₂ (fun checker twin => ∀ place, checker value place = twin value place)
      checkers twins) (path : Path) :
    firstAccepted value path checkers = firstAccepted value path twins := by
  induction each with
  | nil => rfl
  | cons first _ ih => simp [firstAccepted, first, ih]

/-- Checks of keys and values say the same if they do at every entry. -/
theorem entries_congr {key keyTwin value valueTwin : Checker} {found : Entries}
    (each : ∀ entry ∈ found, (∀ place, key entry.1 place = keyTwin entry.1 place) ∧
      ∀ place, value entry.2 place = valueTwin entry.2 place) (path : Path) (position : Nat)
    (done : Entries) :
    entries key value path position found done =
      entries keyTwin valueTwin path position found done := by
  induction found generalizing position done with
  | nil => rfl
  | cons entry rest ih =>
      obtain ⟨k, v⟩ := entry
      obtain ⟨⟨sameKey, sameValue⟩, others⟩ := List.forall_mem_cons.mp each
      simp [entries, sameKey, sameValue, ih others]

theorem array_twins {inner twin : Checker} (twins : inner.Twins env other twin)
    (bounds : List Constraint) : (array inner bounds).Twins env other (array twin bounds) := by
  intro value path exist
  simp only [array]
  cases found : value.items? with
  | none => rfl
  | some items =>
      have each : List.Forall₂ (fun part twin : Checker × Value =>
          ∀ place, part.1 part.2 place = twin.1 twin.2 place)
          (items.map fun item => (inner, item)) (items.map fun item => (twin, item)) := by
        rw [List.forall₂_map_left_iff, List.forall₂_map_right_iff, List.forall₂_same]
        exact fun item among place => twins item place (exist.item found among)
      simp [members_congr each]

theorem union_twins (description : Attempt String) {alternatives twins : List Checker}
    (each : List.Forall₂ (Checker.Twins env other) alternatives twins) :
    (union description alternatives).Twins env other (union description twins) := by
  intro value path exist
  have here := each.imp fun _ _ alike place => alike value place exist
  simp [union, firstAccepted_congr here]

/-- Checks place by place say the same if those at the same place do. -/
theorem zip_twins {elements twins : List Checker}
    (each : List.Forall₂ (Checker.Twins env other) elements twins) {items : List Value}
    (exist : ∀ item ∈ items, item.ExistsIn env other) :
    List.Forall₂ (fun part twin => ∀ place, part.1 part.2 place = twin.1 twin.2 place)
      (elements.zip items) (twins.zip items) := by
  induction each generalizing items with
  | nil => exact .nil
  | cons first _ ih =>
      cases items with
      | nil => exact .nil
      | cons item rest =>
          obtain ⟨here, behind⟩ := List.forall_mem_cons.mp exist
          exact .cons (fun place => first item place here) (ih behind)

theorem tuple_twins {elements twins : List Checker}
    (each : List.Forall₂ (Checker.Twins env other) elements twins) :
    (tuple elements).Twins env other (tuple twins) := by
  intro value path exist
  simp only [tuple, each.length_eq]
  cases found : value.items? with
  | none => rfl
  | some items =>
      have parts := zip_twins each fun item among => exist.item found among
      simp [members_congr parts]

theorem map_twins {key keyTwin value valueTwin : Checker} (keys : key.Twins env other keyTwin)
    (values : value.Twins env other valueTwin) :
    (map key value).Twins env other (map keyTwin valueTwin) := by
  intro data path exist
  cases data with
  | map found =>
      have each : ∀ entry ∈ found, (∀ place, key entry.1 place = keyTwin entry.1 place) ∧
          ∀ place, value entry.2 place = valueTwin entry.2 place := by
        intro entry among
        obtain ⟨keyExist, valueExist⟩ := exist.entry among
        exact ⟨fun place => keys entry.1 place keyExist,
          fun place => values entry.2 place valueExist⟩
      simp [map, entries_congr each]
  | _ => rfl

theorem nested_twins {record twin : Checker} (twins : record.Twins env other twin) :
    (nested record).Twins env other (nested twin) := by
  intro value path exist
  simp [nested, twins value [] exist]

theorem constrained_twins {checker twin : Checker} (twins : checker.Twins env other twin)
    (constraints : List Constraint) :
    (constrained checker constraints).Twins env other (constrained twin constraints) := by
  intro value path exist
  simp [constrained, twins value path exist]

end Check

/-- Checkers of records say the same if those of their fields do. -/
theorem Record.check_twins {env other : Environment} {rules twins : List Rule}
    (each : List.Forall₂ (fun rule twin => twin.field = rule.field ∧
      rule.check.Twins env other twin.check) rules twins) (strict : Bool) :
    (Record.check env rules strict none).Twins env other
      (Record.check other twins strict none) := by
  intro value path exist
  have proposed : candidate env rules strict value path =
      candidate other twins strict value path := by
    cases value with
    | map data =>
        have matched : List.Forall₂ (Rule.Matches env other data data) rules twins := by
          refine each.imp fun rule twin alike => ⟨alike.1, lookup_of_existsIn exist _, ?_⟩
          intro value found place
          obtain ⟨key, among⟩ := mem_of_lookup found
          exact alike.2 value place (exist.entry among).2
        exact candidate_congr matched strict (fun _ => rfl) path
    | _ => rfl
  have reviewed (record : Value) :
      review env none record path = review other none record path := rfl
  simp [Record.check, stages, proposed, reviewed]

/-! ## Types -/

mutual

/-- Whether a type refers only to schemas, and only to those that refer to nothing else and ask no
hook. -/
def TypeSpec.isSelfContained : TypeSpec → Bool
  | .primitive _ | .unknownKind _ | .raw _ => true
  | .array inner _ _ => TypeSpec.isSelfContained inner
  | .rawUnion field | .rawTuple field => Value.yieldsSelfContained field
  | .union alternatives => TypeSpec.allSelfContained alternatives
  | .tuple elements => TypeSpec.allSelfContained elements
  | .map key value => TypeSpec.isSelfContained key && TypeSpec.isSelfContained value
  | .ref target => Value.isSelfContainedTarget target

/-- Whether all of the types refer to such schemas only. -/
def TypeSpec.allSelfContained : List TypeSpec → Bool
  | [] => true
  | spec :: rest => TypeSpec.isSelfContained spec && TypeSpec.allSelfContained rest

/-- Whether the components that a value yields refer to such schemas only. -/
def Value.yieldsSelfContained : Value → Bool
  | .list items | .tuple items | .set items | .frozenset items => Value.eachSelfContained items
  | .map entries => Value.keysSelfContained entries
  | _ => true

/-- Whether values as components refer to such schemas only. -/
def Value.eachSelfContained : List Value → Bool
  | [] => true
  | .spec spec :: rest => TypeSpec.isSelfContained spec && Value.eachSelfContained rest
  | _ :: rest => Value.eachSelfContained rest

/-- Whether the keys of entries as components refer to such schemas only. -/
def Value.keysSelfContained : List (Value × Value) → Bool
  | [] => true
  | (.spec spec, _) :: rest => TypeSpec.isSelfContained spec && Value.keysSelfContained rest
  | _ :: rest => Value.keysSelfContained rest

/-- Whether a value is such a schema. -/
def Value.isSelfContainedTarget : Value → Bool
  | .schema _ schema => Schema.isSelfContained schema
  | _ => false

/-- Whether a schema asks no hook, and its types refer only to schemas of the same sort. -/
def Schema.isSelfContained : Schema → Bool
  | ⟨fields, _, _, _, hook, _⟩ => hook.isNone && Schema.fieldsSelfContained fields

/-- Whether the types of all of the fields refer to such schemas only. -/
def Schema.fieldsSelfContained : List Field → Bool
  | [] => true
  | field :: rest => Field.isSelfContained field && Schema.fieldsSelfContained rest

/-- Whether the type of a field refers to such schemas only. -/
def Field.isSelfContained : Field → Bool
  | ⟨_, type, _, _, _, _, _⟩ => TypeSpec.isSelfContained type

end

/-! What holds of all the components that a value yields. -/

@[simp] theorem Value.eachSelfContained_eq (items : List Value) :
    Value.eachSelfContained items = (items.map TypeSpec.ofValue).all TypeSpec.isSelfContained := by
  induction items with
  | nil => rfl
  | cons item rest ih => cases item <;> simp only [eachSelfContained, ih] <;> rfl

@[simp] theorem Value.keysSelfContained_eq (entries : Entries) :
    Value.keysSelfContained entries =
      (entries.map (TypeSpec.ofValue ·.1)).all TypeSpec.isSelfContained := by
  induction entries with
  | nil => rfl
  | cons entry rest ih =>
      obtain ⟨key, value⟩ := entry
      cases key <;> simp only [keysSelfContained, ih] <;> rfl

/-- The components that a value yields are self-contained if the value yields such only. -/
theorem Value.selfContained_of_yields {field : Value} (contained : field.yieldsSelfContained = true)
    (specs : List TypeSpec) (found : field.components = .ok specs) :
    ∀ spec ∈ specs, spec.isSelfContained = true := by
  rw [← List.all_eq_true]
  cases field with
  | list items | tuple items | set items | frozenset items =>
      cases found
      exact (eachSelfContained_eq items).symm.trans contained
  | map entries =>
      rw [components_map] at found
      cases found
      exact (keysSelfContained_eq entries).symm.trans contained
  | str | bytes | bytearray | enumeration =>
      cases found
      simp [TypeSpec.ofValue, TypeSpec.isSelfContained]
  | _ => cases found

theorem TypeSpec.checkers_twins {env other : Environment} {specs : List TypeSpec}
    (each : ∀ spec ∈ specs, (spec.check env).Twins env other (spec.check other)) :
    List.Forall₂ (Checker.Twins env other) (TypeSpec.checkers env specs)
      (TypeSpec.checkers other specs) := by
  rw [TypeSpec.checkers_eq_map, TypeSpec.checkers_eq_map, List.forall₂_map_left_iff,
    List.forall₂_map_right_iff, List.forall₂_same]
  exact each

@[simp] theorem TypeSpec.allSelfContained_iff {specs : List TypeSpec} :
    allSelfContained specs = true ↔ ∀ spec ∈ specs, spec.isSelfContained = true := by
  induction specs with
  | nil => simp [allSelfContained]
  | cons spec rest ih => simp [allSelfContained, ih]

@[simp] theorem Schema.fieldsSelfContained_iff {fields : List Field} :
    fieldsSelfContained fields = true ↔ ∀ field ∈ fields, field.isSelfContained = true := by
  induction fields with
  | nil => simp [fieldsSelfContained]
  | cons field rest ih => simp [fieldsSelfContained, ih]

theorem Schema.type_selfContained {schema : Schema} (contained : schema.isSelfContained = true)
    {field : Field} (among : field ∈ schema.fields) : field.type.isSelfContained = true := by
  cases schema
  cases field
  exact Schema.fieldsSelfContained_iff.mp (Bool.and_eq_true_iff.mp contained).2 _ among

/-- What a schema says does not depend on symbols that do not occur in the value, if what the types
of its fields say does not. -/
theorem Schema.check_twins {env other : Environment} {schema : Schema}
    (contained : schema.isSelfContained = true)
    (each : ∀ field ∈ schema.fields,
      (field.type.check env).Twins env other (field.type.check other)) :
    (schema.check env).Twins env other (schema.check other) := by
  obtain ⟨fields, title, description, strict, hook, metadata⟩ := schema
  obtain ⟨hookFree, -⟩ := Bool.and_eq_true_iff.mp contained
  obtain rfl := Option.isNone_iff_eq_none.mp hookFree
  refine Record.check_twins ?_ strict
  rw [Schema.rules_eq_map, Schema.rules_eq_map, List.forall₂_map_left_iff,
    List.forall₂_map_right_iff, List.forall₂_same]
  intro field among
  cases field
  exact ⟨rfl, Check.constrained_twins (each _ among) _⟩

/-- What a type says does not depend on symbols that do not occur in the value. -/
theorem TypeSpec.check_twins (env other : Environment) (spec : TypeSpec)
    (contained : spec.isSelfContained = true) :
    (spec.check env).Twins env other (spec.check other) := by
  induction spec using TypeSpec.induction with
  | primitive | unknownKind | raw => exact fun _ _ _ => rfl
  | array inner minItems maxItems ih => exact Check.array_twins (ih contained) _
  | union alternatives ih =>
      have each := TypeSpec.allSelfContained_iff.mp contained
      exact Check.union_twins _ (checkers_twins fun spec among => ih spec among (each spec among))
  | tuple elements ih =>
      have each := TypeSpec.allSelfContained_iff.mp contained
      exact Check.tuple_twins (checkers_twins fun spec among => ih spec among (each spec among))
  | rawUnion field ih =>
      have each := Value.selfContained_of_yields contained
      simp only [check, Value.memberCheckers_eq]
      cases found : field.components with
      | error fault => exact fun _ _ _ => rfl
      | ok specs =>
          have twins := checkers_twins fun spec among =>
            ih specs found spec among (each specs found spec among)
          rw [checkers_eq_map, checkers_eq_map] at twins
          exact Check.union_twins _ twins
  | rawTuple field ih =>
      have each := Value.selfContained_of_yields contained
      simp only [check, Value.memberCheckers_eq]
      cases found : field.components with
      | error fault => exact fun _ _ _ => rfl
      | ok specs =>
          have twins := checkers_twins fun spec among =>
            ih specs found spec among (each specs found spec among)
          rw [checkers_eq_map, checkers_eq_map] at twins
          simp only [Attempt.ok_bind, pure, Except.pure, Check.rawTuple_ok]
          exact Check.tuple_twins twins
  | map key value keyIh valueIh =>
      have both := Bool.and_eq_true_iff.mp contained
      exact Check.map_twins (keyIh both.1) (valueIh both.2)
  | ref target ih =>
      cases target with
      | schema handle schema =>
          exact Check.nested_twins (Schema.check_twins contained fun field among =>
            ih handle schema rfl field among (Schema.type_selfContained contained among))
      | _ => cases contained

theorem Field.check_twins (env other : Environment) {field : Field}
    (contained : field.isSelfContained = true) :
    (field.check env).Twins env other (field.check other) := by
  cases field
  exact Check.constrained_twins (TypeSpec.check_twins env other _ contained) _

/-! ## Conversions -/

mutual

/-- Whether a conversion to a type may make an atom of a text.  Members of tuples and mappings are
not converted, nor are values for references; a node whose kind is unknown is converted as an
atom. -/
def TypeSpec.makesAtoms : TypeSpec → Bool
  | .primitive .atom | .unknownKind _ => true
  | .array inner _ _ => TypeSpec.makesAtoms inner
  | .union alternatives => TypeSpec.anyMakesAtoms alternatives
  | .rawUnion field => Value.yieldsAtomMakers field
  | _ => false

/-- Whether a conversion to one of several types may make an atom of a text. -/
def TypeSpec.anyMakesAtoms : List TypeSpec → Bool
  | [] => false
  | spec :: rest => TypeSpec.makesAtoms spec || TypeSpec.anyMakesAtoms rest

/-- Whether a conversion to a component that a value yields may make an atom of a text. -/
def Value.yieldsAtomMakers : Value → Bool
  | .list items | .tuple items | .set items | .frozenset items => Value.anyAtomMaker items
  | .map entries => Value.anyAtomMakerAsKey entries
  | _ => false

/-- Whether a conversion to one of the values as components may make an atom of a text. -/
def Value.anyAtomMaker : List Value → Bool
  | [] => false
  | .spec spec :: rest => TypeSpec.makesAtoms spec || Value.anyAtomMaker rest
  | _ :: rest => Value.anyAtomMaker rest

/-- Whether a conversion to one of the keys of entries as components may make an atom of a text. -/
def Value.anyAtomMakerAsKey : List (Value × Value) → Bool
  | [] => false
  | (.spec spec, _) :: rest => TypeSpec.makesAtoms spec || Value.anyAtomMakerAsKey rest
  | _ :: rest => Value.anyAtomMakerAsKey rest

end

@[simp] theorem Value.anyAtomMaker_eq (items : List Value) :
    Value.anyAtomMaker items = (items.map TypeSpec.ofValue).any TypeSpec.makesAtoms := by
  induction items with
  | nil => rfl
  | cons item rest ih => cases item <;> simp only [anyAtomMaker, ih] <;> rfl

@[simp] theorem Value.anyAtomMakerAsKey_eq (entries : Entries) :
    Value.anyAtomMakerAsKey entries =
      (entries.map (TypeSpec.ofValue ·.1)).any TypeSpec.makesAtoms := by
  induction entries with
  | nil => rfl
  | cons entry rest ih =>
      obtain ⟨key, value⟩ := entry
      cases key <;> simp only [anyAtomMakerAsKey, ih] <;> rfl

@[simp] theorem TypeSpec.anyMakesAtoms_eq_false_iff {specs : List TypeSpec} :
    anyMakesAtoms specs = false ↔ ∀ spec ∈ specs, spec.makesAtoms = false := by
  induction specs with
  | nil => simp [anyMakesAtoms]
  | cons spec rest ih => simp [anyMakesAtoms, ih]

/-- The components that a value yields make no atoms if the value yields such only. -/
theorem Value.makesAtoms_of_yields {field : Value} (noAtoms : field.yieldsAtomMakers = false)
    (specs : List TypeSpec) (found : field.components = .ok specs) :
    ∀ spec ∈ specs, spec.makesAtoms = false := by
  suffices none : specs.any TypeSpec.makesAtoms = false by
    intro spec among
    exact Bool.eq_false_iff.mpr (List.any_eq_false.mp none spec among)
  cases field with
  | list items | tuple items | set items | frozenset items =>
      cases found
      exact (anyAtomMaker_eq items).symm.trans noAtoms
  | map entries =>
      rw [components_map] at found
      cases found
      exact (anyAtomMakerAsKey_eq entries).symm.trans noAtoms
  | str | bytes | bytearray | enumeration =>
      cases found
      simp [TypeSpec.ofValue, TypeSpec.makesAtoms]
  | _ => cases found

/-- A conversion adds no symbols to those that are there. -/
def Checker.KeepsSymbols (conversion : Checker) : Prop :=
  ∀ value result, conversion.Accepts value result → result.symbolNames ⊆ value.symbolNames

namespace Coercion

theorem accept_keepsSymbols : Checker.KeepsSymbols fun value _ => accept value := by
  rintro value result ⟨path, accepted⟩
  cases accepted
  exact List.Subset.refl _

/-- A scalar other than an atom holds no symbol. -/
theorem toKind_keepsSymbols (env : Environment) {kind : Kind} (noAtom : kind ≠ .atom) :
    (toKind env kind).KeepsSymbols := by
  cases scalar : kind.isScalar with
  | false =>
      rw [toKind_of_not_isScalar env scalar]
      exact accept_keepsSymbols
  | true =>
      rintro value result ⟨path, accepted⟩
      have admits := (toKind_reaches scalar accepted).admits
      have none : result.symbolNames = [] := by
        cases kind <;> cases result <;> simp_all [Kind.admits, Value.symbolNames, Kind.isScalar]
      rw [none]
      exact List.nil_subset _

theorem toArray_keepsSymbols {inner : Checker} (evident : inner.Evident)
    (keeps : inner.KeepsSymbols) : (toArray inner).KeepsSymbols := by
  rintro value result ⟨path, accepted⟩
  cases found : value.items? with
  | none =>
      simp only [toArray, found] at accepted
      exact accept_keepsSymbols value result ⟨path, accepted⟩
  | some items =>
      obtain ⟨values, rfl, each⟩ := toArray_accepted evident found accepted
      rw [Value.symbolNames_of_items found]
      exact Value.symbolNamesOfAll_subset (each.imp fun item made => keeps item made)

theorem toUnion_keepsSymbols (spec : TypeSpec) {alternatives : List Checker}
    (keep : ∀ conversion ∈ alternatives, conversion.KeepsSymbols) :
    (toUnion spec alternatives).KeepsSymbols := by
  rintro value result ⟨path, accepted⟩
  obtain ⟨found, tried, concluded⟩ := Attempt.bind_eq_ok_iff.mp accepted
  cases found with
  | none => exact absurd concluded (refuse_ne_accepted _ _ _ _ _)
  | some first =>
      cases concluded
      obtain ⟨conversion, among, accepts⟩ := Check.exists_accepts_of_firstAccepted tried
      exact keep conversion among value _ accepts

end Coercion

/-- A conversion that makes no atoms does not depend on the symbols that exist. -/
theorem TypeSpec.coerce_eq (env other : Environment) (spec : TypeSpec)
    (noAtoms : spec.makesAtoms = false) : spec.coerce env = spec.coerce other := by
  have eachEq {specs : List TypeSpec}
      (each : ∀ spec ∈ specs, spec.coerce env = spec.coerce other) :
      specs.map (coerce env) = specs.map (coerce other) := List.map_congr_left each
  induction spec using TypeSpec.induction with
  | primitive kind =>
      cases kind with
      | atom => cases noAtoms
      | _ => rfl
  | unknownKind => cases noAtoms
  | array inner minItems maxItems ih => exact congrArg Coercion.toArray (ih noAtoms)
  | union alternatives ih =>
      have none := anyMakesAtoms_eq_false_iff.mp noAtoms
      simp [coerce, eachEq fun spec among => ih spec among (none spec among)]
  | rawUnion field ih =>
      simp only [coerce, Value.memberCoercers_eq]
      cases found : field.components with
      | error fault => rfl
      | ok specs =>
          have none := Value.makesAtoms_of_yields noAtoms specs found
          simp [eachEq fun spec among => ih specs found spec among (none spec among)]
  | tuple | rawTuple | map | ref | raw => rfl

/-- A conversion that makes no atoms adds no symbols. -/
theorem TypeSpec.coerce_keepsSymbols (env : Environment) (spec : TypeSpec)
    (noAtoms : spec.makesAtoms = false) : (spec.coerce env).KeepsSymbols := by
  induction spec using TypeSpec.induction with
  | primitive kind => exact Coercion.toKind_keepsSymbols env (by rintro rfl; cases noAtoms)
  | unknownKind => cases noAtoms
  | array inner minItems maxItems ih =>
      exact Coercion.toArray_keepsSymbols (inner.coerce_evident env) (ih noAtoms)
  | union alternatives ih =>
      have none := anyMakesAtoms_eq_false_iff.mp noAtoms
      exact Coercion.toUnion_keepsSymbols _
        (forall_coercers fun spec among => ih spec among (none spec among))
  | rawUnion field ih =>
      have each := Value.forall_memberCoercers fun specs found spec among =>
        ih specs found spec among (Value.makesAtoms_of_yields noAtoms specs found spec among)
      simp only [coerce]
      cases found : field.memberCoercers env with
      | error fault => exact fun _ _ ⟨_, accepted⟩ => nomatch accepted
      | ok coercers => exact Coercion.toUnion_keepsSymbols _ (each coercers found)
  | tuple | rawTuple | map | ref | raw => exact Coercion.accept_keepsSymbols

/-! ## Validation -/

/-- A check after a conversion does not depend on symbols that do not occur in the value if the
conversion makes no atoms. -/
theorem Field.checkWith_twins (env other : Environment) {field : Field}
    (contained : field.isSelfContained = true) {coerce : Bool}
    (noAtoms : coerce = true → field.type.makesAtoms = false) :
    (field.checkWith env coerce).Twins env other (field.checkWith other coerce) := by
  have checked := Field.check_twins env other contained
  cases coerce with
  | false => exact checked
  | true =>
      intro value path exist
      simp only [checkWith, if_true, Check.coerced,
        TypeSpec.coerce_eq other env field.type (noAtoms rfl)]
      cases converted : field.type.coerce env value path with
      | error fault => rfl
      | ok verdict =>
          cases verdict with
          | rejected violations => rfl
          | accepted result =>
              have kept := TypeSpec.coerce_keepsSymbols env field.type (noAtoms rfl) value result
                ⟨path, converted⟩
              exact checked result path fun name within => exist name (kept within)

namespace Schema

/-- Which symbols exist makes no difference to a validation without conversions, nor to one whose
conversions make no atoms, as long as the symbols in the data exist. -/
theorem validate_symbols_irrelevant (env other : Environment) (schema : Schema)
    (contained : schema.isSelfContained = true) (data : Value) (exist : data.ExistsIn env other)
    (options : Options)
    (noAtoms : options.coerce = true → ∀ field ∈ schema.fields, field.type.makesAtoms = false) :
    (validate env schema data options).outcome = (validate other schema data options).outcome := by
  obtain ⟨fields, title, description, strict, hook, metadata⟩ := schema
  obtain ⟨hookFree, fieldsContained⟩ := Bool.and_eq_true_iff.mp contained
  obtain rfl := Option.isNone_iff_eq_none.mp hookFree
  let schema : Schema := ⟨fields, title, description, strict, none, metadata⟩
  have rules : List.Forall₂ (fun rule twin : Rule => twin.field = rule.field ∧
      rule.check.Twins env other twin.check) (schema.rulesWith env options.coerce)
      (schema.rulesWith other options.coerce) := by
    rw [rulesWith, rulesWith, List.forall₂_map_left_iff, List.forall₂_map_right_iff,
      List.forall₂_same]
    intro field among
    have fieldContained := fieldsSelfContained_iff.mp fieldsContained field among
    exact ⟨rfl, Field.checkWith_twins env other fieldContained fun coerce =>
      noAtoms coerce field among⟩
  have same : schema.verdict env data options = schema.verdict other data options :=
    Record.check_twins rules _ data options.path exist
  simp only [validate, Run.outcome_bind, Run.outcome_emit, Run.outcome_lift, Attempt.ok_bind]
  rw [same]

/-- Fields under their symbols, at two levels, and a conversion beside atoms that are not converted;
each of two environments has further symbols of its own. -/
theorem validate_symbols_irrelevant_of_nested :
    let tag : Schema :=
      ⟨[⟨"tag", .primitive .atom, true, [], .null, .null, .null⟩], .null, .null, true, none, []⟩
    let schema : Schema := ⟨[⟨"id", .primitive .integer, true, [], .null, .null, .null⟩,
      ⟨"child", .ref (.schema 0 tag), true, [], .null, .null, .null⟩,
      ⟨"pair", .tuple [.primitive .atom, .primitive .any], false, [], .null, .null, .null⟩],
      .null, .null, false, none, []⟩
    let env : Environment := { Environment.bare with symbols := ["id", "tag", "x", "child"] }
    let other : Environment := { Environment.bare with symbols := ["y", "x", "tag", "id"] }
    let data : Value := .map [(.symbol "id", .str "7"),
      (.str "child", .map [(.symbol "tag", .symbol "x")])]
    (validate env schema data { coerce := true }).outcome =
        (validate other schema data { coerce := true }).outcome ∧
      (validate env schema data { coerce := true }).outcome = .ok (.accepted (.map
        [(.str "id", .int 7), (.str "child", .map [(.str "tag", .symbol "x")])])) := by
  intro tag schema env other data
  have same := validate_symbols_irrelevant env other schema rfl data (by decide) { coerce := true }
    (fun _ => by decide)
  exact ⟨same, rfl⟩

-- A conversion that makes atoms does depend on the symbols that exist.
example :
    let schema : Schema :=
      ⟨[⟨"tag", .primitive .atom, true, [], .null, .null, .null⟩], .null, .null, true, none, []⟩
    let env : Environment := { Environment.bare with symbols := ["x"] }
    let data : Value := .map [(.str "tag", .str "x")]
    (validate env schema data { coerce := true }).outcome =
        .ok (.accepted (.map [(.str "tag", .symbol "x")])) ∧
      (validate .bare schema data { coerce := true }).outcome =
        .ok (.rejected [.notCoercible [.str "tag"] "atom" "string" "atom does not exist"]) :=
  ⟨rfl, rfl⟩

end Schema

end Conform
