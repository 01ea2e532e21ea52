import Conform.Proofs.Inhabitation
import Conform.Schema.Basic
import Conform.Validation.Basic
import Mathlib.Data.List.Forall2

/-!
# Conformity of records

What it means that a result stands to the data it was made from as a type or a schema demands.
Types denote relations between values and results, put together from those of their components; the
relation of a reference to a schema is conformity to that schema.

A schema is regular when it has no hook, its fields have distinct names, and their types are
resolved and refer to regular schemas only.
-/

namespace Conform

/-- How a result has to stand to the value that it was made from. -/
abbrev Fit := Value → Value → Prop

/-- A field with what is demanded of its values. -/
structure Demand where
  field : Field
  fit : Fit

namespace Fit

/-- The value itself, which has to be of a primitive kind. -/
def kind (kind : Kind) : Fit := fun given result =>
  result = given ∧ kind.admits result = true

/-- A list of results that fit the items of a sequence one by one, within bounds on their number. -/
def array (inner : Fit) (minItems maxItems : Value) : Fit := fun given result =>
  ∃ items results, given.items? = some items ∧ result = .list results ∧
    List.Forall₂ inner items results ∧
    TypeSpec.boundsAllow minItems maxItems results.length = true

/-- A result as one of the alternatives demands it. -/
def union (alternatives : List Fit) : Fit := fun given result =>
  ∃ fit ∈ alternatives, fit given result

/-- As many values and results as relations, each pair standing in the relation at its place. -/
inductive Each : List Fit → List Value → List Value → Prop where
  | nil : Each [] [] []
  | cons {fit : Fit} {fits : List Fit} {item result : Value} {items results : List Value} :
      fit item result → Each fits items results →
      Each (fit :: fits) (item :: items) (result :: results)

/-- A tuple of results that fit the members of a sequence place by place. -/
def tuple (elements : List Fit) : Fit := fun given result =>
  ∃ items results, given.items? = some items ∧ result = .tuple results ∧
    Each elements items results

/-- A mapping whose keys and values fit those of another one by one. -/
def map (key value : Fit) : Fit := fun given result =>
  ∃ entries results, given = .map entries ∧ result = .map results ∧
    List.Forall₂ (fun entry stored => key entry.1 stored.1 ∧ value entry.2 stored.2)
      entries results

/-- A result that also violates none of the constraints. -/
def satisfying (fit : Fit) (constraints : List Constraint) : Fit := fun given result =>
  fit given result ∧
    ∀ constraint ∈ constraints, ∀ place, Constraint.check constraint result place = .ok none

/-- A result that fits what a conversion makes of the value. -/
def converted (coercion : Checker) (fit : Fit) : Fit := fun given result =>
  ∃ place between, coercion given place = .ok (.accepted between) ∧ fit between result

/-- Entries of a record that stand to the data as its fields demand. -/
structure Meets (env : Environment) (demands : List Demand) (data results : Entries) : Prop where
  /-- The keys are names of fields in definition order, and nothing else. -/
  ordered : (results.map Prod.fst).Sublist (demands.map fun demand => .str demand.field.name)
  /-- Every required field is there. -/
  required : ∀ demand ∈ demands, demand.field.required = true →
    ∃ value, results.get? (.str demand.field.name) = some value
  /-- A field that is absent from the data is there exactly when it has a default, which then is its
  value. -/
  absent : ∀ demand ∈ demands, Record.lookup env data demand.field.name = none →
    results.get? (.str demand.field.name) =
      if demand.field.hasDefault then some demand.field.default else none
  /-- A field that is present in the data has a value that fits. -/
  present : ∀ demand ∈ demands, ∀ given, Record.lookup env data demand.field.name = some given →
    ∃ value, results.get? (.str demand.field.name) = some value ∧ demand.fit given value

/-- A mapping whose entries are a record that stands to the data as its fields demand. -/
def record (env : Environment) (demands : List Demand) : Fit := fun given result =>
  ∃ data results, given = .map data ∧ result = .map results ∧ Meets env demands data results

end Fit

mutual

/-- What a type demands of results.  Nothing fits a type that is not resolved, nor one that leaves
its verdict to an opaque target. -/
def TypeSpec.fit (env : Environment) : TypeSpec → Fit
  | .primitive kind => Fit.kind kind
  | .array inner minItems maxItems => Fit.array (TypeSpec.fit env inner) minItems maxItems
  | .union alternatives => Fit.union (TypeSpec.fits env alternatives)
  | .tuple elements => Fit.tuple (TypeSpec.fits env elements)
  | .map key value => Fit.map (TypeSpec.fit env key) (TypeSpec.fit env value)
  | .ref target => Value.fitAsTarget env target
  | .unknownKind _ | .rawUnion _ | .rawTuple _ | .raw _ => fun _ _ => False

/-- What several types demand. -/
def TypeSpec.fits (env : Environment) : List TypeSpec → List Fit
  | [] => []
  | spec :: rest => TypeSpec.fit env spec :: TypeSpec.fits env rest

/-- What a reference to a value demands: conformity, if it is a schema. -/
def Value.fitAsTarget (env : Environment) : Value → Fit
  | .schema _ schema => Schema.fit env schema
  | _ => fun _ _ => False

/-- Conformity to a schema. -/
def Schema.fit (env : Environment) : Schema → Fit
  | ⟨fields, _, _, _, _, _⟩ => Fit.record env (Schema.demands env fields)

/-- The demands of fields. -/
def Schema.demands (env : Environment) : List Field → List Demand
  | [] => []
  | field :: rest => ⟨field, Field.fit env field⟩ :: Schema.demands env rest

/-- What a field demands of its values: its type, and its constraints. -/
def Field.fit (env : Environment) : Field → Fit
  | ⟨_, type, _, constraints, _, _, _⟩ => Fit.satisfying (TypeSpec.fit env type) constraints

end

mutual

/-- Whether a type is resolved and refers to regular schemas only. -/
def TypeSpec.isRegular : TypeSpec → Bool
  | .primitive _ => true
  | .array inner _ _ => TypeSpec.isRegular inner
  | .union alternatives => TypeSpec.allRegular alternatives
  | .tuple elements => TypeSpec.allRegular elements
  | .map key value => TypeSpec.isRegular key && TypeSpec.isRegular value
  | .ref target => Value.isRegularTarget target
  | .unknownKind _ | .rawUnion _ | .rawTuple _ | .raw _ => false

/-- Whether all of the types are regular. -/
def TypeSpec.allRegular : List TypeSpec → Bool
  | [] => true
  | spec :: rest => TypeSpec.isRegular spec && TypeSpec.allRegular rest

/-- Whether a value is a regular schema. -/
def Value.isRegularTarget : Value → Bool
  | .schema _ schema => Schema.isRegular schema
  | _ => false

/-- Whether a schema has no hook, and fields with distinct names and regular types. -/
def Schema.isRegular : Schema → Bool
  | ⟨fields, _, _, _, hook, _⟩ =>
    hook.isNone && decide (fields.map Field.name).Nodup && Schema.fieldsRegular fields

/-- Whether all of the fields have regular types. -/
def Schema.fieldsRegular : List Field → Bool
  | [] => true
  | field :: rest => Field.isRegular field && Schema.fieldsRegular rest

/-- Whether the type of a field is regular. -/
def Field.isRegular : Field → Bool
  | ⟨_, type, _, _, _, _, _⟩ => TypeSpec.isRegular type

end

namespace Schema

@[simp] theorem demands_eq_map (env : Environment) (fields : List Field) :
    demands env fields = fields.map fun field => ⟨field, field.fit env⟩ := by
  induction fields with
  | nil => rfl
  | cons field rest ih => rw [demands, ih, List.map_cons]

end Schema

/-! ## Keys -/

namespace Fit

/-- Results that can be keys are the values that they were made from, if those can. -/
def KeepsKeys (fit : Fit) : Prop :=
  ∀ {given result}, fit given result → given.hashable = true → result.hashable = true →
    result = given

theorem Each.eq_of_hashable {fits : List Fit} {items results : List Value}
    (each : Each fits items results) (keepsKeys : ∀ fit ∈ fits, KeepsKeys fit)
    (itemsHashable : ∀ item ∈ items, item.hashable = true)
    (resultsHashable : ∀ result ∈ results, result.hashable = true) : results = items := by
  induction each with
  | nil => rfl
  | cons fits each ih =>
      obtain ⟨keeps, othersKeep⟩ := List.forall_mem_cons.mp keepsKeys
      obtain ⟨itemHashable, othersHashable⟩ := List.forall_mem_cons.mp itemsHashable
      obtain ⟨resultHashable, restHashable⟩ := List.forall_mem_cons.mp resultsHashable
      rw [keeps fits itemHashable resultHashable, ih othersKeep othersHashable restHashable]

theorem kind_keepsKeys (kind : Kind) : (Fit.kind kind).KeepsKeys :=
  fun fits _ _ => fits.1

theorem array_keepsKeys (inner : Fit) (minItems maxItems : Value) :
    (Fit.array inner minItems maxItems).KeepsKeys := by
  rintro given result ⟨items, results, _, rfl, _⟩ _ hashable
  cases hashable

theorem union_keepsKeys {alternatives : List Fit}
    (keepsKeys : ∀ fit ∈ alternatives, fit.KeepsKeys) : (Fit.union alternatives).KeepsKeys := by
  rintro given result ⟨fit, among, fits⟩ givenHashable resultHashable
  exact keepsKeys fit among fits givenHashable resultHashable

theorem tuple_keepsKeys {elements : List Fit} (keepsKeys : ∀ fit ∈ elements, fit.KeepsKeys) :
    (Fit.tuple elements).KeepsKeys := by
  rintro given result ⟨items, results, found, rfl, each⟩ givenHashable resultHashable
  cases given with
  | list members => cases givenHashable
  | tuple members =>
      cases found
      exact congrArg Value.tuple (each.eq_of_hashable keepsKeys
        (Value.hashable_tuple.mp givenHashable) (Value.hashable_tuple.mp resultHashable))
  | _ => cases found

theorem map_keepsKeys (key value : Fit) : (Fit.map key value).KeepsKeys := by
  rintro given result ⟨entries, results, rfl, _⟩ hashable
  cases hashable

theorem record_keepsKeys (env : Environment) (demands : List Demand) :
    (Fit.record env demands).KeepsKeys := by
  rintro given result ⟨data, results, rfl, _⟩ hashable
  cases hashable

end Fit

theorem Value.fitAsTarget_keepsKeys (env : Environment) (target : Value) :
    (target.fitAsTarget env).KeepsKeys := by
  cases target with
  | schema handle schema =>
      obtain ⟨fields, title, description, strict, hook, metadata⟩ := schema
      exact Fit.record_keepsKeys env _
  | _ =>
      intro given result fits
      cases fits

mutual

/-- A key that a type reads as a key is read as it is. -/
theorem TypeSpec.fit_keepsKeys (env : Environment) : (spec : TypeSpec) → (spec.fit env).KeepsKeys
  | .primitive kind => Fit.kind_keepsKeys kind
  | .array _ _ _ => Fit.array_keepsKeys _ _ _
  | .union alternatives => Fit.union_keepsKeys (TypeSpec.fits_keepKeys env alternatives)
  | .tuple elements => Fit.tuple_keepsKeys (TypeSpec.fits_keepKeys env elements)
  | .map _ _ => Fit.map_keepsKeys _ _
  | .ref target => Value.fitAsTarget_keepsKeys env target
  | .unknownKind _ | .rawUnion _ | .rawTuple _ | .raw _ => fun fits => nomatch fits

/-- Keys that types read as keys are read as they are. -/
theorem TypeSpec.fits_keepKeys (env : Environment) : (specs : List TypeSpec) →
    ∀ fit ∈ TypeSpec.fits env specs, fit.KeepsKeys
  | [] => fun _ among => nomatch among
  | spec :: rest => by
      intro fit among
      rcases List.mem_cons.mp among with rfl | others
      · exact TypeSpec.fit_keepsKeys env spec
      · exact TypeSpec.fits_keepKeys env rest fit others

end

end Conform
