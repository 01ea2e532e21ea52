import Conform.Constraint
import Conform.TypeSpec.Coercion
import Conform.Value.Copy

/-!
# Checking values against types

Every type specification denotes a checker, put together from the checkers of its components.  The
checker of a reference to a schema is that of the whole record: a fixed sequence of stages, each of
which sees the data only if the earlier ones found nothing wrong.

1. the input is a mapping,
2. every required field is present,
3. every present field has an acceptable value,
4. if the schema is strict, every key is a field,
5. the hook of the schema agrees.
-/

namespace Conform

/-- Which values a primitive kind admits. -/
def Kind.admits (kind : Kind) (value : Value) : Bool :=
  match kind, value with
  | .any, _ => true
  | .string, .str _ => true
  | .integer, .int _ => true
  | .float, .float _ => true
  | .boolean, .bool _ => true
  | .atom, .symbol _ => true
  | .atom, .member .. => true
  | .map, .map _ => true
  | _, _ => false

namespace TypeSpec

/-- The bounds of an array type as constraints on the number of items. -/
def boundConstraints (minItems maxItems : Value) : List Constraint :=
  (if minItems.isNull then [] else [(.minItems, minItems)]) ++
  (if maxItems.isNull then [] else [(.maxItems, maxItems)])

/-- The constraints that an array type carries by itself. -/
def constraints : TypeSpec → List Constraint
  | .array _ minItems maxItems => boundConstraints minItems maxItems
  | _ => []

end TypeSpec

namespace Check

/-- Accept exactly the values of a primitive kind. -/
def kind (kind : Kind) : Checker := fun value path =>
  if kind.admits value then .ok (.accepted value)
  else .ok (.rejected [.wrongSort path kind.name value.sortName])

/-- Accept mappings, as a primitive node does whose kind is none. -/
def unknownKind (description : Attempt String) : Checker := fun value path =>
  if value.entries?.isSome then .ok (.accepted value)
  else do return .rejected [.wrongSort path (← description) value.sortName]

/-- Check every member of a sequence, then the bounds on their number. -/
def array (inner : Checker) (bounds : List Constraint) : Checker := fun value path =>
  match value.items? with
  | none => .ok (.rejected [.wrongSort path "array" value.sortName])
  | some items => do
    match conclude .list (← members path 0 (items.map fun item => (inner, item))) with
    | .accepted result => Constraint.checkAll bounds result path
    | .rejected violations => return .rejected violations

/-- Accept what the first agreeing alternative accepts. -/
def union (description : Attempt String) (alternatives : List Checker) : Checker :=
  fun value path => do
    match ← firstAccepted value path alternatives with
    | some result => return .accepted result
    | none => return .rejected [.noAlternative path (← description) value.sortName]

/-- Accept what the first agreeing alternative accepts, of those that stand in a raw union. -/
def rawUnion (description : Attempt String) (alternatives : Attempt (List Checker)) : Checker :=
  fun value path => do union description (← alternatives) value path

/-- Check the members of a sequence of the right length, each by the checker at its place. -/
def tuple (elements : List Checker) : Checker := fun value path =>
  match value.items? with
  | none => .ok (.rejected [.wrongSort path "tuple" value.sortName])
  | some items =>
    if items.length = elements.length then do
      return conclude .tuple (← members path 0 (elements.zip items))
    else .ok (.rejected [.wrongArity path elements.length items.length])

/-- Check the members of a sequence by the elements that stand in a raw tuple. -/
def rawTuple (elements : Attempt (List Checker)) : Checker := fun value path =>
  match value.items? with
  | none => .ok (.rejected [.wrongSort path "tuple" value.sortName])
  | some _ => do tuple (← elements) value path

/-- Refuse a component that was never resolved. -/
def raw (component : Value) : Checker := fun _ _ => TypeSpec.refuse component .unrecognized

/-- The label under which the key at a position appears in paths. -/
def keyLabel (position : Nat) : Value := .str ("key_" ++ Digits.write position)

/-- Check keys and values in order; the entries accepted as a whole, and all violations. -/
def entries (key value : Checker) (path : Path) :
    Nat → Entries → Entries → Attempt (Entries × List Violation)
  | _, [], done => .ok (done, [])
  | position, (k, v) :: rest, done => do
    let keyVerdict ← key k (path ++ [keyLabel position])
    let valueVerdict ← value v (path ++ [k])
    let done ← match keyVerdict, valueVerdict with
      | .accepted k, .accepted v => do pure (Entries.put done (← k.asKey) v)
      | _, _ => pure done
    let (done, violations) ← entries key value path (position + 1) rest done
    return (done, keyVerdict.violations ++ (valueVerdict.violations ++ violations))

/-- Check the keys and values of a mapping. -/
def map (key value : Checker) : Checker := fun data path =>
  match data with
  | .map found => do
    let (done, violations) ← entries key value path 0 found []
    return if violations.isEmpty then .accepted (.map done) else .rejected violations
  | other => .ok (.rejected [.wrongSort path "map" other.sortName])

/-- The records that a reason consists of, if it consists of records. -/
def records? : List Value → Option (List Violation)
  | [] => some []
  | .violation record :: rest => (records? rest).map (record :: ·)
  | _ :: _ => none

/-- The violations that the reason of an opaque target amounts to. -/
def targetViolations (reason : Value) (path : Path) : Attempt (List Violation) :=
  let other : Attempt (List Violation) := do return [.refusedByTarget path (← reason.plain)]
  match reason with
  | .violation record => .ok [record.under path]
  | .list (first :: rest) | .tuple (first :: rest) =>
    match records? (first :: rest) with
    | some records => .ok (records.map (Violation.under path))
    | none => other
  | _ => other

/-- Leave the verdict to an opaque target. -/
def target (env : Environment) (target : Target) : Checker := fun value path => do
  match ← env.respond target value with
  | .ok result => return .accepted result
  | .error reason => return .rejected (← targetViolations reason path)

/-- Check by a whole schema; its violations move below the path of the value. -/
def nested (record : Checker) : Checker := fun value path => do
  match ← record value [] with
  | .accepted result => return .accepted result
  | .rejected violations => return .rejected (violations.map (Violation.under path))

/-- Apply constraints to what another checker accepts. -/
def constrained (checker : Checker) (constraints : List Constraint) : Checker :=
  fun value path => do
    match ← checker value path with
    | .accepted result => Constraint.checkAll constraints result path
    | .rejected violations => return .rejected violations

/-- Check what a conversion makes of a value; what cannot be converted is not checked. -/
def coerced (coercion checker : Checker) : Checker := fun value path => do
  match ← coercion value path with
  | .accepted result => checker result path
  | .rejected violations => return .rejected violations

end Check

/-- A field with the checker of its values. -/
structure Rule where
  field : Field
  check : Checker

namespace Record

/-- The value of a field: under its name, or else under the symbol of that name. -/
def lookup (env : Environment) (data : Entries) (name : String) : Option Value :=
  match data.get? (.str name) with
  | some value => some value
  | none => if env.knows name then data.get? (.symbol name) else none

/-- The text by which a key of the input is compared with field names. -/
def keyName : Value → Attempt String
  | .symbol name => .ok name
  | key => key.plain

/-- One violation for each required field that is absent. -/
def missing (env : Environment) (fields : List Field) (data : Entries) (path : Path) :
    List Violation :=
  (fields.filter fun field => field.required && (lookup env data field.name).isNone).map
    fun field => .missingField (path ++ [.str field.name])

/-- The verdict on a single field: that of its check if it is present; if it is absent, a copy of
its default, or a violation if it is required, or nothing. -/
def fieldVerdict (env : Environment) (data : Entries) (path : Path) (rule : Rule) :
    Attempt (Option (Verdict Value)) :=
  let place := path ++ [.str rule.field.name]
  match lookup env data rule.field.name with
  | some value => do return some (← rule.check value place)
  | none =>
    if !rule.field.default.isNull then do return some (.accepted (← rule.field.default.copy))
    else if rule.field.required then return some (.rejected [.missingField place])
    else return none

/-- Put the verdict on the field of a name in front of those on others. -/
def addVerdict (name : String) (verdict : Option (Verdict Value))
    (others : List (String × Value) × List Violation) : List (String × Value) × List Violation :=
  match verdict with
  | some (.accepted value) => ((name, value) :: others.1, others.2)
  | some (.rejected found) => (others.1, found ++ others.2)
  | none => others

/-- Check the present fields in order and fill in copies of defaults; the accepted entries and all
violations. -/
def gather (env : Environment) (data : Entries) (path : Path) :
    List Rule → Attempt (List (String × Value) × List Violation)
  | [] => .ok ([], [])
  | rule :: rest => do
    let verdict ← fieldVerdict env data path rule
    return addVerdict rule.field.name verdict (← gather env data path rest)

/-- The names of the keys that occur in neither list, each once, in order. -/
def extraNames (known : List String) : List String → List Value → Attempt (List String)
  | extra, [] => .ok extra
  | extra, key :: rest => do
    let name ← keyName key
    extraNames known
      (if known.contains name || extra.contains name then extra else extra ++ [name]) rest

mutual

/-- The violations that the reason of a hook amounts to: records as they are, a text as a message,
lists member by member. -/
def hookViolations (path : Path) : Value → Attempt (List Violation)
  | .violation record => .ok [record]
  | .str message => .ok [.review path message]
  | .list (first :: rest) => hookViolationsOfAll path (first :: rest)
  | .tuple (first :: rest) => hookViolationsOfAll path (first :: rest)
  | reason => do
    return [.review path ("post-validation hook returned an invalid error: " ++ (← reason.literal))]

/-- The violations of several reasons, in order. -/
def hookViolationsOfAll (path : Path) : List Value → Attempt (List Violation)
  | [] => .ok []
  | reason :: rest => do
    return (← hookViolations path reason) ++ (← hookViolationsOfAll path rest)

end

/-- The verdict that the outcome of a hook amounts to. -/
def concludeReview (outcome : HookOutcome) (path : Path) : Attempt (Verdict Value) :=
  match outcome with
  | .raised exception account => do return .rejected [.failedReview path exception (← account)]
  | .returned (.ok (.map entries)) => .ok (.accepted (.map entries))
  | .returned (.map entries) => .ok (.accepted (.map entries))
  | .returned (.err reason) => do return .rejected (← hookViolations path reason)
  | .returned other => do
    return .rejected [.review path
      ("post-validation hook returned an invalid result: " ++ (← other.literal))]

/-- Let the hook review the accepted record, if there is a hook. -/
def review (env : Environment) (hook : Option Nat) (record : Value) (path : Path) :
    Attempt (Verdict Value) :=
  match hook with
  | none => .ok (.accepted record)
  | some handle => concludeReview (env.review handle record) path

/-- The text of a code; codes that are not text have no place in a sorted list. -/
def codeText : Value → Attempt String
  | .str code => .ok code
  | _ => .error .notText

/-- The distinct codes of violations in ascending order. -/
def codes (violations : List Violation) : Attempt (List String) := do
  let texts ← (violations.map Violation.code).mapM codeText
  let distinct := texts.foldl (fun done code => if done.contains code then done else done ++ [code])
    ([] : List String)
  return distinct.mergeSort fun a b => decide (a ≤ b)

/-- The record that the hook gets to see, or what is wrong without asking the hook. -/
def candidate (env : Environment) (rules : List Rule) (strict : Bool) : Checker :=
  fun value path =>
    match value with
    | .map data => do
      match missing env (rules.map Rule.field) data path with
      | first :: rest => return .rejected (first :: rest)
      | [] =>
        let (values, violations) ← gather env data path rules
        if !violations.isEmpty then return .rejected violations
        else
          let extra ←
            if strict then extraNames (values.map Prod.fst) [] (data.map Prod.fst) else pure []
          if !extra.isEmpty then return .rejected [.unexpectedFields path extra]
          else return .accepted (.record values)
    | other => .ok (.rejected [.notMapping path other.sortName])

/-- The stages of checking a record. -/
def stages (env : Environment) (rules : List Rule) (strict : Bool) (hook : Option Nat) :
    Checker := fun value path => do
  match ← candidate env rules strict value path with
  | .accepted record => review env hook record path
  | .rejected violations => return .rejected violations

/-- Check a record.  A rejection is summed up by its codes, which therefore have to be text. -/
def check (env : Environment) (rules : List Rule) (strict : Bool) (hook : Option Nat) :
    Checker := fun value path => do
  match ← stages env rules strict hook value path with
  | .accepted result => return .accepted result
  | .rejected violations =>
    let _ ← codes violations
    return .rejected violations

end Record

mutual

/-- The checker that a type specification denotes. -/
def TypeSpec.check (env : Environment) : TypeSpec → Checker
  | .primitive kind => Check.kind kind
  | .unknownKind kind => Check.unknownKind (TypeSpec.unknownKind kind).describe
  | .array inner minItems maxItems =>
    Check.array (TypeSpec.check env inner) (TypeSpec.boundConstraints minItems maxItems)
  | .union alternatives =>
    Check.union (TypeSpec.union alternatives).describe (TypeSpec.checkers env alternatives)
  | .rawUnion alternatives =>
    Check.rawUnion (TypeSpec.rawUnion alternatives).describe (alternatives.memberCheckers env)
  | .tuple elements => Check.tuple (TypeSpec.checkers env elements)
  | .rawTuple elements => Check.rawTuple (elements.memberCheckers env)
  | .map key value => Check.map (TypeSpec.check env key) (TypeSpec.check env value)
  | .ref target => Value.checkAsTarget env target
  | .raw component => Check.raw component

/-- The checkers of several types. -/
def TypeSpec.checkers (env : Environment) : List TypeSpec → List Checker
  | [] => []
  | spec :: rest => TypeSpec.check env spec :: TypeSpec.checkers env rest

/-- The checkers of the components that a value yields. -/
def Value.memberCheckers (env : Environment) : Value → Attempt (List Checker)
  | .list items | .tuple items | .set items | .frozenset items =>
    .ok (Value.eachChecker env items)
  | .map entries => .ok (Value.keyCheckers env entries)
  | other => do return (← other.elements).map Check.raw

/-- The checkers of values as components. -/
def Value.eachChecker (env : Environment) : List Value → List Checker
  | [] => []
  | .spec spec :: rest => TypeSpec.check env spec :: Value.eachChecker env rest
  | other :: rest => Check.raw other :: Value.eachChecker env rest

/-- The checkers of the keys of entries as components. -/
def Value.keyCheckers (env : Environment) : List (Value × Value) → List Checker
  | [] => []
  | (.spec spec, _) :: rest => TypeSpec.check env spec :: Value.keyCheckers env rest
  | (other, _) :: rest => Check.raw other :: Value.keyCheckers env rest

/-- The checker of a reference to a value: values other than targets and schemas check nothing. -/
def Value.checkAsTarget (env : Environment) : Value → Checker
  | .target object => Check.target env object
  | .schema _ schema => Check.nested (Schema.check env schema)
  | _ => fun _ _ => .error .missingAttribute

/-- The checker of a schema under its own settings. -/
def Schema.check (env : Environment) : Schema → Checker
  | ⟨fields, _, _, strict, hook, _⟩ => Record.check env (Schema.rules env fields) strict hook

/-- The rules of fields. -/
def Schema.rules (env : Environment) : List Field → List Rule
  | [] => []
  | field :: rest => ⟨field, Field.check env field⟩ :: Schema.rules env rest

/-- The checker of the values of a field: its type, then its constraints. -/
def Field.check (env : Environment) : Field → Checker
  | ⟨_, type, _, constraints, _, _, _⟩ => Check.constrained (TypeSpec.check env type) constraints

end

/-- The checkers of several types are those of each of them. -/
@[simp] theorem TypeSpec.checkers_eq_map (env : Environment) (specs : List TypeSpec) :
    TypeSpec.checkers env specs = specs.map (TypeSpec.check env) := by
  induction specs with
  | nil => rfl
  | cons spec rest ih => rw [checkers, ih, List.map_cons]

/-- The rules of fields pair every field with its check. -/
@[simp] theorem Schema.rules_eq_map (env : Environment) (fields : List Field) :
    Schema.rules env fields = fields.map fun field => ⟨field, field.check env⟩ := by
  induction fields with
  | nil => rfl
  | cons field rest ih => rw [rules, ih, List.map_cons]

end Conform
