import Conform.Proofs.Canonical

/-!
# How checks fault

Bad data is rejected.  A check of a canonical type still faults where a violation cannot be worded,
a pattern cannot be read or a key cannot be one; all such faults come from data, bounds and the
objects that a type refers to, and none of them says that the type itself is malformed.
-/

namespace Conform

/-- Whether a fault can come from the data under a check or from what a type refers to, while the
type itself is in order. -/
def Fault.isOfData : Fault → Bool
  | .digitsToWrite | .digitsToRead _ | .byteRange | .doubleRange => true
  | .malformedPattern | .repetitionRange | .conflictingSettings | .lookbehindRange
  | .reversedGroup => true
  | .unhashable | .notIterable | .notText | .unsupported | .targetFailed _ => true
  | _ => false

/-- An operation ends in no fault other than the allowed ones. -/
def Attempt.Within {α : Type} (allowed : Fault → Prop) (attempt : Attempt α) : Prop :=
  ∀ fault, attempt = .error fault → allowed fault

namespace Attempt.Within

variable {α β : Type} {allowed : Fault → Prop}

theorem ok (value : α) : Within allowed (.ok value) := by
  intro fault ended
  cases ended

theorem error {fault : Fault} (permitted : allowed fault) :
    Within allowed (.error fault : Attempt α) := by
  intro other ended
  cases ended
  exact permitted

theorem mono {wider : Fault → Prop} {attempt : Attempt α} (within : Within allowed attempt)
    (widens : ∀ fault, allowed fault → wider fault) : Within wider attempt :=
  fun fault ended => widens fault (within fault ended)

/-- The faults of a sequence are those of its steps. -/
theorem bind {attempt : Attempt α} {next : α → Attempt β} (first : Within allowed attempt)
    (second : ∀ value, attempt = .ok value → Within allowed (next value)) :
    Within allowed (attempt >>= next) := by
  cases attempt with
  | error fault =>
      intro other ended
      cases ended
      exact first fault rfl
  | ok value => exact second value rfl

/-- A step that cannot fault adds none. -/
theorem bind_ok {attempt : Attempt α} (first : Within allowed attempt) (build : α → β) :
    Within allowed (attempt >>= fun value => Except.ok (build value)) :=
  first.bind fun value _ => ok (build value)

end Attempt.Within

/-! ## Operations that come to a result -/

namespace Attempt

variable {α β : Type}

/-- An operation comes to a result. -/
def Returns (attempt : Attempt α) : Prop := ∃ result, attempt = .ok result

theorem returns_ok (value : α) : Returns (.ok value) := ⟨value, rfl⟩

/-- A sequence comes to a result if its first step does and so does what follows, provided that this
is the same whatever the result of the first step is. -/
theorem returns_bind_iff {attempt : Attempt α} {next : α → Attempt β} {follows : Prop}
    (each : ∀ value, (next value).Returns ↔ follows) :
    (attempt >>= next).Returns ↔ attempt.Returns ∧ follows := by
  constructor
  · rintro ⟨result, sequence⟩
    obtain ⟨value, first, second⟩ := Attempt.bind_eq_ok_iff.mp sequence
    exact ⟨⟨value, first⟩, (each value).mp ⟨result, second⟩⟩
  · rintro ⟨⟨value, first⟩, follows⟩
    obtain ⟨result, second⟩ := (each value).mpr follows
    exact ⟨result, Attempt.bind_eq_ok_iff.mpr ⟨value, first, second⟩⟩

/-- The result of a step may be put into something else. -/
@[simp] theorem returns_map_iff {attempt : Attempt α} {build : α → β} :
    (attempt >>= fun value => .ok (build value)).Returns ↔ attempt.Returns := by
  rw [returns_bind_iff fun value => iff_true_intro (returns_ok (build value)), and_true]

end Attempt

/-! ## Faults of data -/

/-- A check faults only for data. -/
abbrev Attempt.OfData {α : Type} (attempt : Attempt α) : Prop :=
  attempt.Within fun fault => fault.isOfData = true

/-- A checker that faults only for data, wherever a value lies. -/
def Checker.OfData (checker : Checker) : Prop :=
  ∀ value path, (checker value path).OfData

/-! ## Wording -/

/-- An operation can only fault for a whole number that is too long to be written. -/
abbrev Attempt.Worded {α : Type} (attempt : Attempt α) : Prop :=
  attempt.Within fun fault => fault = .digitsToWrite

theorem Attempt.Worded.ofData {α : Type} {attempt : Attempt α} (worded : attempt.Worded) :
    attempt.OfData := by
  intro fault ended
  rw [worded fault ended]
  rfl

theorem writeInt_worded (n : Int) : (writeInt n).Worded := by
  unfold writeInt
  split
  · exact .ok _
  · exact .error rfl

open Attempt.Within in
mutual

/-- A value has a literal form, unless a whole number in it is too long to be written. -/
theorem Value.literal_worded : (value : Value) → value.literal.Worded
  | .null | .bool _ | .float _ | .str _ | .bytes _ | .bytearray _ | .symbol _ | .enumeration ..
  | .pattern _ | .type _ | .target _ => ok _
  | .int n => writeInt_worded n
  | .list items => (Value.literals_worded items).bind_ok _
  | .tuple items => (Value.literals_worded items).bind_ok _
  | .set items | .frozenset items => by
      apply (Value.literals_worded items).bind
      intro texts _
      cases texts <;> exact ok _
  | .map entries => (Value.entryLiterals_worded entries).bind_ok _
  | .member _ _ payload => (Value.literal_worded payload).bind_ok _
  | .spec node => TypeSpec.literal_worded node
  | .violation record => Violation.literal_worded record
  | .ok value => (Value.literal_worded value).bind_ok _
  | .err reason => (Value.literal_worded reason).bind_ok _
  | .schema _ schema => Schema.literal_worded schema

/-- Values have literal forms, unless a whole number in them is too long to be written. -/
theorem Value.literals_worded : (values : List Value) → (Value.literals values).Worded
  | [] => ok _
  | value :: rest =>
      (Value.literal_worded value).bind fun _ _ => (Value.literals_worded rest).bind_ok _

/-- Entries have literal forms, unless a whole number in them is too long to be written. -/
theorem Value.entryLiterals_worded : (entries : List (Value × Value)) →
    (Value.entryLiterals entries).Worded
  | [] => ok _
  | (key, value) :: rest =>
      (Value.literal_worded key).bind fun _ _ => (Value.literal_worded value).bind fun _ _ =>
        (Value.entryLiterals_worded rest).bind_ok _

/-- A type has a literal form, unless a whole number in it is too long to be written. -/
theorem TypeSpec.literal_worded : (spec : TypeSpec) → spec.literal.Worded
  | .primitive _ => ok _
  | .unknownKind kind => (Value.literal_worded kind).bind_ok _
  | .array inner minItems maxItems =>
      (TypeSpec.literal_worded inner).bind fun _ _ =>
        (Value.literal_worded minItems).bind fun _ _ => (Value.literal_worded maxItems).bind_ok _
  | .union alternatives => (TypeSpec.literals_worded alternatives).bind_ok _
  | .rawUnion alternatives => (Value.literal_worded alternatives).bind_ok _
  | .tuple elements => (TypeSpec.literals_worded elements).bind_ok _
  | .rawTuple elements => (Value.literal_worded elements).bind_ok _
  | .map key value =>
      (TypeSpec.literal_worded key).bind fun _ _ => (TypeSpec.literal_worded value).bind_ok _
  | .ref target => (Value.literal_worded target).bind_ok _
  | .raw component => Value.literal_worded component

/-- Types have literal forms, unless a whole number in them is too long to be written. -/
theorem TypeSpec.literals_worded : (specs : List TypeSpec) → (TypeSpec.literals specs).Worded
  | [] => ok _
  | spec :: rest =>
      (TypeSpec.literal_worded spec).bind fun _ _ => (TypeSpec.literals_worded rest).bind_ok _

/-- A record has a literal form, unless a whole number in it is too long to be written. -/
theorem Violation.literal_worded : (record : Violation) → record.literal.Worded
  | ⟨path, code, message, context⟩ =>
      (Value.literals_worded path).bind fun _ _ => (Value.literal_worded code).bind fun _ _ =>
        (Value.literal_worded message).bind fun _ _ => (Value.literal_worded context).bind_ok _

/-- A schema has a literal form, unless a whole number in its title is too long to be written. -/
theorem Schema.literal_worded : (schema : Schema) → schema.literal.Worded
  | ⟨_, title, _, _, _, _⟩ => by
      simp only [Schema.literal]
      split
      · exact (Value.literal_worded title).bind fun _ _ => ok _
      · exact ok _

end

theorem Value.plain_worded (value : Value) : value.plain.Worded := by
  unfold Value.plain
  split
  case h_4 => exact Value.literal_worded _
  all_goals exact .ok _

/-! ## Constraints -/

theorem Value.elements_ofData (value : Value) : value.elements.OfData := by
  unfold Value.elements
  split
  · exact .ok _
  · exact .error rfl

namespace Constraint

open Attempt.Within

theorem unlessHolds_ofData (holds : Bool) {message : Attempt String} (worded : message.OfData) :
    (unlessHolds holds message).OfData := by
  unfold unlessHolds
  split
  · exact ok _
  · exact worded.bind_ok _

theorem numbered_ofData (bound : Value) {check : Number → Attempt (Option String)}
    (each : ∀ limit, (check limit).OfData) : (numbered bound check).OfData := by
  unfold numbered
  split
  · exact each _
  · exact ok _

theorem checkLength_ofData (holds : Number → Number → Bool) (leading : String)
    (bound value : Value) : (checkLength holds leading bound value).OfData := by
  unfold checkLength
  split
  · apply numbered_ofData
    intro limit
    exact unlessHolds_ofData _ ((Value.plain_worded bound).ofData.bind_ok _)
  · exact ok _

theorem checkItems_ofData (holds : Number → Number → Bool) (leading : String)
    (bound value : Value) : (checkItems holds leading bound value).OfData := by
  unfold checkItems
  split
  · apply numbered_ofData
    intro limit
    exact unlessHolds_ofData _ ((Value.plain_worded bound).ofData.bind_ok _)
  · exact ok _

theorem checkNumber_ofData (holds : Number → Number → Bool) (leading : String)
    (bound value : Value) : (checkNumber holds leading bound value).OfData := by
  unfold checkNumber
  split
  · apply numbered_ofData
    intro limit
    exact unlessHolds_ofData _ ((Value.plain_worded bound).ofData.bind_ok _)
  · exact ok _

/-- A pattern that cannot be read, or cannot be sought in a text, is one of the data. -/
theorem occursIn_ofData (pattern : Pattern) (text : String) : (pattern.occursIn text).OfData := by
  obtain ⟨source, flags⟩ := pattern
  cases source with
  | bytes octets => exact error rfl
  | text source =>
      simp only [Pattern.occursIn]
      cases Pattern.search source flags text with
      | ok found => exact ok _
      | error refusal =>
          apply error
          cases refusal <;> rfl

theorem checkFormat_ofData (bound value : Value) : (checkFormat bound value).OfData := by
  unfold checkFormat
  split
  · apply (occursIn_ofData _ _).bind
    intro found _
    exact unlessHolds_ofData _ (ok _)
  · exact ok _

theorem numberWithin_ofData (octets : List UInt8) (n : Int) :
    (Value.numberWithin octets n).OfData := by
  unfold Value.numberWithin
  split
  · exact ok _
  · exact error rfl

theorem withinOctets_ofData (value : Value) (octets : List UInt8) :
    (value.withinOctets octets).OfData := by
  cases value with
  | int | bool => exact (numberWithin_ofData _ _).bind_ok _
  | _ => exact ok _

theorem within?_ofData (value allowed : Value) : (value.within? allowed).OfData := by
  cases allowed with
  | bytes octets | bytearray octets => exact withinOctets_ofData value octets
  | str text => cases value <;> exact ok _
  | _ => exact ok _

theorem checkChoices_ofData (allowed value : Value) : (checkChoices allowed value).OfData := by
  apply (within?_ofData value allowed).bind
  intro found _
  split
  · apply (Value.elements_ofData allowed).bind
    intro items _
    exact (Value.literal_worded _).ofData.bind_ok _
  · exact ok _

theorem message_ofData (key : ConstraintKey) (bound value : Value) :
    (message key bound value).OfData := by
  unfold message
  cases key with
  | minLength | maxLength => exact checkLength_ofData _ _ _ _
  | minItems | maxItems => exact checkItems_ofData _ _ _ _
  | gt | gteq | lt | lteq => exact checkNumber_ofData _ _ _ _
  | format => exact checkFormat_ofData _ _
  | choices => exact checkChoices_ofData _ _

theorem check_ofData (constraint : Constraint) (value : Value) (path : Path) :
    (check constraint value path).OfData := by
  apply (message_ofData constraint.1 constraint.2 value).bind
  intro text _
  cases text <;> exact ok _

theorem violations_ofData (constraints : List Constraint) (value : Value) (path : Path) :
    (violations constraints value path).OfData := by
  induction constraints with
  | nil => exact ok _
  | cons constraint rest ih =>
      exact (check_ofData constraint value path).bind fun _ _ => ih.bind_ok _

/-- A violated constraint that cannot be worded or cannot be asked is the only fault of one. -/
theorem checkAll_ofData (constraints : List Constraint) (value : Value) (path : Path) :
    (checkAll constraints value path).OfData := by
  apply (violations_ofData constraints value path).bind
  intro found _
  cases found <;> exact ok _

end Constraint

/-! ## Types -/

theorem Value.asKey_ofData (value : Value) : value.asKey.OfData := by
  unfold Value.asKey
  split
  · exact .ok _
  · exact .error rfl

namespace Check

open Attempt.Within

theorem members_ofData {parts : List (Checker × Value)} (each : ∀ part ∈ parts, part.1.OfData)
    (path : Path) (index : Nat) : (members path index parts).OfData := by
  induction parts generalizing index with
  | nil => exact ok _
  | cons part rest ih =>
      obtain ⟨checker, item⟩ := part
      have first : checker.OfData := each _ List.mem_cons_self
      have others := ih (fun part among => each part (List.mem_cons_of_mem _ among)) (index + 1)
      apply (first item _).bind
      intro verdict _
      apply others.bind
      intro found _
      cases verdict <;> exact ok _

theorem items_ofData {checker : Checker} (ofData : checker.OfData) (items : List Value)
    (path : Path) (index : Nat) :
    (members path index (items.map fun item => (checker, item))).OfData := by
  apply members_ofData
  intro part among
  obtain ⟨item, _, rfl⟩ := List.mem_map.mp among
  exact ofData

theorem firstAccepted_ofData {checkers : List Checker} (each : ∀ checker ∈ checkers, checker.OfData)
    (value : Value) (path : Path) : (firstAccepted value path checkers).OfData := by
  induction checkers with
  | nil => exact ok _
  | cons checker rest ih =>
      apply (each checker List.mem_cons_self value path).bind
      intro verdict _
      cases verdict with
      | accepted result => exact ok _
      | rejected found => exact ih fun other among => each other (List.mem_cons_of_mem _ among)

theorem entries_ofData {key value : Checker} (keyOfData : key.OfData) (valueOfData : value.OfData)
    (path : Path) (position : Nat) (found done : Entries) :
    (entries key value path position found done).OfData := by
  induction found generalizing position done with
  | nil => exact ok _
  | cons entry rest ih =>
      obtain ⟨k, v⟩ := entry
      apply (keyOfData k _).bind
      intro keyVerdict _
      apply (valueOfData v _).bind
      intro valueVerdict _
      cases keyVerdict with
      | rejected keyFound => exact (ih _ _).bind_ok _
      | accepted newKey =>
          cases valueVerdict with
          | rejected valueFound => exact (ih _ _).bind_ok _
          | accepted newValue =>
              apply (Value.asKey_ofData newKey).bind
              intro hashable _
              exact (ih _ _).bind_ok _

theorem kind_ofData (kind : Kind) : (Check.kind kind).OfData := by
  intro value path
  unfold Check.kind
  split <;> exact ok _

theorem array_ofData {inner : Checker} (ofData : inner.OfData) (bounds : List Constraint) :
    (Check.array inner bounds).OfData := by
  intro value path
  unfold Check.array
  split
  · exact ok _
  · apply (items_ofData ofData _ path 0).bind
    intro parts _
    cases conclude .list parts with
    | accepted result => exact Constraint.checkAll_ofData bounds result path
    | rejected violations => exact ok _

theorem union_ofData {description : Attempt String} (described : description.OfData)
    {alternatives : List Checker} (each : ∀ checker ∈ alternatives, checker.OfData) :
    (Check.union description alternatives).OfData := by
  intro value path
  apply (firstAccepted_ofData each value path).bind
  intro found _
  cases found with
  | some result => exact ok _
  | none => exact described.bind_ok _

theorem tuple_ofData {elements : List Checker} (each : ∀ checker ∈ elements, checker.OfData) :
    (Check.tuple elements).OfData := by
  intro value path
  unfold Check.tuple
  split
  · exact ok _
  · split
    · apply Attempt.Within.bind_ok
      apply members_ofData
      intro part among
      exact each part.1 (List.of_mem_zip among).1
    · exact ok _

theorem map_ofData {key value : Checker} (keyOfData : key.OfData) (valueOfData : value.OfData) :
    (Check.map key value).OfData := by
  intro data path
  unfold Check.map
  split
  · exact (entries_ofData keyOfData valueOfData path 0 _ _).bind_ok _
  · exact ok _

theorem targetViolations_ofData (reason : Value) (path : Path) :
    (targetViolations reason path).OfData := by
  have other : (reason.plain >>= fun text => .ok [Violation.refusedByTarget path text]).OfData :=
    (Value.plain_worded reason).ofData.bind_ok _
  unfold targetViolations
  split
  · exact ok _
  case h_4 => exact other
  all_goals
    split
    · exact ok _
    · exact other

theorem nested_ofData {record : Checker} (ofData : record.OfData) :
    (Check.nested record).OfData := by
  intro value path
  apply (ofData value []).bind
  intro verdict _
  cases verdict <;> exact ok _

theorem constrained_ofData {checker : Checker} (ofData : checker.OfData)
    (constraints : List Constraint) : (Check.constrained checker constraints).OfData := by
  intro value path
  apply (ofData value path).bind
  intro verdict _
  cases verdict with
  | accepted result => exact Constraint.checkAll_ofData constraints result path
  | rejected violations => exact ok _

end Check

/-! ## Records -/

/-- Targets and hooks that bring no faults of types with them: a target fails with an account of its
own, and the account of a failed hook can be given. -/
structure Environment.Contained (env : Environment) : Prop where
  respond : ∀ object value, (env.respond object value).OfData
  account : ∀ {handle record exception account},
    env.review handle record = .raised exception account → Attempt.OfData account

theorem Environment.bare_contained : Environment.bare.Contained where
  respond := by
    intro object value
    exact .ok _
  account := fun raised => nomatch raised

namespace Check

theorem target_ofData {env : Environment} (contained : env.Contained) (object : Target) :
    (Check.target env object).OfData := by
  intro value path
  apply (contained.respond object value).bind
  intro answer _
  cases answer with
  | ok result => exact .ok _
  | error reason => exact (targetViolations_ofData reason path).bind_ok _

end Check

namespace Record

open Attempt.Within

theorem copy_ofData (value : Value) : value.copy.OfData := by
  unfold Value.copy
  split
  · exact ok _
  · exact error rfl

theorem fieldVerdict_ofData (env : Environment) (data : Entries) (path : Path) {rule : Rule}
    (ofData : rule.check.OfData) : (fieldVerdict env data path rule).OfData := by
  unfold fieldVerdict
  dsimp only
  split
  · exact (ofData _ _).bind_ok _
  · split
    · exact (copy_ofData _).bind_ok _
    · split <;> exact ok _

theorem gather_ofData (env : Environment) (data : Entries) (path : Path) {rules : List Rule}
    (each : ∀ rule ∈ rules, rule.check.OfData) : (gather env data path rules).OfData := by
  induction rules with
  | nil => exact ok _
  | cons rule rest ih =>
      apply (fieldVerdict_ofData env data path (each rule List.mem_cons_self)).bind
      intro verdict _
      exact (ih fun other among => each other (List.mem_cons_of_mem _ among)).bind_ok _

theorem keyName_ofData (key : Value) : (keyName key).OfData := by
  unfold keyName
  split
  · exact ok _
  · exact (Value.plain_worded _).ofData

theorem extraNames_ofData (known extra : List String) (keys : List Value) :
    (extraNames known extra keys).OfData := by
  induction keys generalizing extra with
  | nil => exact ok _
  | cons key rest ih => exact (keyName_ofData key).bind fun _ _ => ih _

theorem candidate_ofData (env : Environment) {rules : List Rule}
    (each : ∀ rule ∈ rules, rule.check.OfData) (strict : Bool) :
    (candidate env rules strict).OfData := by
  intro value path
  cases value with
  | map data =>
      simp only [candidate]
      split
      · exact ok _
      · apply (gather_ofData env data path each).bind
        rintro ⟨values, violations⟩ _
        cases violations with
        | cons first rest => exact ok _
        | nil =>
            cases strict with
            | false => exact ok _
            | true =>
                apply (extraNames_ofData _ [] _).bind
                intro extra _
                cases extra <;> exact ok _
  | _ => exact ok _

mutual

/-- The reason of a hook can be reported, unless a whole number in it is too long to be written. -/
theorem hookViolations_worded (path : Path) : (reason : Value) →
    (hookViolations path reason).Worded
  | .list (first :: rest) => hookViolationsOfAll_worded path (first :: rest)
  | .tuple (first :: rest) => hookViolationsOfAll_worded path (first :: rest)
  | .violation _ | .str _ => ok _
  | .list [] | .tuple [] | .null | .bool _ | .int _ | .float _ | .bytes _ | .bytearray _ | .set _
  | .frozenset _ | .map _ | .symbol _ | .member .. | .enumeration .. | .pattern _ | .type _
  | .spec _
  | .ok _ | .err _ | .target _ | .schema .. => (Value.literal_worded _).bind_ok _

/-- The reasons of a hook can be reported, unless a whole number in them is too long to be
written. -/
theorem hookViolationsOfAll_worded (path : Path) : (reasons : List Value) →
    (hookViolationsOfAll path reasons).Worded
  | [] => ok _
  | reason :: rest =>
      (hookViolations_worded path reason).bind fun _ _ =>
        (hookViolationsOfAll_worded path rest).bind_ok _

end

theorem review_ofData {env : Environment} (contained : env.Contained) (hook : Option Nat) :
    Checker.OfData (review env hook) := by
  intro record path
  unfold review
  split
  · exact ok _
  · rename_i handle
    unfold concludeReview
    split
    case h_1 raised => exact (contained.account raised).bind_ok _
    case h_2 | h_3 => exact ok _
    case h_4 => exact (hookViolations_worded path _).ofData.bind_ok _
    case h_5 => exact (Value.literal_worded _).ofData.bind_ok _

theorem codeText_ofData (code : Value) : (codeText code).OfData := by
  unfold codeText
  split
  · exact ok _
  · exact error rfl

theorem codes_ofData (violations : List Violation) : (codes violations).OfData := by
  have texts : ∀ found : List Value, (found.mapM codeText).OfData := by
    intro found
    induction found with
    | nil => exact ok _
    | cons code rest ih =>
        rw [List.mapM_cons]
        exact (codeText_ofData code).bind fun _ _ => ih.bind_ok _
  exact (texts _).bind_ok _

theorem check_ofData {env : Environment} (contained : env.Contained) {rules : List Rule}
    (each : ∀ rule ∈ rules, rule.check.OfData) (strict : Bool) (hook : Option Nat) :
    (Record.check env rules strict hook).OfData := by
  intro value path
  have staged : (stages env rules strict hook value path).OfData := by
    apply (candidate_ofData env each strict value path).bind
    intro proposed _
    cases proposed with
    | accepted record => exact review_ofData contained hook record path
    | rejected violations => exact ok _
  apply staged.bind
  intro verdict _
  cases verdict with
  | accepted result => exact ok _
  | rejected violations => exact (codes_ofData violations).bind_ok _

end Record

/-! ## Types that are canonical throughout -/

mutual

/-- Whether a type is canonical, and so are the types of the fields of the schemas that it refers
to, at every depth. -/
def TypeSpec.isCanonicalThroughout : TypeSpec → Bool
  | .primitive _ => true
  | .array inner minItems maxItems =>
    minItems.isBound && maxItems.isBound && TypeSpec.isCanonicalThroughout inner
  | .union alternatives => !alternatives.isEmpty && TypeSpec.allCanonicalThroughout alternatives
  | .tuple elements => TypeSpec.allCanonicalThroughout elements
  | .map key value =>
    TypeSpec.isCanonicalThroughout key && TypeSpec.isCanonicalThroughout value
  | .ref target => Value.isCanonicalTarget target
  | .unknownKind _ | .rawUnion _ | .rawTuple _ | .raw _ => false

/-- Whether all of the types are canonical throughout. -/
def TypeSpec.allCanonicalThroughout : List TypeSpec → Bool
  | [] => true
  | spec :: rest => TypeSpec.isCanonicalThroughout spec && TypeSpec.allCanonicalThroughout rest

/-- Whether a value is an opaque target, or a schema whose fields have such types. -/
def Value.isCanonicalTarget : Value → Bool
  | .target _ => true
  | .schema _ schema => Schema.isCanonicalThroughout schema
  | _ => false

/-- Whether the types of the fields of a schema are canonical throughout. -/
def Schema.isCanonicalThroughout : Schema → Bool
  | ⟨fields, _, _, _, _, _⟩ => Schema.fieldsCanonical fields

/-- Whether the types of all of the fields are canonical throughout. -/
def Schema.fieldsCanonical : List Field → Bool
  | [] => true
  | field :: rest => Field.isCanonicalThroughout field && Schema.fieldsCanonical rest

/-- Whether the type of a field is canonical throughout. -/
def Field.isCanonicalThroughout : Field → Bool
  | ⟨_, type, _, _, _, _, _⟩ => TypeSpec.isCanonicalThroughout type

end

mutual

/-- What is canonical throughout is canonical. -/
theorem TypeSpec.isCanonical_of_throughout : (spec : TypeSpec) →
    spec.isCanonicalThroughout = true → spec.isCanonical = true
  | .primitive _, _ => rfl
  | .array inner minItems maxItems, throughout => by
      simp only [isCanonicalThroughout, Bool.and_eq_true] at throughout
      simp only [isCanonical, everywhere_array, isCanonicalNode, throughout.1, Bool.and_self,
        Bool.true_and]
      exact TypeSpec.isCanonical_of_throughout inner throughout.2
  | .union alternatives, throughout => by
      simp only [isCanonicalThroughout, Bool.and_eq_true] at throughout
      simp only [isCanonical, everywhere_union, isCanonicalNode, throughout.1, Bool.true_and]
      exact TypeSpec.allCanonical_of_throughout alternatives throughout.2
  | .tuple elements, throughout => TypeSpec.allCanonical_of_throughout elements throughout
  | .map key value, throughout => by
      simp only [isCanonicalThroughout, Bool.and_eq_true] at throughout
      simp only [isCanonical, everywhere_map, isCanonicalNode, Bool.true_and, Bool.and_eq_true]
      exact ⟨TypeSpec.isCanonical_of_throughout key throughout.1,
        TypeSpec.isCanonical_of_throughout value throughout.2⟩
  | .ref target, throughout => by
      cases target with
      | target object => rfl
      | schema handle schema => rfl
      | _ => cases throughout
  | .unknownKind _, throughout | .rawUnion _, throughout | .rawTuple _, throughout
  | .raw _, throughout => nomatch throughout

/-- Types that are canonical throughout are canonical. -/
theorem TypeSpec.allCanonical_of_throughout : (specs : List TypeSpec) →
    TypeSpec.allCanonicalThroughout specs = true →
    TypeSpec.allEverywhere TypeSpec.isCanonicalNode specs = true
  | [], _ => rfl
  | spec :: rest, throughout => by
      simp only [allCanonicalThroughout, Bool.and_eq_true] at throughout
      simp only [allEverywhere_cons, Bool.and_eq_true]
      exact ⟨TypeSpec.isCanonical_of_throughout spec throughout.1,
        TypeSpec.allCanonical_of_throughout rest throughout.2⟩

end

mutual

/-- The check of a type that is canonical throughout faults only for data. -/
theorem TypeSpec.check_ofData {env : Environment} (contained : env.Contained) :
    (spec : TypeSpec) → spec.isCanonicalThroughout = true → (spec.check env).OfData
  | .primitive kind, _ => Check.kind_ofData kind
  | .array inner minItems maxItems, throughout => by
      simp only [TypeSpec.isCanonicalThroughout, Bool.and_eq_true] at throughout
      exact Check.array_ofData (TypeSpec.check_ofData contained inner throughout.2) _
  | .union alternatives, throughout => by
      obtain ⟨text, described⟩ := TypeSpec.describe_eq_ok (.union alternatives)
        (TypeSpec.isCanonical_of_throughout _ throughout)
      simp only [TypeSpec.isCanonicalThroughout, Bool.and_eq_true] at throughout
      rw [TypeSpec.check, described]
      exact Check.union_ofData (.ok text)
        (TypeSpec.checkers_ofData contained alternatives throughout.2)
  | .tuple elements, throughout =>
      Check.tuple_ofData (TypeSpec.checkers_ofData contained elements throughout)
  | .map key value, throughout => by
      simp only [TypeSpec.isCanonicalThroughout, Bool.and_eq_true] at throughout
      exact Check.map_ofData (TypeSpec.check_ofData contained key throughout.1)
        (TypeSpec.check_ofData contained value throughout.2)
  | .ref target, throughout => Value.checkAsTarget_ofData contained target throughout
  | .unknownKind _, throughout | .rawUnion _, throughout | .rawTuple _, throughout
  | .raw _, throughout => nomatch throughout

/-- The checks of types that are canonical throughout fault only for data. -/
theorem TypeSpec.checkers_ofData {env : Environment} (contained : env.Contained) :
    (specs : List TypeSpec) →
    TypeSpec.allCanonicalThroughout specs = true →
    ∀ checker ∈ TypeSpec.checkers env specs, checker.OfData
  | [], _ => fun _ among => nomatch among
  | spec :: rest, throughout => by
      simp only [TypeSpec.allCanonicalThroughout, Bool.and_eq_true] at throughout
      exact List.forall_mem_cons.mpr ⟨TypeSpec.check_ofData contained spec throughout.1,
        TypeSpec.checkers_ofData contained rest throughout.2⟩

/-- The check of a reference faults only for data. -/
theorem Value.checkAsTarget_ofData {env : Environment} (contained : env.Contained) :
    (target : Value) → target.isCanonicalTarget = true → (target.checkAsTarget env).OfData
  | .target object, _ => Check.target_ofData contained object
  | .schema _ schema, throughout =>
      Check.nested_ofData (Schema.check_ofData contained schema throughout)
  | .null, throughout | .bool _, throughout | .int _, throughout | .float _, throughout
  | .str _, throughout | .bytes _, throughout | .bytearray _, throughout | .list _, throughout
  | .tuple _, throughout | .set _, throughout | .frozenset _, throughout | .map _, throughout
  | .symbol _, throughout | .member .., throughout | .enumeration .., throughout
  | .pattern _, throughout | .type _, throughout | .spec _, throughout | .violation _, throughout
  | .ok _, throughout | .err _, throughout => nomatch throughout

/-- The check of a schema whose fields have such types faults only for data. -/
theorem Schema.check_ofData {env : Environment} (contained : env.Contained) :
    (schema : Schema) → schema.isCanonicalThroughout = true → (schema.check env).OfData
  | ⟨fields, _, _, strict, hook, _⟩, throughout => by
      rw [Schema.check, Schema.rules_eq_map]
      apply Record.check_ofData contained
      intro rule among
      obtain ⟨field, fieldAmong, rfl⟩ := List.mem_map.mp among
      exact Schema.fields_ofData contained fields throughout field fieldAmong

/-- The checks of fields of such types fault only for data. -/
theorem Schema.fields_ofData {env : Environment} (contained : env.Contained) :
    (fields : List Field) → Schema.fieldsCanonical fields = true →
    ∀ field ∈ fields, (field.check env).OfData
  | [], _ => fun _ among => nomatch among
  | field :: rest, throughout => by
      simp only [Schema.fieldsCanonical, Bool.and_eq_true] at throughout
      exact List.forall_mem_cons.mpr ⟨Field.check_ofData contained field throughout.1,
        Schema.fields_ofData contained rest throughout.2⟩

/-- The check of a field of such a type faults only for data. -/
theorem Field.check_ofData {env : Environment} (contained : env.Contained) :
    (field : Field) → field.isCanonicalThroughout = true → (field.check env).OfData
  | ⟨_, type, _, constraints, _, _, _⟩, throughout =>
      Check.constrained_ofData (TypeSpec.check_ofData contained type throughout) constraints

end

/-! ## Conversions -/

namespace Coercion

open Attempt.Within

theorem refuse_ofData {spec : TypeSpec} {text : String} (described : spec.describe = .ok text)
    (value : Value) (path : Path) (reason : String) : (refuse spec value path reason).OfData := by
  rw [refuse, described]
  exact ok _

theorem readInteger_ofData (chars : List Char) : (readInteger chars).OfData := by
  unfold readInteger
  dsimp only
  split
  · exact error rfl
  · exact ok _

theorem acceptNearest_ofData (nearest : Option Double) : (acceptNearest nearest).OfData := by
  cases nearest with
  | some x => exact ok _
  | none => exact error rfl

/-- A conversion to a primitive kind faults only for numbers that are too long or too large. -/
theorem toKind_ofData (env : Environment) (kind : Kind) : (toKind env kind).OfData := by
  intro value path
  have refused := @refuse_ofData (.primitive kind) kind.name rfl value path
  cases kind with
  | any | map => exact ok _
  | string =>
      show (toText _ value path).OfData
      unfold toText
      split
      case h_3 => exact (writeInt_worded _).ofData.bind fun _ _ => ok _
      case h_7 => exact refused _
      all_goals exact ok _
  | integer =>
      show (toInteger _ value path).OfData
      unfold toInteger
      split
      · exact ok _
      · split
        · exact (readInteger_ofData _).bind fun _ _ => ok _
        · exact refused _
      · exact refused _
  | float =>
      show (toFloat _ value path).OfData
      unfold toFloat
      split
      · exact ok _
      · exact acceptNearest_ofData _
      · split
        · exact ok _
        · exact refused _
      · exact refused _
  | boolean =>
      show (toBoolean _ value path).OfData
      unfold toBoolean
      split
      case h_4 => exact refused _
      all_goals exact ok _
  | atom =>
      show (toAtom env _ value path).OfData
      unfold toAtom
      split
      · exact ok _
      · exact ok _
      · split
        · exact ok _
        · exact refused _
      · exact refused _

theorem toArray_ofData {inner : Checker} (ofData : inner.OfData) : (toArray inner).OfData := by
  intro value path
  unfold toArray
  split
  · exact ok _
  · exact (Check.items_ofData ofData _ path 0).bind_ok _

theorem toUnion_ofData {spec : TypeSpec} {text : String} (described : spec.describe = .ok text)
    {alternatives : List Checker} (each : ∀ checker ∈ alternatives, checker.OfData) :
    (toUnion spec alternatives).OfData := by
  intro value path
  apply (Check.firstAccepted_ofData each value path).bind
  intro found _
  cases found with
  | some result => exact ok _
  | none => exact refuse_ofData described value path _

end Coercion

/-- A conversion to what is resolved at every depth faults only for data. -/
theorem TypeSpec.Named.coerce_ofData (env : Environment) {spec : TypeSpec} (named : spec.Named) :
    (spec.coerce env).OfData := by
  induction named with
  | primitive kind => exact Coercion.toKind_ofData env kind
  | array minItems maxItems items ih => exact Coercion.toArray_ofData ih
  | union each ih =>
      obtain ⟨text, described⟩ := (TypeSpec.Named.union each).describe_eq_ok
      exact Coercion.toUnion_ofData described (TypeSpec.forall_coercers ih)
  | rawUnion yields each ih =>
      obtain ⟨text, described⟩ := (TypeSpec.Named.rawUnion yields each).describe_eq_ok
      rw [TypeSpec.coerce, Value.memberCoercers_eq, yields]
      exact Coercion.toUnion_ofData described (List.forall_mem_map.mpr ih)
  | tuple | rawTuple | map | ref => exact fun _ _ => .ok _

end Conform
