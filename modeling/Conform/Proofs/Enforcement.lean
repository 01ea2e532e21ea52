import Conform.Proofs.Rebuilding

/-!
# Constraints that can be enforced

A definition checks a part of the bounds that it is given: choices are a collection, and the bounds
of an array type are natural numbers.  What it lets through can still keep a constraint from its
verdict: a limit or a choice that cannot be shown in a message, bytes as choices, and a format that
is no regular expression or none for texts.  The constraints of a field end as `Constraint.fault?`
and `Constraint.holds` foretell for each of them, and each fault has a source in a bound.
-/

namespace Conform

/-! ## What messages can show -/

mutual

/-- Whether the whole numbers that the literal form of a value shows are short enough to be
written. -/
def Value.isShowable : Value → Bool
  | .int n => withinDigitLimit n
  | .list items | .tuple items | .set items | .frozenset items => Value.allShowable items
  | .map entries => Value.entriesShowable entries
  | .member _ _ payload => payload.isShowable
  | .spec node => node.isShowable
  | .violation record => record.isShowable
  | .ok value => value.isShowable
  | .err reason => reason.isShowable
  | .schema _ schema => schema.isShowable
  | .null | .bool _ | .float _ | .str _ | .bytes _ | .bytearray _ | .symbol _ | .enumeration ..
  | .pattern _ | .type _ | .target _ => true

/-- Whether this is so for all of the values. -/
def Value.allShowable : List Value → Bool
  | [] => true
  | value :: rest => value.isShowable && Value.allShowable rest

/-- Whether this is so for the keys and values of all entries. -/
def Value.entriesShowable : List (Value × Value) → Bool
  | [] => true
  | (key, value) :: rest =>
    key.isShowable && (value.isShowable && Value.entriesShowable rest)

/-- Whether this is so for a type specification. -/
def TypeSpec.isShowable : TypeSpec → Bool
  | .primitive _ => true
  | .unknownKind kind => kind.isShowable
  | .array inner minItems maxItems =>
    inner.isShowable && (minItems.isShowable && maxItems.isShowable)
  | .union alternatives => TypeSpec.allShowable alternatives
  | .rawUnion alternatives => alternatives.isShowable
  | .tuple elements => TypeSpec.allShowable elements
  | .rawTuple elements => elements.isShowable
  | .map key value => key.isShowable && value.isShowable
  | .ref target => target.isShowable
  | .raw component => component.isShowable

/-- Whether this is so for all of the type specifications. -/
def TypeSpec.allShowable : List TypeSpec → Bool
  | [] => true
  | spec :: rest => spec.isShowable && TypeSpec.allShowable rest

/-- Whether this is so for a violation record. -/
def Violation.isShowable : Violation → Bool
  | ⟨path, code, message, context⟩ =>
    Value.allShowable path && (code.isShowable && (message.isShowable && context.isShowable))

/-- Whether this is so for a schema, which shows its title if it has one. -/
def Schema.isShowable : Schema → Bool
  | ⟨_, title, _, _, _, _⟩ => !title.truthy || title.isShowable

end

@[simp] theorem returns_writeInt_iff (n : Int) :
    (writeInt n).Returns ↔ withinDigitLimit n = true := by
  unfold writeInt Attempt.Returns
  split
  case isTrue short => simp [short]
  case isFalse long => simp [long]

namespace Attempt

variable {α β : Type}

theorem returns_sequence_iff {first : Attempt α} {next : α → Attempt β} {before after : Bool}
    (firstReturns : first.Returns ↔ before = true)
    (nextReturns : ∀ value, (next value).Returns ↔ after = true) :
    (first >>= next).Returns ↔ (before && after) = true := by
  rw [returns_bind_iff nextReturns, firstReturns, Bool.and_eq_true]

end Attempt

open Attempt in
mutual

/-- A value has a literal form exactly when the numbers in it can be written. -/
@[simp] theorem Value.returns_literal_iff : (value : Value) →
    (value.literal.Returns ↔ value.isShowable = true)
  | .null | .bool _ | .float _ | .str _ | .bytes _ | .bytearray _ | .symbol _ | .enumeration ..
  | .pattern _ | .type _ | .target _ => iff_of_true (returns_ok _) rfl
  | .int n => returns_writeInt_iff n
  | .list items => returns_map_iff.trans (Value.returns_literals_iff items)
  | .tuple items => returns_map_iff.trans (Value.returns_literals_iff items)
  | .set items | .frozenset items => by
      have shown := Value.returns_literals_iff items
      refine ((returns_bind_iff fun texts => ?_).trans (and_iff_left trivial)).trans shown
      cases texts <;> exact iff_of_true (returns_ok _) trivial
  | .map entries => returns_map_iff.trans (Value.returns_entryLiterals_iff entries)
  | .member _ _ payload => returns_map_iff.trans (Value.returns_literal_iff payload)
  | .spec node => TypeSpec.returns_literal_iff node
  | .violation record => Violation.returns_literal_iff record
  | .ok value => returns_map_iff.trans (Value.returns_literal_iff value)
  | .err reason => returns_map_iff.trans (Value.returns_literal_iff reason)
  | .schema _ schema => Schema.returns_literal_iff schema

@[simp] theorem Value.returns_literals_iff : (values : List Value) →
    ((Value.literals values).Returns ↔ Value.allShowable values = true)
  | [] => iff_of_true (returns_ok _) rfl
  | value :: rest =>
      returns_sequence_iff (Value.returns_literal_iff value) fun _ =>
        returns_map_iff.trans (Value.returns_literals_iff rest)

@[simp] theorem Value.returns_entryLiterals_iff : (entries : List (Value × Value)) →
    ((Value.entryLiterals entries).Returns ↔ Value.entriesShowable entries = true)
  | [] => iff_of_true (returns_ok _) rfl
  | (key, value) :: rest =>
      returns_sequence_iff (Value.returns_literal_iff key) fun _ =>
        returns_sequence_iff (Value.returns_literal_iff value) fun _ =>
          returns_map_iff.trans (Value.returns_entryLiterals_iff rest)

@[simp] theorem TypeSpec.returns_literal_iff : (spec : TypeSpec) →
    (spec.literal.Returns ↔ spec.isShowable = true)
  | .primitive _ => iff_of_true (returns_ok _) rfl
  | .unknownKind kind => returns_map_iff.trans (Value.returns_literal_iff kind)
  | .array inner minItems maxItems =>
      returns_sequence_iff (TypeSpec.returns_literal_iff inner) fun _ =>
        returns_sequence_iff (Value.returns_literal_iff minItems) fun _ =>
          returns_map_iff.trans (Value.returns_literal_iff maxItems)
  | .union alternatives => returns_map_iff.trans (TypeSpec.returns_literals_iff alternatives)
  | .rawUnion alternatives => returns_map_iff.trans (Value.returns_literal_iff alternatives)
  | .tuple elements => returns_map_iff.trans (TypeSpec.returns_literals_iff elements)
  | .rawTuple elements => returns_map_iff.trans (Value.returns_literal_iff elements)
  | .map key value =>
      returns_sequence_iff (TypeSpec.returns_literal_iff key) fun _ =>
        returns_map_iff.trans (TypeSpec.returns_literal_iff value)
  | .ref target => returns_map_iff.trans (Value.returns_literal_iff target)
  | .raw component => Value.returns_literal_iff component

@[simp] theorem TypeSpec.returns_literals_iff : (specs : List TypeSpec) →
    ((TypeSpec.literals specs).Returns ↔ TypeSpec.allShowable specs = true)
  | [] => iff_of_true (returns_ok _) rfl
  | spec :: rest =>
      returns_sequence_iff (TypeSpec.returns_literal_iff spec) fun _ =>
        returns_map_iff.trans (TypeSpec.returns_literals_iff rest)

@[simp] theorem Violation.returns_literal_iff : (record : Violation) →
    (record.literal.Returns ↔ record.isShowable = true)
  | ⟨path, code, message, context⟩ =>
      returns_sequence_iff (Value.returns_literals_iff path) fun _ =>
        returns_sequence_iff (Value.returns_literal_iff code) fun _ =>
          returns_sequence_iff (Value.returns_literal_iff message) fun _ =>
            returns_map_iff.trans (Value.returns_literal_iff context)

@[simp] theorem Schema.returns_literal_iff : (schema : Schema) →
    (schema.literal.Returns ↔ schema.isShowable = true)
  | ⟨_, title, _, _, _, _⟩ => by
      simp only [Schema.literal, Schema.isShowable]
      cases title.truthy with
      | true => exact returns_map_iff.trans (Value.returns_literal_iff title)
      | false => exact iff_of_true (returns_ok _) rfl

end

/-! ## Single constraints -/

namespace ConstraintKey

/-- What a constraint with a limit measures of a value. -/
def measure? (key : ConstraintKey) (value : Value) : Option Number :=
  match key with
  | .minLength | .maxLength => value.sized?.map fun size => .whole size.1
  | .minItems | .maxItems => value.items?.map fun items => .whole items.length
  | .gt | .gteq | .lt | .lteq => value.number?
  | .format | .choices => none

/-- Whether a measure keeps to a limit. -/
def keeps (key : ConstraintKey) (measure limit : Number) : Bool :=
  match key with
  | .minLength | .minItems | .gteq => limit.le measure
  | .maxLength | .maxItems | .lteq => measure.le limit
  | .gt => limit.lt measure
  | .lt => measure.lt limit
  | .format | .choices => true

/-- Whether a measure of a value does not keep to the limit that a bound gives. -/
def isExceeded (key : ConstraintKey) (bound value : Value) : Bool :=
  (key.measure? value).any fun measure => bound.number?.any fun limit => !key.keeps measure limit

theorem isExceeded_of_no_number (key : ConstraintKey) {bound : Value} (none : bound.number? = none)
    (value : Value) : key.isExceeded bound value = false := by
  rw [isExceeded, none]
  cases key.measure? value <;> rfl

end ConstraintKey

/-- The fault in which an operation ends, if it ends in one. -/
def Attempt.fault? {α : Type} : Attempt α → Option Fault
  | .ok _ => none
  | .error fault => some fault

namespace Constraint

/-- Whether a text has a format; what is no text or no format is left alone. -/
def hasFormat (bound value : Value) : Attempt Bool :=
  match value.text?, bound.asPattern? with
  | some text, some pattern => pattern.occursIn text
  | _, _ => .ok true

/-- Whether a value keeps to a constraint.  What the constraint does not apply to does. -/
def holds : Constraint → Value → Bool
  | (.format, bound), value =>
    match hasFormat bound value with
    | .ok found => found
    | .error _ => false
  | (.choices, allowed), value =>
    match value.within? allowed with
    | .ok (some false) => false
    | _ => true
  | (key, bound), value => !key.isExceeded bound value

/-- The fault in which the check of a value against a constraint ends, if it ends in one: that of a
search, or that of a bound to be shown in the message on a value that does not keep to it. -/
def fault? : Constraint → Value → Option Fault
  | (.format, bound), value => (hasFormat bound value).fault?
  | (.choices, allowed), value =>
    match value.within? allowed with
    | .ok (some false) => Check.boundFault? (!Value.allShowable (allowed.elements?.getD []))
    | found => found.fault?
  | (key, bound), value => Check.boundFault? (key.isExceeded bound value && !bound.isShowable)

/-- The outcome of a check for a message, which is given when the constraint does not hold. -/
abbrev MessageEnds (fault? : Option Fault) (holds : Bool)
    (outcome : Attempt (Option String)) : Prop :=
  Check.Ends none (fun text => text.isSome = true) fault? holds outcome

theorem numbered_ends (bound : Value) (holds : Number → Bool) (wording : String → String) :
    MessageEnds
      (Check.boundFault? ((bound.number?.any fun limit => !holds limit) && !bound.isShowable))
      (!bound.number?.any fun limit => !holds limit)
      (numbered bound fun limit =>
        unlessHolds (holds limit) (bound.plain >>= fun text => .ok (wording text))) := by
  cases bound with
  | int n =>
      simp only [numbered, Value.number?, Option.any_some, Bool.not_not, unlessHolds, Value.plain,
        Value.literal, Value.isShowable, writeInt]
      cases holds (.whole n) with
      | true => exact .given
      | false =>
          cases withinDigitLimit n with
          | true => exact .refusal rfl
          | false => exact .fault
  | float x =>
      simp only [numbered, Value.number?, Option.any_some, Bool.not_not, unlessHolds]
      cases holds (.real x) with
      | true => exact .given
      | false => exact .refusal rfl
  | _ => exact .given

/-- A search ends for its message as it ends. -/
theorem checkFormat_ends (bound value : Value) :
    MessageEnds (fault? (.format, bound) value) (holds (.format, bound) value)
      (checkFormat bound value) := by
  simp only [fault?, holds, hasFormat, checkFormat]
  cases value.text? with
  | none => exact .given
  | some text =>
      cases bound.asPattern? with
      | none => exact .given
      | some pattern =>
          dsimp only
          cases pattern.occursIn text with
          | error fault => exact .fault
          | ok found =>
              cases found with
              | true => exact .given
              | false => exact .refusal rfl

theorem elements_of_within? {value allowed : Value} {found : Bool}
    (within : value.within? allowed = .ok (some found)) :
    ∃ items, allowed.elements? = some items := by
  cases allowed with
  | list | tuple | set | frozenset | map | enumeration | str | bytes | bytearray => exact ⟨_, rfl⟩
  | _ => cases within

theorem checkChoices_ends (allowed value : Value) :
    MessageEnds (fault? (.choices, allowed) value) (holds (.choices, allowed) value)
      (checkChoices allowed value) := by
  simp only [fault?, holds, checkChoices]
  cases within : value.within? allowed with
  | error fault => exact .fault
  | ok found =>
      match found, within with
      | none, _ => exact .given
      | some true, _ => exact .given
      | some false, within =>
          obtain ⟨items, listed⟩ := elements_of_within? within
          have shown := Value.returns_literals_iff items
          cases written : Value.literals items with
          | ok texts =>
              simp only [Value.elements, listed, Option.getD_some, Value.literal, Attempt.ok_bind,
                written, shown.mp ⟨texts, written⟩]
              exact .refusal rfl
          | error fault =>
              have hidden : Value.allShowable items = false :=
                Bool.eq_false_iff.mpr fun showable => by
                  obtain ⟨texts, returned⟩ := shown.mpr showable
                  cases written.symm.trans returned
              cases Value.literals_worded items fault written
              simp only [Value.elements, listed, Option.getD_some, Value.literal, Attempt.ok_bind,
                written, hidden]
              exact .fault

/-- The message of a constraint is missing exactly when it holds, and is due otherwise. -/
theorem message_ends (key : ConstraintKey) (bound value : Value) :
    MessageEnds (fault? (key, bound) value) (holds (key, bound) value)
      (message key bound value) := by
  cases key with
  | format => exact checkFormat_ends bound value
  | choices => exact checkChoices_ends bound value
  | minLength | maxLength =>
      simp only [message, checkLength, fault?, holds, ConstraintKey.isExceeded,
        ConstraintKey.measure?]
      cases value.sized? with
      | none => exact .given
      | some size => exact numbered_ends bound _ _
  | minItems | maxItems =>
      simp only [message, checkItems, fault?, holds, ConstraintKey.isExceeded,
        ConstraintKey.measure?]
      cases value.items? with
      | none => exact .given
      | some items => exact numbered_ends bound _ _
  | gt | gteq | lt | lteq =>
      simp only [message, checkNumber, fault?, holds, ConstraintKey.isExceeded,
        ConstraintKey.measure?]
      cases value.number? with
      | none => exact .given
      | some number => exact numbered_ends bound _ _

theorem check_ends (constraint : Constraint) (value : Value) (path : Path) :
    Check.Ends none
      (fun found => ∃ violation : Violation, found = some violation ∧
        violation.code = .str constraint.1.name)
      (constraint.fault? value) (constraint.holds value) (check constraint value path) := by
  obtain ⟨key, bound⟩ := constraint
  have ends := message_ends key bound value
  simp only [check]
  generalize message key bound value = outcome at ends
  generalize fault? (key, bound) value = ended at ends
  generalize holds (key, bound) value = kept at ends
  cases ends with
  | fault => exact .fault
  | given => exact .given
  | @refusal text due =>
      obtain ⟨text, rfl⟩ := Option.isSome_iff_exists.mp due
      exact .refusal ⟨_, rfl, rfl⟩

/-- The names of the constraints that do not hold. -/
def brokenNames (constraints : List Constraint) (value : Value) : List Value :=
  (constraints.filter fun constraint => !constraint.holds value).map fun constraint =>
    .str constraint.1.name

/-- Violations with these names as their codes, in the same order. -/
def Names (constraints : List Constraint) (value : Value) (found : List Violation) : Prop :=
  found ≠ [] ∧ found.map Violation.code = brokenNames constraints value

/-- Constraints give a violation for each of them that does not hold. -/
theorem violations_ends (constraints : List Constraint) (value : Value) (path : Path) :
    Check.Ends [] (Names constraints value)
      (constraints.findSome? fun constraint => constraint.fault? value)
      (constraints.all fun constraint => constraint.holds value)
      (violations constraints value path) := by
  induction constraints with
  | nil => exact .given
  | cons constraint rest ih =>
      have ends := check_ends constraint value path
      simp only [violations, List.findSome?_cons, List.all_cons]
      have broken : brokenNames (constraint :: rest) value =
          (if constraint.holds value then [] else [.str constraint.1.name]) ++
            brokenNames rest value := by
        simp only [brokenNames, List.filter_cons]
        cases constraint.holds value <;> rfl
      have complete : (rest.all fun constraint => constraint.holds value) = true →
          brokenNames rest value = [] := by
        intro all
        rw [brokenNames, List.map_eq_nil_iff, List.filter_eq_nil_iff]
        intro other among
        rw [List.all_eq_true.mp all other among, Bool.not_true]
        exact Bool.false_ne_true
      generalize check constraint value path = outcome at ends
      generalize constraint.fault? value = ended at ends
      generalize constraint.holds value = kept at ends broken
      generalize (rest.all fun constraint => constraint.holds value) = restKept at ih complete
      generalize violations rest value path = others at ih
      generalize (rest.findSome? fun constraint => constraint.fault? value) = restEnded at ih
      cases ends with
      | fault => exact .fault
      | given =>
          cases ih with
          | fault => exact .fault
          | given => exact .given
          | refusal named => exact .refusal ⟨named.1, named.2.trans broken.symm⟩
      | refusal found =>
          obtain ⟨violation, rfl, coded⟩ := found
          cases ih with
          | fault => exact .fault
          | given =>
              refine .refusal ⟨List.cons_ne_nil _ _, ?_⟩
              rw [broken, complete rfl]
              exact congrArg (fun code => [code]) coded
          | @refusal more named =>
              refine .refusal ⟨List.cons_ne_nil _ _, ?_⟩
              rw [broken, ← named.2]
              exact congrArg (fun code => code :: more.map Violation.code) coded

/-- The check of constraints ends as foretold for each of them. -/
theorem checkAll_ends (constraints : List Constraint) (value : Value) (path : Path) :
    Check.Ends (.accepted value)
      (fun verdict => ∃ found, verdict = .rejected found ∧ Names constraints value found)
      (constraints.findSome? fun constraint => constraint.fault? value)
      (constraints.all fun constraint => constraint.holds value)
      (checkAll constraints value path) := by
  have ends := violations_ends constraints value path
  simp only [checkAll]
  generalize violations constraints value path = outcome at ends
  generalize (constraints.findSome? fun constraint => constraint.fault? value) = ended at ends
  generalize (constraints.all fun constraint => constraint.holds value) = kept at ends
  cases ends with
  | fault => exact .fault
  | given => exact .given
  | @refusal found named =>
      cases found with
      | nil => exact absurd rfl named.1
      | cons first rest => exact .refusal ⟨_, rfl, named⟩

end Constraint

/-! ## Where the faults come from -/

/-- What a pattern is compiled to that is written in text. -/
def Pattern.program (source : String) (flags : Flags) : Except Regex.Refusal Regex.Program := do
  Regex.Program.ofReading (← Regex.Reading.ofText source flags)

theorem Pattern.search_eq (source : String) (flags : Flags) (text : String) :
    search source flags text = program source flags >>= fun program => program.search text := by
  simp only [search, program]
  cases Regex.Reading.ofText source flags <;> rfl

/-- The faults that a constraint can end in, each with what in the bound makes it possible: a limit
or choices that cannot be shown, bytes as choices, which can be asked for small numbers only, a
format that is no regular expression, one that is written in bytes, or one whose search finds a
group that ends before its start. -/
inductive Constraint.FaultSource : Constraint → Fault → Prop where
  | limit {key : ConstraintKey} {n : Int} (long : withinDigitLimit n = false) :
      FaultSource (key, .int n) .digitsToWrite
  | choices {allowed : Value} (collection : FieldSpec.isCollection allowed = true)
      (long : Value.allShowable (allowed.elements?.getD []) = false) :
      FaultSource (.choices, allowed) .digitsToWrite
  | octets {octets : List UInt8} : FaultSource (.choices, .bytearray octets) .byteRange
  | format {bound : Value} {source : String} {flags : Flags} {refusal : Regex.Refusal}
      (read : bound.asPattern? = some ⟨.text source, flags⟩)
      (refused : Pattern.program source flags = .error refusal) :
      FaultSource (.format, bound) (Pattern.faultOf refusal)
  | bytesFormat {octets : List UInt8} {flags : Flags} :
      FaultSource (.format, .pattern ⟨.bytes octets, flags⟩) .unsupported
  | group {bound : Value} {source : String} {flags : Flags} {program : Regex.Program}
      {text : String} (read : bound.asPattern? = some ⟨.text source, flags⟩)
      (compiled : Pattern.program source flags = .ok program)
      (reversed : program.search text = .error .reversedGroup) :
      FaultSource (.format, bound) .reversedGroup

theorem Regex.Program.refusal_of_search {program : Program} {text : String} {refusal : Refusal}
    (refused : program.search text = .error refusal) : refusal = .reversedGroup := by
  unfold search at refused
  dsimp only at refused
  split at refused
  case h_1 => cases refused
  case h_2 =>
    split at refused
    case isTrue =>
      cases refused
      rfl
    case isFalse => cases refused

namespace Constraint

theorem source_of_limit {key : ConstraintKey} {bound value : Value} {fault : Fault}
    (ended : Check.boundFault? (key.isExceeded bound value && !bound.isShowable) = some fault) :
    FaultSource (key, bound) fault := by
  obtain ⟨stalls, same⟩ := Option.ite_none_right_eq_some.mp ended
  cases same
  obtain ⟨exceeded, hidden⟩ := Bool.and_eq_true_iff.mp stalls
  cases bound with
  | int n => exact .limit ((Bool.not_eq_true' _).mp hidden)
  | float x => cases hidden
  | _ => cases (key.isExceeded_of_no_number rfl value).symm.trans exceeded

theorem eq_pattern_of_asPattern? {bound : Value} {octets : List UInt8} {flags : Flags}
    (read : bound.asPattern? = some ⟨.bytes octets, flags⟩) :
    bound = .pattern ⟨.bytes octets, flags⟩ := by
  cases bound with
  | pattern expression => exact congrArg Value.pattern (Option.some.inj read)
  | _ => cases read

theorem source_of_format {bound value : Value} {fault : Fault}
    (ended : (hasFormat bound value).fault? = some fault) : FaultSource (.format, bound) fault := by
  unfold hasFormat at ended
  split at ended
  case h_2 => cases ended
  case h_1 text pattern _ read =>
    obtain ⟨source | octets, flags⟩ := pattern
    case text =>
      simp only [Pattern.occursIn, Pattern.search_eq] at ended
      cases compiled : Pattern.program source flags with
      | error refusal =>
          rw [compiled] at ended
          cases ended
          exact .format read compiled
      | ok program =>
          rw [compiled] at ended
          change Attempt.fault? ((program.search text).mapError Pattern.faultOf) = _ at ended
          cases reversed : program.search text with
          | ok found =>
              rw [reversed] at ended
              cases ended
          | error refusal =>
              cases Regex.Program.refusal_of_search reversed
              rw [reversed] at ended
              cases ended
              exact .group read compiled reversed
    case bytes =>
      cases ended
      rw [eq_pattern_of_asPattern? read]
      exact .bytesFormat

/-- A collection can be asked for every value, but bytes only for numbers that are bytes. -/
theorem within?_of_isCollection {allowed : Value}
    (collection : FieldSpec.isCollection allowed = true)
    (value : Value) : (∃ found, value.within? allowed = .ok found) ∨
      (∃ octets, allowed = .bytearray octets) ∧ value.within? allowed = .error .byteRange := by
  have number : ∀ octets n, (∃ found, Value.numberWithin octets n = .ok found) ∨
      Value.numberWithin octets n = .error .byteRange := by
    intro octets n
    unfold Value.numberWithin
    split
    · exact .inl ⟨_, rfl⟩
    · exact .inr rfl
  cases allowed with
  | bytearray octets =>
      cases value with
      | int | bool =>
          simp only [Value.within?, Value.withinOctets]
          obtain ⟨found, asked⟩ | refused := number octets _
          · exact .inl ⟨some found, by rw [asked]; rfl⟩
          · exact .inr ⟨⟨octets, rfl⟩, by rw [refused]; rfl⟩
      | _ => exact .inl ⟨_, rfl⟩
  | list | tuple | set | frozenset | map | enumeration => exact .inl ⟨_, rfl⟩
  | _ => cases collection

/-- No constraint whose choices are a collection ends in a fault without a source in its bound. -/
theorem source_of_fault? {constraint : Constraint}
    (collection : constraint.1 = .choices → FieldSpec.isCollection constraint.2 = true)
    {value : Value} {fault : Fault} (ended : constraint.fault? value = some fault) :
    constraint.FaultSource fault := by
  obtain ⟨key, bound⟩ := constraint
  cases key with
  | format => exact source_of_format ended
  | choices =>
      have collection := collection rfl
      obtain ⟨found, within⟩ | ⟨⟨octets, rfl⟩, within⟩ := within?_of_isCollection collection value
      · simp only [fault?, within] at ended
        split at ended
        case h_1 =>
          obtain ⟨hidden, same⟩ := Option.ite_none_right_eq_some.mp ended
          cases same
          exact .choices collection ((Bool.not_eq_true' _).mp hidden)
        case h_2 => cases ended
      · simp only [fault?, within] at ended
        cases ended
        exact .octets
  | minLength | maxLength | minItems | maxItems | gt | gteq | lt | lteq =>
      exact source_of_limit ended

end Constraint

/-! ## What a definition sees to -/

theorem Entries.get?_of_mem {entries : Entries} {name : String} {value : Value}
    (distinct : entries.Pairwise fun earlier later => (earlier.1 == later.1) = false)
    (among : (.str name, value) ∈ entries) : entries.get? (.str name) = some value := by
  induction entries with
  | nil => cases among
  | cons entry rest ih =>
      obtain ⟨fromHere, others⟩ := List.pairwise_cons.mp distinct
      rcases List.mem_cons.mp among with rfl | behind
      · have same : ((.str name : Value) == .str name) = true := beq_self_eq_true name
        simp [get?, same]
      · have differs : (entry.1 == .str name) = false := fromHere _ behind
        simp only [get?, List.find?_cons, differs]
        exact ih others behind

namespace FieldSpec

theorem mem_of_foldBounds {type folded : TypeSpec} {constraints kept : List Constraint}
    (moved : foldBounds type constraints = .ok (folded, kept)) :
    ∀ constraint ∈ kept, constraint ∈ constraints := by
  obtain ⟨_, rfl⟩ | ⟨_, _, _, _, _, rfl⟩ := foldBounds_cases moved
  · exact fun _ among => among
  · exact fun _ among => List.mem_of_mem_filter among

theorem distinct_of_split {spec name type : Value} {options : Entries}
    (formed : spec.wellFormed = true) (splits : split spec = .ok (name, type, options)) :
    options.Pairwise fun earlier later => (earlier.1 == later.1) = false := by
  unfold split at splits
  split at splits
  case h_1 =>
    cases splits
    exact .nil
  case h_2 =>
    cases splits
    have parts := Value.allWellFormed_iff.mp formed (.map options) (by simp)
    exact (Value.wellFormed_map.mp parts).1
  case h_3 => exact absurd splits (DefinitionFlaw.refuse_ne_ok _ _)

end FieldSpec

open FieldSpec in
/-- All choices of a defined field are collections. -/
theorem Field.choices_of_ofSpec {spec : Value} {field : Field} (formed : spec.wellFormed = true)
    (defined : Field.ofSpec spec = .ok field) :
    ∀ constraint ∈ field.constraints, constraint.1 = .choices →
      isCollection constraint.2 = true := by
  obtain ⟨⟨nameValue, typeValue, options⟩, splits, defined⟩ := Attempt.bind_eq_ok_iff.mp defined
  obtain ⟨name, _, defined⟩ := Attempt.bind_eq_ok_iff.mp defined
  obtain ⟨_, defined⟩ := Attempt.then_eq_ok_iff.mp defined
  obtain ⟨type, _, defined⟩ := Attempt.bind_eq_ok_iff.mp defined
  obtain ⟨required, _, defined⟩ := Attempt.bind_eq_ok_iff.mp defined
  obtain ⟨collection, defined⟩ := Attempt.then_eq_ok_iff.mp defined
  obtain ⟨⟨folded, constraints⟩, moved, same⟩ := Attempt.bind_eq_ok_iff.mp defined
  cases same
  rintro ⟨key, allowed⟩ among rfl
  obtain ⟨⟨optionKey, bound⟩, optionAmong, read⟩ :=
    List.mem_filterMap.mp (mem_of_foldBounds moved _ among)
  obtain ⟨optionName, spelled, read⟩ := Option.bind_eq_some_iff.mp read
  obtain ⟨constraint, named, same⟩ := Option.bind_eq_some_iff.mp read
  cases same
  cases ConstraintKey.name_of_ofName? named
  cases optionKey with
  | str text =>
      cases spelled
      exact checkChoices_eq_ok_iff.mp collection _
        (Entries.get?_of_mem (distinct_of_split formed splits) optionAmong)
  | _ => cases spelled

theorem TypeSpec.bound_of_mem_constraints (spec : TypeSpec)
    (admissible : spec.isAdmissible = true) :
    ∀ constraint ∈ spec.constraints, constraint.1 ≠ .choices ∧ constraint.2.isBound = true := by
  cases spec with
  | array inner minItems maxItems =>
      simp only [isAdmissible_array, Bool.and_eq_true] at admissible
      simp only [constraints, boundConstraints, List.forall_mem_append]
      constructor
      · cases minItems.isNull with
        | true => exact List.forall_mem_nil _
        | false => exact List.forall_mem_singleton.mpr ⟨nofun, admissible.1.1⟩
      · cases maxItems.isNull with
        | true => exact List.forall_mem_nil _
        | false => exact List.forall_mem_singleton.mpr ⟨nofun, admissible.1.2⟩
  | _ => exact List.forall_mem_nil _

namespace Schema

open FieldSpec

/-- Every defined field comes from one of the field tuples. -/
theorem exists_spec_of_fieldsOfSpecs {done fields : List Field} {specs : List Value}
    (defined : fieldsOfSpecs done specs = .ok fields) :
    ∀ field ∈ fields, field ∈ done ∨ ∃ spec ∈ specs, Field.ofSpec spec = .ok field := by
  induction specs generalizing done with
  | nil =>
      cases defined
      exact fun _ among => .inl among
  | cons spec rest ih =>
      obtain ⟨added, addedDefined, others⟩ := Attempt.bind_eq_ok_iff.mp defined
      split at others
      case isTrue => exact absurd others (DefinitionFlaw.refuse_ne_ok _ _)
      case isFalse =>
        intro field among
        rcases ih others field among with before | ⟨origin, originAmong, originDefined⟩
        · rcases List.mem_append.mp before with old | new
          · exact .inl old
          · cases List.mem_singleton.mp new
            exact .inr ⟨spec, List.mem_cons_self, addedDefined⟩
        · exact .inr ⟨origin, List.mem_cons_of_mem _ originAmong, originDefined⟩

/-- The constraints of a defined field, those that its array type carries among them, return exactly
on the values that bring none of them to a fault.  They then accept a value that keeps to all of
them, and give a violation for each of the others.  The definition has seen to it that choices are
collections and that the bounds of an array type are natural numbers; faults come from limits and
choices that cannot be shown, from choices that are bytes and from formats that cannot be searched
for. -/
theorem constraints_return_iff {specs : Value} {members : List Value} {settings : Settings}
    {schema : Schema} (listed : specs.elements = .ok members)
    (formed : Value.allWellFormed members = true) (defined : define specs settings = .ok schema) :
    ∀ field ∈ schema.fields,
      (∀ constraint ∈ field.constraints, constraint.1 = .choices →
        isCollection constraint.2 = true) ∧
      (∀ constraint ∈ field.type.constraints, constraint.2.isBound = true) ∧
      ∀ constraints ∈ [field.constraints, field.type.constraints], ∀ (value : Value) (path : Path),
        ((∃ verdict, Constraint.checkAll constraints value path = .ok verdict) ↔
          ∀ constraint ∈ constraints, Constraint.fault? constraint value = none) ∧
        (∀ verdict, Constraint.checkAll constraints value path = .ok verdict →
          ((∀ constraint ∈ constraints, Constraint.holds constraint value = true) →
            verdict = .accepted value) ∧
          ((∃ constraint ∈ constraints, Constraint.holds constraint value = false) →
            ∃ found, verdict = .rejected found ∧ Constraint.Names constraints value found)) ∧
        (∀ fault, Constraint.checkAll constraints value path = .error fault ↔
          (constraints.findSome? fun constraint => Constraint.fault? constraint value) =
            some fault) ∧
        ∀ constraint ∈ constraints, ∀ fault, Constraint.fault? constraint value = some fault →
          Constraint.FaultSource constraint fault := by
  intro field among
  obtain ⟨_, relisted, fieldsDefined⟩ := fieldsOfSpecs_of_define defined
  cases listed.symm.trans relisted
  obtain old | ⟨spec, specAmong, fieldDefined⟩ :=
    exists_spec_of_fieldsOfSpecs fieldsDefined field among
  · cases old
  have specFormed := Value.allWellFormed_iff.mp formed spec specAmong
  have collections := Field.choices_of_ofSpec specFormed fieldDefined
  have bounds :=
    field.type.bound_of_mem_constraints (settled_of_define defined field among).admissible
  refine ⟨collections, fun constraint among => (bounds constraint among).2, ?_⟩
  intro constraints own value path
  have ends := Constraint.checkAll_ends constraints value path
  refine ⟨?_, fun verdict returned => ?_, ends.eq_error_iff, fun constraint among fault ended => ?_⟩
  · rw [ends.eq_ok_iff, List.findSome?_eq_none_iff]
  · obtain ⟨accepts, rejects⟩ := ends.eq_ok (ends.eq_ok_iff.mp ⟨verdict, returned⟩)
    constructor
    · intro all
      exact Except.ok.inj (returned.symm.trans (accepts (List.all_eq_true.mpr all)))
    · rintro ⟨constraint, constraintAmong, broken⟩
      have notAll : (constraints.all fun constraint => Constraint.holds constraint value) = false :=
        Bool.eq_false_iff.mpr fun all =>
          Bool.false_ne_true (broken.symm.trans (List.all_eq_true.mp all _ constraintAmong))
      obtain ⟨result, rejected, found, same, named⟩ := rejects notAll
      cases returned.symm.trans rejected
      exact ⟨found, same, named⟩
  · refine Constraint.source_of_fault? (fun choices => ?_) ended
    rcases List.mem_pair.mp own with rfl | rfl
    · exact collections constraint among choices
    · exact absurd choices (bounds constraint among).1

/-- A text that keeps to none of the three constraints of a field is told so for each of them. -/
theorem constraints_return_of_broken :
    let choices : Value := .tuple [.str "a", .str "aa"]
    let specs : Value := .list [.tuple [.str "code", .str "string", .map [
      (.str "format", .str "^a+$"), (.str "max_length", .int 3), (.str "choices", choices)]]]
    let constraints : List Constraint :=
      [(.format, .str "^a+$"), (.maxLength, .int 3), (.choices, choices)]
    ∃ schema found, define specs {} = .ok schema ∧
      Constraint.checkAll constraints (.str "baba") [] = .ok (.rejected found) ∧
      found.map Violation.code = [.str "format", .str "max_length", .str "choices"] := by
  intro choices specs constraints
  let schema : Schema := ⟨[⟨"code", .primitive .string, true, constraints, .null, .null, .null⟩],
    .null, .null, false, none, []⟩
  have defined : define specs {} = .ok schema := rfl
  obtain ⟨-, -, law⟩ := constraints_return_iff rfl rfl defined _ List.mem_cons_self
  obtain ⟨returns, verdicts, -⟩ := law constraints List.mem_cons_self (.str "baba") []
  have short : withinDigitLimit 3 = true := withinDigitLimit_of_le (n := 3) (by decide)
  have flows : ∀ constraint ∈ constraints, Constraint.fault? constraint (.str "baba") = none := by
    refine List.forall_mem_cons.mpr ⟨rfl, List.forall_mem_cons.mpr ⟨?_,
      List.forall_mem_singleton.mpr rfl⟩⟩
    simp only [Constraint.fault?, Value.isShowable, short, Bool.not_true, Bool.and_false]
    rfl
  obtain ⟨verdict, returned⟩ := returns.mpr flows
  obtain ⟨found, rfl, -, codes⟩ :=
    (verdicts verdict returned).2 ⟨_, List.mem_cons_self, rfl⟩
  exact ⟨schema, found, defined, returned, codes⟩

/-- Not every defined constraint returns: a format that is no regular expression is let through. -/
theorem constraint_faults_of_malformed_format :
    ¬ ∀ (specs : Value) (settings : Settings) (schema : Schema),
      define specs settings = .ok schema → ∀ field ∈ schema.fields, ∀ (value : Value) (path : Path),
        ∃ verdict, Constraint.checkAll field.constraints value path = .ok verdict := by
  intro holds
  let specs : Value := .list [.tuple [.str "a", .str "string", .map [(.str "format", .str "(")]]]
  let field : Field :=
    ⟨"a", .primitive .string, true, [(.format, .str "(")], .null, .null, .null⟩
  obtain ⟨verdict, returned⟩ := holds specs {} ⟨[field], .null, .null, false, none, []⟩ rfl field
    List.mem_cons_self (.str "x") []
  have faults : Constraint.checkAll field.constraints (.str "x") [] =
    .error .malformedPattern := rfl
  cases faults.symm.trans returned

end Schema

end Conform
