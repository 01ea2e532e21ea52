import Conform.Proofs.Evidence
import Conform.Proofs.Faults
import Conform.Proofs.Range

/-!
# Conversions and the limits of numbers

Whether a conversion ends in a fault, and whether it refuses, by recursion on the type and the value
alone.  The only faults are those of numbers beyond a limit: a whole number that is too long to be
written, a numeral that is too long to be read, a whole number beyond the range of doubles.  Every
item of a sequence is converted, alternatives up to the first that does not refuse.
-/

namespace Conform

/-! ## The list of conversions -/

/-- Whether the conversion of a value to a kind is on the list of conversions. -/
def Kind.converts (env : Environment) (kind : Kind) (value : Value) : Bool :=
  match kind, value with
  | .any, _ | .map, _ => true
  | .string, .str _ | .string, .bool _ | .string, .int _ | .string, .float _ => true
  | .string, .symbol _ | .string, .member .. => true
  | .integer, .int _ => true
  | .integer, .str text => Numeral.isInteger text.toList
  | .float, .float _ | .float, .int _ => true
  | .float, .str text => Numeral.isDecimal text.toList
  | .boolean, .bool _ => true
  | .boolean, .str text => text == "true" || text == "false"
  | .atom, .symbol _ | .atom, .member .. => true
  | .atom, .str text => env.knows text
  | _, _ => false

/-- Whether the conversion of a value to a kind is on the list and comes upon a number beyond a
limit. -/
def Kind.exceeds (kind : Kind) (value : Value) : Bool :=
  match kind, value with
  | .string, .int n => !withinDigitLimit n
  | .integer, .str text =>
    Numeral.isInteger text.toList &&
      decide (digitLimit < (Whole.splitSign text.toList).2.length)
  | .float, .int n => decide (Double.rangeBound ≤ n.natAbs)
  | _, _ => false

mutual

/-- Whether the conversion of a value to a type is on the list: for every item of a sequence that is
read as an array, and for some alternative of a union.  What has no conversions passes through. -/
def TypeSpec.converts (env : Environment) : TypeSpec → Value → Bool
  | .primitive kind, value => kind.converts env value
  | .array inner _ _, value =>
    match value.items? with
    | some items => items.all (TypeSpec.converts env inner)
    | none => true
  | .union alternatives, value => TypeSpec.someConverts env alternatives value
  | _, _ => true
termination_by structural spec => spec

/-- Whether the conversion of a value to one of several types is on the list. -/
def TypeSpec.someConverts (env : Environment) : List TypeSpec → Value → Bool
  | [], _ => false
  | spec :: rest, value => TypeSpec.converts env spec value || TypeSpec.someConverts env rest value
termination_by structural specs => specs

end

mutual

/-- Whether the conversion of a value to a type comes upon a number beyond a limit. -/
def TypeSpec.exceeds (env : Environment) : TypeSpec → Value → Bool
  | .primitive kind, value => kind.exceeds value
  | .array inner _ _, value =>
    match value.items? with
    | some items => items.any (TypeSpec.exceeds env inner)
    | none => false
  | .union alternatives, value => TypeSpec.firstExceeds env alternatives value
  | _, _ => false
termination_by structural spec => spec

/-- Whether one of the alternatives up to the first that does not refuse comes upon such a
number. -/
def TypeSpec.firstExceeds (env : Environment) : List TypeSpec → Value → Bool
  | [], _ => false
  | spec :: rest, value =>
    TypeSpec.exceeds env spec value ||
      (!spec.converts env value && TypeSpec.firstExceeds env rest value)
termination_by structural specs => specs

end

/-! ## Values within the limits -/

mutual

/-- Whether the texts in a value, and in the items of the sequences in it, are no longer than
numerals can be, and the whole numbers are within the range of doubles. -/
def Value.isModest : Value → Bool
  | .int n => decide (n.natAbs < Double.rangeBound)
  | .str text => decide (text.toList.length ≤ digitLimit)
  | .list items | .tuple items => Value.allModest items
  | _ => true

/-- Whether all of the values are of such a size. -/
def Value.allModest : List Value → Bool
  | [] => true
  | value :: rest => value.isModest && Value.allModest rest

end

/-- The items of a modest sequence are modest. -/
theorem Value.isModest_of_items {value : Value} {items : List Value}
    (listed : value.items? = some items) (modest : value.isModest = true) :
    ∀ item ∈ items, item.isModest = true := by
  have each : ∀ items : List Value, allModest items = true →
      ∀ item ∈ items, item.isModest = true := by
    intro items
    induction items with
    | nil => exact fun _ => List.forall_mem_nil _
    | cons item rest ih =>
        intro modest
        obtain ⟨first, others⟩ := Bool.and_eq_true_iff.mp modest
        exact List.forall_mem_cons.mpr ⟨first, ih others⟩
  cases value with
  | list members | tuple members =>
      cases listed
      exact each items modest
  | _ => cases listed

theorem Whole.length_splitSign_le (chars : List Char) :
    (splitSign chars).2.length ≤ chars.length := by
  unfold splitSign
  split <;> simp

theorem withinDigitLimit_of_lt_rangeBound {n : Int} (small : n.natAbs < Double.rangeBound) :
    withinDigitLimit n = true := by
  have bounds : Double.rangeBound ≤ digitBound := by decide +kernel
  exact decide_eq_true (Nat.lt_of_lt_of_le small bounds)

theorem Kind.exceeds_of_modest (kind : Kind) {value : Value} (modest : value.isModest = true) :
    kind.exceeds value = false := by
  unfold Kind.exceeds
  split
  case h_1 n =>
    rw [withinDigitLimit_of_lt_rangeBound (of_decide_eq_true modest), Bool.not_true]
  case h_2 text =>
    have short := Nat.le_trans (Whole.length_splitSign_le text.toList) (of_decide_eq_true modest)
    rw [decide_eq_false (Nat.not_lt.mpr short), Bool.and_false]
  case h_3 n => exact decide_eq_false (Nat.not_le.mpr (of_decide_eq_true modest))
  case h_4 => rfl

mutual

theorem TypeSpec.exceeds_of_modest (env : Environment) : (spec : TypeSpec) → {value : Value} →
    value.isModest = true → spec.exceeds env value = false
  | .primitive kind, _, modest => kind.exceeds_of_modest modest
  | .array inner _ _, value, modest => by
      simp only [TypeSpec.exceeds]
      cases listed : value.items? with
      | none => rfl
      | some items =>
          refine List.any_eq_false.mpr fun item among => ?_
          rw [TypeSpec.exceeds_of_modest env inner
            (Value.isModest_of_items listed modest item among)]
          exact Bool.false_ne_true
  | .union alternatives, _, modest => TypeSpec.firstExceeds_of_modest env alternatives modest
  | .tuple _, _, _ | .map _ _, _, _ | .ref _, _, _ | .unknownKind _, _, _ | .rawUnion _, _, _
  | .rawTuple _, _, _ | .raw _, _, _ => rfl

theorem TypeSpec.firstExceeds_of_modest (env : Environment) : (specs : List TypeSpec) →
    {value : Value} → value.isModest = true → TypeSpec.firstExceeds env specs value = false
  | [], _, _ => rfl
  | spec :: rest, _, modest => by
      simp [TypeSpec.firstExceeds, TypeSpec.exceeds_of_modest env spec modest,
        TypeSpec.firstExceeds_of_modest env rest modest]

end

/-! ## Outcomes foretold -/

/-- The faults of numbers beyond a limit. -/
inductive Fault.OfLimit : Fault → Prop where
  | write : OfLimit .digitsToWrite
  | read {length : Nat} (long : digitLimit < length) : OfLimit (.digitsToRead length)
  | range : OfLimit .doubleRange

/-- Violations that all have the code of conversions. -/
def AllCoercion (violations : List Violation) : Prop :=
  ∀ violation ∈ violations, violation.code = .str "coercion"

namespace Coercion

/-- An outcome of a conversion is the foretold one: a fault of a limit, or an accepted value, or a
refusal that says why. -/
inductive Foretold : (exceeds converts : Bool) → Attempt (Verdict Value) → Prop where
  | exceeded {converts : Bool} {fault : Fault} (limit : fault.OfLimit) :
      Foretold true converts (.error fault)
  | converted {made : Value} : Foretold false true (.ok (.accepted made))
  | refused {violations : List Violation} (reasoned : violations ≠ [])
      (coded : AllCoercion violations) : Foretold false false (.ok (.rejected violations))

namespace Foretold

variable {exceeds converts : Bool} {outcome : Attempt (Verdict Value)}

theorem returns_iff (foretold : Foretold exceeds converts outcome) :
    (∃ verdict, outcome = .ok verdict) ↔ exceeds = false := by
  cases foretold with
  | exceeded => simp
  | converted => simp
  | refused => simp

theorem of_verdict {verdict : Verdict Value} (foretold : Foretold exceeds converts (.ok verdict)) :
    ((∃ made, verdict = .accepted made) ↔ converts = true) ∧
      ∀ violations, verdict = .rejected violations → violations ≠ [] ∧ AllCoercion violations := by
  cases foretold with
  | converted => simp
  | refused reasoned coded =>
      refine ⟨by simp, fun violations same => ?_⟩
      cases same
      exact ⟨reasoned, coded⟩

theorem of_fault {fault : Fault} (foretold : Foretold exceeds converts (.error fault)) :
    fault.OfLimit := by
  cases foretold with
  | exceeded limit => exact limit

end Foretold

theorem refuse_foretold {spec : TypeSpec} {text : String} (described : spec.describe = .ok text)
    (value : Value) (path : Path) (reason : String) :
    Foretold false false (refuse spec value path reason) := by
  rw [refuse, described]
  refine .refused (List.cons_ne_nil _ _) fun violation among => ?_
  rw [List.mem_singleton.mp among]
  rfl

theorem writeInt_foretold (n : Int) :
    Foretold (!withinDigitLimit n) true (writeInt n >>= fun text => accept (.str text)) := by
  unfold writeInt
  split
  case isTrue short =>
    rw [short]
    exact .converted
  case isFalse long =>
    rw [Bool.eq_false_iff.mpr long]
    exact .exceeded .write

theorem readInteger_foretold (chars : List Char) :
    Foretold (decide (digitLimit < (Whole.splitSign chars).2.length)) true
      (readInteger chars >>= fun n => accept (.int n)) := by
  unfold readInteger
  dsimp only
  split
  case isTrue long =>
    rw [decide_eq_true long]
    exact .exceeded (.read long)
  case isFalse short =>
    rw [decide_eq_false short]
    exact .converted

theorem nearest_foretold (n : Int) :
    Foretold (decide (Double.rangeBound ≤ n.natAbs)) true (acceptNearest (Double.ofInt? n)) := by
  cases found : Double.ofInt? n with
  | none =>
      rw [decide_eq_true ((Double.ofInt?_eq_none_iff n).mp found)]
      exact .exceeded .range
  | some x =>
      have within : ¬Double.rangeBound ≤ n.natAbs := by
        rw [← Double.ofInt?_eq_none_iff, found]
        exact Option.some_ne_none x
      rw [decide_eq_false within]
      exact .converted

/-- A conversion to a primitive kind ends as foretold. -/
theorem toKind_foretold (env : Environment) (kind : Kind) (value : Value) (path : Path) :
    Foretold (kind.exceeds value) (kind.converts env value) (toKind env kind value path) := by
  have refused := @refuse_foretold (.primitive kind) kind.name rfl value path
  cases kind with
  | any | map => exact .converted
  | string =>
      cases value with
      | int n => exact writeInt_foretold n
      | str _ | bool _ | float _ | symbol _ | member _ _ _ => exact .converted
      | _ => exact refused _
  | integer =>
      cases value with
      | int n => exact .converted
      | str text =>
          simp only [toKind, toInteger, Kind.exceeds, Kind.converts]
          cases Numeral.isInteger text.toList with
          | true => exact readInteger_foretold text.toList
          | false => exact refused _
      | _ => exact refused _
  | float =>
      cases value with
      | float x => exact .converted
      | int n => exact nearest_foretold n
      | str text =>
          simp only [toKind, toFloat, Kind.exceeds, Kind.converts]
          cases Numeral.isDecimal text.toList with
          | true => exact .converted
          | false => exact refused _
      | _ => exact refused _
  | boolean =>
      show Foretold _ _ (toBoolean _ value path)
      unfold toBoolean
      split
      · exact .converted
      · exact .converted
      · exact .converted
      case h_4 noFlag noTrue noFalse =>
        have none : Kind.converts env .boolean value = false := by
          cases value with
          | bool flag => exact absurd rfl (noFlag flag)
          | str text =>
              refine Bool.or_eq_false_iff.mpr ⟨?_, ?_⟩
              · exact beq_eq_false_iff_ne.mpr fun same => noTrue (congrArg Value.str same)
              · exact beq_eq_false_iff_ne.mpr fun same => noFalse (congrArg Value.str same)
          | _ => rfl
        rw [none]
        exact refused _
  | atom =>
      cases value with
      | symbol _ | member _ _ _ => exact .converted
      | str text =>
          simp only [toKind, toAtom, Kind.exceeds, Kind.converts]
          cases env.knows text with
          | true => exact .converted
          | false => exact refused _
      | _ => exact refused _

/-- What became of the items of a sequence is the foretold outcome: a fault of a limit, or
violations that are none exactly when every conversion is on the list. -/
inductive ItemsForetold (env : Environment) (inner : TypeSpec) (items : List Value) :
    Attempt (List Value × List Violation) → Prop where
  | exceeded {fault : Fault} (exceeds : items.any (inner.exceeds env) = true)
      (limit : fault.OfLimit) : ItemsForetold env inner items (.error fault)
  | converted {values : List Value} (within : items.any (inner.exceeds env) = false)
      (converts : items.all (inner.converts env) = true) :
      ItemsForetold env inner items (.ok (values, []))
  | refused {values : List Value} {violations : List Violation}
      (within : items.any (inner.exceeds env) = false)
      (refuses : items.all (inner.converts env) = false) (reasoned : violations ≠ [])
      (coded : AllCoercion violations) : ItemsForetold env inner items (.ok (values, violations))

/-- Items whose conversions end as foretold are converted as foretold. -/
theorem items_foretold {env : Environment} {inner : TypeSpec} {checker : Checker}
    {items : List Value} (each : ∀ item ∈ items, ∀ path,
      Foretold (inner.exceeds env item) (inner.converts env item) (checker item path))
    (path : Path) (index : Nat) :
    ItemsForetold env inner items
      (Check.members path index (items.map fun item => (checker, item))) := by
  induction items generalizing index with
  | nil => exact .converted rfl rfl
  | cons item rest ih =>
      obtain ⟨first, others⟩ := List.forall_mem_cons.mp each
      have head := first (path ++ [.int index])
      have tail := ih others (index + 1)
      simp only [List.map_cons, Check.members]
      generalize checker item (path ++ [.int index]) = outcome at head
      generalize Check.members path (index + 1) (rest.map fun item => (checker, item)) =
        more at tail
      generalize here : inner.exceeds env item = exceedsHere at head
      generalize there : inner.converts env item = convertsHere at head
      cases head with
      | exceeded limit => exact .exceeded (by simp [here]) limit
      | converted =>
          cases tail with
          | exceeded exceeds limit => exact .exceeded (by simp [exceeds]) limit
          | converted within converts =>
              exact .converted (by simp [here, within]) (by simp [there, converts])
          | refused within refuses reasoned coded =>
              exact .refused (by simp [here, within]) (by simp [refuses]) reasoned coded
      | refused reasoned coded =>
          cases tail with
          | exceeded exceeds limit => exact .exceeded (by simp [exceeds]) limit
          | converted within _ =>
              refine .refused (by simp [here, within]) (by simp [there]) ?_ ?_
              · exact List.append_ne_nil_of_left_ne_nil reasoned _
              · exact List.forall_mem_append.mpr ⟨coded, List.forall_mem_nil _⟩
          | refused within _ _ others =>
              refine .refused (by simp [here, within]) (by simp [there]) ?_ ?_
              · exact List.append_ne_nil_of_left_ne_nil reasoned _
              · exact List.forall_mem_append.mpr ⟨coded, others⟩

/-- A conversion of items that ends as foretold gives one of the array of them. -/
theorem toArray_foretold {env : Environment} {inner : TypeSpec} {minItems maxItems : Value}
    {checker : Checker} (each : ∀ value path,
      Foretold (inner.exceeds env value) (inner.converts env value) (checker value path))
    (value : Value) (path : Path) :
    Foretold ((TypeSpec.array inner minItems maxItems).exceeds env value)
      ((TypeSpec.array inner minItems maxItems).converts env value)
      (toArray checker value path) := by
  simp only [TypeSpec.exceeds, TypeSpec.converts, toArray]
  cases value.items? with
  | none => exact .converted
  | some items =>
      have foretold := items_foretold (fun item (_ : item ∈ items) => each item) path 0
      dsimp only
      generalize Check.members path 0 (items.map fun item => (checker, item)) = outcome at foretold
      cases foretold with
      | exceeded exceeds limit =>
          rw [exceeds]
          exact .exceeded limit
      | converted within converts =>
          rw [within, converts]
          exact .converted
      | @refused values violations within refuses reasoned coded =>
          rw [within, refuses]
          cases violations with
          | nil => exact absurd rfl reasoned
          | cons first rest => exact .refused reasoned coded

/-- What became of alternatives is the foretold outcome: a fault of a limit, a value, or nothing. -/
inductive FirstForetold : (exceeds converts : Bool) → Attempt (Option Value) → Prop where
  | exceeded {converts : Bool} {fault : Fault} (limit : fault.OfLimit) :
      FirstForetold true converts (.error fault)
  | converted {made : Value} : FirstForetold false true (.ok (some made))
  | missed : FirstForetold false false (.ok none)

theorem firstAccepted_foretold {exceeds converts exceedsLater convertsLater : Bool}
    {checker : Checker} {checkers : List Checker} {value : Value} {path : Path}
    (head : Foretold exceeds converts (checker value path))
    (tail : FirstForetold exceedsLater convertsLater (Check.firstAccepted value path checkers)) :
    FirstForetold (exceeds || (!converts && exceedsLater)) (converts || convertsLater)
      (Check.firstAccepted value path (checker :: checkers)) := by
  simp only [Check.firstAccepted]
  generalize checker value path = outcome at head
  cases head with
  | exceeded limit => exact .exceeded limit
  | converted => exact .converted
  | refused _ _ => exact tail

theorem toUnion_foretold {spec : TypeSpec} {text : String} (described : spec.describe = .ok text)
    {exceeds converts : Bool} {checkers : List Checker} {value : Value} {path : Path}
    (foretold : FirstForetold exceeds converts (Check.firstAccepted value path checkers)) :
    Foretold exceeds converts (toUnion spec checkers value path) := by
  rw [toUnion]
  generalize Check.firstAccepted value path checkers = outcome at foretold
  cases foretold with
  | exceeded limit => exact .exceeded limit
  | converted => exact .converted
  | missed => exact refuse_foretold described value path _

end Coercion

mutual

/-- The conversion to a canonical type ends as foretold. -/
theorem TypeSpec.coerce_foretold (env : Environment) : (spec : TypeSpec) →
    spec.isCanonical = true → (value : Value) → (path : Path) →
    Coercion.Foretold (spec.exceeds env value) (spec.converts env value)
      (spec.coerce env value path)
  | .primitive kind, _, value, path => Coercion.toKind_foretold env kind value path
  | .array inner _ _, canonical, value, path =>
      Coercion.toArray_foretold
        (TypeSpec.coerce_foretold env inner (Bool.and_eq_true_iff.mp canonical).2) value path
  | .union alternatives, canonical, value, path => by
      obtain ⟨text, described⟩ := TypeSpec.describe_eq_ok (.union alternatives) canonical
      exact Coercion.toUnion_foretold described (TypeSpec.firstCoerced_foretold env alternatives
        (Bool.and_eq_true_iff.mp canonical).2 value path)
  | .tuple _, _, _, _ | .map _ _, _, _, _ | .ref _, _, _, _ => .converted
  | .unknownKind _, canonical, _, _
  | .rawUnion _, canonical, _, _ | .rawTuple _, canonical, _, _ | .raw _, canonical, _, _ =>
      nomatch canonical

theorem TypeSpec.firstCoerced_foretold (env : Environment) : (specs : List TypeSpec) →
    TypeSpec.allEverywhere TypeSpec.isCanonicalNode specs = true → (value : Value) →
    (path : Path) → Coercion.FirstForetold (TypeSpec.firstExceeds env specs value)
      (TypeSpec.someConverts env specs value)
      (Check.firstAccepted value path (TypeSpec.coercers env specs))
  | [], _, _, _ => .missed
  | spec :: rest, canonical, value, path => by
      obtain ⟨first, others⟩ := Bool.and_eq_true_iff.mp canonical
      exact Coercion.firstAccepted_foretold (TypeSpec.coerce_foretold env spec first value path)
        (TypeSpec.firstCoerced_foretold env rest others value path)

end

/-- A conversion to a canonical type returns exactly when it comes upon no number beyond a limit: it
accepts what is on the list of conversions, and refuses all else with violations of its own code.
It returns for every modest value. -/
theorem TypeSpec.coerce_returns_iff (env : Environment) (spec : TypeSpec)
    (canonical : spec.isCanonical = true) (value : Value) (path : Path) :
    ((∃ verdict, spec.coerce env value path = .ok verdict) ↔ spec.exceeds env value = false) ∧
      (∀ verdict, spec.coerce env value path = .ok verdict →
        ((∃ made, verdict = .accepted made) ↔ spec.converts env value = true) ∧
          ∀ violations, verdict = .rejected violations →
            violations ≠ [] ∧ AllCoercion violations) ∧
      (∀ fault, spec.coerce env value path = .error fault → fault.OfLimit) ∧
      (value.isModest = true → spec.exceeds env value = false) := by
  have foretold := spec.coerce_foretold env canonical value path
  refine ⟨foretold.returns_iff, fun verdict returned => ?_, fun fault ended => ?_,
    spec.exceeds_of_modest env⟩
  · rw [returned] at foretold
    exact foretold.of_verdict
  · rw [ended] at foretold
    exact foretold.of_fault

/-- A whole number beyond the range of doubles is converted where whole numbers come before
doubles. -/
theorem TypeSpec.coerce_returns_of_huge_number :
    let spec := TypeSpec.union [.primitive .integer, .primitive .float]
    let huge := Value.int (Nat.pow 10 400)
    spec.isCanonical = true ∧ ∃ verdict, spec.coerce .bare huge [] = .ok verdict := by
  intro spec huge
  exact ⟨rfl, (spec.coerce_returns_iff .bare rfl huge []).1.mpr rfl⟩

/-- Not every conversion returns: a numeral that is too long to be read ends it in a fault. -/
theorem TypeSpec.coerce_faults_of_long_numeral :
    ¬ ∀ (env : Environment) (spec : TypeSpec), spec.isCanonical = true →
      ∀ (value : Value) (path : Path), ∃ verdict, spec.coerce env value path = .ok verdict ∧
        ∀ violations, verdict = .rejected violations → AllCoercion violations := by
  intro holds
  let digits := '1' :: List.replicate digitLimit '1'
  let numeral := Value.str (String.ofList digits)
  have isNumeral : Numeral.isInteger digits = true := by
    show Numeral.isDigits digits = true
    simp only [Numeral.isDigits, digits, List.all_cons, List.all_replicate]
    rfl
  have long : digitLimit < (Whole.splitSign digits).2.length := by
    show digitLimit < digits.length
    simp only [digits, List.length_cons, List.length_replicate]
    exact Nat.lt_succ_self _
  have exceeds : (TypeSpec.primitive .integer).exceeds .bare numeral = true := by
    simp only [numeral, TypeSpec.exceeds, Kind.exceeds, String.toList_ofList]
    rw [isNumeral, decide_eq_true long, Bool.and_self]
  obtain ⟨verdict, returned, _⟩ := holds .bare (.primitive .integer) rfl numeral []
  have foretold := (TypeSpec.primitive .integer).coerce_foretold .bare rfl numeral []
  have within := foretold.returns_iff.mp ⟨verdict, returned⟩
  exact Bool.false_ne_true (within.symm.trans exceeds)

end Conform
