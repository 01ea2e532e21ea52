import Conform.Proofs.Limits
import Mathlib.Data.List.Induction
import Mathlib.Data.Nat.Digits.Defs

/-!
# Whole numbers in decimal notation

A whole number is written as the digits of its size, behind a minus sign if it is negative.
`Numeral.Denotes` is the notation that conversions read: an optional sign and digits of ASCII, most
significant digit first.  What is written denotes the number that it was written for, and so a
conversion to text can be undone.
-/

namespace Conform

/-! ## Digits -/

namespace Digits

@[simp] theorem isDigit_iff (c : Char) : isDigit c = true ↔ '0' ≤ c ∧ c ≤ '9' := by
  simp only [isDigit, Bool.and_eq_true, decide_eq_true_eq]
  exact Iff.rfl

@[simp] theorem toList_write (n : Nat) : (write n).toList = Nat.toDigits 10 n := Nat.toList_repr

@[simp] theorem read_write (n : Nat) : read (write n).toList = n := by
  rw [toList_write]
  exact Nat.ofDigitChars_ten_toDigits

@[simp] theorem isDigits_write (n : Nat) : Numeral.isDigits (write n).toList = true := by
  rw [toList_write, Numeral.isDigits, Bool.and_eq_true, List.all_eq_true]
  refine ⟨by simp, fun c among => ?_⟩
  have digit := Nat.isDigit_of_mem_toDigits (by decide) (by decide) among
  rw [isDigit_iff]
  exact Bool.and_eq_true_iff.mp digit |>.imp of_decide_eq_true of_decide_eq_true

/-- A number is short enough to be written exactly when its digits are few enough to be read. -/
@[simp] theorem length_write_le_iff (n : Nat) :
    (write n).toList.length ≤ digitLimit ↔ n < digitBound := by
  have some : 0 < digitLimit := by decide
  rw [toList_write]
  unfold digitBound
  -- The power is too large to be computed.
  generalize digitLimit = limit at some ⊢
  exact Nat.length_toDigits_le_iff (by decide) some

/-- Reading digits is positional, the last one counting ones. -/
theorem read_eq_ofDigits (digits : List Char) :
    read digits = Nat.ofDigits 10 (digits.reverse.map value) := by
  induction digits using List.reverseRecOn with
  | nil => rfl
  | append_singleton digits last ih =>
      rw [read, List.foldl_append, List.reverse_append, List.reverse_singleton,
        List.singleton_append, List.map_cons, Nat.ofDigits_cons, ← ih]
      exact Nat.add_comm _ _

end Digits

/-! ## Texts of whole numbers -/

@[simp] theorem wholeText_of_nonneg {n : Int} (nonneg : 0 ≤ n) :
    wholeText n = Digits.write n.natAbs :=
  if_neg (Int.not_lt.mpr nonneg)

theorem toList_wholeText_of_neg {n : Int} (negative : n < 0) :
    (wholeText n).toList = '-' :: (Digits.write n.natAbs).toList := by
  rw [wholeText, if_pos negative, String.toList_append]
  rfl

namespace Numeral

/-- Digits of ASCII and the natural number that they denote in base ten. -/
structure DigitsDenote (digits : List Char) (n : Nat) : Prop where
  inhabited : digits ≠ []
  ascii : ∀ c ∈ digits, '0' ≤ c ∧ c ≤ '9'
  value : n = Nat.ofDigits 10 (digits.reverse.map fun c => c.toNat - '0'.toNat)

/-- A text and the whole number that it denotes: digits behind an optional sign. -/
inductive Denotes : List Char → Int → Prop where
  | unsigned {digits : List Char} {n : Nat} (size : DigitsDenote digits n) : Denotes digits n
  | positive {digits : List Char} {n : Nat} (size : DigitsDenote digits n) :
      Denotes ('+' :: digits) n
  | negative {digits : List Char} {n : Nat} (size : DigitsDenote digits n) :
      Denotes ('-' :: digits) (-n)

theorem digitsDenote_iff {digits : List Char} {n : Nat} :
    DigitsDenote digits n ↔ isDigits digits = true ∧ n = Digits.read digits := by
  have digitsOnly : isDigits digits = true ↔ digits ≠ [] ∧ ∀ c ∈ digits, '0' ≤ c ∧ c ≤ '9' := by
    simp [isDigits, Digits.isDigit_iff]
  rw [digitsOnly, Digits.read_eq_ofDigits]
  constructor
  · intro denotes
    exact ⟨⟨denotes.inhabited, denotes.ascii⟩, denotes.value⟩
  · rintro ⟨⟨inhabited, ascii⟩, value⟩
    exact ⟨inhabited, ascii, value⟩

@[simp] theorem isDigits_cons_of_not {c : Char} (other : Digits.isDigit c = false)
    (chars : List Char) :
    isDigits (c :: chars) = false := by
  simp [isDigits, other]

/-- A text denotes a number exactly when it is an integer text, and then what it is read as. -/
theorem denotes_iff {chars : List Char} {n : Int} :
    Denotes chars n ↔ isInteger chars = true ∧
      n = if (Whole.splitSign chars).1 then -(Digits.read (Whole.splitSign chars).2 : Int)
        else Digits.read (Whole.splitSign chars).2 := by
  constructor
  · intro denotes
    cases denotes with
    | @unsigned digits n size =>
        obtain ⟨isDigits, rfl⟩ := digitsDenote_iff.mp size
        have bare : Whole.splitSign chars = (false, chars) := by
          unfold Whole.splitSign
          split
          · cases isDigits.symm.trans (isDigits_cons_of_not rfl _)
          · cases isDigits.symm.trans (isDigits_cons_of_not rfl _)
          · rfl
        simp [isInteger, bare, isDigits]
    | positive size =>
        obtain ⟨isDigits, rfl⟩ := digitsDenote_iff.mp size
        exact ⟨isDigits, rfl⟩
    | negative size =>
        obtain ⟨isDigits, rfl⟩ := digitsDenote_iff.mp size
        exact ⟨isDigits, rfl⟩
  · rintro ⟨integer, rfl⟩
    unfold isInteger at integer
    unfold Whole.splitSign at integer ⊢
    split at integer
    · exact .negative (digitsDenote_iff.mpr ⟨integer, rfl⟩)
    · exact .positive (digitsDenote_iff.mpr ⟨integer, rfl⟩)
    · exact .unsigned (digitsDenote_iff.mpr ⟨integer, rfl⟩)

/-- The text of a whole number denotes it. -/
theorem denotes_wholeText (n : Int) : Denotes (wholeText n).toList n := by
  have size : DigitsDenote (Digits.write n.natAbs).toList n.natAbs :=
    digitsDenote_iff.mpr ⟨Digits.isDigits_write _, (Digits.read_write _).symm⟩
  by_cases negative : n < 0
  · rw [toList_wholeText_of_neg negative]
    have denoted := Denotes.negative size
    rwa [Int.ofNat_natAbs_of_nonpos (Int.le_of_lt negative), Int.neg_neg] at denoted
  · have nonneg := Int.not_lt.mp negative
    rw [wholeText_of_nonneg nonneg]
    have denoted := Denotes.unsigned size
    rwa [Int.natAbs_of_nonneg nonneg] at denoted

/-- The text of a number that can be written has no more digits than can be read. -/
theorem length_digits_wholeText {n : Int} (within : withinDigitLimit n = true) :
    (Whole.splitSign (wholeText n).toList).2.length ≤ digitLimit := by
  have short := (Digits.length_write_le_iff n.natAbs).mpr (of_decide_eq_true within)
  by_cases negative : n < 0
  · rw [toList_wholeText_of_neg negative]
    exact short
  · rw [wholeText_of_nonneg (Int.not_lt.mp negative)]
    exact Nat.le_trans (Whole.length_splitSign_le _) short

end Numeral

/-! ## Conversions to text and back -/

namespace Coercion

theorem readInteger_of_denotes {chars : List Char} {n : Int} (denotes : Numeral.Denotes chars n)
    (short : (Whole.splitSign chars).2.length ≤ digitLimit) : readInteger chars = .ok n := by
  rw [(Numeral.denotes_iff.mp denotes).2, readInteger]
  exact if_neg (Nat.not_lt.mpr short)

theorem coerce_of_denotes (env : Environment) {text : String} {n : Int}
    (denotes : Numeral.Denotes text.toList n)
    (short : (Whole.splitSign text.toList).2.length ≤ digitLimit) (path : Path) :
    (TypeSpec.primitive .integer).coerce env (.str text) path = .ok (.accepted (.int n)) := by
  show toInteger _ (.str text) path = _
  simp only [toInteger, (Numeral.denotes_iff.mp denotes).1, if_true,
    readInteger_of_denotes denotes short]
  rfl

/-- A text that denotes no number is refused. -/
theorem coerce_of_not_denotes (env : Environment) {text : String}
    (foreign : ∀ n, ¬Numeral.Denotes text.toList n) (path : Path) :
    ∃ violations,
      (TypeSpec.primitive .integer).coerce env (.str text) path = .ok (.rejected violations) := by
  have noInteger : ¬Numeral.isInteger text.toList = true :=
    fun integer => foreign _ (Numeral.denotes_iff.mpr ⟨integer, rfl⟩)
  show ∃ violations, toInteger _ (.str text) path = _
  rw [toInteger, if_neg noInteger]
  exact ⟨_, rfl⟩

/-- A value is converted to a text from which a conversion to the kind makes the value again. -/
def Undone (env : Environment) (kind : Kind) (value : Value) : Prop :=
  ∃ text, ∀ path,
    (TypeSpec.primitive .string).coerce env value path = .ok (.accepted (.str text)) ∧
      (TypeSpec.primitive kind).coerce env (.str text) path = .ok (.accepted value)

theorem undone_of_int (env : Environment) {n : Int} (within : withinDigitLimit n = true) :
    Undone env .integer (.int n) := by
  refine ⟨wholeText n, fun path => ⟨?_, ?_⟩⟩
  · show (writeInt n >>= fun text => accept (.str text)) = _
    rw [writeInt, if_pos within]
    rfl
  · exact coerce_of_denotes env (Numeral.denotes_wholeText n)
      (Numeral.length_digits_wholeText within) path

theorem undone_of_bool (env : Environment) (flag : Bool) : Undone env .boolean (.bool flag) := by
  cases flag with
  | false => exact ⟨"false", fun _ => ⟨rfl, rfl⟩⟩
  | true => exact ⟨"true", fun _ => ⟨rfl, rfl⟩⟩

theorem undone_of_symbol {env : Environment} {name : String} (known : env.knows name = true) :
    Undone env .atom (.symbol name) := by
  refine ⟨name, fun path => ⟨rfl, ?_⟩⟩
  show toAtom env _ (.str name) path = _
  rw [toAtom, if_pos known]
  rfl

/-- Conversions to text are undone by those to whole numbers, truth values and atoms, and a text of
moderate length is converted to a whole number exactly when it denotes one: then to that number, and
else it is refused. -/
theorem reversible (env : Environment) :
    (∀ n : Int, withinDigitLimit n = true → Undone env .integer (.int n)) ∧
      (∀ flag, Undone env .boolean (.bool flag)) ∧
      (∀ name, env.knows name = true → Undone env .atom (.symbol name)) ∧
      ∀ text : String, text.length ≤ digitLimit → ∀ path,
        (∀ result,
          (TypeSpec.primitive .integer).coerce env (.str text) path = .ok (.accepted result) ↔
            ∃ n, Numeral.Denotes text.toList n ∧ result = .int n) ∧
        ((∀ n, ¬Numeral.Denotes text.toList n) → ∃ violations,
          (TypeSpec.primitive .integer).coerce env (.str text) path =
            .ok (.rejected violations)) := by
  refine ⟨fun n => undone_of_int env, undone_of_bool env, fun name => undone_of_symbol,
    fun text short path => ⟨fun result => ⟨?made, ?denoted⟩, fun foreign =>
      coerce_of_not_denotes env foreign path⟩⟩
  all_goals
    have fewDigits : (Whole.splitSign text.toList).2.length ≤ digitLimit := by
      rw [← String.length_toList] at short
      exact Nat.le_trans (Whole.length_splitSign_le _) short
  case made =>
    intro accepted
    by_cases denotes : ∃ n, Numeral.Denotes text.toList n
    · obtain ⟨n, denotes⟩ := denotes
      cases (coerce_of_denotes env denotes fewDigits path).symm.trans accepted
      exact ⟨n, denotes, rfl⟩
    · obtain ⟨violations, rejected⟩ :=
        coerce_of_not_denotes env (not_exists.mp denotes) path
      cases rejected.symm.trans accepted
  case denoted =>
    rintro ⟨n, denotes, rfl⟩
    exact coerce_of_denotes env denotes fewDigits path

end Coercion

end Conform
