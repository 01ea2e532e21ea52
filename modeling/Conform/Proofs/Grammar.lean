import Conform.Json.Reader

/-!
# The grammar of JSON

The JSON language without regard to values: each relation says that a text begins with a phrase and
what is left of the text behind it.  What a value can begin with is told apart from what can stand
behind one by a single character.
-/

namespace Conform.Json.Grammar

/-! ## Phrases -/

/-- Blanks, or none. -/
inductive Blanks : List Char → List Char → Prop where
  | refl (rest : List Char) : Blanks rest rest
  | cons {c : Char} {chars rest : List Char} (blank : isBlank c = true)
      (others : Blanks chars rest) : Blanks (c :: chars) rest

/-- One digit at least. -/
inductive DigitRun : List Char → List Char → Prop where
  | last {c : Char} {rest : List Char} (digit : Digits.isDigit c = true) : DigitRun (c :: rest) rest
  | cons {c : Char} {chars rest : List Char} (digit : Digits.isDigit c = true)
      (others : DigitRun chars rest) : DigitRun (c :: chars) rest

/-- The whole part of a number: a zero, or digits that do not begin with one. -/
inductive WholePart : List Char → List Char → Prop where
  | zero (rest : List Char) : WholePart ('0' :: rest) rest
  | digits {c : Char} {chars rest : List Char} (nonzero : c ≠ '0')
      (digits : DigitRun (c :: chars) rest) : WholePart (c :: chars) rest

/-- The decimals of a number. -/
inductive Decimals : List Char → List Char → Prop where
  | point {chars rest : List Char} (digits : DigitRun chars rest) : Decimals ('.' :: chars) rest

/-- The exponent of a number. -/
inductive Exponent : List Char → List Char → Prop where
  | unsigned {letter : Char} {chars rest : List Char} (marked : letter = 'e' ∨ letter = 'E')
      (digits : DigitRun chars rest) : Exponent (letter :: chars) rest
  | signed {letter sign : Char} {chars rest : List Char} (marked : letter = 'e' ∨ letter = 'E')
      (signed : sign = '+' ∨ sign = '-') (digits : DigitRun chars rest) :
      Exponent (letter :: sign :: chars) rest

/-- A number without its sign: decimals and an exponent may be absent. -/
inductive Unsigned : List Char → List Char → Prop where
  | mk {chars afterWhole afterDecimals rest : List Char} (whole : WholePart chars afterWhole)
      (decimals : afterWhole = afterDecimals ∨ Decimals afterWhole afterDecimals)
      (exponent : afterDecimals = rest ∨ Exponent afterDecimals rest) : Unsigned chars rest

/-- A number. -/
inductive Numeral : List Char → List Char → Prop where
  | positive {chars rest : List Char} (size : Unsigned chars rest) : Numeral chars rest
  | negative {chars rest : List Char} (size : Unsigned chars rest) : Numeral ('-' :: chars) rest

/-- A text from behind its opening quote on, with its closing quote. -/
inductive Quoted : List Char → List Char → Prop where
  | close (rest : List Char) : Quoted ('\x22' :: rest) rest
  | plain {c : Char} {chars rest : List Char} (noQuote : c ≠ '\x22') (noSlash : c ≠ '\\')
      (printable : 32 ≤ c.toNat) (others : Quoted chars rest) : Quoted (c :: chars) rest
  | short {c meant : Char} {chars rest : List Char} (known : shortEscape? c = some meant)
      (others : Quoted chars rest) : Quoted ('\\' :: c :: chars) rest
  | code {a b c d : Char} {unit : Nat} {chars rest : List Char}
      (known : codeUnit? a b c d = some unit) (others : Quoted chars rest) :
      Quoted ('\\' :: 'u' :: a :: b :: c :: d :: chars) rest

/-- Arrays and objects. -/
inductive Container where
  | array
  | object

/-- The bracket that a container begins with. -/
def Container.opener : Container → Char
  | .array => '['
  | .object => '\x7b'

/-- The bracket that a container ends with. -/
def Container.closer : Container → Char
  | .array => ']'
  | .object => '\x7d'

/-- What stands in front of a value in a container: in an object a name and a colon. -/
inductive Head : Container → List Char → List Char → Prop where
  | array (rest : List Char) : Head .array rest rest
  | object {chars afterName afterColon rest : List Char} (name : Quoted chars afterName)
      (before : Blanks afterName (':' :: afterColon)) (after : Blanks afterColon rest) :
      Head .object ('\x22' :: chars) rest

/-- A comma with blanks around it. -/
inductive Comma : List Char → List Char → Prop where
  | mk {chars afterComma rest : List Char} (before : Blanks chars (',' :: afterComma))
      (after : Blanks afterComma rest) : Comma chars rest

mutual

/-- A value. -/
inductive Datum : List Char → List Char → Prop where
  | word {word : List Char} {value : Value} {rest : List Char} (listed : (word, value) ∈ words) :
      Datum (word ++ rest) rest
  | numeral {chars rest : List Char} (numeral : Numeral chars rest) : Datum chars rest
  | text {chars rest : List Char} (quoted : Quoted chars rest) : Datum ('\x22' :: chars) rest
  | empty {kind : Container} {chars rest : List Char}
      (closed : Blanks chars (kind.closer :: rest)) : Datum (kind.opener :: chars) rest
  | full {kind : Container} {chars inner rest : List Char} (opened : Blanks chars inner)
      (parts : Parts kind inner rest) : Datum (kind.opener :: chars) rest

/-- The parts of a container, one at least, up to its closing bracket. -/
inductive Parts : Container → List Char → List Char → Prop where
  | last {kind : Container} {chars afterHead afterValue rest : List Char}
      (head : Head kind chars afterHead) (value : Datum afterHead afterValue)
      (closed : Blanks afterValue (kind.closer :: rest)) : Parts kind chars rest
  | more {kind : Container} {chars afterHead afterValue next rest : List Char}
      (head : Head kind chars afterHead) (value : Datum afterHead afterValue)
      (comma : Comma afterValue next) (others : Parts kind next rest) : Parts kind chars rest

end

/-- A whole text: a value with blanks around it. -/
inductive Document : List Char → Prop where
  | mk {chars front rest : List Char} (before : Blanks chars front) (value : Datum front rest)
      (after : Blanks rest []) : Document chars

/-- A text that does not go on with digits. -/
def Stops (rest : List Char) : Prop := ∀ after, ¬DigitRun rest after

/-- A text that does not go on with any part of a number. -/
structure Unextended (rest : List Char) : Prop where
  digits : Stops rest
  decimals : ∀ after, ¬Decimals rest after
  exponent : ∀ after, ¬Exponent rest after

/-- So many digits and no other part of a number: too many to be read. -/
inductive LongDigits : List Char → Nat → Prop where
  | mk {digits rest : List Char} (nonzero : digits.head? ≠ some '0')
      (all : ∀ c ∈ digits, Digits.isDigit c = true) (long : digitLimit < digits.length)
      (ends : Unextended rest) : LongDigits (digits ++ rest) digits.length

/-- A whole number of so many digits, too many to be read. -/
inductive Overlong : List Char → Nat → Prop where
  | positive {chars : List Char} {count : Nat} (size : LongDigits chars count) :
      Overlong chars count
  | negative {chars : List Char} {count : Nat} (size : LongDigits chars count) :
      Overlong ('-' :: chars) count

/-! ## Fronts and ends -/

/-- Whether a value can begin with a character. -/
def opensValue (c : Char) : Bool :=
  Digits.isDigit c || ['\x22', '[', '\x7b', '-', 'n', 't', 'f', 'N', 'I'].contains c

/-- A text that can begin with a value. -/
def Opens (chars : List Char) : Prop := ∃ c rest, chars = c :: rest ∧ opensValue c = true

/-- Whether a character can stand behind a value. -/
def endsValue (c : Char) : Bool := isBlank c || c == ',' || c == ']' || c == '\x7d'

/-- A text that can stand behind a value. -/
def Ends (rest : List Char) : Prop := ∀ c ∈ rest.head?, endsValue c = true

/-- No value begins with what can stand behind one. -/
@[simp] theorem not_opensValue_of_endsValue {c : Char} (ends : endsValue c = true) :
    opensValue c = false := by
  simp only [endsValue, isBlank, Bool.or_eq_true, beq_iff_eq] at ends
  rcases ends with (((((rfl | rfl) | rfl) | rfl) | rfl) | rfl) | rfl
  all_goals rfl

@[simp] theorem opensValue_of_digit {c : Char} (digit : Digits.isDigit c = true) :
    opensValue c = true := by
  rw [opensValue, digit, Bool.true_or]

@[simp] theorem opensValue_opener (kind : Container) : opensValue kind.opener = true := by
  cases kind <;> rfl

@[simp] theorem endsValue_closer (kind : Container) : endsValue kind.closer = true := by
  cases kind <;> rfl

@[simp] theorem endsValue_of_isBlank {c : Char} (blank : isBlank c = true) :
    endsValue c = true := by
  simp [endsValue, blank]

@[simp] theorem Container.isBlank_closer (kind : Container) : isBlank kind.closer = false := by
  cases kind <;> rfl

/-- No closing bracket is a comma. -/
theorem Container.closer_ne_comma (kind : Container) : kind.closer ≠ ',' := by
  cases kind <;> decide

theorem Opens.ne_closer {chars : List Char} (opens : Opens chars) (kind : Container)
    (rest : List Char) : chars ≠ kind.closer :: rest := by
  rintro rfl
  obtain ⟨c, rest', same, opens⟩ := opens
  obtain ⟨rfl, -⟩ := List.cons.inj same
  cases opens.symm.trans (not_opensValue_of_endsValue (endsValue_closer kind))

theorem digit_of_digitRun {c : Char} {chars after : List Char} (run : DigitRun (c :: chars) after) :
    Digits.isDigit c = true := by
  cases run with
  | last digit | cons digit => exact digit

theorem stops_cons {c : Char} {rest : List Char} (other : Digits.isDigit c = false) :
    Stops (c :: rest) :=
  fun _ run => Bool.eq_false_iff.mp other (digit_of_digitRun run)

theorem digit_of_wholePart {c : Char} {chars rest : List Char}
    (whole : WholePart (c :: chars) rest) : Digits.isDigit c = true := by
  cases whole with
  | zero => rfl
  | digits _ run => exact digit_of_digitRun run

theorem stops_of_decimals {chars rest : List Char} (decimals : Decimals chars rest) :
    Stops chars := by
  cases decimals
  exact stops_cons rfl

theorem stops_of_exponent {chars rest : List Char} (exponent : Exponent chars rest) :
    Stops chars := by
  rcases exponent with ⟨rfl | rfl, -⟩ | ⟨rfl | rfl, -, -⟩
  all_goals exact stops_cons rfl

theorem not_decimals_of_exponent {chars rest : List Char} (exponent : Exponent chars rest)
    (after : List Char) : ¬Decimals chars after := by
  rintro ⟨-⟩
  rcases exponent with ⟨marked | marked, -⟩ | ⟨marked | marked, -, -⟩
  all_goals cases marked

theorem front_of_word {word : List Char} {value : Value} (listed : (word, value) ∈ words) :
    ∃ first second tail, word = first :: second :: tail ∧ opensValue first = true ∧
      Digits.isDigit first = false ∧ Digits.isDigit second = false := by
  simp only [words, List.mem_cons, Prod.mk.injEq, List.not_mem_nil, or_false] at listed
  rcases listed with ⟨rfl, -⟩ | ⟨rfl, -⟩ | ⟨rfl, -⟩ | ⟨rfl, -⟩ | ⟨rfl, -⟩ | ⟨rfl, -⟩
  all_goals exact ⟨_, _, _, rfl, rfl, rfl, rfl⟩

/-- A number begins with a digit, or with a sign and a digit. -/
theorem front_of_numeral {chars rest : List Char} (numeral : Numeral chars rest) :
    ∃ c others, Digits.isDigit c = true ∧ (chars = c :: others ∨ chars = '-' :: c :: others) := by
  have front {chars rest : List Char} (size : Unsigned chars rest) :
      ∃ c others, Digits.isDigit c = true ∧ chars = c :: others := by
    obtain ⟨whole, -, -⟩ := size
    cases whole with
    | zero => exact ⟨'0', _, rfl, rfl⟩
    | digits _ run => exact ⟨_, _, digit_of_digitRun run, rfl⟩
  cases numeral with
  | positive size =>
      obtain ⟨c, others, digit, same⟩ := front size
      exact ⟨c, others, digit, .inl same⟩
  | negative size =>
      obtain ⟨c, others, digit, rfl⟩ := front size
      exact ⟨c, others, digit, .inr rfl⟩

theorem opens_of_numeral {chars rest : List Char} (numeral : Numeral chars rest) : Opens chars := by
  obtain ⟨c, others, digit, rfl | rfl⟩ := front_of_numeral numeral
  · exact ⟨_, _, rfl, opensValue_of_digit digit⟩
  · exact ⟨_, _, rfl, rfl⟩

theorem opens_of_datum {chars rest : List Char} (value : Datum chars rest) : Opens chars := by
  cases value with
  | word listed =>
      obtain ⟨first, second, tail, rfl, opens, -⟩ := front_of_word listed
      exact ⟨_, _, rfl, opens⟩
  | numeral numeral => exact opens_of_numeral numeral
  | text => exact ⟨_, _, rfl, rfl⟩
  | @empty kind | @full kind => exact ⟨_, _, rfl, opensValue_opener kind⟩

/-- Where a value stands at the front or behind a name, the text begins with what a value can begin
with. -/
theorem opens_of_head {kind : Container} {chars place : List Char} (head : Head kind chars place)
    (opens : Opens place) : Opens chars := by
  cases head with
  | array => exact opens
  | object => exact ⟨_, _, rfl, rfl⟩

theorem opens_of_parts {kind : Container} {chars rest : List Char} (parts : Parts kind chars rest) :
    Opens chars := by
  cases parts with
  | last head value | more head value => exact opens_of_head head (opens_of_datum value)

/-- A text with its quote is not empty. -/
theorem exists_cons_of_quoted {chars rest : List Char} (quoted : Quoted chars rest) :
    ∃ c others, chars = c :: others := by
  cases quoted
  all_goals exact ⟨_, _, rfl⟩

theorem ends_cons {c : Char} (ends : endsValue c = true) (rest : List Char) : Ends (c :: rest) := by
  rintro c ⟨⟩
  exact ends

theorem ends_of_blanks {chars rest : List Char} (blanks : Blanks chars rest) (ends : Ends rest) :
    Ends chars := by
  cases blanks with
  | refl => exact ends
  | cons blank => exact ends_cons (endsValue_of_isBlank blank) _

theorem Comma.ends {chars rest : List Char} (comma : Comma chars rest) : Ends chars := by
  obtain ⟨before, -⟩ := comma
  exact ends_of_blanks before (ends_cons rfl _)

/-- No part of a number may stand behind a value. -/
theorem unextended_of_ends {rest : List Char} (ends : Ends rest) : Unextended rest := by
  cases rest with
  | nil => exact ⟨nofun, nofun, nofun⟩
  | cons c rest =>
      have first := ends c rfl
      constructor
      · refine stops_cons (Bool.eq_false_iff.mpr fun digit => ?_)
        cases (opensValue_of_digit digit).symm.trans (not_opensValue_of_endsValue first)
      · rintro after ⟨-⟩
        cases first
      · rintro after (⟨rfl | rfl, -⟩ | ⟨rfl | rfl, -, -⟩)
        all_goals cases first

/-! ## Lengths -/

theorem length_le_of_blanks {chars rest : List Char} (blanks : Blanks chars rest) :
    rest.length ≤ chars.length := by
  induction blanks with
  | refl => exact Nat.le_refl _
  | cons _ _ ih => exact Nat.le_succ_of_le ih

theorem length_lt_of_digitRun {chars rest : List Char} (run : DigitRun chars rest) :
    rest.length < chars.length := by
  induction run with
  | last => exact Nat.lt_succ_self _
  | cons _ _ ih => exact Nat.lt_succ_of_lt ih

theorem length_lt_of_unsigned {chars rest : List Char} (size : Unsigned chars rest) :
    rest.length < chars.length := by
  obtain ⟨whole, decimals, exponent⟩ := size
  rename_i afterWhole afterDecimals
  have first : afterWhole.length < chars.length := by
    cases whole with
    | zero => exact Nat.lt_succ_self _
    | digits _ run => exact length_lt_of_digitRun run
  have second : afterDecimals.length ≤ afterWhole.length := by
    rcases decimals with rfl | ⟨⟨run⟩⟩
    · exact Nat.le_refl _
    · exact Nat.le_succ_of_le (Nat.le_of_lt (length_lt_of_digitRun run))
  have third : rest.length ≤ afterDecimals.length := by
    rcases exponent with rfl | ⟨⟨_, run⟩ | ⟨_, _, run⟩⟩
    · exact Nat.le_refl _
    · exact Nat.le_succ_of_le (Nat.le_of_lt (length_lt_of_digitRun run))
    · exact Nat.le_succ_of_le (Nat.le_succ_of_le (Nat.le_of_lt (length_lt_of_digitRun run)))
  omega

theorem length_lt_of_numeral {chars rest : List Char} (numeral : Numeral chars rest) :
    rest.length < chars.length := by
  cases numeral with
  | positive size => exact length_lt_of_unsigned size
  | negative size => exact Nat.lt_succ_of_lt (length_lt_of_unsigned size)

theorem length_lt_of_quoted {chars rest : List Char} (quoted : Quoted chars rest) :
    rest.length < chars.length := by
  induction quoted with
  | close => exact Nat.lt_succ_self _
  | plain _ _ _ _ ih => exact Nat.lt_succ_of_lt ih
  | short _ _ ih => exact Nat.lt_succ_of_lt (Nat.lt_succ_of_lt ih)
  | code _ _ ih =>
      simp only [List.length_cons]
      omega

theorem length_le_of_head {kind : Container} {chars rest : List Char}
    (head : Head kind chars rest) : rest.length ≤ chars.length := by
  cases head with
  | array => exact Nat.le_refl _
  | object name before after =>
      have := length_lt_of_quoted name
      have := length_le_of_blanks before
      have := length_le_of_blanks after
      simp only [List.length_cons] at *
      omega

theorem length_lt_of_comma {chars rest : List Char} (comma : Comma chars rest) :
    rest.length < chars.length := by
  obtain ⟨before, after⟩ := comma
  exact Nat.lt_of_lt_of_le (Nat.lt_succ_of_le (length_le_of_blanks after))
    (length_le_of_blanks before)

mutual

/-- A value takes a character at least. -/
theorem length_lt_of_datum : ∀ {chars rest : List Char}, Datum chars rest →
    rest.length < chars.length
  | _, _, .word listed => by
      obtain ⟨first, second, tail, rfl, -⟩ := front_of_word listed
      simp only [List.length_append, List.length_cons]
      omega
  | _, _, .numeral numeral => length_lt_of_numeral numeral
  | _, _, .text quoted => Nat.lt_succ_of_lt (length_lt_of_quoted quoted)
  | _, _, .empty closed =>
      Nat.lt_succ_of_le (Nat.le_of_succ_le (length_le_of_blanks closed))
  | _, _, .full opened parts =>
      Nat.lt_succ_of_lt (Nat.lt_of_lt_of_le (length_lt_of_parts parts) (length_le_of_blanks opened))

/-- The parts of a container take a character at least. -/
theorem length_lt_of_parts : ∀ {kind : Container} {chars rest : List Char},
    Parts kind chars rest → rest.length < chars.length
  | _, _, _, .last head value closed => by
      have := length_le_of_head head
      have := length_lt_of_datum value
      have := length_le_of_blanks closed
      rw [List.length_cons] at this
      omega
  | _, _, _, .more head value comma others => by
      have := length_le_of_head head
      have := length_lt_of_datum value
      have := length_lt_of_comma comma
      have := length_lt_of_parts others
      omega

end

end Conform.Json.Grammar
