import Conform.Proofs.Grammar

/-!
# Reading numbers

Every part of a number is taken as far as it goes, and so is the number: the reader takes a number
where the grammar has one, unless it is a whole number with too many digits.
-/

namespace Conform.Json.Grammar

/-! ## Parts of numbers -/

/-- A phrase that goes on as long as it can. -/
structure Longest (phrase : List Char → List Char → Prop) (chars rest : List Char) : Prop where
  found : phrase chars rest
  longest : ∀ other, phrase chars other → Stops other → other = rest

/-- A part of a number that may be absent, and what is left behind it. -/
inductive Takes (phrase : List Char → List Char → Prop) (chars : List Char) :
    List Char × List Char → Prop where
  | absent (none : ∀ after, ¬phrase chars after) : Takes phrase chars ([], chars)
  | present {c : Char} {taken rest : List Char} (part : Longest phrase chars rest) :
      Takes phrase chars (c :: taken, rest)

namespace Takes

variable {phrase : List Char → List Char → Prop} {chars : List Char} {part : List Char × List Char}

theorem optional (takes : Takes phrase chars part) : chars = part.2 ∨ phrase chars part.2 := by
  cases takes with
  | absent => exact .inl rfl
  | present part => exact .inr part.found

theorem isEmpty_iff (takes : Takes phrase chars part) :
    part.1.isEmpty = true ↔ ∀ after, ¬phrase chars after := by
  cases takes with
  | absent none => exact iff_of_true rfl none
  | present part => exact iff_of_false Bool.false_ne_true fun none => none _ part.found

theorem rest_of_isEmpty (takes : Takes phrase chars part) (empty : part.1.isEmpty = true) :
    part.2 = chars := by
  cases takes with
  | absent => rfl
  | present => cases empty

theorem rest_eq (takes : Takes phrase chars part) {rest : List Char}
    (optional : chars = rest ∨ phrase chars rest) (stops : Stops rest)
    (none : ∀ after, ¬phrase rest after) : rest = part.2 := by
  cases takes with
  | absent absent =>
      cases optional with
      | inl same => exact same.symm
      | inr found => exact absurd found (absent rest)
  | present part =>
      cases optional with
      | inl same => exact absurd part.found (same ▸ none _)
      | inr found => exact part.longest rest found stops

end Takes

/-- Digits are spanned. -/
theorem takes_spanDigits (chars : List Char) : Takes DigitRun chars (spanDigits chars) := by
  induction chars with
  | nil => exact .absent nofun
  | cons c rest ih =>
      by_cases digit : Digits.isDigit c = true
      case neg =>
        rw [spanDigits, List.takeWhile_cons_of_neg digit, List.dropWhile_cons_of_neg digit]
        exact .absent fun _ run => digit (digit_of_digitRun run)
      rw [spanDigits, List.takeWhile_cons_of_pos digit, List.dropWhile_cons_of_pos digit]
      change Takes DigitRun rest
        (rest.takeWhile Digits.isDigit, rest.dropWhile Digits.isDigit) at ih
      revert ih
      generalize rest.takeWhile Digits.isDigit = digits, rest.dropWhile Digits.isDigit = after
      intro ih
      cases ih with
      | absent none =>
          refine .present ⟨.last digit, fun other run _ => ?_⟩
          cases run with
          | last => rfl
          | cons _ others => exact absurd others (none other)
      | present part =>
          refine .present ⟨.cons digit part.found, fun other run stops => ?_⟩
          cases run with
          | last => exact absurd part.found (stops _)
          | cons _ others => exact part.longest other others stops

theorem stops_spanDigits (chars : List Char) : Stops (spanDigits chars).2 := by
  induction chars with
  | nil => exact nofun
  | cons c rest ih =>
      by_cases digit : Digits.isDigit c = true
      · rw [spanDigits, List.dropWhile_cons_of_pos digit]
        exact ih
      · rw [spanDigits, List.dropWhile_cons_of_neg digit]
        exact stops_cons (Bool.eq_false_iff.mpr digit)

theorem takes_decimalPart (chars : List Char) : Takes Decimals chars (decimalPart chars) := by
  unfold decimalPart
  split
  case h_1 rest =>
    have spanned := takes_spanDigits rest
    generalize spanDigits rest = span at spanned
    cases spanned with
    | absent none => exact .absent fun after ⟨run⟩ => none after run
    | present part =>
        exact .present ⟨.point part.found, fun other ⟨run⟩ stops => part.longest other run stops⟩
  case h_2 noPoint => exact .absent fun _ ⟨_⟩ => noPoint _ rfl

theorem exponent_iff {letter : Char} {chars rest : List Char} :
    Exponent (letter :: chars) rest ↔
      (letter = 'e' ∨ letter = 'E') ∧ DigitRun (signPart chars).2 rest := by
  constructor
  · rintro (⟨marked, run⟩ | ⟨marked, rfl | rfl, run⟩)
    · refine ⟨marked, ?_⟩
      -- A sign is no digit, so that digits are not taken for signed ones.
      unfold signPart
      split
      · cases digit_of_digitRun run
      · cases digit_of_digitRun run
      · exact run
    · exact ⟨marked, run⟩
    · exact ⟨marked, run⟩
  · rintro ⟨marked, run⟩
    unfold signPart at run
    split at run
    · exact .signed marked (.inl rfl) run
    · exact .signed marked (.inr rfl) run
    · exact .unsigned marked run

/-- An exponent is taken. -/
theorem takes_exponentPart (chars : List Char) : Takes Exponent chars (exponentPart chars) := by
  unfold exponentPart
  split
  case h_2 => exact .absent nofun
  case h_1 letter rest =>
    split
    case isFalse unmarked =>
      simp only [Bool.or_eq_true, beq_iff_eq] at unmarked
      exact .absent fun _ exponent => unmarked (exponent_iff.mp exponent).1
    case isTrue marked =>
      simp only [Bool.or_eq_true, beq_iff_eq] at marked
      have spanned := takes_spanDigits (signPart rest).2
      dsimp only
      generalize spanDigits (signPart rest).2 = span at spanned
      cases spanned with
      | absent none => exact .absent fun after exponent => none after (exponent_iff.mp exponent).2
      | present part =>
          exact .present ⟨exponent_iff.mpr ⟨marked, part.found⟩, fun other exponent stops =>
            part.longest other (exponent_iff.mp exponent).2 stops⟩

/-- How the whole part of a number is taken: digits, and a zero only by itself. -/
structure WholeTaken (chars whole rest : List Char) : Prop where
  text : chars = whole ++ rest
  digits : ∀ c ∈ whole, Digits.isDigit c = true
  part : Longest WholePart chars rest
  zero : whole = ['0'] ∨ whole.head? ≠ some '0' ∧ Stops rest

/-- The whole part of a number is taken. -/
theorem wholePart_spec (chars : List Char) :
    (wholePart chars = none ∧ ∀ after, ¬WholePart chars after) ∨
      ∃ whole rest, wholePart chars = some (whole, rest) ∧ WholeTaken chars whole rest := by
  unfold wholePart
  split
  case h_1 rest =>
    refine .inr ⟨_, _, rfl, rfl, List.forall_mem_singleton.mpr rfl, ⟨.zero rest, ?_⟩, .inl rfl⟩
    intro other whole _
    cases whole with
    | zero => rfl
    | digits nonzero => exact absurd rfl nonzero
  case h_2 c rest nonzero =>
    have run {after} (whole : WholePart (c :: rest) after) : DigitRun (c :: rest) after := by
      cases whole with
      | zero => exact absurd rfl nonzero
      | digits _ run => exact run
    split
    case isFalse other => exact .inl ⟨rfl, fun _ whole => other (digit_of_digitRun (run whole))⟩
    case isTrue digit =>
      have head : (spanDigits (c :: rest)).1.head? ≠ some '0' := by
        rw [spanDigits, List.takeWhile_cons_of_pos digit]
        exact fun same => nonzero (Option.some.inj same)
      refine .inr ⟨_, _, rfl, List.takeWhile_append_dropWhile.symm,
        List.all_eq_true.mp List.all_takeWhile, ?_, .inr ⟨head, stops_spanDigits (c :: rest)⟩⟩
      change Longest WholePart (c :: rest) (spanDigits (c :: rest)).2
      have spanned := takes_spanDigits (c :: rest)
      generalize spanDigits (c :: rest) = span at spanned
      cases spanned with
      | absent none => exact absurd (.last digit) (none rest)
      | present part =>
          exact ⟨.digits nonzero part.found, fun other whole stops =>
            part.longest other (run whole) stops⟩
  case h_3 => exact .inl ⟨rfl, nofun⟩

/-! ## Whole numbers that are too long -/

theorem exists_cons_of_long {digits : List Char} (long : digitLimit < digits.length) :
    ∃ c others, digits = c :: others :=
  List.exists_cons_of_ne_nil (List.ne_nil_of_length_pos (Nat.zero_lt_of_lt long))

theorem digitRun_append {c : Char} {digits rest : List Char}
    (all : ∀ x ∈ c :: digits, Digits.isDigit x = true) : DigitRun (c :: digits ++ rest) rest := by
  induction digits generalizing c with
  | nil => exact .last (all c List.mem_cons_self)
  | cons second others ih =>
      obtain ⟨first, others⟩ := List.forall_mem_cons.mp all
      exact .cons first (ih others)

theorem wholePart_of_longDigits {digits rest : List Char} (nonzero : digits.head? ≠ some '0')
    (all : ∀ c ∈ digits, Digits.isDigit c = true) (long : digitLimit < digits.length) :
    WholePart (digits ++ rest) rest := by
  obtain ⟨c, others, rfl⟩ := exists_cons_of_long long
  exact .digits (fun same => nonzero (congrArg some same)) (digitRun_append all)

/-- Whether digits are a whole number that is too long. -/
theorem WholeTaken.longDigits_iff {chars whole rest : List Char} {count : Nat}
    (taken : WholeTaken chars whole rest) :
    LongDigits chars count ↔ count = whole.length ∧ digitLimit < count ∧
      (∀ after, ¬Decimals rest after) ∧ ∀ after, ¬Exponent rest after := by
  constructor
  · rintro ⟨nonzero, all, long, ends⟩
    obtain rfl := taken.part.longest _ (wholePart_of_longDigits nonzero all long) ends.digits
    obtain rfl := List.append_cancel_right taken.text
    exact ⟨rfl, long, ends.decimals, ends.exponent⟩
  · rintro ⟨rfl, long, noDecimals, noExponent⟩
    obtain rfl := taken.text
    rcases taken.zero with rfl | ⟨nonzero, stops⟩
    · exact absurd long (by decide)
    · exact .mk nonzero taken.digits long ⟨stops, noDecimals, noExponent⟩

/-! ## Numbers -/

/-- Where a minus sign can stand, a number without its sign does not begin. -/
theorem numeral_iff {chars rest : List Char} :
    Numeral chars rest ↔ Unsigned (minusPart chars).2 rest := by
  constructor
  · rintro (⟨size⟩ | ⟨size⟩)
    · unfold minusPart
      split
      · obtain ⟨whole, _, _⟩ := size
        cases digit_of_wholePart whole
      · exact size
    · exact size
  · intro size
    unfold minusPart at size
    split at size
    · exact .negative size
    · exact .positive size

theorem overlong_iff {chars : List Char} {count : Nat} :
    Overlong chars count ↔ LongDigits (minusPart chars).2 count := by
  constructor
  · rintro (⟨size⟩ | ⟨size⟩)
    · unfold minusPart
      split
      case h_1 rest =>
        generalize same : '-' :: rest = chars at size
        obtain ⟨-, all, long, -⟩ := size
        obtain ⟨c, others, rfl⟩ := exists_cons_of_long long
        cases same
        cases (List.forall_mem_cons.mp all).1
      case h_2 => exact size
    · exact size
  · intro size
    unfold minusPart at size
    split at size
    · exact .negative size
    · exact .positive size

theorem exists_numeral_of_overlong {chars : List Char} {count : Nat}
    (overlong : Overlong chars count) : ∃ rest, Numeral chars rest := by
  cases overlong with
  | positive size =>
      obtain ⟨nonzero, all, long, -⟩ := size
      exact ⟨_, .positive ⟨wholePart_of_longDigits nonzero all long, .inl rfl, .inl rfl⟩⟩
  | negative size =>
      obtain ⟨nonzero, all, long, -⟩ := size
      exact ⟨_, .negative ⟨wholePart_of_longDigits nonzero all long, .inl rfl, .inl rfl⟩⟩

/-- Where nothing goes on with a number, it ends where its parts do. -/
theorem unsigned_rest {chars afterWhole rest : List Char}
    {decimalPart exponentPart : List Char × List Char}
    (whole : Longest WholePart chars afterWhole) (decimals : Takes Decimals afterWhole decimalPart)
    (exponent : Takes Exponent decimalPart.2 exponentPart) (size : Unsigned chars rest)
    (ends : Unextended rest) : rest = exponentPart.2 := by
  obtain ⟨found, decimals', exponent'⟩ := size
  rename_i foundWhole foundDecimals
  have stopsDecimals : Stops foundDecimals := by
    rcases exponent' with rfl | exponent'
    · exact ends.digits
    · exact stops_of_exponent exponent'
  have noDecimals : ∀ after, ¬Decimals foundDecimals after := by
    rcases exponent' with rfl | exponent'
    · exact ends.decimals
    · exact not_decimals_of_exponent exponent'
  have stopsWhole : Stops foundWhole := by
    rcases decimals' with rfl | decimals'
    · exact stopsDecimals
    · exact stops_of_decimals decimals'
  obtain rfl := whole.longest _ found stopsWhole
  obtain rfl := decimals.rest_eq decimals' stopsDecimals noDecimals
  exact exponent.rest_eq exponent' ends.digits ends.exponent

/-- What there is to tell of the reading of a number. -/
inductive NumberRead (chars : List Char) : Except Failure (Value × List Char) → Prop where
  | none (none : ∀ rest, ¬Numeral chars rest) : NumberRead chars (flawed .expectingValue chars)
  | long {count : Nat} (size : Overlong chars count) : NumberRead chars (.error (.tooLong count))
  | value {value : Value} {rest : List Char} (found : Numeral chars rest)
      (longest : ∀ other, Numeral chars other → Unextended other → other = rest)
      (short : ∀ count, ¬Overlong chars count) : NumberRead chars (.ok (value, rest))

/-- A number is read as far as it goes, unless it is whole and too long. -/
theorem numberRead (chars : List Char) : NumberRead chars (readNumber chars) := by
  unfold readNumber
  dsimp only
  rcases wholePart_spec (minusPart chars).2 with ⟨none, absent⟩ | ⟨whole, rest, found, taken⟩
  · rw [none]
    refine .none fun rest numeral => ?_
    obtain ⟨whole, -, -⟩ := numeral_iff.mp numeral
    exact absent _ whole
  rw [found]
  dsimp only
  have decimals := takes_decimalPart rest
  have exponent := takes_exponentPart (decimalPart rest).2
  generalize decimalPart rest = decimalPart at decimals exponent
  generalize exponentPart decimalPart.2 = exponentPart at exponent
  have numeral : Numeral chars exponentPart.2 :=
    numeral_iff.mpr ⟨taken.part.found, decimals.optional, exponent.optional⟩
  have longest : ∀ other, Numeral chars other → Unextended other → other = exponentPart.2 :=
    fun other numeral ends =>
      unsigned_rest taken.part decimals exponent (numeral_iff.mp numeral) ends
  have bare_iff : (decimalPart.1.isEmpty && exponentPart.1.isEmpty) = true ↔
      (∀ after, ¬Decimals rest after) ∧ ∀ after, ¬Exponent rest after := by
    rw [Bool.and_eq_true_iff, decimals.isEmpty_iff, exponent.isEmpty_iff]
    refine and_congr_right fun noDecimals => ?_
    rw [decimals.rest_of_isEmpty (decimals.isEmpty_iff.mpr noDecimals)]
  split
  case isTrue bare =>
    split
    case isTrue long =>
      exact .long (overlong_iff.mpr (taken.longDigits_iff.mpr ⟨rfl, long, bare_iff.mp bare⟩))
    case isFalse short =>
      refine .value numeral longest fun count size => ?_
      obtain ⟨rfl, long, -⟩ := taken.longDigits_iff.mp (overlong_iff.mp size)
      exact short long
  case isFalse more =>
    refine .value numeral longest fun count size => more (bare_iff.mpr ?_)
    exact (taken.longDigits_iff.mp (overlong_iff.mp size)).2.2

end Conform.Json.Grammar
