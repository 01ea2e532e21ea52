import Conform.Proofs.Grammar
import Conform.Proofs.Scan

/-!
# Where arrays and objects close

The scanner knows nothing of the language apart from quotes, backslashes and one pair of brackets,
and yet it stops where the grammar lets an array or an object end: at the end if the text is whole,
whatever follows, and nowhere if the text is cut off.  Every phrase of the grammar leaves the
scanner in the mode and at the depth it was in, which is shown along the grammar for both pairs of
brackets at once.  The words for doubles that the grammar adds to the usual ones make no difference.
-/

namespace Conform.Extraction

open Json.Grammar

variable {opener closer : Char} {chars rest : List Char}

/-! ## Blanks, words and numbers -/

@[simp] theorem isInert_of_isBlank (c : Char) (blank : Json.isBlank c = true) :
    isInert c = true := by
  simp only [Json.isBlank, Bool.or_eq_true, beq_iff_eq] at blank
  rcases blank with ((rfl | rfl) | rfl) | rfl <;> rfl

@[simp] theorem isInert_of_isDigit (c : Char) (digit : Digits.isDigit c = true) :
    isInert c = true := by
  simp only [isInert, Bool.not_eq_true', Bool.or_eq_false_iff, beq_eq_false_iff_ne]
  refine ⟨⟨⟨⟨?_, ?_⟩, ?_⟩, ?_⟩, ?_⟩ <;> rintro rfl <;> cases digit

theorem inert_of_blanks (blanks : Blanks chars rest) : InertUpTo chars rest := by
  induction blanks with
  | refl => exact .refl _
  | cons blank _ ih => exact .cons (isInert_of_isBlank _ blank) ih

theorem inert_of_comma (comma : Comma chars rest) : InertUpTo chars rest := by
  obtain ⟨before, after⟩ := comma
  exact (inert_of_blanks before).trans (.cons rfl (inert_of_blanks after))

theorem inert_of_digitRun (run : DigitRun chars rest) : InertUpTo chars rest := by
  induction run with
  | last digit => exact .cons (isInert_of_isDigit _ digit) (.refl _)
  | cons digit _ ih => exact .cons (isInert_of_isDigit _ digit) ih

theorem inert_of_wholePart (whole : WholePart chars rest) : InertUpTo chars rest := by
  cases whole with
  | zero => exact .cons rfl (.refl _)
  | digits _ run => exact inert_of_digitRun run

theorem inert_of_decimals (decimals : Decimals chars rest) : InertUpTo chars rest := by
  obtain ⟨run⟩ := decimals
  exact .cons rfl (inert_of_digitRun run)

theorem inert_of_exponent (exponent : Exponent chars rest) : InertUpTo chars rest := by
  have letter {c : Char} (marked : c = 'e' ∨ c = 'E') : isInert c = true := by
    rcases marked with rfl | rfl <;> rfl
  have sign {c : Char} (signed : c = '+' ∨ c = '-') : isInert c = true := by
    rcases signed with rfl | rfl <;> rfl
  cases exponent with
  | unsigned marked run => exact .cons (letter marked) (inert_of_digitRun run)
  | signed marked signed run =>
      exact .cons (letter marked) (.cons (sign signed) (inert_of_digitRun run))

theorem inert_of_unsigned (size : Unsigned chars rest) : InertUpTo chars rest := by
  cases size with
  | @mk afterWhole afterDecimals _ whole decimals exponent =>
      have second : InertUpTo afterWhole afterDecimals := by
        rcases decimals with rfl | decimals
        · exact .refl _
        · exact inert_of_decimals decimals
      have third : InertUpTo afterDecimals rest := by
        rcases exponent with rfl | exponent
        · exact .refl _
        · exact inert_of_exponent exponent
      exact (inert_of_wholePart whole).trans (second.trans third)

theorem inert_of_numeral (numeral : Numeral chars rest) : InertUpTo chars rest := by
  cases numeral with
  | positive size => exact inert_of_unsigned size
  | negative size => exact .cons rfl (inert_of_unsigned size)

theorem inert_of_word {word : List Char} {value : Value} (listed : (word, value) ∈ Json.words) :
    ∀ c ∈ word, isInert c = true := by
  have allInert : (Json.words.all fun word => word.1.all isInert) = true := by rfl
  exact List.all_eq_true.mp (List.all_eq_true.mp allInert _ listed)

/-! ## Quoted text -/

/-- A hexadecimal digit is neither a quote nor a backslash. -/
theorem passes_hexDigit {c : Char} {n : Nat} (digit : CharSet.hexDigit? c = some n) :
    Passes opener closer .quoted .quoted [c] := by
  apply Passes.quoted
  · rintro rfl
    cases digit
  · rintro rfl
    cases digit

/-- The four digits of a code unit are passed over in quoted text. -/
theorem passes_codeUnit {a b c d : Char} {unit : Nat}
    (read : Json.codeUnit? a b c d = some unit) :
    Passes opener closer .quoted .quoted [a, b, c, d] := by
  simp only [Json.codeUnit?, Option.bind_eq_bind, Option.bind_eq_some_iff] at read
  obtain ⟨w, first, x, second, y, third, z, fourth, _⟩ := read
  exact (passes_hexDigit first).append ((passes_hexDigit second).append
    ((passes_hexDigit third).append (passes_hexDigit fourth)))

/-- Quoted text is passed over up to its closing quote, which is the first quote that no backslash
escapes. -/
theorem passes_quoted (quoted : Quoted chars rest) :
    ∃ consumed, chars = consumed ++ rest ∧ Passes opener closer .quoted .plain consumed := by
  induction quoted with
  | close => exact ⟨['\x22'], rfl, .closeQuote⟩
  | @plain c _ _ noQuote noSlash _ _ ih =>
      obtain ⟨consumed, rfl, passed⟩ := ih
      exact ⟨c :: consumed, rfl, (Passes.quoted noSlash noQuote).append passed⟩
  | @short c _ _ _ _ _ ih =>
      obtain ⟨consumed, rfl, passed⟩ := ih
      exact ⟨'\\' :: c :: consumed, rfl,
        Passes.backslash.append ((Passes.escaped c).append passed)⟩
  | @code a b c d _ _ _ known _ ih =>
      obtain ⟨consumed, rfl, passed⟩ := ih
      exact ⟨'\\' :: 'u' :: a :: b :: c :: d :: consumed, rfl,
        Passes.backslash.append
          ((Passes.escaped 'u').append ((passes_codeUnit known).append passed))⟩

theorem passes_text (quoted : Quoted chars rest) :
    PassesUpTo opener closer ('\x22' :: chars) rest := by
  obtain ⟨consumed, rfl, passed⟩ := @passes_quoted opener closer chars rest quoted
  exact ⟨'\x22' :: consumed, rfl, Passes.openQuote.append passed⟩

/-! ## Values -/

theorem isPair_container (kind : Container) : IsPair kind.opener kind.closer := by
  cases kind with
  | array => exact .inl ⟨rfl, rfl⟩
  | object => exact .inr ⟨rfl, rfl⟩

@[simp] theorem closerOf_opener (kind : Container) : closerOf kind.opener = kind.closer := by
  cases kind <;> rfl

theorem passes_blanks (pair : IsPair opener closer) (blanks : Blanks chars rest) :
    PassesUpTo opener closer chars rest :=
  .of_inert pair (inert_of_blanks blanks)

/-- A name and its colon are passed over. -/
theorem passes_head (pair : IsPair opener closer) {kind : Container} (head : Head kind chars rest) :
    PassesUpTo opener closer chars rest := by
  cases head with
  | array => exact .of_inert pair (.refl _)
  | object name before after =>
      exact (passes_text name).trans
        ((passes_blanks pair before).trans (.cons pair rfl (passes_blanks pair after)))

mutual

/-- A value is passed over, arrays and objects of either sort included. -/
theorem passes_datum (pair : IsPair opener closer) : ∀ {chars rest : List Char},
    Datum chars rest → PassesUpTo opener closer chars rest
  | _, _, .word listed => ⟨_, rfl, .inert pair (inert_of_word listed)⟩
  | _, _, .numeral numeral => .of_inert pair (inert_of_numeral numeral)
  | _, _, .text quoted => passes_text quoted
  | _, _, .empty closed => .enclosed pair (isPair_container _) (passes_blanks pair closed)
  | _, _, .full opened parts =>
      .enclosed pair (isPair_container _)
        ((passes_blanks pair opened).trans (passes_parts pair parts))

theorem passes_parts (pair : IsPair opener closer) : ∀ {kind : Container} {chars rest : List Char},
    Parts kind chars rest → PassesUpTo opener closer chars (kind.closer :: rest)
  | _, _, _, .last head value closed =>
      (passes_head pair head).trans ((passes_datum pair value).trans (passes_blanks pair closed))
  | _, _, _, .more head value comma others =>
      (passes_head pair head).trans ((passes_datum pair value).trans
        ((PassesUpTo.of_inert pair (inert_of_comma comma)).trans (passes_parts pair others)))

end

theorem not_isOpener_of_isInert {c : Char} (inert : isInert c = true) : isOpener c = false := by
  simp only [isInert, Bool.not_eq_true', Bool.or_eq_false_iff] at inert
  obtain ⟨⟨⟨⟨-, noSquare⟩, -⟩, noCurly⟩, -⟩ := inert
  simp [isOpener, noSquare, noCurly]

/-- A value that begins with a bracket is passed over, behind it, up to the bracket that closes
it. -/
theorem passes_inside (pair : IsPair opener closer) {c : Char} (opens : isOpener c = true)
    (value : Datum (c :: chars) rest) : PassesUpTo opener closer chars (closerOf c :: rest) := by
  have noScalar (inert : isInert c = true) : False := by
    cases opens.symm.trans (not_isOpener_of_isInert inert)
  generalize same : c :: chars = whole at value
  cases value with
  | word listed =>
      obtain ⟨first, second, tail, rfl, -⟩ := front_of_word listed
      cases same
      exact (noScalar (inert_of_word listed _ List.mem_cons_self)).elim
  | numeral numeral =>
      obtain ⟨d, others, digit, rfl | rfl⟩ := front_of_numeral numeral
      · cases same
        exact (noScalar (isInert_of_isDigit _ digit)).elim
      · cases same
        cases opens
  | text =>
      cases same
      cases opens
  | @empty kind _ _ closed =>
      cases same
      rw [closerOf_opener]
      exact passes_blanks pair closed
  | @full kind _ _ _ opened parts =>
      cases same
      rw [closerOf_opener]
      exact (passes_blanks pair opened).trans (passes_parts pair parts)

/-! ## Arrays and objects -/

/-- An array or an object ends with the bracket at which the scanner stops, whatever follows. -/
theorem payloadLength_of_datum {c : Char} (opens : isOpener c = true)
    (value : Datum (c :: chars) rest) :
    ∃ inner, chars = inner ++ closerOf c :: rest ∧
      ∀ after, payloadLength? (c :: (inner ++ closerOf c :: after)) = some (inner.length + 2) := by
  have pair := isPair_closerOf opens
  obtain ⟨inner, same, passed⟩ := passes_inside pair opens value
  refine ⟨inner, same, fun after => ?_⟩
  calc payloadLength? (c :: (inner ++ closerOf c :: after))
    _ = (closingLength? c (closerOf c) .plain 1 (inner ++ closerOf c :: after)).map (· + 1) :=
        pair.scan_opener
    _ = ((closingLength? c (closerOf c) .plain 1 (closerOf c :: after)).map
          (· + inner.length)).map (· + 1) := by rw [passed 1 _ (Nat.le_refl 1)]
    _ = some (1 + inner.length + 1) := by rw [pair.scan_last, Option.map_some, Option.map_some]
    _ = some (inner.length + 2) := by congr 1; omega

/-- The scanner finds the end of every array and every object, whatever follows, and finds none
while anything is missing behind the opening bracket. -/
theorem container_closes_at_end {c : Char} {chars : List Char} (opens : isOpener c = true)
    (derived : Datum (c :: chars) []) :
    (∀ after, payloadLength? (c :: chars ++ after) = some (c :: chars).length) ∧
      ∀ front, front <+: chars → front ≠ chars → payloadLength? (c :: front) = none := by
  have whole (after : List Char) :
      payloadLength? (c :: chars ++ after) = some (c :: chars).length := by
    obtain ⟨inner, rfl, closes⟩ := payloadLength_of_datum opens derived
    simpa using closes after
  refine ⟨whole, fun front begins cut => ?_⟩
  have short : front.length < chars.length :=
    Nat.lt_of_le_of_ne begins.length_le (mt begins.eq_of_length cut)
  obtain ⟨missing, rfl⟩ := begins
  have scanned := whole []
  rw [List.append_nil] at scanned
  exact scan_eq_none_of_short scanned (Nat.succ_lt_succ short)

/-- An object around an array, with brackets of both sorts and a quote in a text. -/
theorem container_closes_at_end_of_nested :
    isOpener '\x7b' = true ∧ Datum ('\x7b' :: "\"a\": [1, \"]\\\"\x7d\"]\x7d".toList) [] ∧
      payloadLength? ('\x7b' :: "\"a\": [1, \"]\\\"\x7d\"]\x7d".toList ++ " or \x7b]".toList) =
        some 18 ∧
      payloadLength? ('\x7b' :: "\"a\": [1, \"]\\\"\x7d\"]".toList) = none := by
  have number : Numeral "1, \"]\\\"\x7d\"]\x7d".toList ", \"]\\\"\x7d\"]\x7d".toList :=
    .positive ⟨.digits (by decide) (.last rfl), .inl rfl, .inl rfl⟩
  have text : Quoted "]\\\"\x7d\"]\x7d".toList "]\x7d".toList :=
    .plain (by decide) (by decide) (by decide)
      (.short rfl (.plain (by decide) (by decide) (by decide) (.close _)))
  have items : Parts .array "1, \"]\\\"\x7d\"]\x7d".toList "\x7d".toList :=
    .more (.array _) (.numeral number) ⟨.refl _, .cons rfl (.refl _)⟩
      (.last (.array _) (.text text) (.refl _))
  have name : Quoted "a\": [1, \"]\\\"\x7d\"]\x7d".toList ": [1, \"]\\\"\x7d\"]\x7d".toList :=
    .plain (by decide) (by decide) (by decide) (.close _)
  have members : Parts .object "\"a\": [1, \"]\\\"\x7d\"]\x7d".toList [] :=
    .last (.object name (.refl _) (.cons rfl (.refl _))) (@Datum.full .array _ _ _ (.refl _) items)
      (.refl _)
  have derived : Datum ('\x7b' :: "\"a\": [1, \"]\\\"\x7d\"]\x7d".toList) [] :=
    @Datum.full .object _ _ _ (.refl _) members
  obtain ⟨whole, cut⟩ := container_closes_at_end rfl derived
  exact ⟨rfl, derived, whole _, cut _ (by decide) (by decide)⟩

end Conform.Extraction
