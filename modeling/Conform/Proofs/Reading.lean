import Conform.Proofs.Numerals

/-!
# Reading what the grammar derives

The reader takes what the grammar derives and nothing else, apart from whole numbers that are too
long to be read.  What one step of the reader can do is said once, for arrays and objects alike;
from it follows, by induction on the steps, that what is read is derived, and by induction on the
derivation that what is derived is read.
-/

namespace Conform.Json.Grammar

/-! ## Blanks -/

theorem blanks_skipBlanks (chars : List Char) : Blanks chars (skipBlanks chars) := by
  induction chars with
  | nil => exact .refl []
  | cons c rest ih =>
      cases blank : isBlank c with
      | true =>
          rw [skipBlanks, List.dropWhile_cons_of_pos blank]
          exact .cons blank ih
      | false =>
          rw [skipBlanks, List.dropWhile_cons_of_neg (Bool.eq_false_iff.mp blank)]
          exact .refl _

@[simp] theorem skipBlanks_cons {c : Char} {rest : List Char} (other : isBlank c = false) :
    skipBlanks (c :: rest) = c :: rest := by
  rw [skipBlanks, List.dropWhile_cons_of_neg (Bool.eq_false_iff.mp other)]

theorem skipBlanks_of_blanks {chars rest : List Char} (blanks : Blanks chars rest) :
    skipBlanks chars = skipBlanks rest := by
  induction blanks with
  | refl => rfl
  | cons blank _ ih => rw [skipBlanks, List.dropWhile_cons_of_pos blank, ← ih, skipBlanks]

theorem Opens.skipBlanks {chars : List Char} (opens : Opens chars) : skipBlanks chars = chars := by
  obtain ⟨c, rest, rfl, opens⟩ := opens
  refine skipBlanks_cons (Bool.eq_false_iff.mpr fun blank => ?_)
  cases opens.symm.trans (not_opensValue_of_endsValue (endsValue_of_isBlank blank))

/-! ## Texts -/

/-- The result of reading an escape: what follows it belongs to the text, or it is flawed. -/
inductive EscapeRead (chars : List Char) : Except Failure (Char × Nat) → Prop where
  | escape (meant : Char) {taken : Nat}
      (quoted : ∀ {rest}, Quoted (chars.drop taken) rest → Quoted ('\\' :: chars) rest) :
      EscapeRead chars (.ok (meant, taken))
  | flawed (flaw : Flaw) (left : Nat) : EscapeRead chars (.error (.flawed flaw left))

theorem escapeRead_readCode (chars : List Char) :
    EscapeRead ('u' :: chars) (readCode ('u' :: chars)) := by
  unfold readCode
  split
  case h_2 => exact .flawed _ _
  case h_1 a b c d e after same =>
    cases same
    split
    case h_1 => exact .flawed _ _
    case h_2 unit known =>
      split
      case h_2 => exact .escape _ (.code known)
      case h_1 =>
        split
        case h_1 => exact .flawed _ _
        case h_2 low knownLow =>
          split
          · exact .escape _ fun others => .code known (.code knownLow others)
          · exact .escape _ (.code known)

theorem escapeRead (opening chars : List Char) : EscapeRead chars (readEscape opening chars) := by
  unfold readEscape
  split
  case h_1 => exact .flawed _ _
  case h_2 c rest =>
    split
    case isTrue letter =>
      obtain rfl := eq_of_beq letter
      exact escapeRead_readCode rest
    case isFalse =>
      split
      case h_1 meant known => exact .escape meant (.short known)
      case h_2 => exact .flawed _ _

/-- The result of reading a text: it has been read to its closing quote, or it is flawed. -/
inductive TextRead (chars : List Char) : Except Failure (String × List Char) → Prop where
  | text (text : String) {rest : List Char} (quoted : Quoted chars rest) :
      TextRead chars (.ok (text, rest))
  | flawed (flaw : Flaw) (left : Nat) : TextRead chars (.error (.flawed flaw left))

theorem TextRead.of_quoted {chars more : List Char} {result : Except Failure (String × List Char)}
    (read : TextRead more result) (quoted : ∀ {rest}, Quoted more rest → Quoted chars rest) :
    TextRead chars result := by
  cases read with
  | text text others => exact .text text (quoted others)
  | flawed flaw left => exact .flawed flaw left

theorem textRead_readChars (opening : List Char) (skip : Nat) (done chars : List Char) :
    TextRead (chars.drop skip) (readChars opening skip done chars) := by
  induction chars generalizing skip done with
  | nil =>
      rw [readChars]
      exact .flawed _ _
  | cons c chars ih =>
      cases skip with
      | succ skip => exact ih skip done
      | zero =>
          unfold readChars
          split
          case isTrue quote =>
            obtain rfl := eq_of_beq quote
            exact .text _ (.close chars)
          case isFalse noQuote =>
            split
            case isTrue slash =>
              obtain rfl := eq_of_beq slash
              have escape := escapeRead opening chars
              generalize readEscape opening chars = result at escape
              cases escape with
              | escape meant quoted => exact (ih _ (meant :: done)).of_quoted quoted
              | flawed flaw left => exact .flawed flaw left
            case isFalse noSlash =>
              split
              case isTrue => exact .flawed _ _
              case isFalse printable =>
                exact (ih 0 (c :: done)).of_quoted (.plain (mt beq_iff_eq.mpr noQuote)
                  (mt beq_iff_eq.mpr noSlash) (Nat.le_of_not_lt printable))

theorem textRead (chars : List Char) : TextRead chars (readText chars) :=
  textRead_readChars ('\x22' :: chars) 0 [] chars

theorem quoted_of_readText {chars rest : List Char} {text : String}
    (read : readText chars = .ok (text, rest)) : Quoted chars rest := by
  have spec := textRead chars
  rw [read] at spec
  cases spec with
  | text _ quoted => exact quoted

/-- An escape by code is read, alone or together with the one behind it. -/
theorem readCode_of_quoted {a b c d : Char} {unit : Nat} {chars rest : List Char}
    (known : codeUnit? a b c d = some unit) (others : Quoted chars rest) :
    (∃ meant, readCode ('u' :: a :: b :: c :: d :: chars) = .ok (meant, 5)) ∨
      ∃ meant a' b' c' d' more, chars = '\\' :: 'u' :: a' :: b' :: c' :: d' :: more ∧
        Quoted more rest ∧ readCode ('u' :: a :: b :: c :: d :: chars) = .ok (meant, 11) := by
  obtain ⟨e, after, rfl⟩ := exists_cons_of_quoted others
  unfold readCode
  dsimp only
  rw [known]
  dsimp only
  split
  case h_2 => exact .inl ⟨_, rfl⟩
  case h_1 a' b' c' d' f more _ =>
    cases others with
    | plain _ noSlash => exact absurd rfl noSlash
    | short known => cases known
    | code knownLow others =>
        rw [knownLow]
        dsimp only
        split
        · exact .inr ⟨_, _, _, _, _, _, rfl, others, rfl⟩
        · exact .inl ⟨_, rfl⟩

theorem readChars_escape {opening chars : List Char} {meant : Char} {taken : Nat}
    (escape : readEscape opening chars = .ok (meant, taken)) (done : List Char) :
    readChars opening 0 done ('\\' :: chars) = readChars opening taken (meant :: done) chars := by
  rw [readChars, if_neg (by decide), if_pos (by decide), escape]

theorem readChars_code {opening chars : List Char} {meant : Char} {taken : Nat}
    (code : readCode ('u' :: chars) = .ok (meant, taken)) (done : List Char) :
    readChars opening 0 done ('\\' :: 'u' :: chars) =
      readChars opening taken (meant :: done) ('u' :: chars) :=
  have escape : readEscape opening ('u' :: chars) = .ok (meant, taken) := code
  readChars_escape escape done

/-- A text is read if it is well formed. -/
theorem readChars_of_quoted {chars rest : List Char} (quoted : Quoted chars rest)
    (opening done : List Char) : ∃ text, readChars opening 0 done chars = .ok (text, rest) := by
  -- The two halves of a pair are read at once, so that the induction is on the length.
  induction size : chars.length using Nat.strongRecOn generalizing chars done with
  | ind _ ih =>
  subst size
  cases quoted with
  | close => exact ⟨_, rfl⟩
  | @plain c chars _ noQuote noSlash printable others =>
      obtain ⟨text, read⟩ := ih _ (Nat.lt_succ_self _) others (c :: done) rfl
      refine ⟨text, ?_⟩
      rw [readChars, if_neg (mt eq_of_beq noQuote), if_neg (mt eq_of_beq noSlash),
        if_neg (Nat.not_lt.mpr printable), read]
  | @short c meant chars _ known others =>
      obtain ⟨text, read⟩ :=
        ih _ (Nat.lt_succ_of_lt (Nat.lt_succ_self _)) others (meant :: done) rfl
      have letter : ¬(c == 'u') = true := by
        rintro letter
        obtain rfl := eq_of_beq letter
        cases known
      have escape : readEscape opening (c :: chars) = .ok (meant, 1) := by
        unfold readEscape
        dsimp only
        rw [if_neg letter, known]
      exact ⟨text, (readChars_escape escape done).trans read⟩
  | @code a b c d unit chars _ known others =>
      rcases readCode_of_quoted known others with
        ⟨meant, code⟩ | ⟨meant, a', b', c', d', more, rfl, others, code⟩
      · have shorter : chars.length < ('\\' :: 'u' :: a :: b :: c :: d :: chars).length := by
          simp only [List.length_cons]
          omega
        obtain ⟨text, read⟩ := ih _ shorter others (meant :: done) rfl
        exact ⟨text, (readChars_code code done).trans read⟩
      · have shorter : more.length < ('\\' :: 'u' :: a :: b :: c :: d ::
            '\\' :: 'u' :: a' :: b' :: c' :: d' :: more).length := by
          simp only [List.length_cons]
          omega
        obtain ⟨text, read⟩ := ih _ shorter others (meant :: done) rfl
        exact ⟨text, (readChars_code code done).trans read⟩

theorem readText_of_quoted {chars rest : List Char} (quoted : Quoted chars rest) :
    ∃ text, readText chars = .ok (text, rest) :=
  readChars_of_quoted quoted _ _

/-! ## Words and numbers -/

/-- A word or a number that is read is one. -/
theorem datum_of_readScalar {chars rest : List Char} {value : Value}
    (read : readScalar chars = .ok (value, rest)) : Datum chars rest := by
  unfold readScalar at read
  split at read
  case h_1 word value found =>
    cases read
    have listed := List.mem_of_find?_eq_some found
    have front := List.find?_some found
    obtain ⟨rest, rfl⟩ := List.isPrefixOf_iff_prefix.mp front
    rw [List.drop_left]
    exact .word listed
  case h_2 =>
    have spec := numberRead chars
    rw [read] at spec
    cases spec with
    | value found => exact .numeral found

/-- No word is a number. -/
theorem readScalar_of_numeral {chars rest : List Char} (numeral : Numeral chars rest) :
    readScalar chars = readNumber chars := by
  have none : words.find? (fun word => word.1.isPrefixOf chars) = none := by
    refine List.find?_eq_none.mpr fun word listed front => ?_
    obtain ⟨first, second, tail, same, -, noDigit, alsoNone⟩ := front_of_word listed
    obtain ⟨rest, rfl⟩ := List.isPrefixOf_iff_prefix.mp front
    rw [same] at numeral
    obtain ⟨c, others, digit, begun | begun⟩ := front_of_numeral numeral
    · cases begun
      exact Bool.eq_false_iff.mp noDigit digit
    · cases begun
      exact Bool.eq_false_iff.mp alsoNone digit
  rw [readScalar, none]

theorem readValue_word {word : List Char} {value : Value} (listed : (word, value) ∈ words)
    (fuel : Nat) (rest : List Char) : readValue (fuel + 1) (word ++ rest) = .ok (value, rest) := by
  simp only [words, List.mem_cons, Prod.mk.injEq, List.not_mem_nil, or_false] at listed
  rcases listed with ⟨rfl, rfl⟩ | ⟨rfl, rfl⟩ | ⟨rfl, rfl⟩ | ⟨rfl, rfl⟩ | ⟨rfl, rfl⟩ | ⟨rfl, rfl⟩
  all_goals rfl

/-- Where a number stands, it is read. -/
theorem readValue_numeral {chars rest : List Char} (numeral : Numeral chars rest) (fuel : Nat) :
    readValue (fuel + 1) chars = readNumber chars := by
  rw [← readScalar_of_numeral numeral]
  obtain ⟨c, others, digit, rfl | rfl⟩ := front_of_numeral numeral
  · unfold readValue
    split
    case h_1 same => cases same
    case h_5 same =>
      cases same
      rfl
    all_goals
      rename_i same
      cases same
      cases digit
  · rfl

/-! ## Steps -/

/-- The reading of the parts of a container, whatever was read before them. -/
inductive PartsRead (fuel : Nat) (chars : List Char) :
    Container → Except Failure (Value × List Char) → Prop where
  | items (done : List Value) : PartsRead fuel chars .array (readItems fuel done chars)
  | members (done : Entries) : PartsRead fuel chars .object (readMembers fuel done chars)

/-- The place of the value behind what stands in front of it in a container. -/
def readHead (kind : Container) (chars : List Char) : Except Failure (List Char) :=
  match kind, chars with
  | .array, _ => .ok chars
  | .object, '\x22' :: rest => do
    let (_, rest) ← readText rest
    match skipBlanks rest with
    | ':' :: rest => .ok (skipBlanks rest)
    | other => flawed .expectingColon other
  | .object, other => flawed .expectingName other

theorem readHead_of_no_name {chars : List Char} (noName : ∀ rest, chars ≠ '\x22' :: rest) :
    readHead .object chars = flawed .expectingName chars := by
  unfold readHead
  split
  case h_1 impossible => cases impossible
  case h_2 => exact absurd rfl (noName _)
  case h_3 => rfl

section
variable {rest afterName : List Char} {name : String}

theorem readHead_of_failure {failure : Failure} (failed : readText rest = .error failure) :
    readHead .object ('\x22' :: rest) = .error failure := by
  rw [readHead, failed]
  rfl

theorem readHead_of_colon {afterColon : List Char} (read : readText rest = .ok (name, afterName))
    (colon : skipBlanks afterName = ':' :: afterColon) :
    readHead .object ('\x22' :: rest) = .ok (skipBlanks afterColon) := by
  simp [readHead, read, bind, Except.bind, colon]

theorem readHead_of_no_colon (read : readText rest = .ok (name, afterName))
    (noColon : ∀ afterColon, skipBlanks afterName ≠ ':' :: afterColon) :
    readHead .object ('\x22' :: rest) = flawed .expectingColon (skipBlanks afterName) := by
  simp [readHead, read, bind, Except.bind]

end

/-- What one step can do in reading the parts of a container. -/
inductive PartsStep (kind : Container) (fuel : Nat) (chars : List Char) :
    Except Failure (Value × List Char) → Prop where
  | head {failure : Failure} (failed : readHead kind chars = .error failure) :
      PartsStep kind fuel chars (.error failure)
  | value {place : List Char} {failure : Failure} (head : readHead kind chars = .ok place)
      (failed : readValue fuel place = .error failure) : PartsStep kind fuel chars (.error failure)
  | last {place behind rest : List Char} {value whole : Value}
      (head : readHead kind chars = .ok place) (taken : readValue fuel place = .ok (value, behind))
      (closed : skipBlanks behind = kind.closer :: rest) :
      PartsStep kind fuel chars (.ok (whole, rest))
  | more {place behind after : List Char} {value : Value}
      {result : Except Failure (Value × List Char)}
      (head : readHead kind chars = .ok place) (taken : readValue fuel place = .ok (value, behind))
      (comma : skipBlanks behind = ',' :: after)
      (others : PartsRead fuel (skipBlanks after) kind result) : PartsStep kind fuel chars result
  | separator {place behind : List Char} {value : Value} (head : readHead kind chars = .ok place)
      (taken : readValue fuel place = .ok (value, behind))
      (unclosed : ∀ after, skipBlanks behind ≠ kind.closer :: after)
      (noComma : ∀ after, skipBlanks behind ≠ ',' :: after) :
      PartsStep kind fuel chars (flawed .expectingComma (skipBlanks behind))

/-- The parts of arrays and those of objects are read in the same way. -/
theorem partsStep {kind : Container} {fuel : Nat} {chars : List Char}
    {result : Except Failure (Value × List Char)} (read : PartsRead (fuel + 1) chars kind result) :
    PartsStep kind fuel chars result := by
  cases read with
  | items done =>
      rw [readItems]
      cases taken : readValue fuel chars with
      | error failure => exact .value rfl taken
      | ok part =>
          obtain ⟨value, behind⟩ := part
          simp only [bind, Except.bind]
          split
          case h_1 closed => exact .last rfl taken closed
          case h_2 comma => exact .more rfl taken comma (.items _)
          case h_3 unclosed noComma => exact .separator rfl taken unclosed noComma
  | members done =>
      unfold readMembers
      split
      case h_2 noName => exact .head (readHead_of_no_name noName)
      case h_1 rest =>
        cases name : readText rest with
        | error failure => exact .head (readHead_of_failure name)
        | ok part =>
            obtain ⟨name', afterName⟩ := part
            simp only [bind, Except.bind]
            split
            case h_2 noColon => exact .head (readHead_of_no_colon name noColon)
            case h_1 afterColon colon =>
              have head := readHead_of_colon name colon
              cases taken : readValue fuel (skipBlanks afterColon) with
              | error failure => exact .value head taken
              | ok part =>
                  obtain ⟨value, behind⟩ := part
                  dsimp only
                  split
                  case h_1 closed => exact .last head taken closed
                  case h_2 comma => exact .more head taken comma (.members _)
                  case h_3 unclosed noComma => exact .separator head taken unclosed noComma

/-- A container is empty, or its parts are read. -/
theorem readValue_container (kind : Container) (fuel : Nat) (chars : List Char) :
    (∃ rest value, skipBlanks chars = kind.closer :: rest ∧
        readValue (fuel + 1) (kind.opener :: chars) = .ok (value, rest)) ∨
      (∀ rest, skipBlanks chars ≠ kind.closer :: rest) ∧
        PartsRead fuel (skipBlanks chars) kind (readValue (fuel + 1) (kind.opener :: chars)) := by
  cases kind with
  | array =>
      rw [Container.opener, readValue]
      split
      case h_1 closed => exact .inl ⟨_, _, closed, rfl⟩
      case h_2 unclosed => exact .inr ⟨unclosed, .items []⟩
  | object =>
      rw [Container.opener, readValue]
      split
      case h_1 closed => exact .inl ⟨_, _, closed, rfl⟩
      case h_2 unclosed => exact .inr ⟨unclosed, .members []⟩

/-- What one step can do in reading a value. -/
inductive ValueStep (fuel : Nat) : List Char → Except Failure (Value × List Char) → Prop where
  | nothing : ValueStep fuel [] (flawed .expectingValue [])
  | text {rest : List Char} {failure : Failure} (failed : readText rest = .error failure) :
      ValueStep fuel ('\x22' :: rest) (.error failure)
  | quoted {rest after : List Char} {text : String} (read : readText rest = .ok (text, after)) :
      ValueStep fuel ('\x22' :: rest) (.ok (.str text, after))
  | empty {kind : Container} {rest after : List Char} {value : Value}
      (closed : skipBlanks rest = kind.closer :: after) :
      ValueStep fuel (kind.opener :: rest) (.ok (value, after))
  | full {kind : Container} {rest : List Char} {result : Except Failure (Value × List Char)}
      (unclosed : ∀ after, skipBlanks rest ≠ kind.closer :: after)
      (parts : PartsRead fuel (skipBlanks rest) kind result) :
      ValueStep fuel (kind.opener :: rest) result
  | scalar {c : Char} {rest : List Char} {result : Except Failure (Value × List Char)}
      (noQuote : c ≠ '\x22') (noOpener : ∀ kind : Container, c ≠ kind.opener)
      (read : readScalar (c :: rest) = result) : ValueStep fuel (c :: rest) result

theorem valueStep (fuel : Nat) (chars : List Char) :
    ValueStep fuel chars (readValue (fuel + 1) chars) := by
  have container (kind : Container) (rest : List Char) :
      ValueStep fuel (kind.opener :: rest) (readValue (fuel + 1) (kind.opener :: rest)) := by
    rcases readValue_container kind fuel rest with ⟨after, value, closed, read⟩ | ⟨unclosed, parts⟩
    · rw [read]
      exact .empty closed
    · exact .full unclosed parts
  unfold readValue
  split
  case h_1 => exact .nothing
  case h_3 rest => exact container .object rest
  case h_4 rest => exact container .array rest
  case h_2 rest =>
    cases read : readText rest with
    | error failure => exact .text read
    | ok part => exact .quoted read
  case h_5 noQuote noObject noArray =>
    refine .scalar noQuote (fun kind => ?_) rfl
    cases kind with
    | array => exact noArray
    | object => exact noObject

theorem partsRead_zero {kind : Container} {chars : List Char}
    {result : Except Failure (Value × List Char)} (read : PartsRead 0 chars kind result) :
    result = flawed .expectingValue chars := by
  cases read with
  | items | members => rfl

theorem PartsStep.failed {kind : Container} {fuel : Nat} {chars place : List Char}
    {result : Except Failure (Value × List Char)} (step : PartsStep kind fuel chars result)
    (head : readHead kind chars = .ok place) {failure : Failure}
    (failed : readValue fuel place = .error failure) : result = .error failure := by
  cases step with
  | head noHead => cases head.symm.trans noHead
  | value head' failed' =>
      cases head.symm.trans head'
      cases failed.symm.trans failed'
      rfl
  | last head' taken | more head' taken | separator head' taken =>
      cases head.symm.trans head'
      cases failed.symm.trans taken

/-- A step is known where it is known what is left behind the value. -/
theorem PartsStep.behind {kind : Container} {fuel : Nat} {chars place behind : List Char}
    {result : Except Failure (Value × List Char)} (step : PartsStep kind fuel chars result)
    (head : readHead kind chars = .ok place) {value : Value}
    (taken : readValue fuel place = .ok (value, behind)) :
    (∃ whole rest, skipBlanks behind = kind.closer :: rest ∧ result = .ok (whole, rest)) ∨
      (∃ after, skipBlanks behind = ',' :: after ∧ PartsRead fuel (skipBlanks after) kind result) ∨
      ((∀ rest, skipBlanks behind ≠ kind.closer :: rest) ∧
        ∀ after, skipBlanks behind ≠ ',' :: after) := by
  cases step with
  | head noHead => cases head.symm.trans noHead
  | value head' failed =>
      cases head.symm.trans head'
      cases taken.symm.trans failed
  | last head' taken' closed =>
      cases head.symm.trans head'
      cases taken.symm.trans taken'
      exact .inl ⟨_, _, closed, rfl⟩
  | more head' taken' comma others =>
      cases head.symm.trans head'
      cases taken.symm.trans taken'
      exact .inr (.inl ⟨_, comma, others⟩)
  | separator head' taken' unclosed noComma =>
      cases head.symm.trans head'
      cases taken.symm.trans taken'
      exact .inr (.inr ⟨unclosed, noComma⟩)

/-- The result of reading what stands in front of a value: its place, or a flaw. -/
inductive HeadRead (kind : Container) (chars : List Char) : Except Failure (List Char) → Prop where
  | place {place : List Char} (head : Head kind chars place) : HeadRead kind chars (.ok place)
  | flawed (flaw : Flaw) (left : Nat) : HeadRead kind chars (.error (.flawed flaw left))

theorem headRead (kind : Container) (chars : List Char) :
    HeadRead kind chars (readHead kind chars) := by
  unfold readHead
  split
  case h_1 => exact .place (.array chars)
  case h_3 => exact .flawed _ _
  case h_2 rest =>
    have name := textRead rest
    generalize readText rest = result at name
    cases name with
    | flawed flaw left => exact .flawed flaw left
    | @text _ afterName quoted =>
        simp only [bind, Except.bind]
        split
        case h_2 => exact .flawed _ _
        case h_1 afterColon colon =>
          exact .place (.object quoted (colon ▸ blanks_skipBlanks afterName)
            (blanks_skipBlanks afterColon))

theorem head_of_readHead {kind : Container} {chars place : List Char}
    (read : readHead kind chars = .ok place) : Head kind chars place := by
  have spec := headRead kind chars
  rw [read] at spec
  cases spec with
  | place head => exact head

theorem readHead_of_head {kind : Container} {chars place : List Char} (head : Head kind chars place)
    (front : skipBlanks place = place) : readHead kind chars = .ok place := by
  cases head with
  | array => rfl
  | object name before after =>
      obtain ⟨text, read⟩ := readText_of_quoted name
      have colon := skipBlanks_of_blanks before
      rw [skipBlanks_cons rfl] at colon
      rw [readHead_of_colon read colon, skipBlanks_of_blanks after, front]

/-! ## What is read is derived -/

/-- What is read is derived. -/
theorem derived_of_read (fuel : Nat) :
    (∀ {chars rest value}, readValue fuel chars = .ok (value, rest) → Datum chars rest) ∧
      ∀ {kind chars rest value}, PartsRead fuel chars kind (.ok (value, rest)) →
        Parts kind chars rest := by
  induction fuel with
  | zero =>
      constructor
      · intro chars rest value read
        cases read
      · intro kind chars rest value read
        cases partsRead_zero read
  | succ fuel ih =>
      obtain ⟨ofValue, ofParts⟩ := ih
      constructor
      · intro chars rest value read
        have step := valueStep fuel chars
        rw [read] at step
        cases step with
        | quoted read => exact .text (quoted_of_readText read)
        | empty closed => exact .empty (closed ▸ blanks_skipBlanks _)
        | full unclosed parts => exact .full (blanks_skipBlanks _) (ofParts parts)
        | scalar _ _ read => exact datum_of_readScalar read
      · intro kind chars rest value read
        cases partsStep read with
        | last head taken closed =>
            exact .last (head_of_readHead head) (ofValue taken) (closed ▸ blanks_skipBlanks _)
        | more head taken comma others =>
            exact .more (head_of_readHead head) (ofValue taken)
              ⟨comma ▸ blanks_skipBlanks _, blanks_skipBlanks _⟩ (ofParts others)

/-! ## What is derived is read -/

/-- The result of reading a phrase: it ends where the phrase does, or a whole number in it is too
long. -/
inductive Taken (rest : List Char) : Except Failure (Value × List Char) → Prop where
  | value (value : Value) : Taken rest (.ok (value, rest))
  | tooLong (count : Nat) : Taken rest (.error (.tooLong count))

theorem taken_readNumber {chars rest : List Char} (numeral : Numeral chars rest)
    (ends : Ends rest) : Taken rest (readNumber chars) := by
  have spec := numberRead chars
  generalize readNumber chars = result at spec
  cases spec with
  | none none => exact absurd numeral (none rest)
  | long => exact .tooLong _
  | value _ longest =>
      obtain rfl := longest rest numeral (unextended_of_ends ends)
      exact .value _

theorem PartsStep.taken_last {kind : Container} {fuel : Nat} {chars place behind rest : List Char}
    {result : Except Failure (Value × List Char)} (step : PartsStep kind fuel chars result)
    (head : readHead kind chars = .ok place) (value : Taken behind (readValue fuel place))
    (closed : Blanks behind (kind.closer :: rest)) : Taken rest result := by
  generalize read : readValue fuel place = part at value
  have closer := (skipBlanks_of_blanks closed).trans (skipBlanks_cons kind.isBlank_closer)
  cases value with
  | tooLong =>
      rw [step.failed head read]
      exact .tooLong _
  | value =>
      rcases step.behind head read with
        ⟨whole, rest', closer', rfl⟩ | ⟨after, comma, -⟩ | ⟨unclosed, -⟩
      · cases closer.symm.trans closer'
        exact .value whole
      · exact absurd (List.cons.inj (closer.symm.trans comma)).1 kind.closer_ne_comma
      · exact absurd closer (unclosed rest)

/-- Behind a comma the others are read, unless a number in the first is too long. -/
theorem PartsStep.more_of_comma {kind : Container} {fuel : Nat}
    {chars place behind next : List Char} {result : Except Failure (Value × List Char)}
    (step : PartsStep kind fuel chars result)
    (head : readHead kind chars = .ok place) (value : Taken behind (readValue fuel place))
    (comma : Comma behind next) (front : skipBlanks next = next) :
    (∃ count, result = .error (.tooLong count)) ∨ PartsRead fuel next kind result := by
  generalize read : readValue fuel place = part at value
  obtain ⟨before, after⟩ := comma
  have comma := (skipBlanks_of_blanks before).trans (skipBlanks_cons rfl)
  cases value with
  | tooLong => exact .inl ⟨_, step.failed head read⟩
  | value =>
      rcases step.behind head read with
        ⟨whole, rest, closer, -⟩ | ⟨after', comma', others⟩ | ⟨-, noComma⟩
      · exact absurd (List.cons.inj (closer.symm.trans comma)).1 kind.closer_ne_comma
      · cases comma.symm.trans comma'
        rw [skipBlanks_of_blanks after, front] at others
        exact .inr others
      · exact absurd comma (noComma _)

mutual

/-- A value is taken, unless a whole number in it is too long. -/
theorem taken_readValue : ∀ {chars rest : List Char}, Datum chars rest → Ends rest →
    ∀ fuel, 2 * chars.length ≤ fuel → Taken rest (readValue (fuel + 1) chars)
  | _, _, .word listed, _, fuel, _ => by
      rw [readValue_word listed]
      exact .value _
  | _, _, .numeral numeral, ends, fuel, _ => by
      rw [readValue_numeral numeral]
      exact taken_readNumber numeral ends
  | _, _, .text quoted, _, fuel, _ => by
      obtain ⟨text, read⟩ := readText_of_quoted quoted
      rw [readValue, read]
      exact .value _
  | _, _, @Datum.empty kind chars rest closed, _, fuel, _ => by
      have closer := (skipBlanks_of_blanks closed).trans (skipBlanks_cons kind.isBlank_closer)
      rcases readValue_container kind fuel chars with ⟨after, value, closer', read⟩ | ⟨unclosed, -⟩
      · cases closer.symm.trans closer'
        rw [read]
        exact .value value
      · exact absurd closer (unclosed rest)
  | _, _, @Datum.full kind chars inner rest opened parts, _, fuel, enough => by
      have opens := opens_of_parts parts
      have inside := (skipBlanks_of_blanks opened).trans opens.skipBlanks
      rcases readValue_container kind fuel chars with ⟨after, value, closer, -⟩ | ⟨-, read⟩
      · exact absurd (inside.symm.trans closer) (opens.ne_closer kind after)
      · rw [inside] at read
        have := length_le_of_blanks opened
        rw [List.length_cons] at enough
        exact taken_partsRead parts fuel (by omega) _ read

/-- The parts of a container are taken, unless a whole number in them is too long. -/
theorem taken_partsRead : ∀ {kind : Container} {chars rest : List Char}, Parts kind chars rest →
    ∀ fuel, 2 * chars.length + 2 ≤ fuel → ∀ result, PartsRead fuel chars kind result →
      Taken rest result
  | kind, _, rest, .last head value closed, fuel, enough, result, read => by
      obtain ⟨fuel, rfl⟩ : ∃ less, fuel = less + 2 := ⟨fuel - 2, by omega⟩
      have := length_le_of_head head
      have place := readHead_of_head head (opens_of_datum value).skipBlanks
      have ends := ends_of_blanks closed (ends_cons (endsValue_closer kind) rest)
      exact (partsStep read).taken_last place (taken_readValue value ends fuel (by omega)) closed
  | _, _, _, .more head value comma others, fuel, enough, result, read => by
      obtain ⟨fuel, rfl⟩ : ∃ less, fuel = less + 2 := ⟨fuel - 2, by omega⟩
      have := length_le_of_head head
      have := length_lt_of_datum value
      have := length_lt_of_comma comma
      have place := readHead_of_head head (opens_of_datum value).skipBlanks
      have taken := taken_readValue value comma.ends fuel (by omega)
      have front := (opens_of_parts others).skipBlanks
      rcases (partsStep read).more_of_comma place taken comma front with ⟨count, rfl⟩ | read
      · exact .tooLong count
      · exact taken_partsRead others (fuel + 1) (by omega) result read

end

/-! ## Whole texts -/

/-- A text that is read is well formed. -/
theorem document_of_readWhole {chars : List Char} {value : Value}
    (read : readWhole chars = .ok value) : Document chars := by
  unfold readWhole at read
  split at read
  case h_1 => cases read
  case h_2 =>
    simp only [bind, Except.bind] at read
    split at read
    case h_1 => cases read
    case h_2 part taken =>
      obtain ⟨value, rest⟩ := part
      dsimp only at read
      split at read
      case h_1 after =>
        exact ⟨blanks_skipBlanks chars, (derived_of_read _).1 taken, after ▸ blanks_skipBlanks rest⟩
      case h_2 => cases read

/-- The value of a text is read behind the blanks. -/
theorem readWhole_of_opens {chars front : List Char} (before : Blanks chars front)
    (opens : Opens front) :
    (∀ {failure}, readValue (2 * chars.length + 4) front = .error failure →
        readWhole chars = .error failure) ∧
      ∀ {value rest}, readValue (2 * chars.length + 4) front = .ok (value, rest) →
        skipBlanks rest = [] → readWhole chars = .ok value := by
  have behind := (skipBlanks_of_blanks before).trans opens.skipBlanks
  unfold readWhole
  split
  case h_1 rest =>
    -- No value begins with a byte order mark.
    rw [skipBlanks_cons rfl] at behind
    obtain ⟨c, others, rfl, opens⟩ := opens
    cases behind
    cases opens
  case h_2 =>
    rw [behind]
    constructor
    · intro failure failed
      rw [failed]
      rfl
    · intro value rest taken nothing
      simp only [taken, bind, Except.bind, nothing]
      rfl

theorem readWhole_of_document {chars : List Char} (document : Document chars) :
    (∃ value, readWhole chars = .ok value) ∨
      ∃ count, readWhole chars = .error (.tooLong count) := by
  obtain ⟨before, value, after⟩ := document
  obtain ⟨ofError, ofValue⟩ := readWhole_of_opens before (opens_of_datum value)
  have taken := taken_readValue value (ends_of_blanks after nofun) (2 * chars.length + 3)
    (by have := length_le_of_blanks before; omega)
  generalize read : readValue _ _ = result at taken
  cases taken with
  | value value => exact .inl ⟨value, ofValue read (skipBlanks_of_blanks after)⟩
  | tooLong count => exact .inr ⟨count, ofError read⟩

end Conform.Json.Grammar
