import Conform.Proofs.Payload
import Conform.Proofs.Reading

/-!
# How decoding ends

The payload of model output is decoded to a value, or to the account of a flaw, unless the reader
comes upon a whole number that is too long to be read.  It comes upon such a number where a value is
due and all before it is well formed; where that is, is said by relations on the payload alone.
-/

namespace Conform.Json.Grammar

/-! ## Places of values -/

mutual

/-- A place of a text where a value is due, all before it being well formed. -/
inductive Awaits (whole : List Char) : List Char → Prop where
  | start {place : List Char} (before : Blanks whole place) : Awaits whole place
  | part {kind : Container} {chars place : List Char} (due : Due whole kind chars)
      (head : Head kind chars place) : Awaits whole place

/-- A place of a text where a part of a container is due, all before it being well formed. -/
inductive Due (whole : List Char) : Container → List Char → Prop where
  | first {kind : Container} {chars place : List Char}
      (opened : Awaits whole (kind.opener :: chars)) (before : Blanks chars place) :
      Due whole kind place
  | next {kind : Container} {chars place behind next : List Char} (due : Due whole kind chars)
      (head : Head kind chars place) (value : Datum place behind) (comma : Comma behind next) :
      Due whole kind next

end

/-- A number that is too long where a value is due. -/
def OverlongAt (whole place : List Char) (count : Nat) : Prop :=
  Awaits whole place ∧ Overlong place count

/-! ## Where the reader comes upon a number that is too long -/

theorem overlong_of_readScalar {chars : List Char} {count : Nat}
    (read : readScalar chars = .error (.tooLong count)) : Overlong chars count := by
  unfold readScalar at read
  split at read
  case h_1 => cases read
  case h_2 =>
    have spec := numberRead chars
    rw [read] at spec
    cases spec with
    | long size => exact size

/-- A number that is too long is one where a value is due. -/
theorem overlongAt_of_read {whole : List Char} (fuel : Nat) :
    (∀ {chars count}, Awaits whole chars → readValue fuel chars = .error (.tooLong count) →
        ∃ place, OverlongAt whole place count) ∧
      ∀ {kind chars count}, Due whole kind chars →
        PartsRead fuel chars kind (.error (.tooLong count)) →
        ∃ place, OverlongAt whole place count := by
  induction fuel with
  | zero =>
      constructor
      · intro chars count _ read
        cases read
      · intro kind chars count _ read
        cases partsRead_zero read
  | succ fuel ih =>
      obtain ⟨inValue, inParts⟩ := ih
      constructor
      · intro chars count awaits read
        have step := valueStep fuel chars
        rw [read] at step
        cases step with
        | @text rest _ failed =>
            have spec := textRead rest
            rw [failed] at spec
            cases spec
        | full unclosed parts => exact inParts (.first awaits (blanks_skipBlanks _)) parts
        | scalar _ _ read => exact ⟨_, awaits, overlong_of_readScalar read⟩
      · intro kind chars count due read
        cases partsStep read with
        | head failed =>
            have spec := headRead kind chars
            rw [failed] at spec
            cases spec
        | value head failed => exact inValue (.part due (head_of_readHead head)) failed
        | more head taken comma others =>
            have value := (derived_of_read fuel).1 taken
            exact inParts (.next due (head_of_readHead head) value
              ⟨comma ▸ blanks_skipBlanks _, blanks_skipBlanks _⟩) others

theorem overlongAt_of_readWhole {chars : List Char} {count : Nat}
    (read : readWhole chars = .error (.tooLong count)) : ∃ place, OverlongAt chars place count := by
  unfold readWhole at read
  split at read
  case h_1 => cases read
  case h_2 =>
    cases taken : readValue (2 * chars.length + 4) (skipBlanks chars) with
    | error failure =>
        rw [taken] at read
        cases read
        exact (overlongAt_of_read _).1 (.start (blanks_skipBlanks chars)) taken
    | ok part =>
        obtain ⟨value, rest⟩ := part
        simp only [taken, bind, Except.bind] at read
        split at read
        case h_1 => cases read
        case h_2 => cases read

/-! ## Where reading fails -/

/-- Wherever a text stands, no value is read at its front for a number that is too long. -/
structure ValueFails (chars : List Char) : Prop where
  opens : Opens chars
  fails : ∀ fuel, 2 * chars.length ≤ fuel →
    ∃ count, readValue (fuel + 1) chars = .error (.tooLong count)

/-- Wherever a text stands, no parts are read at its front for a number that is too long. -/
structure PartsFail (kind : Container) (chars : List Char) : Prop where
  opens : Opens chars
  fails : ∀ fuel, 2 * chars.length + 2 ≤ fuel → ∀ {result}, PartsRead fuel chars kind result →
    ∃ count, result = .error (.tooLong count)

theorem valueFails_of_overlong {chars : List Char} {count : Nat} (overlong : Overlong chars count) :
    ValueFails chars := by
  obtain ⟨rest, numeral⟩ := exists_numeral_of_overlong overlong
  refine ⟨opens_of_numeral numeral, fun fuel _ => ?_⟩
  rw [readValue_numeral numeral]
  have spec := numberRead chars
  generalize readNumber chars = result at spec
  cases spec with
  | none none => exact absurd numeral (none rest)
  | long => exact ⟨_, rfl⟩
  | value _ _ short => exact absurd overlong (short count)

/-- The parts of a container fail with the value that stands first. -/
theorem ValueFails.parts {kind : Container} {chars place : List Char} (value : ValueFails place)
    (head : Head kind chars place) : PartsFail kind chars := by
  refine ⟨opens_of_head head value.opens, fun fuel enough result read => ?_⟩
  obtain ⟨fuel, rfl⟩ : ∃ less, fuel = less + 2 := ⟨fuel - 2, by omega⟩
  have := length_le_of_head head
  obtain ⟨count, failed⟩ := value.fails fuel (by omega)
  exact ⟨count, (partsStep read).failed (readHead_of_head head value.opens.skipBlanks) failed⟩

/-- The parts of a container fail with those behind a value. -/
theorem PartsFail.behind {kind : Container} {chars place behind next : List Char}
    (others : PartsFail kind next) (head : Head kind chars place) (value : Datum place behind)
    (comma : Comma behind next) : PartsFail kind chars := by
  have opens := opens_of_datum value
  refine ⟨opens_of_head head opens, fun fuel enough result read => ?_⟩
  obtain ⟨fuel, rfl⟩ : ∃ less, fuel = less + 2 := ⟨fuel - 2, by omega⟩
  have := length_le_of_head head
  have := length_lt_of_datum value
  have := length_lt_of_comma comma
  have taken := taken_readValue value comma.ends fuel (by omega)
  rcases (partsStep read).more_of_comma (readHead_of_head head opens.skipBlanks) taken comma
    others.opens.skipBlanks with failed | read
  · exact failed
  · exact others.fails (fuel + 1) (by omega) read

/-- A container fails with its parts. -/
theorem PartsFail.container {kind : Container} {chars place : List Char}
    (parts : PartsFail kind place) (before : Blanks chars place) :
    ValueFails (kind.opener :: chars) := by
  refine ⟨⟨_, _, rfl, opensValue_opener kind⟩, fun fuel enough => ?_⟩
  have inside := (skipBlanks_of_blanks before).trans parts.opens.skipBlanks
  have := length_le_of_blanks before
  rw [List.length_cons] at enough
  rcases readValue_container kind fuel chars with ⟨rest, value, closer, -⟩ | ⟨-, read⟩
  · exact absurd (inside.symm.trans closer) (parts.opens.ne_closer kind rest)
  · rw [inside] at read
    exact parts.fails fuel (by omega) read

mutual

theorem readWhole_of_awaits {whole : List Char} : ∀ {place : List Char}, Awaits whole place →
    ValueFails place → ∃ count, readWhole whole = .error (.tooLong count)
  | _, .start before, value => by
      have := length_le_of_blanks before
      obtain ⟨count, failed⟩ := value.fails (2 * whole.length + 3) (by omega)
      exact ⟨count, (readWhole_of_opens before value.opens).1 failed⟩
  | _, .part due head, value => readWhole_of_due due (value.parts head)

theorem readWhole_of_due {whole : List Char} : ∀ {kind : Container} {place : List Char},
    Due whole kind place → PartsFail kind place → ∃ count, readWhole whole = .error (.tooLong count)
  | _, _, .first opened before, parts => readWhole_of_awaits opened (parts.container before)
  | _, _, .next due head value comma, parts =>
      readWhole_of_due due (parts.behind head value comma)

end

/-! ## Lengths -/

mutual

theorem length_le_of_awaits {whole : List Char} : ∀ {place : List Char}, Awaits whole place →
    place.length ≤ whole.length
  | _, .start before => length_le_of_blanks before
  | _, .part due head => Nat.le_trans (length_le_of_head head) (length_le_of_due due)

theorem length_le_of_due {whole : List Char} : ∀ {kind : Container} {place : List Char},
    Due whole kind place → place.length ≤ whole.length
  | _, _, .first opened before =>
      Nat.le_trans (length_le_of_blanks before)
        (Nat.le_of_succ_le (length_le_of_awaits opened))
  | _, _, .next due head value comma =>
      Nat.le_trans (Nat.le_of_lt (length_lt_of_comma comma))
        (Nat.le_trans (Nat.le_of_lt (length_lt_of_datum value))
          (Nat.le_trans (length_le_of_head head) (length_le_of_due due)))

end

/-- A number that is too long does not fit into a text within the limit. -/
theorem digitLimit_lt_of_overlongAt {whole place : List Char} {count : Nat}
    (found : OverlongAt whole place count) : digitLimit < whole.length := by
  obtain ⟨awaits, overlong⟩ := found
  have fits := length_le_of_awaits awaits
  rcases overlong with ⟨⟨-, -, long, -⟩⟩ | ⟨⟨-, -, long, -⟩⟩
  all_goals
    simp only [List.length_append, List.length_cons] at fits
    omega

/-! ## How reading ends -/

/-- How the reading of a whole text ends, which is known from the text. -/
inductive Ending (whole : List Char) : Except Failure Value → Prop where
  | value (value : Value) (document : Document whole)
      (short : ∀ place count, ¬OverlongAt whole place count) : Ending whole (.ok value)
  | flawed (flaw : Flaw) (left : Nat) (malformed : ¬Document whole)
      (short : ∀ place count, ¬OverlongAt whole place count) :
      Ending whole (.error (.flawed flaw left))
  | tooLong {place : List Char} {count : Nat} (found : OverlongAt whole place count) :
      Ending whole (.error (.tooLong count))

theorem ending (whole : List Char) : Ending whole (readWhole whole) := by
  have fails : ∀ place count, OverlongAt whole place count →
      ∃ count, readWhole whole = .error (.tooLong count) :=
    fun place count found => readWhole_of_awaits found.1 (valueFails_of_overlong found.2)
  cases read : readWhole whole with
  | ok value =>
      refine .value value (document_of_readWhole read) fun place count found => ?_
      obtain ⟨count, failed⟩ := fails place count found
      cases read.symm.trans failed
  | error failure =>
      cases failure with
      | tooLong count =>
          obtain ⟨place, found⟩ := overlongAt_of_readWhole read
          exact .tooLong found
      | flawed flaw left =>
          refine .flawed flaw left (fun document => ?_) fun place count found => ?_
          · rcases readWhole_of_document document with ⟨value, taken⟩ | ⟨count, failed⟩
            · cases read.symm.trans taken
            · cases read.symm.trans failed
          · obtain ⟨count, failed⟩ := fails place count found
            cases read.symm.trans failed

end Conform.Json.Grammar

namespace Conform.ModelOutput

open Json.Grammar

/-! ## Model output -/

theorem preview_text (text : String) : ∃ shown, preview (.str text) = .ok shown := by
  simp only [preview, pure_bind]
  split
  · exact ⟨_, rfl⟩
  · exact ⟨_, rfl⟩

section
variable {text : String}

@[simp] theorem outcome_parse_of_value {value : Value} (decoded : decode text = .ok (.ok value)) :
    (parse (.str text)).outcome = .ok (.accepted value) := by
  simp [parse, textOf, decoded]

theorem outcome_parse_of_reason {reason : String} (decoded : decode text = .ok (.error reason)) :
    ∃ shown, (parse (.str text)).outcome = .ok (.rejected [.unreadable reason shown]) := by
  obtain ⟨shown, previewed⟩ := preview_text text
  refine ⟨shown, ?_⟩
  simp [parse, textOf, decoded, previewed]

@[simp] theorem outcome_parse_of_fault {fault : Fault} (decoded : decode text = .error fault) :
    (parse (.str text)).outcome = .error fault := by
  simp [parse, textOf, decoded]

end

theorem decode_of_overlongAt {text : String} {place : List Char} {count : Nat}
    (found : OverlongAt (payload text).toList place count) :
    ∃ count, decode text = .error (.digitsToRead count) := by
  have ends := ending (payload text).toList
  rw [decode, Json.read]
  generalize Json.readWhole (payload text).toList = result at ends
  cases ends with
  | value _ _ short | flawed _ _ _ short => exact absurd found (short _ _)
  | tooLong => exact ⟨_, rfl⟩

/-- One digit more than can be read. -/
def tooManyOnes : List Char := List.replicate (digitLimit + 1) '1'

theorem isDigit_of_mem_tooManyOnes : ∀ c ∈ tooManyOnes, Digits.isDigit c = true := by
  intro c among
  rw [List.eq_of_mem_replicate among]
  rfl

theorem longDigits_tooManyOnes {rest : List Char} (ends : Unextended rest) :
    LongDigits (tooManyOnes ++ rest) tooManyOnes.length := by
  have nonzero : tooManyOnes.head? ≠ some '0' := by
    rw [tooManyOnes, List.replicate_succ, List.head?_cons]
    decide
  have long : digitLimit < tooManyOnes.length := by
    rw [tooManyOnes, List.length_replicate]
    exact Nat.lt_succ_self digitLimit
  exact .mk nonzero isDigit_of_mem_tooManyOnes long ends

open Extraction in
/-- Digits between square brackets are found as they are. -/
theorem payload_of_digits {digits : List Char} (all : ∀ c ∈ digits, Digits.isDigit c = true) :
    Extraction.payload ('[' :: (digits ++ [']'])) = '[' :: (digits ++ [']']) := by
  have pair : IsPair '[' ']' := .inl ⟨rfl, rfl⟩
  have inert : ∀ c ∈ digits, isInert c = true :=
    fun c among => isInert_of_isDigit c (all c among)
  have unmarked : ¬fenceMark <:+: digits := by
    intro marked
    cases all '\x60' (marked.subset List.mem_cons_self)
  have closes (rest : List Char) :
      payloadLength? ('[' :: (digits ++ ']' :: rest)) = some (digits.length + 2) := by
    change closingLength? '[' ']' .plain 0 _ = _
    rw [pair.scan_opener, Passes.inert pair inert 1 _ (Nat.le_refl 1), pair.scan_last]
    simp only [Option.map_some, Option.some.injEq]
    omega
  change Extraction.payload ([] ++ '[' :: (digits ++ closerOf '[' :: [])) = _
  exact payload_of_unmarked [] rfl (List.forall_mem_nil _) unmarked closes

/-- How the decoding of model output ends.  Its payload is well formed and gives a value, or it is
malformed and gives a flaw, which becomes the only violation; or a whole number in it is too long to
be read, where a value is due and all before it is well formed, and this ends decoding in a
fault. -/
theorem decode_and_parse_end (text : String) :
    let whole := (payload text).toList
    (Document whole ∧ (∀ place count, ¬OverlongAt whole place count) ∧
        ∃ value, decode text = .ok (.ok value) ∧
          (parse (.str text)).outcome = .ok (.accepted value)) ∨
      (¬Document whole ∧ (∀ place count, ¬OverlongAt whole place count) ∧
        ∃ reason violation, decode text = .ok (.error reason) ∧
          (parse (.str text)).outcome = .ok (.rejected [violation]) ∧
          violation.code = .str "parse" ∧ violation.path = []) ∨
      (digitLimit < whole.length ∧ ∃ place count, OverlongAt whole place count ∧
        decode text = .error (.digitsToRead count) ∧
        (parse (.str text)).outcome = .error (.digitsToRead count)) := by
  intro whole
  have ends := ending whole
  have decoded : decode text = Json.read (payload text) := rfl
  unfold Json.read at decoded
  generalize read : Json.readWhole whole = result at ends
  simp only [whole] at read
  cases ends with
  | value value document short =>
      simp only [read] at decoded
      exact .inl ⟨document, short, value, decoded, outcome_parse_of_value decoded⟩
  | flawed flaw left malformed short =>
      simp only [read] at decoded
      obtain ⟨shown, parsed⟩ := outcome_parse_of_reason decoded
      exact .inr (.inl ⟨malformed, short, _, _, decoded, parsed, rfl, rfl⟩)
  | @tooLong place count found =>
      simp only [read] at decoded
      exact .inr (.inr ⟨digitLimit_lt_of_overlongAt found, place, count, found, decoded,
        outcome_parse_of_fault decoded⟩)

/-- Not every text is decoded: an array of a single number can be too much. -/
theorem decode_faults_of_long_number :
    ¬∀ text : String, (∃ decoded, decode text = .ok decoded) ∧
      ∃ verdict, (parse (.str text)).outcome = .ok verdict ∧
        ∀ violations, verdict = .rejected violations →
          ∃ violation, violations = [violation] ∧ violation.code = .str "parse" := by
  intro holds
  generalize same : '[' :: (tooManyOnes ++ [']']) = whole
  have found : (payload (String.ofList whole)).toList = whole := by
    rw [payload, String.toList_ofList, String.toList_ofList, ← same]
    exact payload_of_digits isDigit_of_mem_tooManyOnes
  have opened : Awaits whole (Container.array.opener :: (tooManyOnes ++ [']'])) :=
    .start (same ▸ .refl _)
  have overlong : OverlongAt whole (tooManyOnes ++ [']']) tooManyOnes.length :=
    ⟨.part (.first opened (.refl _)) (.array _),
      .positive (longDigits_tooManyOnes (unextended_of_ends (ends_cons rfl [])))⟩
  obtain ⟨⟨decoded, returned⟩, -⟩ := holds (String.ofList whole)
  obtain ⟨count, failed⟩ := decode_of_overlongAt (found.symm ▸ overlong)
  cases failed.symm.trans returned

end Conform.ModelOutput
