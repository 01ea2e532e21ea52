import Conform.Proofs.Payload
import Mathlib.Data.List.DropRight

/-!
# Finding a payload again

A text without fences and without blanks at its ends is what stripping leaves of itself, and a
payload is the payload of itself.  The second fact rests on the scanner: it looks no further than
the bracket at which it stops, so that it stops there as well when nothing follows.
-/

namespace Conform.Extraction

/-! ## Blanks at the ends -/

/-- No blank stands at either end of a text. -/
structure IsTrimmed (chars : List Char) : Prop where
  front : ∀ c, chars.head? = some c → isBlank c = false
  back : ∀ c, chars.getLast? = some c → isBlank c = false

theorem dropWhile_of_head {p : Char → Bool} {chars : List Char}
    (kept : ∀ c, chars.head? = some c → p c = false) : chars.dropWhile p = chars := by
  cases chars with
  | nil => rfl
  | cons c rest => simp [kept c rfl]

theorem IsTrimmed.trimBlanks_eq {chars : List Char} (trimmed : IsTrimmed chars) :
    trimBlanks chars = chars := by
  have turned : ∀ c, chars.reverse.head? = some c → isBlank c = false := by
    intro c last
    apply trimmed.back
    rwa [List.head?_reverse] at last
  rw [trimBlanks, dropWhile_of_head trimmed.front, dropWhile_of_head turned, List.reverse_reverse]

theorem not_of_head_dropWhile {p : Char → Bool} {chars : List Char} {c : Char}
    (first : (chars.dropWhile p).head? = some c) : p c = false := by
  have stops := List.head?_dropWhile_not p chars
  rwa [first] at stops

/-- Trimming leaves no blank at either end. -/
theorem isTrimmed_trimBlanks (chars : List Char) : IsTrimmed (trimBlanks chars) where
  front := by
    intro c first
    obtain ⟨after, split⟩ := List.rdropWhile_prefix isBlank (chars.dropWhile isBlank)
    have kept : (chars.dropWhile isBlank).head? = some c := by
      rw [← split, List.head?_append]
      exact Option.or_eq_some_iff.mpr (.inl first)
    exact not_of_head_dropWhile kept
  back := by
    intro c last
    rw [trimBlanks, List.getLast?_reverse] at last
    exact not_of_head_dropWhile last

theorem no_mark_strip (chars : List Char) : ¬fenceMark <:+: strip chars := by
  intro marked
  have trimmed := trimBlanks_infix (dropFences 0 chars)
  exact no_mark_dropFences 0 chars (marked.trans trimmed)

theorem strip_of_isTrimmed {chars : List Char} (trimmed : IsTrimmed chars)
    (unmarked : ¬fenceMark <:+: chars) : strip chars = chars := by
  rw [strip, dropFences_of_no_mark unmarked, trimmed.trimBlanks_eq]

@[simp] theorem strip_strip (chars : List Char) : strip (strip chars) = strip chars :=
  strip_of_isTrimmed (isTrimmed_trimBlanks _) (no_mark_strip chars)

/-! ## Payloads -/

/-- The payload that a text begins with: up to the bracket that closes it, or all of it. -/
def leadingPayload (found : List Char) : List Char :=
  match payloadLength? found with
  | some length => found.take length
  | none => found

theorem payload_of_found {chars rest : List Char} {c : Char}
    (found : (strip chars).dropWhile (fun c => !isOpener c) = c :: rest) :
    payload chars = leadingPayload (c :: rest) := by
  simp only [payload, found]
  rfl

/-- A payload begins at the first bracket that opens; without one the text is left as it is. -/
theorem payload_cases (chars : List Char) :
    ((∀ c ∈ strip chars, isOpener c = false) ∧ payload chars = strip chars) ∨
      ∃ before c rest, strip chars = before ++ c :: rest ∧ (∀ d ∈ before, isOpener d = false) ∧
        isOpener c = true ∧ payload chars = leadingPayload (c :: rest) := by
  simp only [payload]
  cases found : (strip chars).dropWhile fun c => !isOpener c with
  | nil =>
      refine .inl ⟨?_, rfl⟩
      simpa [List.dropWhile_eq_nil_iff] using found
  | cons c rest =>
      refine .inr ⟨(strip chars).takeWhile fun c => !isOpener c, c, rest, ?_, ?_, ?_, rfl⟩
      · rw [← found, List.takeWhile_append_dropWhile]
      · intro d among
        simpa using List.mem_takeWhile_imp among
      · have opens := @not_of_head_dropWhile _ _ c (congrArg List.head? found)
        simpa using opens

/-- A payload that begins a text begins with the same bracket, and ends where the text ends or with
the bracket that closes it. -/
theorem leadingPayload_ends (c : Char) (rest : List Char) :
    ∃ inner after, leadingPayload (c :: rest) = c :: inner ∧ rest = inner ++ after ∧
      (after = [] ∨ (c :: inner).getLast? = some (closerOf c)) := by
  cases scanned : payloadLength? (c :: rest) with
  | none =>
      refine ⟨rest, [], ?_, (List.append_nil rest).symm, .inl rfl⟩
      simp [leadingPayload, scanned]
  | some length =>
      obtain ⟨inner, after, split, rfl, _⟩ := scan_stops scanned
      refine ⟨rest.take inner.length, rest.drop inner.length, ?_,
        (List.take_append_drop _ rest).symm, .inr ?_⟩
      · simp [leadingPayload, scanned]
      · rw [← List.take_succ_cons, split, List.take_length_add_append, List.take_succ_cons,
          List.take_zero, List.getLast?_concat]

/-- The payload that begins a payload is all of it. -/
@[simp] theorem leadingPayload_leadingPayload (c : Char) (rest : List Char) :
    leadingPayload (leadingPayload (c :: rest)) = leadingPayload (c :: rest) := by
  cases scanned : payloadLength? (c :: rest) with
  | none => simp only [leadingPayload, scanned]
  | some length =>
      obtain ⟨inner, after, split, counted, same⟩ := scan_stops scanned
      have cut : (c :: rest).take length = inner ++ [closerOf c] := by
        rw [split, counted, List.take_length_add_append, List.take_succ_cons,
          List.take_zero]
      have again : payloadLength? ((c :: rest).take length) = some length := by
        rw [counted, List.take_succ_cons, payloadLength?, ← List.take_succ_cons, ← counted, cut]
        exact same []
      simp [leadingPayload, scanned, again, List.take_take]

@[simp] theorem not_isBlank_closerOf (c : Char) : isBlank (closerOf c) = false := by
  unfold closerOf
  split <;> rfl

/-- A payload has no blanks at its ends. -/
theorem isTrimmed_payload (chars : List Char) : IsTrimmed (payload chars) := by
  have stripped := isTrimmed_trimBlanks (dropFences 0 chars)
  rw [← strip] at stripped
  rcases payload_cases chars with ⟨_, same⟩ | ⟨before, c, rest, split, _, opens, same⟩
  · rwa [same]
  · rw [same]
    obtain ⟨inner, after, begins, rfl, ends⟩ := leadingPayload_ends c rest
    rw [begins]
    constructor
    case front =>
      intro d first
      cases first
      exact not_isBlank_of_isBracket (by simp only [isBracket, opens, Bool.true_or])
    case back =>
      intro d last
      rcases ends with rfl | closed
      · apply stripped.back
        rw [split, List.getLast?_append_cons, List.append_nil, last]
      · rw [closed] at last
        cases last
        exact not_isBlank_closerOf c

theorem payload_congr {chars others : List Char} (same : strip chars = strip others) :
    payload chars = payload others := by
  simp [payload, same]

/-- A payload is a slice of what stripping leaves.  It is all there is if no bracket opens; else it
goes from the first bracket that does to one that closes it, or to the end. -/
theorem payload_slice (chars : List Char) :
    ∃ before after, strip chars = before ++ payload chars ++ after ∧
      (∀ c ∈ before, isOpener c = false) ∧
      (payload chars = strip chars ∧ (∀ c ∈ strip chars, isOpener c = false) ∨
        ∃ c, (payload chars).head? = some c ∧ isOpener c = true ∧
          (after = [] ∨ (payload chars).getLast? = some (closerOf c))) := by
  rcases payload_cases chars with ⟨none, same⟩ | ⟨before, c, rest, split, none, opens, same⟩
  · refine ⟨[], [], ?_, List.forall_mem_nil _, .inl ⟨same, none⟩⟩
    rw [same, List.nil_append, List.append_nil]
  · obtain ⟨inner, after, begins, rfl, ends⟩ := leadingPayload_ends c rest
    rw [same, begins]
    refine ⟨before, after, ?_, none, .inr ⟨c, rfl, opens, ends⟩⟩
    rw [split, List.append_assoc, List.cons_append]

@[simp] theorem strip_payload (chars : List Char) : strip (payload chars) = payload chars := by
  apply strip_of_isTrimmed (isTrimmed_payload chars)
  intro marked
  obtain ⟨before, after, split, _⟩ := payload_slice chars
  exact no_mark_strip chars (marked.trans ⟨before, after, split.symm⟩)

@[simp] theorem payload_payload (chars : List Char) : payload (payload chars) = payload chars := by
  rcases payload_cases chars with ⟨_, same⟩ | ⟨before, c, rest, split, _, opens, same⟩
  · calc payload (payload chars)
      _ = payload (strip chars) := by rw [same]
      _ = payload chars := payload_congr (strip_strip chars)
  · obtain ⟨inner, _, begins, _⟩ := leadingPayload_ends c rest
    have found : (strip (payload chars)).dropWhile (fun c => !isOpener c) = c :: inner := by
      rw [strip_payload, same, begins]
      simp [opens]
    rw [payload_of_found found, same, ← begins, leadingPayload_leadingPayload]

end Conform.Extraction

namespace Conform.ModelOutput

open Extraction

@[simp] theorem toList_stripFences (text : String) :
    (stripFences text).toList = strip text.toList :=
  String.toList_ofList

@[simp] theorem toList_payload (text : String) :
    (payload text).toList = Extraction.payload text.toList :=
  String.toList_ofList

/-- Stripping leaves no three backticks in a row, and nothing to strip.  The payload is a slice of
what it leaves: all of that if no bracket opens, and else what goes from the first bracket that does
to one that closes it, or to the end.  The payload of the payload is the same. -/
theorem extraction_stable (text : String) :
    (¬fenceMark <:+: (stripFences text).toList ∧
      stripFences (stripFences text) = stripFences text) ∧
    (∃ before after, stripFences text = before ++ payload text ++ after ∧
      (∀ c ∈ before.toList, isOpener c = false) ∧
      (payload text = stripFences text ∧ (∀ c ∈ (stripFences text).toList, isOpener c = false) ∨
        ∃ c, (payload text).toList.head? = some c ∧ isOpener c = true ∧
          (after = "" ∨ (payload text).toList.getLast? = some (closerOf c)))) ∧
    payload (payload text) = payload text := by
  refine ⟨⟨?_, ?_⟩, ?_, ?_⟩
  · rw [toList_stripFences]
    exact no_mark_strip text.toList
  · apply String.ext
    rw [toList_stripFences, toList_stripFences, strip_strip]
  · obtain ⟨before, after, split, none, begins⟩ := payload_slice text.toList
    refine ⟨.ofList before, .ofList after, ?_, ?_, ?_⟩
    · rw [stripFences, payload, split, String.ofList_append, String.ofList_append]
    · rwa [String.toList_ofList]
    · rw [toList_stripFences, toList_payload, stripFences, payload]
      refine begins.imp (And.imp_left (congrArg String.ofList)) ?_
      rintro ⟨c, first, opens, ends⟩
      exact ⟨c, first, opens, ends.imp_left (congrArg String.ofList)⟩
  · apply String.ext
    rw [toList_payload, toList_payload, payload_payload]

end Conform.ModelOutput
