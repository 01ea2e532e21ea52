import Conform.ModelOutput
import Conform.Proofs.Closing
import Conform.Proofs.Reading
import Mathlib.Data.List.Infix
import Mathlib.Data.List.TakeWhile

/-!
# Payloads of model output

A JSON text with prose around it is found again as it was written exactly when it holds no code
fence: fences are removed wherever they stand, inside the texts of a payload as well.
-/

namespace Conform.Extraction

/-- Whether a character is an opening or a closing bracket. -/
def isBracket (c : Char) : Bool := isOpener c || c == ']' || c == '\x7d'

/-! ## Fences and brackets -/

/-- A prefix does not reach beyond a character that does not occur in it. -/
theorem isPrefixOf_append_of_not_mem {mark : List Char} (chars rest : List Char) {c : Char}
    (foreign : c ∉ mark) : mark.isPrefixOf (chars ++ c :: rest) = mark.isPrefixOf chars := by
  induction mark generalizing chars with
  | nil => rfl
  | cons first others ih =>
      obtain ⟨differs, foreign⟩ : c ≠ first ∧ c ∉ others :=
        ⟨fun same => foreign (same ▸ List.mem_cons_self),
          fun among => foreign (List.mem_cons_of_mem _ among)⟩
      cases chars with
      | nil =>
          have unequal : (first == c) = false := beq_eq_false_iff_ne.mpr (Ne.symm differs)
          simp [List.isPrefixOf, unequal]
      | cons x chars => simp [List.isPrefixOf, ih chars foreign]

theorem not_isTag_of_bracket {a b c d x : Char} (bracket : isBracket x = true)
    (among : x ∈ [a, b, c, d]) : isTag a b c d = false := by
  rw [Bool.eq_false_iff]
  intro tagged
  simp only [isTag, Bool.and_eq_true, Bool.or_eq_true, beq_iff_eq] at tagged
  obtain ⟨⟨⟨first, second⟩, third⟩, fourth⟩ := tagged
  simp only [List.mem_cons, List.not_mem_nil, or_false] at among
  rcases among with rfl | rfl | rfl | rfl
  · rcases first with rfl | rfl <;> cases bracket
  · rcases second with (rfl | rfl) | rfl <;> cases bracket
  · rcases third with rfl | rfl <;> cases bracket
  · rcases fourth with rfl | rfl <;> cases bracket

theorem not_isTagged_of_bracket {chars : List Char} {c : Char} (bracket : isBracket c = true)
    (among : c ∈ chars.take 4) : isTagged chars = false := by
  unfold isTagged
  split
  · exact not_isTag_of_bracket bracket among
  · rfl

theorem isTagged_append_bracket (chars rest : List Char) {c : Char}
    (bracket : isBracket c = true) : isTagged (chars ++ c :: rest) = isTagged chars := by
  rcases chars with _ | ⟨first, _ | ⟨second, _ | ⟨third, _ | ⟨fourth, others⟩⟩⟩⟩
  case cons.cons.cons.cons => rfl
  all_goals exact not_isTagged_of_bracket bracket (by simp)

theorem length_of_isTagged {chars : List Char} (tagged : isTagged chars = true) :
    4 ≤ chars.length := by
  unfold isTagged at tagged
  split at tagged
  · simp
  · cases tagged

theorem not_mem_fenceMark {c : Char} (bracket : isBracket c = true) : c ∉ fenceMark := by
  rintro among
  simp only [fenceMark, List.mem_cons, List.not_mem_nil, or_false, or_self] at among
  subst among
  cases bracket

theorem fenceLength_append_bracket (chars rest : List Char) {c : Char}
    (bracket : isBracket c = true) : fenceLength (chars ++ c :: rest) = fenceLength chars := by
  have sameMark := isPrefixOf_append_of_not_mem chars rest (not_mem_fenceMark bracket)
  simp only [fenceLength, sameMark]
  split
  case isFalse => rfl
  case isTrue marked =>
    obtain ⟨more, rfl⟩ := List.isPrefixOf_iff_prefix.mp marked
    have sameTag := isTagged_append_bracket more rest bracket
    rw [List.append_assoc]
    exact congrArg (fun tagged => if tagged then 7 else 3) sameTag

theorem fenceLength_le_length (chars : List Char) : fenceLength chars ≤ chars.length := by
  unfold fenceLength
  split
  case isFalse => exact Nat.zero_le _
  case isTrue marked =>
    obtain ⟨more, rfl⟩ := List.isPrefixOf_iff_prefix.mp marked
    rw [List.length_append]
    split
    case isTrue tagged => exact Nat.add_le_add_left (length_of_isTagged tagged) 3
    case isFalse => exact Nat.le_add_right 3 _

@[simp] theorem fenceLength_bracket (rest : List Char) {c : Char} (bracket : isBracket c = true) :
    fenceLength (c :: rest) = 0 :=
  fenceLength_append_bracket [] rest bracket

@[simp] theorem fenceLength_eq_zero_iff {chars : List Char} :
    fenceLength chars = 0 ↔ ¬fenceMark <+: chars := by
  rw [← List.isPrefixOf_iff_prefix, fenceLength]
  split
  case isTrue marked =>
    split <;> simp [marked]
  case isFalse unmarked => simp [unmarked]

/-- Removing fences leaves brackets where they are, and what precedes a bracket does not affect what
follows it. -/
theorem dropFences_append_bracket {skip : Nat} {chars : List Char} (rest : List Char) {c : Char}
    (bracket : isBracket c = true) (within : skip ≤ chars.length) :
    dropFences skip (chars ++ c :: rest) = dropFences skip chars ++ c :: dropFences 0 rest := by
  induction chars generalizing skip with
  | nil =>
      cases Nat.le_zero.mp within
      simp [dropFences, fenceLength_bracket rest bracket]
  | cons first others ih =>
      cases skip with
      | succ skip => exact ih (Nat.le_of_succ_le_succ within)
      | zero =>
          have same := fenceLength_append_bracket (first :: others) rest bracket
          have bound := fenceLength_le_length (first :: others)
          rw [List.cons_append] at same ⊢
          simp only [dropFences, same]
          generalize fenceLength (first :: others) = length at bound
          cases length with
          | zero => exact congrArg (first :: ·) (ih (Nat.zero_le _))
          | succ length => exact ih (Nat.le_of_succ_le_succ bound)

theorem dropFences_of_no_mark {chars : List Char} (unmarked : ¬fenceMark <:+: chars) :
    dropFences 0 chars = chars := by
  induction chars with
  | nil => rfl
  | cons c rest ih =>
      have none : fenceLength (c :: rest) = 0 :=
        fenceLength_eq_zero_iff.mpr fun front => unmarked front.isInfix
      have later : ¬fenceMark <:+: rest := by
        intro inside
        exact unmarked (List.infix_cons inside)
      simp [dropFences, none, ih later]

theorem cons_of_dropFences {chars more : List Char} {c : Char} (unmarked : ¬fenceMark <+: chars)
    (kept : dropFences 0 chars = c :: more) :
    ∃ rest, chars = c :: rest ∧ more = dropFences 0 rest := by
  cases chars with
  | nil => cases kept
  | cons first rest =>
      simp only [dropFences, fenceLength_eq_zero_iff.mpr unmarked, List.cons.injEq] at kept
      obtain ⟨rfl, rfl⟩ := kept
      exact ⟨rest, rfl, rfl⟩

/-- No fence is left when fences are removed. -/
theorem no_mark_dropFences (skip : Nat) (chars : List Char) :
    ¬fenceMark <:+: dropFences skip chars := by
  induction chars generalizing skip with
  | nil =>
      intro marked
      have empty : dropFences skip [] = [] := by cases skip <;> rfl
      rw [empty] at marked
      cases List.infix_nil.mp marked
  | cons c rest ih =>
      cases skip with
      | succ skip => exact ih skip
      | zero =>
          simp only [dropFences]
          split
          case h_2 => exact ih _
          case h_1 none =>
            have unmarked := fenceLength_eq_zero_iff.mp none
            intro marked
            rcases List.infix_cons_iff.mp marked with front | inside
            · -- Backticks that are kept were there, so that all three of them were.
              obtain ⟨rfl, others⟩ := List.cons_prefix_cons.mp front
              obtain ⟨tail, kept⟩ := others
              have second : ¬fenceMark <+: rest := by
                rintro ⟨tail, rfl⟩
                exact unmarked ⟨'\x60' :: tail, rfl⟩
              obtain ⟨rest, rfl, others⟩ := cons_of_dropFences second kept.symm
              have third : ¬fenceMark <+: rest := by
                rintro ⟨tail, rfl⟩
                exact unmarked ⟨'\x60' :: '\x60' :: tail, rfl⟩
              obtain ⟨rest, rfl, _⟩ := cons_of_dropFences third others.symm
              exact unmarked ⟨rest, rfl⟩
            · exact ih 0 inside

/-! ## Finding a payload -/

theorem dropWhile_append_stop {p : Char → Bool} (chars rest : List Char) {c : Char}
    (stops : p c = false) :
    (chars ++ c :: rest).dropWhile p = chars.dropWhile p ++ c :: rest := by
  have stopped : (c :: rest).dropWhile p = c :: rest :=
    List.dropWhile_cons_of_neg (Bool.not_eq_true _ ▸ stops)
  rw [List.dropWhile_append, stopped]
  split
  case isTrue dropped => rw [List.isEmpty_iff.mp dropped, List.nil_append]
  case isFalse => rfl

@[simp] theorem not_isBlank_of_isBracket {c : Char} (bracket : isBracket c = true) :
    isBlank c = false := by
  simp only [isBracket, isOpener, Bool.or_eq_true, beq_iff_eq] at bracket
  rcases bracket with ((rfl | rfl) | rfl) | rfl <;> rfl

theorem trimBlanks_append_brackets (before inner after : List Char) {c d : Char}
    (first : isBracket c = true) (last : isBracket d = true) :
    trimBlanks (before ++ c :: (inner ++ d :: after)) =
      before.dropWhile isBlank ++
        c :: (inner ++ d :: (after.reverse.dropWhile isBlank).reverse) := by
  have turned : (before.dropWhile isBlank ++ c :: (inner ++ d :: after)).reverse =
      after.reverse ++ d :: (before.dropWhile isBlank ++ c :: inner).reverse := by simp
  rw [trimBlanks, dropWhile_append_stop _ _ (not_isBlank_of_isBracket first), turned,
    dropWhile_append_stop _ _ (not_isBlank_of_isBracket last)]
  simp

theorem trimBlanks_infix (chars : List Char) : trimBlanks chars <:+: chars := by
  have back : ∀ chars : List Char, (chars.reverse.dropWhile isBlank).reverse <+: chars := by
    intro chars
    have kept := List.reverse_prefix.mpr (List.dropWhile_suffix isBlank (l := chars.reverse))
    rwa [List.reverse_reverse] at kept
  exact (back _).isInfix.trans (List.dropWhile_suffix isBlank).isInfix

theorem payload_infix (chars : List Char) : payload chars <:+: dropFences 0 chars := by
  have stripped := trimBlanks_infix (dropFences 0 chars)
  have found := (List.dropWhile_suffix (fun c => !isOpener c) (l := strip chars)).isInfix.trans
    stripped
  simp only [payload]
  split
  · exact stripped
  · split
    · exact (List.take_prefix _ _).isInfix.trans found
    · exact found

/-- Removing fences adds no character. -/
theorem mem_of_mem_dropFences {skip : Nat} {chars : List Char} {c : Char}
    (among : c ∈ dropFences skip chars) : c ∈ chars := by
  induction chars generalizing skip with
  | nil => cases skip <;> cases among
  | cons first rest ih =>
      cases skip with
      | succ skip => exact List.mem_cons_of_mem _ (ih among)
      | zero =>
          simp only [dropFences] at among
          split at among
          · rcases List.mem_cons.mp among with rfl | later
            · exact List.mem_cons_self
            · exact List.mem_cons_of_mem _ (ih later)
          · exact List.mem_cons_of_mem _ (ih among)

/-- A text between brackets that is scanned as a whole and holds no fence is found whatever
surrounds it, if no bracket opens before it. -/
theorem payload_of_unmarked {before inner : List Char} (after : List Char) {c : Char}
    (opens : isOpener c = true) (prose : ∀ c ∈ before, isOpener c = false)
    (unmarked : ¬fenceMark <:+: inner)
    (closes : ∀ rest, payloadLength? (c :: (inner ++ closerOf c :: rest)) =
      some (inner.length + 2)) :
    payload (before ++ c :: (inner ++ closerOf c :: after)) = c :: (inner ++ [closerOf c]) := by
  have first : isBracket c = true := by simp only [isBracket, opens, Bool.true_or]
  have last : isBracket (closerOf c) = true := by
    rcases isPair_closerOf opens with ⟨_, closer⟩ | ⟨_, closer⟩ <;> rw [closer] <;> rfl
  have freed : dropFences 0 (before ++ c :: (inner ++ closerOf c :: after)) =
      dropFences 0 before ++ c :: (inner ++ closerOf c :: dropFences 0 after) := by
    rw [dropFences_append_bracket _ first (Nat.zero_le _),
      dropFences_append_bracket _ last (Nat.zero_le _), dropFences_of_no_mark unmarked]
  have skipped : ∀ c ∈ (dropFences 0 before).dropWhile isBlank, (!isOpener c) = true := by
    intro c among
    rw [prose c (mem_of_mem_dropFences ((List.dropWhile_sublist isBlank).subset among))]
    rfl
  have stops : (!isOpener c) ≠ true := by simp [opens]
  simp only [payload, strip, freed, trimBlanks_append_brackets _ _ _ first last,
    List.dropWhile_append_of_pos skipped]
  rw [List.dropWhile_cons_of_neg (p := fun c => !isOpener c) stops]
  dsimp only
  rw [closes]
  simp [List.take_append]

theorem isBlank_of_mem_of_blanks {c : Char} {chars : List Char}
    (blanks : Json.Grammar.Blanks chars []) (among : c ∈ chars) : Json.isBlank c = true := by
  generalize ending : [] = rest at blanks
  induction blanks with
  | refl =>
      subst ending
      cases among
  | cons blank _ ih =>
      rcases List.mem_cons.mp among with rfl | later
      · exact blank
      · exact ih later ending

/-- Text between brackets that the reader takes is a value with nothing around it. -/
theorem datum_of_readWhole {inner : List Char} {c : Char} {value : Value}
    (opens : isOpener c = true) (read : Json.readWhole (c :: (inner ++ [closerOf c])) = .ok value) :
    Json.Grammar.Datum (c :: (inner ++ [closerOf c])) [] := by
  obtain ⟨before, derived, after⟩ := Json.Grammar.document_of_readWhole read
  rename_i front rest
  cases before with
  | cons blank => rcases isPair_closerOf opens with ⟨rfl, _⟩ | ⟨rfl, _⟩ <;> cases blank
  | refl =>
      obtain ⟨consumed, same, _⟩ := payloadLength_of_datum opens derived
      -- The text ends with a bracket, so that no blank is left behind the value.
      rcases List.eq_nil_or_concat' rest with rfl | ⟨blanks, last, rfl⟩
      · exact derived
      · rw [← List.cons_append, ← List.append_assoc] at same
        obtain ⟨_, ends⟩ := List.append_inj' same rfl
        cases ends
        have blank := isBlank_of_mem_of_blanks after List.mem_concat_self
        rcases isPair_closerOf opens with ⟨_, closer⟩ | ⟨_, closer⟩ <;> rw [closer] at blank <;>
          cases blank

theorem payloadLength_of_readWhole {inner : List Char} {c : Char} {value : Value}
    (opens : isOpener c = true) (read : Json.readWhole (c :: (inner ++ [closerOf c])) = .ok value)
    (rest : List Char) :
    payloadLength? (c :: (inner ++ closerOf c :: rest)) = some (inner.length + 2) := by
  obtain ⟨consumed, same, closes⟩ := payloadLength_of_datum opens (datum_of_readWhole opens read)
  obtain ⟨rfl, -⟩ := List.append_inj' same rfl
  exact closes rest

/-- A text from an opening bracket to the bracket that closes it. -/
def IsBracketed (chars : List Char) : Prop :=
  ∃ c inner, isOpener c = true ∧ chars = c :: (inner ++ [closerOf c])

/-- The payload that the reader takes is found unless it holds a fence. -/
theorem payload_eq_iff (before after : List Char) {text : List Char} {value : Value}
    (bracketed : IsBracketed text) (accepted : Json.readWhole text = .ok value)
    (prose : ∀ c ∈ before, isOpener c = false) :
    payload (before ++ text ++ after) = text ↔ ¬fenceMark <:+: text := by
  constructor
  · intro found marked
    have kept := payload_infix (before ++ text ++ after)
    rw [found] at kept
    exact no_mark_dropFences 0 _ (marked.trans kept)
  · intro unmarked
    obtain ⟨c, inner, opens, rfl⟩ := bracketed
    have innerUnmarked : ¬fenceMark <:+: inner := by
      intro marked
      apply unmarked
      exact List.infix_cons (marked.trans (List.prefix_append inner _).isInfix)
    have found := payload_of_unmarked after opens prose innerUnmarked
      (payloadLength_of_readWhole opens accepted)
    simpa only [List.append_assoc, List.cons_append, List.nil_append] using found

end Conform.Extraction

namespace Conform.ModelOutput

open Extraction

theorem readWhole_of_read {text : String} {value : Value}
    (accepted : Json.read text = .ok (.ok value)) : Json.readWhole text.toList = .ok value := by
  simp only [Json.read] at accepted
  split at accepted
  case h_1 taken =>
      cases accepted
      exact taken
  case h_2 => cases accepted
  case h_3 => cases accepted

/-- A JSON text between brackets is found and decoded as it was written, whatever surrounds it,
exactly when it holds no code fence. -/
theorem decodes_as_written_iff (before text after : String) (value : Value)
    (accepted : Json.read text = .ok (.ok value)) (bracketed : IsBracketed text.toList)
    (prose : ∀ c ∈ before.toList, isOpener c = false) :
    (payload (before ++ text ++ after) = text ∧
        decode (before ++ text ++ after) = .ok (.ok value)) ↔
      ¬fenceMark <:+: text.toList := by
  have written : payload (before ++ text ++ after) = text ↔ ¬fenceMark <:+: text.toList := by
    rw [payload, ← payload_eq_iff before.toList after.toList bracketed
      (readWhole_of_read accepted) prose, ← String.toList_inj, String.toList_ofList,
        String.toList_append,
      String.toList_append]
  rw [← written]
  constructor
  · exact And.left
  · intro found
    refine ⟨found, ?_⟩
    rw [decode, found, accepted]

/-- A fenced payload with prose around it. -/
theorem decodes_fenced_object :
    decode ("As JSON:\n\x60\x60\x60json\n" ++ "\x7b\"a\": [1]\x7d" ++ "\n\x60\x60\x60 or \x7b") =
      .ok (.ok (.map [(.str "a", .list [.int 1])])) := by
  have accepted : Json.read "\x7b\"a\": [1]\x7d" =
      .ok (.ok (.map [(.str "a", .list [.int 1])])) := by cbv
  have bracketed : IsBracketed "\x7b\"a\": [1]\x7d".toList :=
    ⟨'\x7b', "\"a\": [1]".toList, rfl, by decide⟩
  have prose : ∀ c ∈ "As JSON:\n\x60\x60\x60json\n".toList, isOpener c = false := by
    simp [isOpener]
  have unmarked : ¬fenceMark <:+: "\x7b\"a\": [1]\x7d".toList := by decide
  exact ((decodes_as_written_iff _ _ "\n\x60\x60\x60 or \x7b" _ accepted bracketed prose).mpr
    unmarked).2

/-- A fence in a text of a payload is removed from it, without a word about it. -/
theorem decode_fence_in_text :
    Json.read "\x7b\"a\": \"\x60\x60\x60\"\x7d" =
        .ok (.ok (.map [(.str "a", .str "\x60\x60\x60")])) ∧
      IsBracketed "\x7b\"a\": \"\x60\x60\x60\"\x7d".toList ∧
      payload ("" ++ "\x7b\"a\": \"\x60\x60\x60\"\x7d" ++ "") = "\x7b\"a\": \"\"\x7d" ∧
      decode ("" ++ "\x7b\"a\": \"\x60\x60\x60\"\x7d" ++ "") =
        .ok (.ok (.map [(.str "a", .str "")])) := by
  refine ⟨?_, ?_, ?_, ?_⟩
  · cbv
  · exact ⟨'\x7b', "\"a\": \"\x60\x60\x60\"".toList, rfl, by decide⟩
  · cbv
  · cbv

end Conform.ModelOutput
