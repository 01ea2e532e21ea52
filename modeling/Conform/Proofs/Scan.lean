import Conform.Json.Extraction

/-!
# Scanning for the end of a payload

The scanner that looks for the end of a payload knows quoted text and one pair of brackets.  A text
is passed over if the scanner goes on behind it at the same depth; such texts follow each other, and
stand between brackets of either pair.  Where the scanner stops, what follows has no part in that.
-/

namespace Conform.Extraction

/-! ## Passing over text -/

/-- A text that takes the scanner from one mode to another and leaves the depth as it is. -/
def Passes (opener closer : Char) (start goal : Mode) (chars : List Char) : Prop :=
  ∀ depth rest, 1 ≤ depth → closingLength? opener closer start depth (chars ++ rest) =
    (closingLength? opener closer goal depth rest).map (· + chars.length)

/-- The brackets of an array, or those of an object. -/
def IsPair (opener closer : Char) : Prop :=
  (opener = '[' ∧ closer = ']') ∨ (opener = '\x7b' ∧ closer = '\x7d')

namespace IsPair

variable {opener closer : Char} {depth : Nat} {rest : List Char}

theorem scan_opener (pair : IsPair opener closer) :
    closingLength? opener closer .plain depth (opener :: rest) =
      (closingLength? opener closer .plain (depth + 1) rest).map (· + 1) := by
  rcases pair with ⟨rfl, rfl⟩ | ⟨rfl, rfl⟩ <;> rfl

/-- The scanner goes one level up at a closing bracket. -/
theorem scan_closer (pair : IsPair opener closer) (deep : 1 ≤ depth) :
    closingLength? opener closer .plain (depth + 1) (closer :: rest) =
      (closingLength? opener closer .plain depth rest).map (· + 1) := by
  have below : ¬depth + 1 ≤ 1 := by omega
  rcases pair with ⟨rfl, rfl⟩ | ⟨rfl, rfl⟩
  · exact if_neg below
  · exact if_neg below

theorem scan_last (pair : IsPair opener closer) :
    closingLength? opener closer .plain 1 (closer :: rest) = some 1 := by
  rcases pair with ⟨rfl, rfl⟩ | ⟨rfl, rfl⟩ <;> rfl

end IsPair

/-- An opening bracket and the one that closes it are a pair. -/
theorem isPair_closerOf {c : Char} (opens : isOpener c = true) : IsPair c (closerOf c) := by
  simp only [isOpener, Bool.or_eq_true, beq_iff_eq] at opens
  rcases opens with rfl | rfl
  · exact .inr ⟨rfl, rfl⟩
  · exact .inl ⟨rfl, rfl⟩

/-- Whether a character means nothing to the scanner outside quoted text, whatever pair it looks
for. -/
def isInert (c : Char) : Bool :=
  !(c == '\x22' || c == '[' || c == ']' || c == '\x7b' || c == '\x7d')

namespace Passes

variable {opener closer : Char} {start middle goal : Mode} {chars more : List Char}

theorem nil : Passes opener closer start start [] := by
  intro depth rest _
  simp only [List.nil_append, List.length_nil, Nat.add_zero]
  exact Option.map_id'.symm

/-- One text after another. -/
theorem append (first : Passes opener closer start middle chars)
    (second : Passes opener closer middle goal more) :
    Passes opener closer start goal (chars ++ more) := by
  intro depth rest deep
  rw [List.append_assoc, first depth _ deep, second depth rest deep, Option.map_map]
  congr 1
  funext count
  simp only [Function.comp, List.length_append]
  omega

theorem single {c : Char} (step : ∀ depth rest, 1 ≤ depth →
    closingLength? opener closer start depth (c :: rest) =
      (closingLength? opener closer goal depth rest).map (· + 1)) :
    Passes opener closer start goal [c] :=
  fun depth rest deep => step depth rest deep

theorem openQuote : Passes opener closer .plain .quoted ['\x22'] :=
  single fun _ _ _ => rfl

theorem closeQuote : Passes opener closer .quoted .plain ['\x22'] :=
  single fun _ _ _ => rfl

theorem backslash : Passes opener closer .quoted .escaped ['\\'] :=
  single fun _ _ _ => rfl

theorem escaped (c : Char) : Passes opener closer .escaped .quoted [c] :=
  single fun _ _ _ => rfl

theorem quoted {c : Char} (noSlash : c ≠ '\\') (noQuote : c ≠ '\x22') :
    Passes opener closer .quoted .quoted [c] := by
  refine single fun depth rest _ => ?_
  simp [closingLength?, beq_eq_false_iff_ne.mpr noSlash, beq_eq_false_iff_ne.mpr noQuote]

theorem plain {c : Char} (noQuote : c ≠ '\x22') (noOpener : c ≠ opener) (noCloser : c ≠ closer) :
    Passes opener closer .plain .plain [c] := by
  refine single fun depth rest _ => ?_
  simp [closingLength?, beq_eq_false_iff_ne.mpr noQuote, beq_eq_false_iff_ne.mpr noOpener,
    beq_eq_false_iff_ne.mpr noCloser]

/-- Inert characters are passed over. -/
theorem inert (pair : IsPair opener closer) (all : ∀ c ∈ chars, isInert c = true) :
    Passes opener closer .plain .plain chars := by
  induction chars with
  | nil => exact nil
  | cons c rest ih =>
      obtain ⟨first, others⟩ := List.forall_mem_cons.mp all
      simp only [isInert, Bool.not_eq_true', Bool.or_eq_false_iff, beq_eq_false_iff_ne] at first
      obtain ⟨⟨⟨⟨noQuote, noSquare⟩, noSquareEnd⟩, noCurly⟩, noCurlyEnd⟩ := first
      have passed : Passes opener closer .plain .plain [c] := by
        rcases pair with ⟨rfl, rfl⟩ | ⟨rfl, rfl⟩
        · exact plain noQuote noSquare noSquareEnd
        · exact plain noQuote noCurly noCurlyEnd
      exact passed.append (ih others)

/-- A text between the brackets of the pair that the scanner looks for goes one level down and up
again. -/
theorem sameBrackets (pair : IsPair opener closer)
    (passed : Passes opener closer .plain .plain chars) :
    Passes opener closer .plain .plain (opener :: (chars ++ [closer])) := by
  intro depth rest deep
  rw [List.cons_append, pair.scan_opener, List.append_assoc, passed (depth + 1) _ (by omega),
    List.singleton_append, pair.scan_closer deep, Option.map_map, Option.map_map]
  congr 1
  funext count
  simp only [Function.comp, List.length_cons, List.length_append, List.length_nil]
  omega

/-- A text between brackets of either pair is passed over. -/
theorem brackets (pair : IsPair opener closer) {left right : Char} (around : IsPair left right)
    (passed : Passes opener closer .plain .plain chars) :
    Passes opener closer .plain .plain (left :: (chars ++ [right])) := by
  have other (leftInert : Passes opener closer .plain .plain [left])
      (rightInert : Passes opener closer .plain .plain [right]) :
      Passes opener closer .plain .plain (left :: (chars ++ [right])) :=
    leftInert.append (passed.append rightInert)
  rcases pair with ⟨rfl, rfl⟩ | ⟨rfl, rfl⟩ <;> rcases around with ⟨rfl, rfl⟩ | ⟨rfl, rfl⟩
  · exact sameBrackets (.inl ⟨rfl, rfl⟩) passed
  · exact other (plain (by decide) (by decide) (by decide))
      (plain (by decide) (by decide) (by decide))
  · exact other (plain (by decide) (by decide) (by decide))
      (plain (by decide) (by decide) (by decide))
  · exact sameBrackets (.inr ⟨rfl, rfl⟩) passed

end Passes

/-! ## Beginnings of texts -/

/-- A text begins with inert characters that are followed by the given rest. -/
def InertUpTo (chars rest : List Char) : Prop :=
  ∃ consumed, chars = consumed ++ rest ∧ ∀ c ∈ consumed, isInert c = true

namespace InertUpTo

variable {chars middle rest : List Char}

theorem refl (chars : List Char) : InertUpTo chars chars :=
  ⟨[], rfl, fun _ among => absurd among List.not_mem_nil⟩

theorem cons {c : Char} (inert : isInert c = true) (others : InertUpTo chars rest) :
    InertUpTo (c :: chars) rest := by
  obtain ⟨consumed, rfl, all⟩ := others
  exact ⟨c :: consumed, rfl, List.forall_mem_cons.mpr ⟨inert, all⟩⟩

theorem trans (first : InertUpTo chars middle) (second : InertUpTo middle rest) :
    InertUpTo chars rest := by
  obtain ⟨consumed, rfl, all⟩ := first
  obtain ⟨more, rfl, moreAll⟩ := second
  refine ⟨consumed ++ more, (List.append_assoc _ _ _).symm, fun c among => ?_⟩
  exact (List.mem_append.mp among).elim (all c) (moreAll c)

end InertUpTo

/-- A text begins with characters that are passed over outside quoted text, followed by the given
rest. -/
def PassesUpTo (opener closer : Char) (chars rest : List Char) : Prop :=
  ∃ consumed, chars = consumed ++ rest ∧ Passes opener closer .plain .plain consumed

namespace PassesUpTo

variable {opener closer : Char} {chars middle rest : List Char}

theorem trans (first : PassesUpTo opener closer chars middle)
    (second : PassesUpTo opener closer middle rest) : PassesUpTo opener closer chars rest := by
  obtain ⟨consumed, rfl, passed⟩ := first
  obtain ⟨more, rfl, morePassed⟩ := second
  exact ⟨consumed ++ more, (List.append_assoc _ _ _).symm, passed.append morePassed⟩

theorem of_inert (pair : IsPair opener closer) (inert : InertUpTo chars rest) :
    PassesUpTo opener closer chars rest := by
  obtain ⟨consumed, rfl, all⟩ := inert
  exact ⟨consumed, rfl, .inert pair all⟩

theorem cons (pair : IsPair opener closer) {c : Char} (inert : isInert c = true)
    (others : PassesUpTo opener closer chars rest) : PassesUpTo opener closer (c :: chars) rest :=
  (of_inert pair (.cons inert (.refl chars))).trans others

theorem enclosed (pair : IsPair opener closer) {left right : Char} (around : IsPair left right)
    (inside : PassesUpTo opener closer chars (right :: rest)) :
    PassesUpTo opener closer (left :: chars) rest := by
  obtain ⟨consumed, rfl, passed⟩ := inside
  exact ⟨left :: (consumed ++ [right]), by simp, passed.brackets pair around⟩

end PassesUpTo

/-! ## Where the scanner stops -/

/-- At each character the scanner stops, which it does at a closing bracket only, or goes on; what
follows the character has no part in that. -/
theorem scan_step (opener closer : Char) (mode : Mode) (depth : Nat) (c : Char) :
    (c = closer ∧ ∀ rest, closingLength? opener closer mode depth (c :: rest) = some 1) ∨
      ∃ next level, ∀ rest, closingLength? opener closer mode depth (c :: rest) =
        (closingLength? opener closer next level rest).map (· + 1) := by
  cases mode with
  | escaped => exact .inr ⟨.quoted, depth, fun _ => rfl⟩
  | quoted => exact .inr ⟨_, depth, fun _ => rfl⟩
  | plain =>
      by_cases quote : c = '\x22'
      · exact .inr ⟨.quoted, depth, fun rest => by simp [closingLength?, quote]⟩
      by_cases opens : c = opener
      · subst opens
        exact .inr ⟨.plain, depth + 1, fun rest => by simp [closingLength?, quote]⟩
      by_cases closes : c = closer
      · subst closes
        by_cases last : depth ≤ 1
        · exact .inl ⟨rfl, fun rest => by simp [closingLength?, quote, opens, last]⟩
        · exact .inr ⟨.plain, depth - 1, fun rest => by
            simp [closingLength?, quote, opens, last]⟩
      · exact .inr ⟨.plain, depth, fun rest => by simp [closingLength?, quote, opens, closes]⟩

/-- The scanner stops at a closing bracket, and at the same one whatever follows it. -/
theorem scan_stops {opener closer : Char} {mode : Mode} {depth length : Nat} {chars : List Char}
    (scanned : closingLength? opener closer mode depth chars = some length) :
    ∃ inner after, chars = inner ++ closer :: after ∧ length = inner.length + 1 ∧
      ∀ rest, closingLength? opener closer mode depth (inner ++ closer :: rest) = some length := by
  induction chars generalizing mode depth length with
  | nil => cases mode <;> cases scanned
  | cons c rest ih =>
      rcases scan_step opener closer mode depth c with ⟨rfl, stops⟩ | ⟨next, level, goesOn⟩
      · rw [stops] at scanned
        cases scanned
        exact ⟨[], rest, rfl, rfl, stops⟩
      · rw [goesOn] at scanned
        obtain ⟨others, later, rfl⟩ := Option.map_eq_some_iff.mp scanned
        obtain ⟨inner, after, rfl, rfl, same⟩ := ih later
        refine ⟨c :: inner, after, rfl, rfl, ?_⟩
        intro rest
        rw [List.cons_append, goesOn, same]
        rfl

/-- The scanner finds nothing in a text that is cut off before the bracket at which it stops. -/
theorem scan_eq_none_of_short {opener closer : Char} {mode : Mode} {depth length : Nat}
    {chars rest : List Char}
    (scanned : closingLength? opener closer mode depth (chars ++ rest) = some length)
    (short : chars.length < length) : closingLength? opener closer mode depth chars = none := by
  cases found : closingLength? opener closer mode depth chars with
  | none => rfl
  | some shorter =>
      obtain ⟨inner, after, rfl, counted, same⟩ := scan_stops found
      have stopped := same (after ++ rest)
      rw [List.append_assoc, List.cons_append, stopped] at scanned
      cases scanned
      rw [List.length_append, List.length_cons] at short
      omega

end Conform.Extraction
