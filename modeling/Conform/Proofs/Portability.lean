import Conform.Proofs.Decimals
import Conform.Violation.Portable

/-!
# Portable violations

A violation goes abroad as a mapping of plain data, in which all places are texts, and comes back
from it.  What comes back is the violation itself exactly when the text of each place tells whether
it is an index or a name: a negative index comes back as a text, and a text of digits as an index.
A mapping is read exactly when it has the form of a portable violation, except that a text of too
many digits where a place is due keeps it from being read.
-/

namespace Conform

/-! ## Places -/

namespace Value

/-- What a place of a portable path stands for: a text of digits for an index, all else for
itself. -/
def readAsPlace : Value → Value
  | .str text => if Numeral.isDigits text.toList then .int (Digits.read text.toList) else .str text
  | other => other

/-- Whether a place of a portable path is a text of too many digits. -/
def isOverlong : Value → Bool
  | .str text => Numeral.isDigits text.toList && decide (digitLimit < text.length)
  | _ => false

/-- A place that portable paths can hold: an index or a name, and no number that is too long. -/
inductive IsPlace : Value → Prop where
  | index {n : Int} (within : withinDigitLimit n = true) : IsPlace (.int n)
  | name {text : String} (short : (Value.str text).isOverlong = false) : IsPlace (.str text)

/-- Whether the text of a place tells if it is an index or a name: an index is not negative, and a
name is no text of digits. -/
def isTold : Value → Bool
  | .int n => decide (0 ≤ n)
  | .str text => !Numeral.isDigits text.toList
  | _ => true

end Value

namespace Violation

theorem restorePlace_of_str (text : String) :
    restorePlace (.str text) =
      if Numeral.isDigits text.toList then
        if digitLimit < text.length then .error (.digitsToRead text.length)
        else .ok (.int (Digits.read text.toList))
      else .ok (.str text) := by
  rw [← String.length_toList]
  rfl

/-- A place is read as what it stands for, unless it has too many digits. -/
theorem restorePlace_of_short {place : Value} (short : place.isOverlong = false) :
    restorePlace place = .ok place.readAsPlace := by
  cases place with
  | str text =>
      simp only [Value.isOverlong, Bool.and_eq_false_iff, decide_eq_false_iff_not] at short
      rw [restorePlace_of_str, Value.readAsPlace]
      split
      case isTrue digits => rw [if_neg (short.resolve_left (by simp [digits]))]
      case isFalse => rfl
  | _ => rfl

theorem restorePlace_of_overlong {text : String} (overlong : (Value.str text).isOverlong = true) :
    restorePlace (.str text) = .error (.digitsToRead text.length) := by
  obtain ⟨digits, long⟩ := Bool.and_eq_true_iff.mp overlong
  rw [restorePlace_of_str, if_pos digits, if_pos (of_decide_eq_true long)]

/-- Places of which none has too many digits are read as what they stand for. -/
theorem restorePlaces_of_short {places : List Value}
    (short : ∀ place ∈ places, place.isOverlong = false) :
    places.mapM restorePlace = .ok (places.map Value.readAsPlace) := by
  induction places with
  | nil => rfl
  | cons place rest ih =>
      obtain ⟨first, others⟩ := List.forall_mem_cons.mp short
      rw [List.mapM_cons, restorePlace_of_short first, ih others]
      rfl

/-- The first place that has too many digits keeps the others from being read. -/
theorem restorePlaces_of_overlong {places : List Value}
    (overlong : ∃ place ∈ places, place.isOverlong = true) :
    ∃ text, .str text ∈ places ∧ (Value.str text).isOverlong = true ∧
      places.mapM restorePlace = .error (.digitsToRead text.length) := by
  induction places with
  | nil => simp at overlong
  | cons place rest ih =>
      rw [List.mapM_cons]
      cases here : place.isOverlong with
      | true =>
          cases place with
          | str text =>
              refine ⟨text, List.mem_cons_self, here, ?_⟩
              rw [restorePlace_of_overlong here]
              rfl
          | _ => cases here
      | false =>
          obtain ⟨text, among, long, ended⟩ := ih (by simpa [here] using overlong)
          refine ⟨text, List.mem_cons_of_mem _ among, long, ?_⟩
          rw [restorePlace_of_short here, ended]
          rfl

/-! ## Going abroad and coming back -/

/-- What becomes of a place that is written as a text and read again: a negative index stays a
text. -/
def throughText : Value → Value
  | .int n => if 0 ≤ n then .int n else .str (wholeText n)
  | other => other.readAsPlace

@[simp] theorem isDigits_wholeText (n : Int) :
    Numeral.isDigits (wholeText n).toList = decide (0 ≤ n) := by
  by_cases negative : n < 0
  · rw [toList_wholeText_of_neg negative, Numeral.isDigits_cons_of_not rfl,
      decide_eq_false (Int.not_le.mpr negative)]
  · have nonneg := Int.not_lt.mp negative
    rw [wholeText_of_nonneg nonneg, Digits.isDigits_write, decide_eq_true nonneg]

@[simp] theorem readAsPlace_wholeText (n : Int) :
    (Value.str (wholeText n)).readAsPlace = throughText (.int n) := by
  simp only [Value.readAsPlace, throughText, isDigits_wholeText, decide_eq_true_eq]
  by_cases nonneg : 0 ≤ n
  · rw [if_pos nonneg, if_pos nonneg, wholeText_of_nonneg nonneg, Digits.read_write,
      Int.natAbs_of_nonneg nonneg]
  · rw [if_neg nonneg, if_neg nonneg]

@[simp] theorem isOverlong_wholeText {n : Int} (within : withinDigitLimit n = true) :
    (Value.str (wholeText n)).isOverlong = false := by
  rw [Value.isOverlong, isDigits_wholeText]
  by_cases nonneg : 0 ≤ n
  · have short := (Digits.length_write_le_iff n.natAbs).mpr (of_decide_eq_true within)
    rw [String.length_toList] at short
    rw [wholeText_of_nonneg nonneg, decide_eq_false (Nat.not_lt.mpr short), Bool.and_false]
  · rw [decide_eq_false nonneg, Bool.false_and]

theorem plain_of_isPlace {place : Value} (isPlace : place.IsPlace) :
    ∃ text, place.plain = .ok text ∧ (Value.str text).isOverlong = false ∧
      (Value.str text).readAsPlace = throughText place := by
  cases isPlace with
  | @index n within =>
      refine ⟨wholeText n, ?_, isOverlong_wholeText within, readAsPlace_wholeText n⟩
      show writeInt n = _
      rw [writeInt, if_pos within]
  | @name text short => exact ⟨text, rfl, short, rfl⟩

theorem placeTexts_of_isPlace {path : Path} (each : ∀ place ∈ path, place.IsPlace) :
    ∃ texts, placeTexts path = .ok texts ∧
      (texts.map Value.str).mapM restorePlace = .ok (path.map throughText) := by
  induction path with
  | nil => exact ⟨[], rfl, rfl⟩
  | cons place rest ih =>
      obtain ⟨first, others⟩ := List.forall_mem_cons.mp each
      obtain ⟨text, written, short, read⟩ := plain_of_isPlace first
      obtain ⟨texts, restWritten, restRead⟩ := ih others
      refine ⟨text :: texts, ?_, ?_⟩
      · rw [placeTexts, written, restWritten]
        rfl
      · rw [List.map_cons, List.mapM_cons, restorePlace_of_short short, read, restRead]
        rfl

theorem throughText_eq_iff {place : Value} (isPlace : place.IsPlace) :
    throughText place = place ↔ place.isTold = true := by
  cases isPlace with
  | @index n => by_cases nonneg : 0 ≤ n <;> simp [throughText, Value.isTold, nonneg]
  | @name text =>
      cases digits : Numeral.isDigits text.toList <;>
        simp [throughText, Value.readAsPlace, Value.isTold, digits]

theorem beq_throughText {place : Value} (isPlace : place.IsPlace) :
    (throughText place == place) = place.isTold := by
  cases told : place.isTold with
  | true =>
      rw [(throughText_eq_iff isPlace).mpr told]
      cases isPlace with
      | @index n => exact beq_self_eq_true n
      | @name text => exact beq_self_eq_true text
  | false =>
      cases isPlace with
      | @index n =>
          have negative : ¬0 ≤ n := of_decide_eq_false told
          rw [throughText, if_neg negative]
          rfl
      | @name text =>
          have digits : Numeral.isDigits text.toList = true := by simpa [Value.isTold] using told
          simp only [throughText, Value.readAsPlace, digits, if_true]
          rfl

theorem map_throughText_eq_iff {path : Path} (each : ∀ place ∈ path, place.IsPlace) :
    path.map throughText = path ↔ ∀ place ∈ path, place.isTold = true := by
  induction path with
  | nil => simp
  | cons place rest ih =>
      obtain ⟨first, others⟩ := List.forall_mem_cons.mp each
      rw [List.map_cons, List.cons.injEq, throughText_eq_iff first, ih others, List.forall_mem_cons]

theorem beq_map_throughText {path : Path} (each : ∀ place ∈ path, place.IsPlace) :
    (Value.tuple (path.map throughText) == Value.tuple path) = path.all Value.isTold := by
  induction path with
  | nil => rfl
  | cons place rest ih =>
      obtain ⟨first, others⟩ := List.forall_mem_cons.mp each
      rw [List.all_cons, ← beq_throughText first, ← ih others]
      rfl

/-- A violation that can go abroad: its path holds indices and names, its code and its message are
texts, and its details are a mapping, if there are any. -/
structure IsPlain (violation : Violation) : Prop where
  path : ∀ place ∈ violation.path, place.IsPlace
  code : ∃ text, violation.code = .str text
  message : ∃ text, violation.message = .str text
  context : violation.context = .null ∨ ∃ details, violation.context = .map details

theorem ofPortable_of_parts {entries : Entries} {places : List Value} {code message : String}
    {context : Value} (parts : portableParts entries = .ok (places, code, message, context)) :
    ofPortable (.map entries) =
      places.mapM restorePlace >>=
        fun path => .ok (.ok ⟨path, .str code, .str message, context⟩) := by
  rw [ofPortable, parts]
  rfl

/-- A violation comes back as it went, but for the sorts of places that its texts do not tell. -/
theorem ofPortable_toPortable {violation : Violation} (plain : violation.IsPlain) :
    ∃ data, violation.toPortable = .ok data ∧
      ofPortable data = .ok (.ok { violation with path := violation.path.map throughText }) := by
  obtain ⟨path, code, message, context⟩ := violation
  obtain ⟨places, ⟨codeText, rfl⟩, ⟨messageText, rfl⟩, details⟩ := plain
  obtain ⟨texts, written, read⟩ := placeTexts_of_isPlace places
  dsimp only at details ⊢
  rw [toPortable, written]
  obtain rfl | ⟨details, rfl⟩ := details
  all_goals
    refine ⟨_, rfl, ?_⟩
    rw [Value.record, ofPortable_of_parts rfl, read]
    rfl

/-- A violation goes abroad and comes back with its code, its message, its details and as many
places.  It comes back as itself, and its path as one that is equal, exactly when no index is
negative and no name is a text of digits. -/
theorem exists_restored {violation : Violation} (plain : violation.IsPlain) :
    ∃ data restored, violation.toPortable = .ok data ∧ ofPortable data = .ok (.ok restored) ∧
      (restored = violation ↔
        (∀ n, .int n ∈ violation.path → 0 ≤ n) ∧
          ∀ text, .str text ∈ violation.path → Numeral.isDigits text.toList = false) ∧
      ((Value.tuple restored.path == .tuple violation.path) = true ↔ restored = violation) ∧
      restored.code = violation.code ∧ restored.message = violation.message ∧
      restored.context = violation.context ∧ restored.path.length = violation.path.length := by
  obtain ⟨data, written, read⟩ := ofPortable_toPortable plain
  have told : (∀ place ∈ violation.path, place.isTold = true) ↔
      (∀ n, .int n ∈ violation.path → 0 ≤ n) ∧
        ∀ text, .str text ∈ violation.path → Numeral.isDigits text.toList = false := by
    constructor
    · intro told
      exact ⟨fun n among => of_decide_eq_true (told _ among),
        fun text among => by simpa [Value.isTold] using told _ among⟩
    · rintro ⟨indices, names⟩ place among
      cases plain.path place among with
      | index => exact decide_eq_true (indices _ among)
      | name => simpa [Value.isTold] using names _ among
  have same : ({ violation with path := violation.path.map throughText } : Violation) = violation ↔
      ∀ place ∈ violation.path, place.isTold = true := by
    rw [← map_throughText_eq_iff plain.path]
    constructor
    · exact congrArg Violation.path
    · intro same
      cases violation
      exact congrArg (Violation.mk · _ _ _) same
  refine ⟨data, _, written, read, same.trans told, ?_, rfl, rfl, rfl, List.length_map _⟩
  rw [same, beq_map_throughText plain.path, List.all_eq_true]

/-- A path with a name of digits comes back in another form, and with the rest as it went. -/
theorem exists_restored_of_digits :
    (⟨[.str "items", .int 3, .int (-1), .str "007"], .str "type", .str "expected integer",
      .map [(.str "limit", .int 0)]⟩ : Violation).IsPlain ∧
    ∃ data restored,
      toPortable ⟨[.str "items", .int 3, .int (-1), .str "007"], .str "type",
        .str "expected integer", .map [(.str "limit", .int 0)]⟩ = .ok data ∧
      ofPortable data = .ok (.ok restored) ∧ restored.path.length = 4 := by
  have plain : (⟨[.str "items", .int 3, .int (-1), .str "007"], .str "type",
      .str "expected integer", .map [(.str "limit", .int 0)]⟩ : Violation).IsPlain := by
    refine ⟨?_, ⟨_, rfl⟩, ⟨_, rfl⟩, .inr ⟨_, rfl⟩⟩
    simp only [List.forall_mem_cons, List.not_mem_nil, false_imp_iff, implies_true, and_true]
    exact ⟨.name rfl, .index (decide_eq_true ((Digits.length_write_le_iff 3).mp (by decide))),
      .index (decide_eq_true ((Digits.length_write_le_iff 1).mp (by decide))), .name rfl⟩
  obtain ⟨data, restored, written, read, -, -, -, -, -, length⟩ := exists_restored plain
  exact ⟨plain, data, restored, written, read, length⟩

/-! ## Data from abroad -/

/-- Data in the form of a portable violation, with the members of its path. -/
inductive IsPortable : Value → List Value → Prop where
  | intro {entries : Entries} {places : List Value} {code message : String}
    (path : (entries.getText "path").items? = some places)
    (code : entries.getText "code" = .str code)
    (message : entries.getText "message" = .str message)
    (context : entries.getText "context" = .null ∨
      ∃ details, entries.getText "context" = .map details) :
    IsPortable (.map entries) places

@[simp] theorem portablePath_eq_ok_iff {entries : Entries} {places : List Value} :
    portablePath entries = .ok places ↔ (entries.getText "path").items? = some places := by
  rw [portablePath]
  cases entries.getText "path" <;> simp [Value.items?]

@[simp] theorem portableText_eq_ok_iff {entries : Entries} {field text : String} :
    portableText entries field = .ok text ↔ entries.getText field = .str text := by
  rw [portableText]
  cases entries.getText field <;> simp

@[simp] theorem portableContext_eq_ok_iff {entries : Entries} {context : Value} :
    portableContext entries = .ok context ↔ entries.getText "context" = context ∧
      (entries.getText "context" = .null ∨
        ∃ details, entries.getText "context" = .map details) := by
  rw [portableContext]
  cases entries.getText "context" <;> simp

@[simp] theorem portableParts_eq_ok_iff {entries : Entries} {places : List Value}
    {code message : String} {context : Value} :
    portableParts entries = .ok (places, code, message, context) ↔
      portablePath entries = .ok places ∧ portableText entries "code" = .ok code ∧
        portableText entries "message" = .ok message ∧ portableContext entries = .ok context := by
  simp only [portableParts, Attempt.bind_eq_ok_iff, pure, Except.pure, Except.ok.injEq,
    Prod.mk.injEq]
  constructor
  · rintro ⟨_, path, _, code, _, message, _, context, rfl, rfl, rfl, rfl⟩
    exact ⟨path, code, message, context⟩
  · rintro ⟨path, code, message, context⟩
    exact ⟨_, path, _, code, _, message, _, context, rfl, rfl, rfl, rfl⟩

theorem ofPortable_of_isPortable {data : Value} {places : List Value}
    (portable : IsPortable data places) :
    ∃ code message context, ofPortable data =
      places.mapM restorePlace >>=
        fun path => .ok (.ok ⟨path, .str code, .str message, context⟩) := by
  obtain ⟨path, code, message, context⟩ := portable
  exact ⟨_, _, _, ofPortable_of_parts (portableParts_eq_ok_iff.mpr
    ⟨portablePath_eq_ok_iff.mpr path, portableText_eq_ok_iff.mpr code,
      portableText_eq_ok_iff.mpr message, portableContext_eq_ok_iff.mpr ⟨rfl, context⟩⟩)⟩

/-- Data in another form is answered with what is wrong with it. -/
theorem ofPortable_of_not_isPortable {data : Value}
    (other : ∀ places, ¬IsPortable data places) :
    ∃ flaw, ofPortable data = .ok (.error flaw) := by
  cases data with
  | map entries =>
      cases parts : portableParts entries with
      | error flaw => exact ⟨flaw, by rw [ofPortable, parts]⟩
      | ok found =>
          obtain ⟨places, code, message, context⟩ := found
          obtain ⟨path, code, message, context⟩ := portableParts_eq_ok_iff.mp parts
          exact absurd
            (.intro (portablePath_eq_ok_iff.mp path) (portableText_eq_ok_iff.mp code)
              (portableText_eq_ok_iff.mp message) (portableContext_eq_ok_iff.mp context).2)
            (other places)
  | _ => exact ⟨.notMapping, rfl⟩

theorem IsPortable.unique {data : Value} {places others : List Value}
    (portable : IsPortable data places) (again : IsPortable data others) : others = places := by
  cases portable with
  | intro path =>
      cases again with
      | intro same => exact Option.some.inj (same.symm.trans path)

/-- Data is answered unless it has the form of a portable violation and a place of it is a text of
too many digits, which cannot be read.  The answer is a violation exactly when the data has that
form. -/
theorem ofPortable_returns_iff (data : Value) :
    ((∃ answer, ofPortable data = .ok answer) ↔
      ∀ places, IsPortable data places → ∀ place ∈ places, place.isOverlong = false) ∧
    (∀ answer, ofPortable data = .ok answer →
      ((∃ violation, answer = .ok violation) ↔ ∃ places, IsPortable data places)) ∧
    (∀ fault, ofPortable data = .error fault →
      ∃ places text, IsPortable data places ∧ .str text ∈ places ∧
        Numeral.isDigits text.toList = true ∧ digitLimit < text.length ∧
        fault = .digitsToRead text.length) := by
  by_cases portable : ∃ places, IsPortable data places
  · obtain ⟨places, portable⟩ := portable
    obtain ⟨code, message, context, read⟩ := ofPortable_of_isPortable portable
    have only : (∀ others, IsPortable data others → ∀ place ∈ others, place.isOverlong = false) ↔
        ∀ place ∈ places, place.isOverlong = false := by
      constructor
      · exact fun all => all places portable
      · intro short others again
        rwa [portable.unique again]
    rw [only, read]
    by_cases short : ∀ place ∈ places, place.isOverlong = false
    · rw [restorePlaces_of_short short, Attempt.ok_bind]
      refine ⟨iff_of_true ⟨_, rfl⟩ short, ?_, nofun⟩
      rintro _ ⟨⟩
      exact iff_of_true ⟨_, rfl⟩ ⟨places, portable⟩
    · obtain ⟨text, among, overlong, ended⟩ :=
        restorePlaces_of_overlong (by simpa using short)
      rw [ended, Attempt.error_bind]
      refine ⟨iff_of_false nofun short, nofun, ?_⟩
      rintro _ ⟨⟩
      obtain ⟨digits, long⟩ := Bool.and_eq_true_iff.mp overlong
      exact ⟨places, text, portable, among, digits, of_decide_eq_true long, rfl⟩
  · obtain ⟨flaw, answered⟩ :=
      ofPortable_of_not_isPortable (not_exists.mp portable)
    rw [answered]
    refine ⟨iff_of_true ⟨_, rfl⟩ fun places form => absurd ⟨places, form⟩ portable, ?_, nofun⟩
    rintro _ ⟨⟩
    exact iff_of_false nofun portable

/-- Not all data is answered: a text of too many digits where a place is due ends the reading. -/
theorem ofPortable_ends_of_overlong :
    ¬ ∀ data : Value, ∃ answer, ofPortable data = .ok answer ∧
      ((∃ violation, answer = .ok violation) ↔ ∃ places, IsPortable data places) := by
  intro holds
  let numeral := String.ofList (List.replicate (digitLimit + 1) '1')
  have overlong : (Value.str numeral).isOverlong = true := by
    rw [Value.isOverlong, Bool.and_eq_true_iff, ← String.length_toList, String.toList_ofList]
    refine ⟨?_, decide_eq_true ?_⟩
    · rw [List.replicate_succ, Numeral.isDigits, List.all_cons, List.all_replicate]
      rfl
    · rw [List.length_replicate]
      exact Nat.lt_succ_self _
  obtain ⟨answer, answered, -⟩ := holds (.record
    [("path", .list [.str numeral]), ("code", .str "type"), ("message", .str "m")])
  rw [Value.record, ofPortable_of_parts rfl, List.mapM_cons,
    restorePlace_of_overlong overlong] at answered
  cases answered

end Violation

end Conform
