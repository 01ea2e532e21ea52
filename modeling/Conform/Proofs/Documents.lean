import Conform.Proofs.Admission
import Conform.Proofs.Soundness

/-!
# Documents of types and validation

The document of a type admits the JSON data that the type accepts, if a `oneOf` is read so that one
branch or more suffices.  By the standard exactly one branch has to match, and a union accepts by
its first alternative; the document then admits what is accepted exactly where unions single out
alternatives, for which it is enough that the alternatives are of different sorts.
-/

namespace Conform

/-! ## JSON values and their sorts -/

mutual

/-- Whether a value is made of JSON data only: finite numbers, lists, and mappings with text
keys. -/
def Value.isJson : Value → Bool
  | .null | .bool _ | .int _ | .str _ => true
  | .float x => x.isFinite
  | .list items => Value.allJson items
  | .map entries => Value.entriesJson entries
  | _ => false

/-- Whether all of the values are JSON data. -/
def Value.allJson : List Value → Bool
  | [] => true
  | value :: rest => value.isJson && Value.allJson rest

/-- Whether the keys of entries are texts, and their values JSON data. -/
def Value.entriesJson : List (Value × Value) → Bool
  | [] => true
  | (.str _, value) :: rest => value.isJson && Value.entriesJson rest
  | _ :: _ => false

end

namespace Value

@[simp] theorem allJson_iff {items : List Value} :
    allJson items = true ↔ ∀ item ∈ items, item.isJson = true := by
  induction items with
  | nil => simp [allJson]
  | cons item rest ih => simp [allJson, ih]

theorem entryJson_of_entriesJson {entries : Entries} (json : entriesJson entries = true) :
    ∀ entry ∈ entries, entry.2.isJson = true := by
  induction entries with
  | nil => exact List.forall_mem_nil _
  | cons entry rest ih =>
      obtain ⟨key, value⟩ := entry
      cases key with
      | str name =>
          obtain ⟨valueJson, restJson⟩ := Bool.and_eq_true_iff.mp json
          exact List.forall_mem_cons.mpr ⟨valueJson, ih restJson⟩
      | _ => cases json

end Value

/-- The sorts of JSON values.  A number without a fraction is whole, however it is written. -/
inductive JsonSort where
  | null | boolean | whole | fractional | text | array | object
deriving DecidableEq

/-- The sort of a JSON value. -/
def Value.sort? : Value → Option JsonSort
  | .null => some .null
  | .bool _ => some .boolean
  | .int _ => some .whole
  | .float x => some (if x.isWhole then .whole else .fractional)
  | .str _ => some .text
  | .list _ => some .array
  | .map _ => some .object
  | _ => none

theorem Value.exists_sort_of_isJson {value : Value} (json : value.isJson = true) :
    ∃ sort, value.sort? = some sort := by
  cases value with
  | null | bool | int | float | str | list | map => exact ⟨_, rfl⟩
  | _ => cases json

/-- The sorts of the values that a primitive kind depicts. -/
def Kind.sorts : Kind → List JsonSort
  | .any => [.null, .boolean, .whole, .fractional, .text, .array, .object]
  | .string | .atom => [.text]
  | .integer => [.whole]
  | .float => [.whole, .fractional]
  | .boolean => [.boolean]
  | .map => [.object]

theorem Kind.mem_sorts {kind : Kind} {value : Value} {sort : JsonSort}
    (sorted : value.sort? = some sort) (depicted : Admission.kind kind value = true) :
    sort ∈ kind.sorts := by
  cases kind with
  | any => cases sort <;> decide
  | string | atom =>
      cases value with
      | str text =>
          cases sorted
          exact List.mem_singleton_self _
      | _ => cases depicted
  | integer =>
      cases value with
      | int n =>
          cases sorted
          exact List.mem_singleton_self _
      | float x =>
          have whole : x.isWhole = true := depicted
          rw [Value.sort?, if_pos whole] at sorted
          cases sorted
          exact List.mem_singleton_self _
      | _ => cases depicted
  | float =>
      cases value with
      | int n =>
          cases sorted
          exact List.mem_cons_self
      | float x =>
          cases sorted
          split <;> decide
      | _ => cases depicted
  | boolean =>
      cases value with
      | bool flag =>
          cases sorted
          exact List.mem_singleton_self _
      | _ => cases depicted
  | map =>
      cases value with
      | map entries =>
          cases sorted
          exact List.mem_singleton_self _
      | _ => cases depicted

mutual

/-- The sorts of the values that a type depicts. -/
def TypeSpec.sorts : TypeSpec → List JsonSort
  | .primitive kind => kind.sorts
  | .array .. | .tuple _ => [.array]
  | .map .. => [.object]
  | .union alternatives => TypeSpec.sortsOf alternatives
  | .unknownKind _ | .ref _ | .rawUnion _ | .rawTuple _ | .raw _ => []

/-- The sorts of the values that types depict, type by type. -/
def TypeSpec.sortsOf : List TypeSpec → List JsonSort
  | [] => []
  | spec :: rest => TypeSpec.sorts spec ++ TypeSpec.sortsOf rest

end

mutual

/-- What a type depicts is of one of its sorts, if a union needs a branch. -/
theorem TypeSpec.mem_sorts {matching : Nat → Bool} (needsOne : matching 0 = false) {value : Value}
    {sort : JsonSort} (sorted : value.sort? = some sort) : (spec : TypeSpec) →
    spec.depicts matching value = true → sort ∈ spec.sorts
  | .primitive kind, depicted => Kind.mem_sorts sorted depicted
  | .array inner minItems maxItems, depicted => by
      cases value with
      | list items =>
          cases sorted
          exact List.mem_singleton_self _
      | _ => cases depicted
  | .tuple elements, depicted => by
      cases value with
      | list items =>
          cases sorted
          exact List.mem_singleton_self _
      | _ => cases depicted
  | .map key inner, depicted => by
      cases value with
      | map entries =>
          cases sorted
          exact List.mem_singleton_self _
      | _ => cases depicted
  | .union alternatives, depicted => by
      have found : ∃ admits ∈ TypeSpec.depictions matching alternatives, admits value = true := by
        rw [← List.countP_pos_iff]
        refine Nat.pos_of_ne_zero fun none => ?_
        rw [depicts, Admission.union, none, needsOne] at depicted
        cases depicted
      obtain ⟨admits, among, admitted⟩ := found
      exact TypeSpec.mem_sortsOf needsOne sorted alternatives admits among admitted
  | .unknownKind _, depicted => nomatch depicted
  | .ref _, depicted => nomatch depicted
  | .rawUnion _, depicted | .rawTuple _, depicted | .raw _, depicted => nomatch depicted

theorem TypeSpec.mem_sortsOf {matching : Nat → Bool} (needsOne : matching 0 = false) {value : Value}
    {sort : JsonSort} (sorted : value.sort? = some sort) : (specs : List TypeSpec) →
    ∀ admits ∈ TypeSpec.depictions matching specs, admits value = true →
      sort ∈ TypeSpec.sortsOf specs
  | [], admits, among, _ => nomatch among
  | spec :: rest, admits, among, admitted => by
      rcases List.mem_cons.mp among with rfl | later
      · exact List.mem_append_left _ (TypeSpec.mem_sorts needsOne sorted spec admitted)
      · exact List.mem_append_right _
          (TypeSpec.mem_sortsOf needsOne sorted rest admits later admitted)

end

namespace TypeSpec

/-- Whether the alternatives of a single union are of different sorts. -/
def isApartNode : TypeSpec → Bool
  | .union alternatives => decide (sortsOf alternatives).Nodup
  | _ => true

/-- Whether the sort of a value tells the alternatives of unions apart. -/
def isApart (spec : TypeSpec) : Bool := spec.everywhere isApartNode

/-- No two of several types without a sort in common depict a value. -/
theorem count_le_one {matching : Nat → Bool} (needsOne : matching 0 = false) {value : Value}
    {sort : JsonSort} (sorted : value.sort? = some sort) {specs : List TypeSpec}
    (apart : (sortsOf specs).Nodup) :
    (depictions matching specs).countP (fun admits => admits value) ≤ 1 := by
  -- A value has one sort: if the first type depicts it, none of the others does.
  induction specs with
  | nil => exact Nat.zero_le _
  | cons spec rest ih =>
      obtain ⟨_, restApart, disjoint⟩ := List.nodup_append.mp apart
      rw [depictions, List.countP_cons]
      split
      case isTrue admitted =>
        have none : (depictions matching rest).countP (fun admits => admits value) = 0 := by
          rw [List.countP_eq_zero]
          intro admits among also
          exact disjoint sort (mem_sorts needsOne sorted spec admitted) sort
            (mem_sortsOf needsOne sorted rest admits among also) rfl
        exact Nat.le_of_eq (congrArg Nat.succ none)
      case isFalse => exact ih restApart

end TypeSpec

/-! ## What types accept -/

/-- An admission that covers what has a fit among JSON data. -/
def Fit.CoveredBy (fit : Fit) (admits : Admission) : Prop :=
  ∀ {value result}, value.isJson = true → fit value result → admits value = true

namespace Fit

theorem kind_covered (kind : Kind) : (Fit.kind kind).CoveredBy (Admission.kind kind) := by
  rintro value result json ⟨rfl, admitted⟩
  cases kind with
  | any => rfl
  | atom =>
      cases result with
      | symbol | member => cases json
      | _ => cases admitted
  | _ => cases result <;> first | rfl | cases admitted

variable {inner : Fit} {admits : Admission} {fits : List Fit} {admissions : List Admission}

theorem array_covered (covered : inner.CoveredBy admits) (minItems maxItems : Value) :
    (Fit.array inner minItems maxItems).CoveredBy (Admission.array admits minItems maxItems) := by
  rintro value result json ⟨items, results, found, rfl, each, bounded⟩
  cases value with
  | list members =>
      cases found
      have both := (List.forall₂_and_left _ _).mpr ⟨Value.allJson_iff.mp json, each⟩
      have admitted : ∀ item ∈ items, admits item = true :=
        forall_mem_of_forall₂ (both.imp fun _ _ ⟨itemJson, fits⟩ => covered itemJson fits).flip
      rw [Admission.array, List.all_eq_true.mpr admitted, each.length_eq, bounded]
      rfl
  | tuple members => cases json
  | _ => cases found

theorem exists_admits_of_mem (covered : List.Forall₂ CoveredBy fits admissions)
    {value result : Value} (json : value.isJson = true) {fit : Fit} (among : fit ∈ fits)
    (fitted : fit value result) :
    ∃ admits ∈ admissions, admits value = true := by
  induction covered with
  | nil => cases among
  | cons first _ ih =>
      rcases List.mem_cons.mp among with rfl | later
      · exact ⟨_, List.mem_cons_self, first json fitted⟩
      · obtain ⟨admits, admitsAmong, admitted⟩ := ih later
        exact ⟨admits, List.mem_cons_of_mem _ admitsAmong, admitted⟩

theorem union_covered (covered : List.Forall₂ CoveredBy fits admissions) {matching : Nat → Bool}
    (settled : ∀ {value : Value}, value.isJson = true →
      0 < admissions.countP (fun admits => admits value) →
      matching (admissions.countP fun admits => admits value) = true) :
    (Fit.union fits).CoveredBy (Admission.union matching admissions) := by
  rintro value result json ⟨fit, among, fitted⟩
  exact settled json (List.countP_pos_iff.mpr (exists_admits_of_mem covered json among fitted))

theorem Each.covered {items results : List Value} (each : Each fits items results)
    (covered : List.Forall₂ CoveredBy fits admissions) (json : ∀ item ∈ items, item.isJson = true) :
    items.length = admissions.length ∧ ∀ part ∈ admissions.zip items, part.1 part.2 = true := by
  induction covered generalizing items results with
  | nil =>
      cases each
      exact ⟨rfl, List.forall_mem_nil _⟩
  | cons first _ ih =>
      cases each with
      | cons fitted others =>
          obtain ⟨itemJson, othersJson⟩ := List.forall_mem_cons.mp json
          obtain ⟨length, admitted⟩ := ih others othersJson
          constructor
          · exact congrArg Nat.succ length
          · exact List.forall_mem_cons.mpr ⟨first itemJson fitted, admitted⟩

theorem tuple_covered (covered : List.Forall₂ CoveredBy fits admissions) :
    (Fit.tuple fits).CoveredBy (Admission.tuple admissions) := by
  rintro value result json ⟨items, results, found, rfl, each⟩
  cases value with
  | list members =>
      cases found
      obtain ⟨length, admitted⟩ := each.covered covered (Value.allJson_iff.mp json)
      exact Bool.and_eq_true_iff.mpr ⟨beq_iff_eq.mpr length, List.all_eq_true.mpr admitted⟩
  | tuple members => cases json
  | _ => cases found

theorem map_covered (key : Fit) (covered : inner.CoveredBy admits) :
    (Fit.map key inner).CoveredBy (Admission.map admits) := by
  rintro value result json ⟨entries, results, rfl, rfl, each⟩
  have both := (List.forall₂_and_left _ _).mpr ⟨Value.entryJson_of_entriesJson json, each⟩
  have admitted : ∀ entry ∈ entries, admits entry.2 = true :=
    forall_mem_of_forall₂ (both.imp fun _ _ ⟨json, _, fits⟩ => covered json fits).flip
  exact List.all_eq_true.mpr admitted

end Fit

/-- A reading of `oneOf` settles a single node if, for a union, it admits the JSON data that some of
the alternatives depict. -/
def TypeSpec.SettledNode (matching : Nat → Bool) : TypeSpec → Prop
  | .union alternatives => ∀ {value : Value}, value.isJson = true →
      let count := (depictions matching alternatives).countP fun admits => admits value
      0 < count → matching count = true
  | _ => True

mutual

/-- What a type demands is covered by what it depicts, if `oneOf` settles all unions in it. -/
theorem TypeSpec.fit_covered (env : Environment) {matching : Nat → Bool} {holds : TypeSpec → Bool}
    (settled : ∀ spec, holds spec = true → spec.SettledNode matching) :
    (spec : TypeSpec) → spec.isClosed = true →
    spec.everywhere holds = true → (spec.fit env).CoveredBy (spec.depicts matching)
  | .primitive kind, _, _ => Fit.kind_covered kind
  | .array inner minItems maxItems, closed, held =>
      Fit.array_covered
        (TypeSpec.fit_covered env settled inner closed (Bool.and_eq_true_iff.mp held).2)
        minItems maxItems
  | .union alternatives, closed, held => by
      obtain ⟨here, below⟩ := Bool.and_eq_true_iff.mp held
      exact Fit.union_covered (TypeSpec.fits_covered env settled alternatives closed below)
        (settled _ here)
  | .tuple elements, closed, held =>
      Fit.tuple_covered
        (TypeSpec.fits_covered env settled elements closed (Bool.and_eq_true_iff.mp held).2)
  | .map key value, closed, held => by
      simp only [isClosed, everywhere_map, Bool.and_eq_true] at closed held
      exact Fit.map_covered _ (TypeSpec.fit_covered env settled value closed.2.2 held.2.2)
  | .ref _, closed, _ => nomatch closed
  | .unknownKind _, _, _ => fun _ fitted => nomatch fitted
  | .rawUnion _, _, _ | .rawTuple _, _, _ | .raw _, _, _ => fun _ fitted => nomatch fitted

/-- What types demand is covered by what they depict. -/
theorem TypeSpec.fits_covered (env : Environment) {matching : Nat → Bool} {holds : TypeSpec → Bool}
    (settled : ∀ spec, holds spec = true → spec.SettledNode matching) :
    (specs : List TypeSpec) →
    TypeSpec.allEverywhere TypeSpec.isClosedNode specs = true →
    TypeSpec.allEverywhere holds specs = true →
    List.Forall₂ Fit.CoveredBy (TypeSpec.fits env specs) (TypeSpec.depictions matching specs)
  | [], _, _ => .nil
  | spec :: rest, closed, held => by
      obtain ⟨specClosed, restClosed⟩ := Bool.and_eq_true_iff.mp closed
      obtain ⟨specHeld, restHeld⟩ := Bool.and_eq_true_iff.mp held
      exact .cons (TypeSpec.fit_covered env settled spec specClosed specHeld)
        (TypeSpec.fits_covered env settled rest restClosed restHeld)

end

namespace TypeSpec

theorem settledNode_of_enough {matching : Nat → Bool}
    (enough : ∀ count, 0 < count → matching count = true) (spec : TypeSpec) :
    spec.SettledNode matching := by
  cases spec with
  | union alternatives => exact fun _ some => enough _ some
  | _ => trivial

theorem settledNode_exactlyOne (spec : TypeSpec) (apart : spec.isApartNode = true) :
    spec.SettledNode Document.exactlyOne := by
  cases spec with
  | union alternatives =>
      intro value json count some
      obtain ⟨sort, sorted⟩ := Value.exists_sort_of_isJson json
      have atMostOne : count ≤ 1 := count_le_one rfl sorted (of_decide_eq_true apart)
      exact beq_iff_eq.mpr (Nat.le_antisymm atMostOne some)
  | _ => trivial

end TypeSpec

mutual

/-- A canonical type without references is regular. -/
theorem TypeSpec.isRegular_of_closed : (spec : TypeSpec) → spec.isCanonical = true →
    spec.isClosed = true → spec.isRegular = true
  | .primitive _, _, _ => rfl
  | .array inner _ _, canonical, closed =>
      TypeSpec.isRegular_of_closed inner (Bool.and_eq_true_iff.mp canonical).2 closed
  | .union alternatives, canonical, closed =>
      TypeSpec.allRegular_of_closed alternatives (Bool.and_eq_true_iff.mp canonical).2 closed
  | .tuple elements, canonical, closed =>
      TypeSpec.allRegular_of_closed elements canonical closed
  | .map key value, canonical, closed => by
      simp only [isCanonical, isClosed, everywhere_map, Bool.and_eq_true] at canonical closed
      exact Bool.and_eq_true_iff.mpr ⟨TypeSpec.isRegular_of_closed key canonical.2.1 closed.2.1,
        TypeSpec.isRegular_of_closed value canonical.2.2 closed.2.2⟩
  | .ref _, _, closed => nomatch closed
  | .unknownKind _, canonical, _ | .rawUnion _, canonical, _ | .rawTuple _, canonical, _
  | .raw _, canonical, _ => nomatch canonical

theorem TypeSpec.allRegular_of_closed : (specs : List TypeSpec) →
    TypeSpec.allEverywhere TypeSpec.isCanonicalNode specs = true →
    TypeSpec.allEverywhere TypeSpec.isClosedNode specs = true → TypeSpec.allRegular specs = true
  | [], _, _ => rfl
  | spec :: rest, canonical, closed => by
      simp only [allEverywhere_cons, Bool.and_eq_true] at canonical closed
      exact Bool.and_eq_true_iff.mpr ⟨TypeSpec.isRegular_of_closed spec canonical.1 closed.1,
        TypeSpec.allRegular_of_closed rest canonical.2 closed.2⟩

end

namespace TypeSpec

/-- The document of a type admits the JSON data that the type accepts, if one branch or more
suffices in a `oneOf`.  By the standard it does so exactly if the unions of the type single out
alternatives, and always if the alternatives are of different sorts. -/
theorem document_admits_of_check (env : Environment) (spec : TypeSpec)
    (canonical : spec.isCanonical = true) (closed : spec.isClosed = true) (value : Value)
    (formed : value.wellFormed = true) (json : value.isJson = true) (path : Path) (result : Value)
    (accepted : spec.check env value path = .ok (.accepted result)) :
    ∃ document, spec.document = .ok document ∧
      Document.admits Document.atLeastOne (.map document) value = true ∧
      Document.admits Document.exactlyOne (.map document) value = spec.singlesOut value ∧
      (spec.isApart = true → Document.admits Document.exactlyOne (.map document) value = true) := by
  have regular := isRegular_of_closed spec canonical closed
  have fitted := (check_follows env spec regular).fits formed accepted
  have covered : ∀ {matching : Nat → Bool}, (∀ count, 0 < count → matching count = true) →
      spec.depicts matching value = true := by
    intro matching enough
    have settled := fun spec (_ : isClosedNode spec = true) => settledNode_of_enough enough spec
    exact fit_covered env settled spec closed closed json fitted
  obtain ⟨document, written, admits⟩ := document_eq_ok spec canonical closed
  refine ⟨document, written, ?_⟩
  simp only [admits]
  refine ⟨?_, ?_, ?_⟩
  · exact covered fun count some => decide_eq_true some
  · have shaped : spec.depicts (fun _ => true) value = true := covered fun _ _ => rfl
    rw [depicts_exactlyOne, Admission.both, shaped, Bool.true_and]
  · intro apart
    exact fit_covered env settledNode_exactlyOne spec closed apart json fitted

/-- A mapping of lists of numbers, texts and flags is admitted by the document of its type. -/
theorem document_admits_of_nested_union :
    let spec : TypeSpec := .map (.primitive .string) (.array
      (.union [.primitive .float, .primitive .string, .tuple [.primitive .boolean]]) (.int 1) .null)
    let half : Double := ⟨false, 1022, 0⟩
    let value : Value := .map [(.str "a", .list [.float half, .str "b", .list [.bool true]])]
    ∃ document, spec.document = .ok document ∧
      Document.admits Document.exactlyOne (.map document) value = true := by
  intro spec half value
  obtain ⟨document, written, _, _, admitted⟩ :=
    document_admits_of_check .bare spec rfl rfl value rfl rfl [] _ rfl
  exact ⟨document, written, admitted rfl⟩

/-- Numbers are floats or integers, and an integer is a number to both branches of their
document. -/
theorem document_not_admits_of_check :
    ¬ ∀ (env : Environment) (spec : TypeSpec), spec.isCanonical = true → spec.isClosed = true →
      ∀ (value : Value), value.wellFormed = true → value.isJson = true →
        ∀ (path : Path) (result : Value), spec.check env value path = .ok (.accepted result) →
          ∃ document, spec.document = .ok document ∧
            Document.admits Document.exactlyOne (.map document) value = true := by
  intro holds
  let number : TypeSpec := .union [.primitive .float, .primitive .integer]
  obtain ⟨document, written, admitted⟩ :=
    holds .bare number rfl rfl (.int 1) rfl rfl [] (.int 1) rfl
  cases written
  cases admitted

end TypeSpec

end Conform
