import Conform.Proofs.Canonical
import Conform.Proofs.Counters
import Conform.Proofs.Groupings
import Conform.Proofs.Stages
import Mathlib.Data.List.Forall2

/-!
# Summaries of violations

Groups, filters, counts and summaries are loops of their own over the same violations.  Where codes
are texts and places can be keys they describe the same partition: a filter by code gives a group,
the counts of a summary are the sizes of the groups by code, and the paths that it lists are the
keys of the groups by path.  The search for the most specific violation keeps the first of the
longest paths that a given one begins with.
-/

namespace Conform

namespace Violation

/-! ## Filters and counts -/

/-- The members of the group under a key; none if there is no such group. -/
def membersOf (groups : Groups) (key : Value) : List Violation :=
  match groups.find? fun group => group.1 == key with
  | some group => group.2
  | none => []

/-- The numbers of members of groups, under their keys. -/
def sizes (groups : Groups) : Entries := groups.map fun group => (group.1, .int group.2.length)

/-- The path of a violation as a key. -/
def pathKey (violation : Violation) : Value := .tuple violation.path

variable {keyOf : Violation → Value} {violations : List Violation} {groups : Groups}

/-- A filter by key gives the members of a group of a partition. -/
theorem Partition.filter_eq_membersOf (partition : Partition keyOf violations groups)
    (hashable : ∀ violation ∈ violations, (keyOf violation).hashable = true) (key : Value) :
    violations.filter (keyOf · == key) = membersOf groups key := by
  unfold membersOf
  cases found : groups.find? fun group => group.1 == key with
  | none =>
      rw [List.filter_eq_nil_iff]
      intro violation among
      obtain ⟨group, mem, equal⟩ := partition.exists_group hashable among
      rw [equal]
      exact List.find?_eq_none.mp found group mem
  | some group =>
      have same : (group.1 == key) = true := (List.find?_eq_some_iff_append.mp found).1
      obtain ⟨earlier, first, later, rfl, differ, rfl⟩ :=
        partition.each group (List.mem_of_find?_eq_some found)
      have alike (violation : Violation) :
          (keyOf violation == keyOf first) = (keyOf violation == key) :=
        Value.beq_right_congr (hashable first (by simp)) same _
      have none : earlier.filter (keyOf · == key) = [] := by
        rw [List.filter_eq_nil_iff]
        intro violation among
        rw [← alike, differ violation among]
        exact Bool.false_ne_true
      simp only [alike, List.filter_append, none, List.nil_append]
      exact List.filter_cons_of_pos same

theorem Partition.get?_sizes (partition : Partition keyOf violations groups) (key : Value) :
    (sizes groups).get? key =
      if (membersOf groups key).isEmpty then none else some
        (.int (membersOf groups key).length) := by
  have sought : (sizes groups).get? key =
      (groups.find? fun group => group.1 == key).map fun group => .int group.2.length := by
    simp [sizes, Entries.get?, List.find?_map, Function.comp_def]
  rw [sought, membersOf]
  cases found : groups.find? fun group => group.1 == key with
  | none => rfl
  | some group =>
      obtain ⟨earlier, first, later, _, _, rfl⟩ :=
        partition.each group (List.mem_of_find?_eq_some found)
      rfl

/-- Counting one more under a key is counting a group with one more member. -/
@[simp] theorem countKey_sizes (violation : Violation) (key : Value) (groups : Groups) :
    countKey (sizes groups) key = sizes (addToGroup violation key groups) := by
  induction groups with
  | nil => rfl
  | cons group rest ih =>
      obtain ⟨other, members⟩ := group
      have split : sizes ((other, members) :: rest) =
        (other, .int members.length) :: sizes rest := rfl
      rw [split, addToGroup]
      cases same : other == key with
      | true => simp [countKey, sizes, Entries.get?, Entries.put, same]
      | false =>
          have deeper : countKey ((other, .int members.length) :: sizes rest) key =
              (other, .int members.length) :: countKey (sizes rest) key := by
            simp only [countKey, Entries.get?, Entries.put, List.find?_cons, same,
              Bool.false_eq_true, if_false]
            split <;> simp [*]
          rw [deeper, ih]
          rfl

/-- The sizes of the groups are positive and add up to the number of violations. -/
theorem Partition.addUp_sizes (partition : Partition keyOf violations groups) :
    Metrics.AddUp (sizes groups) violations.length := by
  rw [← partition.whole.length_eq]
  have opened : ∀ group ∈ groups, 0 < group.2.length := by
    intro group mem
    obtain ⟨earlier, first, later, _, _, rfl⟩ := partition.each group mem
    exact Nat.succ_pos _
  clear partition
  induction groups with
  | nil => exact .nil
  | cons group rest ih =>
      obtain ⟨first, others⟩ := List.forall_mem_cons.mp opened
      rw [List.flatMap_cons, List.length_append]
      exact .cons group.1 group.2.length first (ih others)

theorem countCodes_eq (hashable : ∀ violation ∈ violations, violation.code.hashable = true) :
    countCodes violations = .ok (sizes (groupsOf Violation.code violations)) := by
  have counted := foldlM_asKey (fun counts _ key => countKey counts key) hashable (sizes [])
  refine counted.trans (congrArg Except.ok ?_)
  apply List.foldl_hom sizes
  exact fun groups violation => countKey_sizes violation violation.code groups

/-- Listing one more path unless it is listed is adding to the group of a path. -/
theorem keys_addToGroup (violation : Violation) (key : Value) (groups : Groups) :
    (addToGroup violation key groups).map Prod.fst =
      if (groups.map Prod.fst).any (· == key) then groups.map Prod.fst
      else groups.map Prod.fst ++ [key] := by
  induction groups with
  | nil => rfl
  | cons group rest ih =>
      obtain ⟨other, members⟩ := group
      cases same : other == key with
      | true => simp [addToGroup, same]
      | false =>
          simp only [addToGroup, same, Bool.false_eq_true, if_false, List.map_cons, ih,
            List.any_cons, Bool.false_or]
          split <;> rfl

theorem affectedPaths_eq (violations : List Violation) :
    affectedPaths violations = (groupsOf pathKey violations).map Prod.fst := by
  change violations.foldl _ (([] : Groups).map Prod.fst) = _
  apply List.foldl_hom (List.map Prod.fst)
  exact fun groups violation => (keys_addToGroup violation (pathKey violation) groups).symm

/-! ## The most specific violation -/

/-- A path begins with another one: it has places equal to those of the other in front. -/
def Begins (target path : Path) : Prop :=
  List.Forall₂ (fun place other => (place == other) = true) (target.take path.length) path

@[simp] theorem tuple_beq_iff {places others : Path} :
    (Value.tuple places == .tuple others) = true ↔
    List.Forall₂ (fun place other => (place == other) = true) places others := by
  change Value.allSame places others = true ↔ _
  induction places generalizing others with
  | nil => cases others with
    | nil => exact iff_of_true rfl .nil
    | cons other more => exact iff_of_false Bool.false_ne_true nofun
  | cons place rest ih =>
      cases others with
      | nil => exact iff_of_false Bool.false_ne_true nofun
      | cons other more =>
          rw [Value.allSame, Bool.and_eq_true, ih, List.forall₂_cons]
          rfl

@[simp] theorem startsWith_iff {target path : Path} :
    startsWith target path = true ↔ Begins target path := by
  rw [startsWith, Bool.and_eq_true, decide_eq_true_iff, tuple_beq_iff]
  refine and_iff_right_of_imp fun each => ?_
  have length := each.length_eq
  rw [List.length_take] at length
  omega

/-- A violation says most about a path: it is the first of those with the longest path that the
given one begins with, and there is none if no path is such. -/
inductive MostSpecific (target : Path) (violations : List Violation) : Option Violation → Prop
  | none (foreign : ∀ violation ∈ violations, ¬Begins target violation.path) :
      MostSpecific target violations none
  | some {earlier later : List Violation} {best : Violation}
      (split : violations = earlier ++ best :: later) (begins : Begins target best.path)
      (shorter : ∀ violation ∈ earlier, Begins target violation.path →
        violation.path.length < best.path.length)
      (longest : ∀ violation ∈ later, Begins target violation.path →
        violation.path.length ≤ best.path.length) :
      MostSpecific target violations (some best)

/-- The longer of the answer so far and one more. -/
def longer (best : Option Violation) (violation : Violation) : Option Violation :=
  match best with
  | .none => .some violation
  | .some other =>
    if other.path.length < violation.path.length then .some violation else .some other

namespace MostSpecific

variable {target : Path} {best : Option Violation}

theorem concat_foreign (specific : MostSpecific target violations best) {violation : Violation}
    (foreign : ¬Begins target violation.path) :
    MostSpecific target (violations ++ [violation]) best := by
  cases specific with
  | none others =>
      exact .none (List.forall_mem_append.mpr ⟨others, List.forall_mem_singleton.mpr foreign⟩)
  | @some earlier later best split begins shorter longest =>
      refine @MostSpecific.some _ _ earlier (later ++ [violation]) best (by simp [split]) begins
        shorter ?_
      refine List.forall_mem_append.mpr ⟨longest, List.forall_mem_singleton.mpr ?_⟩
      exact fun answers => (foreign answers).elim

/-- A violation that is an answer replaces a shorter one. -/
theorem concat_begins (specific : MostSpecific target violations best) {violation : Violation}
    (answers : Begins target violation.path) :
    MostSpecific target (violations ++ [violation]) (longer best violation) := by
  cases specific with
  | none others =>
      refine .some rfl answers ?_ (List.forall_mem_nil _)
      exact fun other among begins => (others other among begins).elim
  | @some earlier later best split begins shorter longest =>
      simp only [longer]
      split
      case isTrue further =>
        refine .some rfl answers ?_ (List.forall_mem_nil _)
        rw [split]
        refine List.forall_mem_append.mpr ⟨?_, List.forall_mem_cons.mpr ⟨fun _ => further, ?_⟩⟩
        · exact fun other among within => Nat.lt_trans (shorter other among within) further
        · exact fun other among within => Nat.lt_of_le_of_lt (longest other among within) further
      case isFalse notFurther =>
        refine @MostSpecific.some _ _ earlier (later ++ [violation]) best (by simp [split]) begins
          shorter ?_
        refine List.forall_mem_append.mpr ⟨longest, List.forall_mem_singleton.mpr ?_⟩
        exact fun _ => Nat.le_of_not_lt notFurther

end MostSpecific

end Violation

/-- The members of a sequence whose leading ones can be taken: a list, a tuple, a text or bytes. -/
def Value.sequence? : Value → Option (List Value)
  | .map _ | .set _ | .frozenset _ | .enumeration .. => none
  | other => other.elements?

namespace Violation

variable {violations : List Violation} {target : Value} {places : Path}

@[simp] theorem elements_of_sequence (sequence : target.sequence? = some places) :
    target.elements? = some places := by
  cases target with
  | map | set | frozenset | enumeration => cases sequence
  | _ => exact sequence

@[simp] theorem length_of_sequence (sequence : target.sequence? = some places) :
    target.length = .ok places.length := by
  rw [Value.length, Value.length?, elements_of_sequence sequence]
  rfl

@[simp] theorem leading_of_sequence (sequence : target.sequence? = some places) (count : Nat) :
    leading target count = .ok (places.take count) := by
  have members := elements_of_sequence sequence
  cases target with
  | map | set | frozenset | enumeration => cases sequence
  | _ =>
      simp only [leading, Value.elements, members]
      rfl

theorem betterFor_eq (sequence : target.sequence? = some places) (best : Option Violation)
    (violation : Violation) : betterFor target best violation =
      .ok (if startsWith places violation.path then longer best violation else best) := by
  simp only [betterFor, length_of_sequence sequence, leading_of_sequence sequence,
    Attempt.ok_bind, startsWith, Bool.and_eq_true, decide_eq_true_iff]
  by_cases fits : violation.path.length ≤ places.length
  · simp only [fits, if_true, true_and]
    by_cases same : (Value.tuple (places.take violation.path.length) == .tuple violation.path) =
      true
    · rw [if_pos same, if_pos same]
      cases best <;> rfl
    · rw [if_neg same, if_neg same]
      rfl
  · simp only [fits, false_and, if_false]
    rfl

theorem mostSpecific_of_sequence (sequence : target.sequence? = some places)
    (violations : List Violation) :
    ∃ best, mostSpecific violations target = .ok best ∧ MostSpecific places violations best := by
  induction violations using List.reverseRecOn with
  | nil => exact ⟨none, rfl, .none (List.forall_mem_nil _)⟩
  | append_singleton violations violation ih =>
      obtain ⟨best, found, specific⟩ := ih
      refine ⟨if startsWith places violation.path then longer best violation else best, ?_, ?_⟩
      · rw [mostSpecific] at found ⊢
        rw [List.foldlM_append, found]
        exact (bind_pure _).trans (betterFor_eq sequence best violation)
      · split
        case isTrue begins => exact specific.concat_begins (startsWith_iff.mp begins)
        case isFalse differs => exact specific.concat_foreign (mt startsWith_iff.mpr differs)

/-! ## The law -/

/-- Groups by code and by path are what filters, counts and summaries tell about violations. -/
structure Consistent (violations : List Violation) (byCode byPath : Groups) : Prop where
  codes : Partition Violation.code violations byCode
  paths : Partition pathKey violations byPath
  filtered : ∀ code, filterByCode violations code = membersOf byCode code
  counted : ∀ code, (sizes byCode).get? code =
    if (filterByCode violations code).isEmpty then none
    else some (.int (filterByCode violations code).length)
  summary : summarize violations = .ok (.record [
    ("total_errors", .int violations.length),
    ("error_codes", .list (byCode.map Prod.fst)),
    ("affected_paths", .list (byPath.map Prod.fst)),
    ("by_code", .map (sizes byCode))])
  total : Metrics.AddUp (sizes byCode) violations.length

theorem hashable_of_hasTextCode {violation : Violation} (coded : violation.HasTextCode) :
    violation.code.hashable = true := by
  obtain ⟨code, same⟩ := coded
  rw [same]
  rfl

theorem filterByCode_eq (coded : ∀ violation ∈ violations, violation.HasTextCode) (code : Value) :
    filterByCode violations code = violations.filter fun violation => violation.code == code := by
  refine List.filter_congr fun violation among => ?_
  obtain ⟨text, same⟩ := coded violation among
  rw [same]
  rfl

theorem consistent_groupsOf (coded : ∀ violation ∈ violations, violation.HasTextCode)
    (paths : ∀ violation ∈ violations, (pathKey violation).hashable = true) :
    Consistent violations (groupsOf Violation.code violations) (groupsOf pathKey violations) := by
  have codes : ∀ violation ∈ violations, violation.code.hashable = true :=
    fun violation among => hashable_of_hasTextCode (coded violation among)
  have byCode := partition_groupsOf codes
  have filtered (code) : filterByCode violations code =
      membersOf (groupsOf Violation.code violations) code := by
    rw [filterByCode_eq coded]
    exact byCode.filter_eq_membersOf codes code
  refine ⟨byCode, partition_groupsOf paths, filtered, ?_, ?_, byCode.addUp_sizes⟩
  · intro code
    rw [filtered]
    exact byCode.get?_sizes code
  · rw [summarize, countCodes_eq codes, Attempt.ok_bind, affectedPaths_eq, sizes, List.map_map]
    rfl

/-- If codes are texts and places can be keys, violations are grouped by code and by path, filters,
counts and summaries tell the same as these groups, and the most specific violation is found for
every path. -/
theorem exists_consistent_groups (violations : List Violation)
    (coded : ∀ violation ∈ violations, violation.HasTextCode)
    (placed : ∀ violation ∈ violations, ∀ place ∈ violation.path, place.hashable = true) :
    (∃ byCode byPath, groupByCode violations = .ok byCode ∧ groupByPath violations = .ok byPath ∧
      Consistent violations byCode byPath) ∧
      ∀ target places, target.sequence? = some places →
        ∃ best, mostSpecific violations target = .ok best ∧
          MostSpecific places violations best := by
  have codes : ∀ violation ∈ violations, violation.code.hashable = true :=
    fun violation among => hashable_of_hasTextCode (coded violation among)
  have paths : ∀ violation ∈ violations, (pathKey violation).hashable = true :=
    fun violation among => Value.hashable_tuple.mpr (placed violation among)
  exact ⟨⟨_, _, groupBy_eq codes, groupBy_eq paths, consistent_groupsOf coded paths⟩,
    fun _ _ sequence => mostSpecific_of_sequence sequence violations⟩

/-- Two of three paths are equal, though one has a truth value where the other has a number. -/
theorem exists_consistent_groups_of_equal_paths :
    let violations : List Violation := [.plain [.int 1] "type" "wrong",
      .plain [.bool true] "gt" "too small", .plain [.int 1, .str "a"] "type" "wrong"]
    (∀ violation ∈ violations, violation.HasTextCode) ∧
      (∀ violation ∈ violations, ∀ place ∈ violation.path, place.hashable = true) ∧
      (∃ byCode byPath, groupByCode violations = .ok byCode ∧ groupByPath violations = .ok byPath ∧
        byCode.map Prod.fst = [.str "type", .str "gt"] ∧
        byPath.map Prod.fst = [.tuple [.int 1], .tuple [.int 1, .str "a"]] ∧
        Consistent violations byCode byPath) ∧
      MostSpecific [.bool true, .str "a", .str "b"] violations violations[2]? := by
  intro violations
  have coded : ∀ violation ∈ violations, violation.HasTextCode := by
    simp [violations, HasTextCode, plain]
  have placed : ∀ violation ∈ violations, ∀ place ∈ violation.path, place.hashable = true := by
    simp [violations, plain]
    decide
  obtain ⟨⟨byCode, byPath, codes, paths, consistent⟩, specific⟩ :=
    exists_consistent_groups violations coded placed
  obtain ⟨best, found, most⟩ := specific (.list [.bool true, .str "a", .str "b"]) _ rfl
  cases codes
  cases paths
  cases found
  exact ⟨coded, placed, ⟨_, _, rfl, rfl, rfl, rfl, consistent⟩, most⟩

end Violation

end Conform
