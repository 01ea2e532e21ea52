import Conform.Proofs.Keys
import Conform.Violation.Summary
import Mathlib.Data.List.Induction

/-!
# Groups of violations

Grouping puts violations one after another into the group of their key, or into a new one.  Where
the keys can be keys of mappings, equality of keys is lawful, and the groups are a partition of the
violations: one group for each distinct key, in order of first appearance.  A key need not equal
itself; then its violation is alone in its group.
-/

namespace Conform

/-- The distinct keys among some keys and one more: it is a new one unless an earlier key equals
it. -/
theorem Value.eraseDups_concat (keys : List Value)
    (hashable : ∀ other ∈ keys, other.hashable = true) (key : Value) : (keys ++ [key]).eraseDups =
      if keys.any (· == key) then keys.eraseDups else keys.eraseDups ++ [key] := by
  match keys with
  | [] => rfl
  | other :: rest =>
      obtain ⟨otherHashable, restHashable⟩ := List.forall_mem_cons.mp hashable
      have turned : (key == other) = (other == key) := (Value.beq_comm otherHashable key).symm
      rw [List.cons_append, List.eraseDups_cons, List.eraseDups_cons, List.filter_append,
        List.any_cons]
      cases same : other == key with
      | true => simp [turned, same]
      | false =>
          -- What equals the new key does not equal the first one, so that it is not filtered out.
          have kept : (rest.filter fun k => !k == other).any (· == key) = rest.any (· == key) := by
            rw [List.any_filter, Bool.eq_iff_iff, List.any_eq_true, List.any_eq_true]
            refine exists_congr fun k => and_congr_right fun among => ?_
            rw [Bool.and_eq_true_iff, and_iff_right_iff_imp]
            intro equal
            rw [Value.beq_congr (restHashable k among) equal, turned, same]
            rfl
          have others := eraseDups_concat (rest.filter fun k => !k == other)
            (fun k among => restHashable k (List.mem_filter.mp among).1) key
          rw [kept] at others
          simp only [turned, same, others, Bool.false_or, Bool.not_false, List.filter_cons_of_pos,
            List.filter_nil]
          split <;> rfl
termination_by keys.length
decreasing_by simpa using Nat.lt_succ_of_le (List.length_filter_le _ rest)

namespace Violation

/-- Groups of violations under their keys. -/
abbrev Groups := List (Value × List Violation)

/-- A group is opened by the first violation with its key, and holds that one and the later ones
with an equal key, in their order. -/
def IsGroup (keyOf : Violation → Value) (violations : List Violation)
    (group : Value × List Violation) : Prop :=
  ∃ earlier first later, violations = earlier ++ first :: later ∧
    (∀ violation ∈ earlier, (keyOf violation == keyOf first) = false) ∧
    group = (keyOf first, first :: later.filter fun violation => keyOf violation == keyOf first)

/-- Groups are a partition of violations: their keys are the distinct keys of the violations, in
order of first appearance, and each violation is in one group. -/
structure Partition (keyOf : Violation → Value) (violations : List Violation) (groups : Groups) :
    Prop where
  keys : groups.map Prod.fst = (violations.map keyOf).eraseDups
  apart : groups.Pairwise fun group other => (group.1 == other.1) = false
  each : ∀ group ∈ groups, IsGroup keyOf violations group
  whole : (groups.flatMap Prod.snd).Perm violations

variable {keyOf : Violation → Value} {violations : List Violation} {groups : Groups}

/-- A violation goes to the end of the first group whose key equals its own, or into a new group. -/
theorem addToGroup_cases (violation : Violation) (key : Value) (groups : Groups) :
    ((∀ group ∈ groups, (group.1 == key) = false) ∧
        addToGroup violation key groups = groups ++ [(key, [violation])]) ∨
      ∃ front other members rest, groups = front ++ (other, members) :: rest ∧
        (other == key) = true ∧
        addToGroup violation key groups = front ++ (other, members ++ [violation]) :: rest := by
  induction groups with
  | nil => exact .inl ⟨List.forall_mem_nil _, rfl⟩
  | cons group rest ih =>
      obtain ⟨other, members⟩ := group
      cases same : other == key with
      | true => exact .inr ⟨[], other, members, rest, rfl, same, by simp [addToGroup, same]⟩
      | false =>
          rcases ih with ⟨fresh, added⟩ | ⟨front, known, knownMembers, behind, rfl, equal, added⟩
          · exact .inl ⟨List.forall_mem_cons.mpr ⟨same, fresh⟩, by simp [addToGroup, same, added]⟩
          · exact .inr ⟨(other, members) :: front, known, knownMembers, behind, rfl, equal,
              by simp [addToGroup, same, added]⟩

theorem IsGroup.concat {key : Value} {members : List Violation}
    (group : IsGroup keyOf violations (key, members)) (violation : Violation) :
    IsGroup keyOf (violations ++ [violation])
      (key, if keyOf violation == key then members ++ [violation] else members) := by
  obtain ⟨earlier, first, later, rfl, differ, same⟩ := group
  cases same
  refine ⟨earlier, first, later ++ [violation], by simp, differ, ?_⟩
  cases joins : keyOf violation == keyOf first <;> simp [joins]

namespace Partition

theorem exists_group (partition : Partition keyOf violations groups)
    (hashable : ∀ violation ∈ violations, (keyOf violation).hashable = true)
    {violation : Violation} (among : violation ∈ violations) :
    ∃ group ∈ groups, ∀ value, (keyOf violation == value) = (group.1 == value) := by
  obtain ⟨group, mem, inside⟩ := List.mem_flatMap.mp (partition.whole.mem_iff.mpr among)
  refine ⟨group, mem, ?_⟩
  obtain ⟨earlier, first, later, _, _, rfl⟩ := partition.each group mem
  rcases List.mem_cons.mp inside with rfl | later
  · exact fun _ => rfl
  · exact Value.beq_congr (hashable violation among) (List.mem_filter.mp later).2

theorem hashable_of_mem (partition : Partition keyOf violations groups)
    (hashable : ∀ violation ∈ violations, (keyOf violation).hashable = true)
    {group : Value × List Violation} (mem : group ∈ groups) : group.1.hashable = true := by
  obtain ⟨earlier, first, later, rfl, _, rfl⟩ := partition.each group mem
  exact hashable first (by simp)

theorem nil : Partition keyOf [] [] := ⟨rfl, .nil, List.forall_mem_nil _, .nil⟩

/-- A violation whose key equals that of no group opens a new one. -/
theorem opens (partition : Partition keyOf violations groups)
    (hashable : ∀ violation ∈ violations, (keyOf violation).hashable = true)
    {violation : Violation} (fresh : ∀ group ∈ groups, (group.1 == keyOf violation) = false) :
    Partition keyOf (violations ++ [violation]) (groups ++ [(keyOf violation, [violation])]) where
  keys := by
    have differ : (violations.map keyOf).any (· == keyOf violation) = false := by
      simp only [List.any_map, List.any_eq_false, Function.comp, Bool.not_eq_true]
      intro other among
      obtain ⟨group, mem, equal⟩ := partition.exists_group hashable among
      rw [equal, fresh group mem]
    have distinct := Value.eraseDups_concat (violations.map keyOf)
      (List.forall_mem_map.mpr hashable) (keyOf violation)
    simp [partition.keys, distinct, differ]
  apart := by
    refine List.pairwise_append.mpr ⟨partition.apart, List.pairwise_singleton _ _, ?_⟩
    simpa using fresh
  each := by
    refine List.forall_mem_append.mpr ⟨?_, List.forall_mem_singleton.mpr ?_⟩
    · intro group mem
      have grown := (partition.each group mem).concat violation
      have turned := Value.beq_comm (partition.hashable_of_mem hashable mem) (keyOf violation)
      simpa [← turned, fresh group mem] using grown
    · refine ⟨violations, violation, [], rfl, ?_, rfl⟩
      intro other among
      obtain ⟨group, mem, equal⟩ := partition.exists_group hashable among
      rw [equal, fresh group mem]
  whole := by
    rw [List.flatMap_append, List.flatMap_singleton]
    exact partition.whole.append_right _

/-- A violation whose key equals that of a group joins it. -/
theorem joins {front rest : Groups} {key : Value} {members : List Violation}
    (partition : Partition keyOf violations (front ++ (key, members) :: rest))
    (hashable : ∀ violation ∈ violations, (keyOf violation).hashable = true)
    {violation : Violation} (same : (key == keyOf violation) = true) :
    Partition keyOf (violations ++ [violation])
      (front ++ (key, members ++ [violation]) :: rest) := by
  have mem : (key, members) ∈ front ++ (key, members) :: rest := by simp
  have keyHashable : key.hashable = true := partition.hashable_of_mem hashable mem
  obtain ⟨frontApart, groupApart, between⟩ := List.pairwise_append.mp partition.apart
  obtain ⟨behind, restApart⟩ := List.pairwise_cons.mp groupApart
  constructor
  case keys =>
    have known : (violations.map keyOf).any (· == keyOf violation) = true := by
      obtain ⟨earlier, first, later, rfl, _, equal⟩ := partition.each _ mem
      rw [(Prod.mk.inj equal).1] at same
      simp [same]
    have distinct := Value.eraseDups_concat (violations.map keyOf)
      (List.forall_mem_map.mpr hashable) (keyOf violation)
    rw [List.map_append, List.map_append, List.map_singleton, distinct, if_pos known,
      ← partition.keys, List.map_append]
    rfl
  case apart =>
    refine List.pairwise_append.mpr ⟨frontApart, List.pairwise_cons.mpr ⟨behind, restApart⟩, ?_⟩
    intro group inFront
    simpa using between group inFront
  case each =>
    -- The keys of the other groups do not equal the key of this one, nor what equals it.
    have unchanged (group) (other : group ∈ front ++ (key, members) :: rest)
        (apart : (key == group.1) = false) :
        IsGroup keyOf (violations ++ [violation]) group := by
      have grown := (partition.each group other).concat violation
      rwa [← Value.beq_congr keyHashable same, apart] at grown
    refine List.forall_mem_append.mpr ⟨?_, List.forall_mem_cons.mpr ⟨?_, ?_⟩⟩
    · intro group inFront
      refine unchanged group (List.mem_append_left _ inFront) ?_
      rw [Value.beq_comm keyHashable]
      exact between group inFront _ List.mem_cons_self
    · have grown := (partition.each _ mem).concat violation
      rwa [← Value.beq_comm keyHashable, same, if_pos rfl] at grown
    · intro group inRest
      exact unchanged group (List.mem_append_right _ (List.mem_cons_of_mem _ inRest))
        (behind group inRest)
  case whole =>
    have middle : (front ++ (key, members ++ [violation]) :: rest).flatMap Prod.snd =
        front.flatMap Prod.snd ++ members ++ violation :: rest.flatMap Prod.snd := by simp
    rw [middle]
    refine List.perm_middle.trans ?_
    refine (List.Perm.cons violation ?_).trans (List.perm_append_singleton violation _).symm
    simpa using partition.whole

theorem concat (partition : Partition keyOf violations groups)
    (hashable : ∀ violation ∈ violations, (keyOf violation).hashable = true)
    (violation : Violation) :
    Partition keyOf (violations ++ [violation])
      (addToGroup violation (keyOf violation) groups) := by
  rcases addToGroup_cases violation (keyOf violation) groups with
    ⟨fresh, added⟩ | ⟨front, key, members, rest, rfl, same, added⟩
  · exact added ▸ partition.opens hashable fresh
  · exact added ▸ partition.joins hashable same

end Partition

/-- The groups of violations whose keys can be keys of mappings. -/
def groupsOf (keyOf : Violation → Value) (violations : List Violation) : Groups :=
  violations.foldl (fun groups violation => addToGroup violation (keyOf violation) groups) []

theorem foldlM_asKey {σ : Type} (step : σ → Violation → Value → σ)
    (hashable : ∀ violation ∈ violations, (keyOf violation).hashable = true) (start : σ) :
    violations.foldlM
        (fun state violation => do return step state violation (← (keyOf violation).asKey)) start =
      (.ok (violations.foldl (fun state violation => step state violation (keyOf violation))
        start) :
        Attempt σ) := by
  induction violations generalizing start with
  | nil => rfl
  | cons violation rest ih =>
      obtain ⟨first, others⟩ := List.forall_mem_cons.mp hashable
      rw [List.foldlM_cons, List.foldl_cons, ← ih others, Value.asKey, if_pos first]
      rfl

theorem groupBy_eq (hashable : ∀ violation ∈ violations, (keyOf violation).hashable = true) :
    groupBy keyOf violations = .ok (groupsOf keyOf violations) :=
  foldlM_asKey (fun groups violation key => addToGroup violation key groups) hashable []

theorem partition_groupsOf
    (hashable : ∀ violation ∈ violations, (keyOf violation).hashable = true) :
    Partition keyOf violations (groupsOf keyOf violations) := by
  induction violations using List.reverseRecOn with
  | nil => exact .nil
  | append_singleton violations violation ih =>
      obtain ⟨others, _⟩ := List.forall_mem_append.mp hashable
      rw [groupsOf, List.foldl_append]
      exact (ih others).concat others violation

end Violation

end Conform
