import Conform.Proofs.Conformity
import Conform.Proofs.Evidence
import Conform.Proofs.Exactness
import Conform.Proofs.Scalars
import Mathlib.Data.List.Nodup

/-!
# Soundness of validation

Whatever a schema without a hook accepts conforms to it.  A checker follows a relation if it rejects
only for a reason and accepts only results that fit; each way of putting checkers together keeps
that, from the members of sequences up to the fields of a record.
-/

namespace Conform

/-- A checker that rejects only for a reason, and accepts only results that fit. -/
structure Checker.Follows (checker : Checker) (fit : Fit) : Prop where
  evident : checker.Evident
  fits : ∀ {value path result}, value.wellFormed = true →
    checker value path = .ok (.accepted result) → fit value result

/-- A checker accepts a value somewhere with the given result. -/
def Checker.Accepts (checker : Checker) (value result : Value) : Prop :=
  ∃ place, checker value place = .ok (.accepted result)

theorem Verdict.eq_accepted_of_evident {checker : Checker} (evident : checker.Evident)
    {value : Value} {path : Path} {verdict : Verdict Value}
    (checked : checker value path = .ok verdict) (none : verdict.violations = []) :
    ∃ result, verdict = .accepted result := by
  cases verdict with
  | accepted result => exact ⟨result, rfl⟩
  | rejected violations =>
      cases none
      exact absurd checked (evident value path)

/-! ## Constraints -/

namespace Constraint

theorem check_eq_none_iff (constraint : Constraint) (value : Value) (path : Path) :
    check constraint value path = .ok none ↔
      message constraint.1 constraint.2 value = .ok none := by
  obtain ⟨key, bound⟩ := constraint
  simp only [check]
  cases message key bound value with
  | error fault => simp
  | ok text =>
      cases text with
      | none => simp [pure, Except.pure]
      | some text => simp [pure, Except.pure]

theorem check_of_violations_eq_nil {constraints : List Constraint} {value : Value} {path : Path}
    (none : violations constraints value path = .ok []) :
    ∀ constraint ∈ constraints, check constraint value path = .ok .none := by
  induction constraints with
  | nil =>
      intro item among
      cases among
  | cons constraint rest ih =>
      obtain ⟨found, checked, others⟩ := Attempt.bind_eq_ok_iff.mp none
      obtain ⟨more, restChecked, joined⟩ := Attempt.bind_eq_ok_iff.mp others
      obtain ⟨foundNone, moreNone⟩ := List.append_eq_nil_iff.mp (Except.ok.inj joined)
      rw [Option.toList_eq_nil_iff.mp foundNone] at checked
      rw [moreNone] at restChecked
      exact List.forall_mem_cons.mpr ⟨checked, ih restChecked⟩

theorem satisfied_of_checkAll {constraints : List Constraint} {value result : Value} {path : Path}
    (accepted : checkAll constraints value path = .ok (.accepted result)) :
    result = value ∧
      ∀ constraint ∈ constraints, ∀ place, check constraint value place = .ok none := by
  obtain ⟨found, checked, concluded⟩ := Attempt.bind_eq_ok_iff.mp accepted
  cases found with
  | cons first rest => cases concluded
  | nil =>
      cases concluded
      refine ⟨rfl, fun constraint among place => ?_⟩
      have satisfied := check_of_violations_eq_nil checked constraint among
      rw [check_eq_none_iff] at satisfied ⊢
      exact satisfied

theorem holds_of_satisfied (key : ConstraintKey) (holds : Number → Number → Bool)
    (leading : String) (worded : ∀ bound value,
      message key bound value = checkItems holds leading bound value)
    {n : Int} {items : List Value} {path : Path}
    (satisfied : check (key, .int n) (.list items) path = .ok none) :
    holds (.whole items.length) (.whole n) = true := by
  rw [check_eq_none_iff, worded, checkItems_list] at satisfied
  split at satisfied
  · assumption
  · split at satisfied <;> cases satisfied

/-- The number of items lies within bounds that are satisfied as constraints. -/
theorem boundsAllow_of_satisfied {minItems maxItems : Value} {items : List Value} {path : Path}
    (satisfied : ∀ constraint ∈ TypeSpec.boundConstraints minItems maxItems,
      check constraint (.list items) path = .ok none) :
    TypeSpec.boundsAllow minItems maxItems items.length = true := by
  have least : TypeSpec.atLeast minItems items.length = true := by
    cases minItems with
    | int n =>
        have holds := holds_of_satisfied .minItems (fun n limit => limit.le n) _ (fun _ _ => rfl)
          (satisfied (.minItems, .int n) List.mem_cons_self)
        rwa [Number.whole_le_whole] at holds
    | _ => rfl
  have most : TypeSpec.atMost maxItems items.length = true := by
    cases maxItems with
    | int n =>
        have holds := holds_of_satisfied .maxItems (fun n limit => n.le limit) _ (fun _ _ => rfl)
          (satisfied (.maxItems, .int n) (List.mem_append_right _ List.mem_cons_self))
        rwa [Number.whole_le_whole] at holds
    | _ => rfl
  rw [TypeSpec.boundsAllow, least, most, Bool.and_self]

end Constraint

/-! ## Several checks -/

namespace Check

/-- Members without violations are all accepted. -/
theorem members_accepted {parts : List (Checker × Value)}
    (evident : ∀ part ∈ parts, part.1.Evident) {path : Path} {index : Nat} {values : List Value}
    (checked : members path index parts = .ok (values, [])) :
    List.Forall₂ (fun part value => part.1.Accepts part.2 value) parts values := by
  induction parts generalizing index values with
  | nil =>
      cases checked
      exact .nil
  | cons part rest ih =>
      obtain ⟨checker, item⟩ := part
      obtain ⟨headEvident, restEvident⟩ := List.forall_mem_cons.mp evident
      rw [members_cons] at checked
      obtain ⟨verdict, headChecked, others⟩ := Attempt.bind_eq_ok_iff.mp checked
      obtain ⟨⟨more, violations⟩, restChecked, joined⟩ := Attempt.bind_eq_ok_iff.mp others
      cases verdict with
      | accepted value =>
          cases joined
          exact .cons ⟨_, headChecked⟩ (ih restEvident restChecked)
      | rejected found =>
          have none := (Prod.mk.inj (Except.ok.inj joined)).2
          rw [(List.append_eq_nil_iff.mp none).1] at headChecked
          exact absurd headChecked (headEvident _ _)

theorem items_accepted {checker : Checker} (evident : checker.Evident) {items values : List Value}
    {path : Path} {index : Nat}
    (checked : members path index (items.map fun item => (checker, item)) = .ok (values, [])) :
    List.Forall₂ checker.Accepts items values := by
  have partsEvident : ∀ part ∈ items.map fun item => (checker, item), part.1.Evident := by
    intro part among
    obtain ⟨item, _, rfl⟩ := List.mem_map.mp among
    exact evident
  have each := members_accepted partsEvident checked
  rwa [List.forall₂_map_left_iff] at each

/-- The first of several entries without violations is accepted, and the others are checked with it
stored. -/
theorem entries_cons_accepted {key value : Checker} (keyEvident : key.Evident)
    (valueEvident : value.Evident) {k v : Value} {rest done results : Entries} {path : Path}
    {position : Nat}
    (checked : entries key value path position ((k, v) :: rest) done = .ok (results, [])) :
    ∃ newKey newValue, key k (path ++ [keyLabel position]) = .ok (.accepted newKey) ∧
      value v (path ++ [k]) = .ok (.accepted newValue) ∧ newKey.hashable = true ∧
      entries key value path (position + 1) rest (done.put newKey newValue) =
        .ok (results, []) := by
  rcases Attempt.bind_eq_ok_iff.mp checked with ⟨keyVerdict, keyChecked, others⟩
  rcases Attempt.bind_eq_ok_iff.mp others with ⟨valueVerdict, valueChecked, storing⟩
  by_cases said : keyVerdict.violations ++ valueVerdict.violations = []
  case neg =>
    rw [entries_of_rejected keyChecked valueChecked said] at checked
    rcases Attempt.bind_eq_ok_iff.mp checked with ⟨_, _, joined⟩
    have none := (Prod.mk.inj (Except.ok.inj joined)).2
    exact absurd (List.append_eq_nil_iff.mp none).1 said
  case pos =>
    rcases List.append_eq_nil_iff.mp said with ⟨keyNone, valueNone⟩
    rcases Verdict.eq_accepted_of_evident keyEvident keyChecked keyNone with ⟨newKey, rfl⟩
    rcases Verdict.eq_accepted_of_evident valueEvident valueChecked valueNone with ⟨newValue, rfl⟩
    have hashable : newKey.hashable = true := by
      rcases Attempt.bind_eq_ok_iff.mp storing with ⟨_, keyed, _⟩
      by_contra unhashable
      rw [Value.asKey, if_neg unhashable] at keyed
      cases keyed
    rw [entries_of_accepted keyChecked valueChecked hashable] at checked
    exact ⟨newKey, newValue, keyChecked, valueChecked, hashable, checked⟩

/-- The entries of a mapping without violations are all accepted, and stored in order if no key
changes. -/
theorem entries_accepted {key value : Checker} (keyEvident : key.Evident)
    (valueEvident : value.Evident) {found : Entries}
    (kept : ∀ entry ∈ found, ∀ k, key.Accepts entry.1 k → k.hashable = true → k = entry.1)
    (distinct : found.Pairwise fun earlier later => (earlier.1 == later.1) = false)
    {done : Entries} (fresh : ∀ earlier ∈ done, ∀ entry ∈ found, (earlier.1 == entry.1) = false)
    {path : Path} {position : Nat} {results : Entries}
    (checked : entries key value path position found done = .ok (results, [])) :
    ∃ stored, results = done ++ stored ∧ List.Forall₂
      (fun entry new => new.1 = entry.1 ∧ key.Accepts entry.1 new.1 ∧ value.Accepts entry.2 new.2)
      found stored := by
  induction found generalizing done position with
  | nil =>
      cases checked
      exact ⟨[], (List.append_nil _).symm, .nil⟩
  | cons entry rest ih =>
      obtain ⟨k, v⟩ := entry
      obtain ⟨keyKept, restKept⟩ := List.forall_mem_cons.mp kept
      obtain ⟨fromHere, restDistinct⟩ := List.pairwise_cons.mp distinct
      obtain ⟨newKey, newValue, keyChecked, valueChecked, hashable, restChecked⟩ :=
        entries_cons_accepted keyEvident valueEvident checked
      have same := keyKept newKey ⟨_, keyChecked⟩ hashable
      subst same
      rw [Entries.put_of_fresh
        fun earlier member => fresh earlier member _ List.mem_cons_self] at restChecked
      have restFresh : ∀ earlier ∈ done ++ [(newKey, newValue)], ∀ entry ∈ rest,
          (earlier.1 == entry.1) = false := by
        intro earlier member entry among
        rcases List.mem_append.mp member with old | new
        · exact fresh earlier old entry (List.mem_cons_of_mem _ among)
        · cases List.mem_singleton.mp new
          exact fromHere entry among
      obtain ⟨stored, rfl, each⟩ := ih restKept restDistinct restFresh restChecked
      exact ⟨(newKey, newValue) :: stored, by rw [List.append_assoc]; rfl,
        .cons ⟨rfl, ⟨_, keyChecked⟩, ⟨_, valueChecked⟩⟩ each⟩

end Check

/-! ## Types -/

namespace Checker.Follows

variable {checker : Checker} {fit : Fit} {checkers : List Checker} {fits : List Fit}

theorem forall₂_fits (follows : checker.Follows fit) {items results : List Value}
    (formed : ∀ item ∈ items, item.wellFormed = true)
    (accepted : List.Forall₂ checker.Accepts items results) : List.Forall₂ fit items results := by
  refine ((List.forall₂_and_left _ _).mpr ⟨formed, accepted⟩).imp ?_
  rintro item result ⟨itemFormed, _, itemAccepted⟩
  exact follows.fits itemFormed itemAccepted

theorem evident_of_mem (follow : List.Forall₂ Checker.Follows checkers fits) :
    ∀ checker ∈ checkers, checker.Evident := by
  induction follow with
  | nil =>
      intro item among
      cases among
  | cons first _ ih => exact List.forall_mem_cons.mpr ⟨first.evident, ih⟩

/-- What the first accepting alternative accepts fits one of the relations. -/
theorem fits_of_firstAccepted (follow : List.Forall₂ Checker.Follows checkers fits)
    {value : Value} (formed : value.wellFormed = true) {path : Path} {result : Value}
    (found : Check.firstAccepted value path checkers = .ok (some result)) :
    ∃ fit ∈ fits, fit value result := by
  induction follow with
  | nil => cases found
  | @cons checker fit _ _ first _ ih =>
      obtain ⟨verdict, checked, others⟩ := Attempt.bind_eq_ok_iff.mp found
      cases verdict with
      | accepted value =>
          cases others
          exact ⟨fit, List.mem_cons_self, first.fits formed checked⟩
      | rejected violations =>
          obtain ⟨later, among, fits⟩ := ih others
          exact ⟨later, List.mem_cons_of_mem _ among, fits⟩

/-- Values that are accepted place by place fit place by place. -/
theorem each_of_accepted (follow : List.Forall₂ Checker.Follows checkers fits)
    {items results : List Value} (sameLength : items.length = checkers.length)
    (formed : ∀ item ∈ items, item.wellFormed = true)
    (accepted : List.Forall₂ (fun part value => part.1.Accepts part.2 value)
      (checkers.zip items) results) : Fit.Each fits items results := by
  induction follow generalizing items results with
  | nil =>
      cases List.eq_nil_of_length_eq_zero sameLength
      cases accepted
      exact .nil
  | cons first _ ih =>
      cases items with
      | nil => cases sameLength
      | cons item others =>
          obtain ⟨itemFormed, othersFormed⟩ := List.forall_mem_cons.mp formed
          cases accepted with
          | cons itemAccepted othersAccepted =>
              obtain ⟨place, checked⟩ := itemAccepted
              exact .cons (first.fits itemFormed checked)
                (ih (Nat.succ.inj sameLength) othersFormed othersAccepted)

end Checker.Follows

namespace Check

theorem kind_follows (kind : Kind) : (Check.kind kind).Follows (Fit.kind kind) where
  evident := kind_evident kind
  fits := by
    intro value path result _ accepted
    unfold Check.kind at accepted
    split at accepted
    · cases accepted
      exact ⟨rfl, by assumption⟩
    · cases accepted

/-- An accepted sequence becomes a list of what its items become, which passes the bounds. -/
theorem array_accepted {inner : Checker} (evident : inner.Evident) {bounds : List Constraint}
    {value result : Value} {path : Path}
    (accepted : Check.array inner bounds value path = .ok (.accepted result)) :
    ∃ items values, value.items? = some items ∧ result = .list values ∧
      List.Forall₂ inner.Accepts items values ∧
      Constraint.checkAll bounds (.list values) path = .ok (.accepted (.list values)) := by
  simp only [Check.array] at accepted
  cases found : value.items? with
  | none =>
      rw [found] at accepted
      cases accepted
  | some items =>
      rw [found] at accepted
      obtain ⟨parts, checked, concluded⟩ := Attempt.bind_eq_ok_iff.mp accepted
      cases verdict : conclude .list parts with
      | rejected violations =>
          rw [verdict] at concluded
          cases concluded
      | accepted built =>
          rw [verdict] at concluded
          obtain ⟨values, violations⟩ := parts
          obtain ⟨rfl, rfl⟩ := conclude_eq_accepted_iff.mp verdict
          obtain ⟨rfl, _⟩ := Constraint.satisfied_of_checkAll concluded
          exact ⟨items, values, rfl, rfl, items_accepted evident checked, concluded⟩

theorem array_follows {inner : Checker} {fit : Fit} (follows : inner.Follows fit)
    (minItems maxItems : Value) :
    (Check.array inner (TypeSpec.boundConstraints minItems maxItems)).Follows
      (Fit.array fit minItems maxItems) where
  evident := array_evident _ _
  fits := by
    intro value path result formed accepted
    obtain ⟨items, values, found, rfl, each, bounded⟩ := array_accepted follows.evident accepted
    have satisfied := (Constraint.satisfied_of_checkAll bounded).2
    refine ⟨items, values, found, rfl, ?_, ?_⟩
    · exact follows.forall₂_fits (Value.wellFormed_of_items found formed) each
    · exact Constraint.boundsAllow_of_satisfied fun constraint among =>
        satisfied constraint among path

theorem union_accepted {description : Attempt String} {alternatives : List Checker}
    {value result : Value} {path : Path}
    (accepted : Check.union description alternatives value path = .ok (.accepted result)) :
    firstAccepted value path alternatives = .ok (some result) := by
  obtain ⟨found, checked, concluded⟩ := Attempt.bind_eq_ok_iff.mp accepted
  cases found with
  | some first =>
      cases concluded
      exact checked
  | none =>
      obtain ⟨text, _, rejected⟩ := Attempt.bind_eq_ok_iff.mp concluded
      cases rejected

theorem union_follows {checkers : List Checker} {fits : List Fit}
    (follow : List.Forall₂ Checker.Follows checkers fits) (description : Attempt String) :
    (Check.union description checkers).Follows (Fit.union fits) where
  evident := union_evident _ _
  fits := by
    intro value path result formed accepted
    exact Checker.Follows.fits_of_firstAccepted follow formed (union_accepted accepted)

/-- An accepted sequence of the right length becomes a tuple of what its members become. -/
theorem tuple_accepted {elements : List Checker} (evident : ∀ checker ∈ elements, checker.Evident)
    {value result : Value} {path : Path}
    (accepted : Check.tuple elements value path = .ok (.accepted result)) :
    ∃ items values, value.items? = some items ∧ result = .tuple values ∧
      items.length = elements.length ∧
      List.Forall₂ (fun part value => part.1.Accepts part.2 value) (elements.zip items) values := by
  simp only [Check.tuple] at accepted
  cases found : value.items? with
  | none =>
      rw [found] at accepted
      cases accepted
  | some items =>
      rw [found] at accepted
      dsimp only at accepted
      split at accepted
      case isFalse => cases accepted
      case isTrue sameLength =>
        obtain ⟨⟨values, violations⟩, checked, concluded⟩ := Attempt.bind_eq_ok_iff.mp accepted
        obtain ⟨rfl, rfl⟩ := conclude_eq_accepted_iff.mp (Except.ok.inj concluded)
        have partsEvident : ∀ part ∈ elements.zip items, part.1.Evident := by
          intro part among
          exact evident part.1 (List.of_mem_zip among).1
        exact ⟨items, values, rfl, rfl, sameLength, members_accepted partsEvident checked⟩

theorem tuple_follows {checkers : List Checker} {fits : List Fit}
    (follow : List.Forall₂ Checker.Follows checkers fits) :
    (Check.tuple checkers).Follows (Fit.tuple fits) where
  evident := tuple_evident _
  fits := by
    intro value path result formed accepted
    obtain ⟨items, values, found, rfl, sameLength, each⟩ :=
      tuple_accepted (Checker.Follows.evident_of_mem follow) accepted
    exact ⟨items, values, found, rfl, Checker.Follows.each_of_accepted follow sameLength
      (Value.wellFormed_of_items found formed) each⟩

/-- An accepted mapping keeps its keys and their order. -/
theorem map_accepted {key value : Checker} {keyFit : Fit} (keyFollows : key.Follows keyFit)
    (keepsKeys : keyFit.KeepsKeys) (valueEvident : value.Evident) {data result : Value}
    {path : Path}
    (formed : data.wellFormed = true)
    (accepted : Check.map key value data path = .ok (.accepted result)) :
    ∃ found stored, data = .map found ∧ result = .map stored ∧ List.Forall₂
      (fun entry new => new.1 = entry.1 ∧ key.Accepts entry.1 new.1 ∧ value.Accepts entry.2 new.2)
      found stored := by
  cases data with
  | map found =>
      obtain ⟨⟨done, violations⟩, checked, concluded⟩ := Attempt.bind_eq_ok_iff.mp accepted
      cases violations with
      | cons first rest => cases concluded
      | nil =>
          cases concluded
          obtain ⟨distinct, parts⟩ := Value.wellFormed_map.mp formed
          have kept : ∀ entry ∈ found, ∀ k, key.Accepts entry.1 k → k.hashable = true →
              k = entry.1 := by
            rintro entry among k ⟨place, keyAccepted⟩ hashable
            obtain ⟨entryHashable, keyFormed, _⟩ := parts entry among
            exact keepsKeys (keyFollows.fits keyFormed keyAccepted) entryHashable hashable
          obtain ⟨stored, rfl, each⟩ := entries_accepted keyFollows.evident valueEvident
            kept distinct (fun _ among => absurd among List.not_mem_nil) checked
          exact ⟨found, done, rfl, rfl, each⟩
  | _ => cases accepted

theorem map_follows {key value : Checker} {keyFit valueFit : Fit}
    (keyFollows : key.Follows keyFit) (valueFollows : value.Follows valueFit)
    (keepsKeys : keyFit.KeepsKeys) : (Check.map key value).Follows (Fit.map keyFit valueFit) where
  evident := map_evident _ _
  fits := by
    intro data path result formed accepted
    obtain ⟨found, stored, rfl, rfl, each⟩ :=
      map_accepted keyFollows keepsKeys valueFollows.evident formed accepted
    refine ⟨found, stored, rfl, rfl, ?_⟩
    have parts := (Value.wellFormed_map.mp formed).2
    refine ((List.forall₂_and_left _ _).mpr ⟨parts, each⟩).imp ?_
    rintro entry new ⟨⟨_, keyFormed, valueFormed⟩, _, ⟨_, keyAccepted⟩, ⟨_, valueAccepted⟩⟩
    constructor
    · exact keyFollows.fits keyFormed keyAccepted
    · exact valueFollows.fits valueFormed valueAccepted

theorem nested_accepted {record : Checker} {value result : Value} {path : Path}
    (accepted : Check.nested record value path = .ok (.accepted result)) :
    record value [] = .ok (.accepted result) := by
  obtain ⟨verdict, checked, concluded⟩ := Attempt.bind_eq_ok_iff.mp accepted
  cases verdict with
  | accepted inner =>
      cases concluded
      exact checked
  | rejected violations => cases concluded

theorem nested_follows {record : Checker} {fit : Fit} (follows : record.Follows fit) :
    (Check.nested record).Follows fit where
  evident := nested_evident follows.evident
  fits formed accepted := follows.fits formed (nested_accepted accepted)

theorem constrained_accepted {checker : Checker} {constraints : List Constraint}
    {value result : Value} {path : Path}
    (accepted : Check.constrained checker constraints value path = .ok (.accepted result)) :
    checker value path = .ok (.accepted result) ∧
      Constraint.checkAll constraints result path = .ok (.accepted result) := by
  obtain ⟨verdict, checked, concluded⟩ := Attempt.bind_eq_ok_iff.mp accepted
  cases verdict with
  | accepted inner =>
      obtain ⟨rfl, _⟩ := Constraint.satisfied_of_checkAll concluded
      exact ⟨checked, concluded⟩
  | rejected violations => cases concluded

theorem constrained_follows {checker : Checker} {fit : Fit} (follows : checker.Follows fit)
    (constraints : List Constraint) :
    (Check.constrained checker constraints).Follows (Fit.satisfying fit constraints) where
  evident := constrained_evident follows.evident constraints
  fits := by
    intro value path result formed accepted
    obtain ⟨checked, passed⟩ := constrained_accepted accepted
    exact ⟨follows.fits formed checked, (Constraint.satisfied_of_checkAll passed).2⟩

end Check

/-! ## Records -/

namespace Record

theorem lookup_behind {α : Type} (name : α → String) {item other : α} {rest : List α}
    (fresh : name item ∉ rest.map name) (among : other ∈ rest) {value : Value}
    {values : List (String × Value)} :
    ((name item, value) :: values).lookup (name other) = values.lookup (name other) := by
  have differs : name other ≠ name item := ne_of_mem_of_not_mem (List.mem_map_of_mem among) fresh
  rw [List.lookup_cons, beq_false_of_ne differs]

/-- How the values of a record come from data: by the checks of the fields that are present, and
from the defaults of those that are absent. -/
inductive Gathered (env : Environment) (data : Entries) : List Rule → List (String × Value) → Prop
  where
  | nil : Gathered env data [] []
  | present {rule : Rule} {rest : List Rule} {values : List (String × Value)}
      {given value : Value} (found : lookup env data rule.field.name = some given)
      (accepted : rule.check.Accepts given value) (others : Gathered env data rest values) :
      Gathered env data (rule :: rest) ((rule.field.name, value) :: values)
  | filled {rule : Rule} {rest : List Rule} {values : List (String × Value)}
      (absent : lookup env data rule.field.name = none) (fills : rule.field.hasDefault = true)
      (others : Gathered env data rest values) :
      Gathered env data (rule :: rest) ((rule.field.name, rule.field.default) :: values)
  | left {rule : Rule} {rest : List Rule} {values : List (String × Value)}
      (absent : lookup env data rule.field.name = none) (bare : rule.field.hasDefault = false)
      (free : rule.field.required = false) (others : Gathered env data rest values) :
      Gathered env data (rule :: rest) values

/-- Fields without violations are gathered. -/
theorem gather_accepted {env : Environment} {data : Entries} {path : Path} {rules : List Rule}
    (evident : ∀ rule ∈ rules, rule.check.Evident) {values : List (String × Value)}
    (gathered : gather env data path rules = .ok (values, [])) :
      Gathered env data rules values := by
  induction rules generalizing values with
  | nil =>
      cases gathered
      exact .nil
  | cons rule rest ih =>
      obtain ⟨ruleEvident, restEvident⟩ := List.forall_mem_cons.mp evident
      obtain ⟨verdict, decided, others⟩ := Attempt.bind_eq_ok_iff.mp gathered
      obtain ⟨⟨restValues, violations⟩, restGathered, joined⟩ := Attempt.bind_eq_ok_iff.mp others
      have joined : addVerdict rule.field.name verdict (restValues, violations) = (values, []) :=
        Except.ok.inj joined
      simp only [fieldVerdict] at decided
      cases found : lookup env data rule.field.name with
      | some given =>
          rw [found] at decided
          obtain ⟨checked, accepted, same⟩ := Attempt.bind_eq_ok_iff.mp decided
          cases same
          cases checked with
          | accepted value =>
              cases joined
              exact .present found ⟨_, accepted⟩ (ih restEvident restGathered)
          | rejected reasons =>
              have none := (Prod.mk.inj joined).2
              rw [(List.append_eq_nil_iff.mp none).1] at accepted
              exact absurd accepted (ruleEvident _ _)
      | none =>
          rw [found] at decided
          dsimp only at decided
          split at decided
          case isTrue fills =>
            obtain ⟨copied, copies, same⟩ := Attempt.bind_eq_ok_iff.mp decided
            obtain ⟨_, rfl⟩ := Value.copy_eq_ok_iff.mp copies
            cases same
            cases joined
            exact .filled found fills (ih restEvident restGathered)
          case isFalse bare =>
            split at decided
            case isTrue =>
              cases decided
              cases joined
            case isFalse free =>
              cases decided
              cases joined
              exact .left found (Bool.not_eq_true _ ▸ bare) (Bool.not_eq_true _ ▸ free)
                (ih restEvident restGathered)

namespace Gathered

variable {env : Environment} {data : Entries} {rules : List Rule} {values : List (String × Value)}

theorem names_sublist (gathered : Gathered env data rules values) :
    (values.map Prod.fst).Sublist (rules.map fun rule => rule.field.name) := by
  induction gathered with
  | nil => exact .slnil
  | present _ _ _ ih => exact ih.cons_cons _
  | filled _ _ _ ih => exact ih.cons_cons _
  | left _ _ _ _ ih => exact ih.cons _

theorem lookup_eq_none (gathered : Gathered env data rules values) {name : String}
    (unknown : name ∉ rules.map fun rule => rule.field.name) : values.lookup name = none := by
  rw [List.lookup_eq_none_iff]
  intro entry among
  rw [bne_iff_ne]
  rintro rfl
  exact unknown (gathered.names_sublist.subset (List.mem_map_of_mem among))

/-- The value under the name of a field comes from that field. -/
theorem lookup_name (gathered : Gathered env data rules values)
    (distinct : (rules.map fun rule => rule.field.name).Nodup) :
    ∀ rule ∈ rules,
      (∀ given, Record.lookup env data rule.field.name = some given →
        ∃ value, values.lookup rule.field.name = some value ∧ rule.check.Accepts given value) ∧
      (Record.lookup env data rule.field.name = none →
        values.lookup rule.field.name =
            (if rule.field.hasDefault then some rule.field.default else none) ∧
          (rule.field.required = true → rule.field.hasDefault = true)) := by
  induction gathered with
  | nil =>
      intro item among
      cases among
  | present found accepted others ih =>
      obtain ⟨fresh, restDistinct⟩ := List.nodup_cons.mp distinct
      refine List.forall_mem_cons.mpr ⟨⟨?_, ?_⟩, fun other among => ?_⟩
      · intro given same
        rw [found] at same
        cases same
        exact ⟨_, List.lookup_cons_self, accepted⟩
      · intro absent
        rw [found] at absent
        cases absent
      · rw [lookup_behind _ fresh among]
        exact ih restDistinct other among
  | filled absent fills others ih =>
      obtain ⟨fresh, restDistinct⟩ := List.nodup_cons.mp distinct
      refine List.forall_mem_cons.mpr ⟨⟨?_, ?_⟩, fun other among => ?_⟩
      · intro given found
        rw [absent] at found
        cases found
      · intro _
        rw [List.lookup_cons_self, if_pos fills]
        exact ⟨rfl, fun _ => fills⟩
      · rw [lookup_behind _ fresh among]
        exact ih restDistinct other among
  | @left rule rest values absent bare free others ih =>
      obtain ⟨fresh, restDistinct⟩ := List.nodup_cons.mp distinct
      refine List.forall_mem_cons.mpr ⟨⟨?_, ?_⟩, ih restDistinct⟩
      · intro given found
        rw [absent] at found
        cases found
      · intro _
        rw [others.lookup_eq_none fresh, bare, free]
        constructor
        · rfl
        · intro required
          cases required

end Gathered

end Record

@[simp] theorem Entries.get?_ofTexts (values : List (String × Value)) (name : String) :
    (Entries.ofTexts values).get? (.str name) = values.lookup name := by
  induction values with
  | nil => rfl
  | cons entry rest ih =>
      obtain ⟨key, value⟩ := entry
      have same : (Value.str key == Value.str name) = (name == key) := BEq.comm (a := key)
      simp only [Entries.ofTexts, Entries.get?, List.map_cons, List.find?_cons, same,
        List.lookup_cons]
      cases name == key with
      | true => rfl
      | false => exact ih

/-- What is found under a name in well-formed data is well-formed. -/
theorem Record.wellFormed_of_lookup {env : Environment} {data : Entries}
    (formed : (Value.map data).wellFormed = true) {name : String} {given : Value}
    (found : lookup env data name = some given) : given.wellFormed = true := by
  have stored : ∀ key, data.get? key = some given → given.wellFormed = true := by
    intro key got
    obtain ⟨entry, first, rfl⟩ := Option.map_eq_some_iff.mp got
    exact ((Value.wellFormed_map.mp formed).2 entry (List.mem_of_find?_eq_some first)).2.2
  simp only [lookup] at found
  split at found
  case h_1 value byText =>
    cases found
    exact stored _ byText
  case h_2 =>
    split at found
    · exact stored _ found
    · cases found

/-- Gathered values meet the demands on the fields, if the checks of the fields follow them. -/
theorem Record.Gathered.meets {env : Environment} {data : Entries} {fields : List Field}
    {check : Field → Checker} {fit : Field → Fit}
    (follows : ∀ field ∈ fields, (check field).Follows (fit field))
    (distinct : (fields.map Field.name).Nodup)
    (formed : (Value.map data).wellFormed = true) {values : List (String × Value)}
    (gathered : Gathered env data (fields.map fun field => ⟨field, check field⟩) values) :
    Fit.Meets env (fields.map fun field => ⟨field, fit field⟩) data (Entries.ofTexts values) := by
  have ordered := gathered.names_sublist
  have entered := gathered.lookup_name (by rw [List.map_map]; exact distinct)
  rw [List.map_map] at ordered
  constructor
  case ordered =>
    have keys : (Entries.ofTexts values).map Prod.fst = (values.map Prod.fst).map Value.str := by
      rw [Entries.ofTexts, List.map_map, List.map_map]
      rfl
    have names : (fields.map fun field => Demand.mk field (fit field)).map
        (fun demand => Value.str demand.field.name) = (fields.map Field.name).map Value.str := by
      rw [List.map_map, List.map_map]
      rfl
    rw [keys, names]
    exact ordered.map Value.str
  all_goals
    intro demand among
    obtain ⟨field, fieldAmong, rfl⟩ := List.mem_map.mp among
    obtain ⟨ofPresent, ofAbsent⟩ := entered ⟨field, check field⟩ (List.mem_map_of_mem fieldAmong)
    simp
  case required =>
    intro required
    cases found : lookup env data field.name with
    | some given =>
        obtain ⟨value, entry, _⟩ := ofPresent given found
        exact ⟨value, entry⟩
    | none =>
        obtain ⟨entry, fills⟩ := ofAbsent found
        rw [if_pos (fills required)] at entry
        exact ⟨_, entry⟩
  case absent =>
    intro absent
    exact (ofAbsent absent).1
  case present =>
    intro given found
    obtain ⟨value, entry, place, accepted⟩ := ofPresent given found
    exact ⟨value, entry,
      (follows field fieldAmong).fits (wellFormed_of_lookup formed found) accepted⟩

/-- A record that the hook gets to see is one whose fields were gathered without violations. -/
theorem Record.gather_of_candidate {env : Environment} {rules : List Rule} {strict : Bool}
    {value : Value} {path : Path} {record : Value}
    (accepted : candidate env rules strict value path = .ok (.accepted record)) :
    ∃ data values, value = .map data ∧ record = .record values ∧
      gather env data path rules = .ok (values, []) := by
  cases value with
  | map data =>
      simp only [candidate] at accepted
      split at accepted
      · cases accepted
      · obtain ⟨⟨values, violations⟩, gathered, others⟩ := Attempt.bind_eq_ok_iff.mp accepted
        cases violations with
        | cons first rest => cases others
        | nil =>
            refine ⟨data, values, rfl, ?_, gathered⟩
            cases strict with
            | false =>
                cases others
                rfl
            | true =>
                obtain ⟨extra, _, concluded⟩ := Attempt.bind_eq_ok_iff.mp others
                cases extra with
                | cons first rest => cases concluded
                | nil =>
                    cases concluded
                    rfl
  | _ => cases accepted

/-- An accepted record without a hook is gathered from the fields. -/
theorem Record.check_accepted {env : Environment} {rules : List Rule}
    (evident : ∀ rule ∈ rules, rule.check.Evident) {strict : Bool} {value result : Value}
    {path : Path}
    (accepted : Record.check env rules strict none value path = .ok (.accepted result)) :
    ∃ data values, value = .map data ∧ result = .record values ∧
      Gathered env data rules values := by
  obtain ⟨verdict, staged, concluded⟩ := Attempt.bind_eq_ok_iff.mp accepted
  cases verdict with
  | rejected violations =>
      obtain ⟨_, _, rejected⟩ := Attempt.bind_eq_ok_iff.mp concluded
      cases rejected
  | accepted record =>
      cases concluded
      obtain ⟨proposed, candidateChecked, reviewed⟩ := Attempt.bind_eq_ok_iff.mp staged
      cases proposed with
      | rejected violations => cases reviewed
      | accepted record =>
          cases reviewed
          obtain ⟨data, values, rfl, rfl, gathered⟩ := gather_of_candidate candidateChecked
          exact ⟨data, values, rfl, rfl, gather_accepted evident gathered⟩

/-- The check of a record without a hook follows the demands on its fields, if the checks of the
fields follow them. -/
theorem Record.check_follows {env : Environment} {fields : List Field} {check : Field → Checker}
    {fit : Field → Fit} (follows : ∀ field ∈ fields, (check field).Follows (fit field))
    (distinct : (fields.map Field.name).Nodup) (strict : Bool) :
    (Record.check env (fields.map fun field => ⟨field, check field⟩) strict none).Follows
      (Fit.record env (fields.map fun field => ⟨field, fit field⟩)) where
  evident := Record.check_evident _ _ _ _
  fits := by
    intro value path result formed accepted
    have evident : ∀ rule ∈ fields.map fun field => Rule.mk field (check field),
        rule.check.Evident := by
      intro rule among
      obtain ⟨field, fieldAmong, rfl⟩ := List.mem_map.mp among
      exact (follows field fieldAmong).evident
    obtain ⟨data, values, rfl, rfl, gathered⟩ := check_accepted evident accepted
    exact ⟨data, _, rfl, rfl, gathered.meets follows distinct formed⟩

/-! ## Types and schemas -/

mutual

theorem TypeSpec.check_follows (env : Environment) : (spec : TypeSpec) → spec.isRegular = true →
    (spec.check env).Follows (spec.fit env)
  | .primitive kind, _ => Check.kind_follows kind
  | .array inner minItems maxItems, regular =>
      Check.array_follows (TypeSpec.check_follows env inner regular) minItems maxItems
  | .union alternatives, regular =>
      Check.union_follows (TypeSpec.checkers_follow env alternatives regular) _
  | .tuple elements, regular => Check.tuple_follows (TypeSpec.checkers_follow env elements regular)
  | .map key value, regular => by
      obtain ⟨keyRegular, valueRegular⟩ := Bool.and_eq_true_iff.mp regular
      exact Check.map_follows (TypeSpec.check_follows env key keyRegular)
        (TypeSpec.check_follows env value valueRegular) (TypeSpec.fit_keepsKeys env key)
  | .ref target, regular => Value.checkAsTarget_follows env target regular
  | .unknownKind _, regular => nomatch regular
  | .rawUnion _, regular | .rawTuple _, regular | .raw _, regular => nomatch regular

theorem TypeSpec.checkers_follow (env : Environment) : (specs : List TypeSpec) →
    TypeSpec.allRegular specs = true →
    List.Forall₂ Checker.Follows (TypeSpec.checkers env specs) (TypeSpec.fits env specs)
  | [], _ => .nil
  | spec :: rest, regular => by
      obtain ⟨specRegular, restRegular⟩ := Bool.and_eq_true_iff.mp regular
      exact .cons (TypeSpec.check_follows env spec specRegular)
        (TypeSpec.checkers_follow env rest restRegular)

theorem Value.checkAsTarget_follows (env : Environment) : (target : Value) →
    target.isRegularTarget = true → (target.checkAsTarget env).Follows (target.fitAsTarget env)
  | .schema _ schema, regular => Check.nested_follows (Schema.check_follows env schema regular)
  | .null, regular | .bool _, regular | .int _, regular | .float _, regular | .str _, regular
  | .bytes _, regular | .list _, regular | .tuple _, regular | .set _, regular | .map _, regular
  | .symbol _, regular | .member .., regular | .pattern _, regular | .type _, regular
  | .spec _, regular | .violation _, regular | .ok _, regular | .err _, regular
  | .target _, regular => nomatch regular

theorem Schema.check_follows (env : Environment) : (schema : Schema) → schema.isRegular = true →
    (schema.check env).Follows (schema.fit env)
  | ⟨fields, _, _, strict, hook, _⟩, regular => by
      simp only [Schema.isRegular, Bool.and_eq_true, Option.isNone_iff_eq_none,
        decide_eq_true_eq] at regular
      obtain ⟨⟨rfl, distinct⟩, fieldsRegular⟩ := regular
      rw [Schema.check, Schema.fit, Schema.rules_eq_map, Schema.demands_eq_map]
      exact Record.check_follows (Schema.fields_follow env fields fieldsRegular) distinct strict

theorem Schema.fields_follow (env : Environment) : (fields : List Field) →
    Schema.fieldsRegular fields = true →
    ∀ field ∈ fields, (field.check env).Follows (field.fit env)
  | [], _ => fun _ among => nomatch among
  | field :: rest, regular => by
      obtain ⟨fieldRegular, restRegular⟩ := Bool.and_eq_true_iff.mp regular
      exact List.forall_mem_cons.mpr ⟨Field.check_follows env field fieldRegular,
        Schema.fields_follow env rest restRegular⟩

theorem Field.check_follows (env : Environment) : (field : Field) → field.isRegular = true →
    (field.check env).Follows (field.fit env)
  | ⟨_, type, _, constraints, _, _, _⟩, regular =>
      Check.constrained_follows (TypeSpec.check_follows env type regular) constraints

end

/-! ## Conversions -/

/-- Results that are well-formed, whatever they were made from. -/
def Fit.formed : Fit := fun _ result => result.wellFormed = true

theorem forall_mem_of_forall₂ {α β : Type} {holds : β → Prop} {firsts : List α} {seconds : List β}
    (each : List.Forall₂ (fun _ second => holds second) firsts seconds) :
    ∀ second ∈ seconds, holds second := by
  induction each with
  | nil => exact List.forall_mem_nil _
  | cons first _ ih => exact List.forall_mem_cons.mpr ⟨first, ih⟩

namespace Coercion

theorem accept_follows : Checker.Follows (fun value _ => accept value) Fit.formed where
  evident := fun value _ => accept_evident value
  fits := by
    rintro value path result formed ⟨⟩
    exact formed

theorem toKind_follows (env : Environment) (kind : Kind) :
    (toKind env kind).Follows Fit.formed where
  evident := toKind_evident env kind
  fits := by
    intro value path result formed accepted
    cases scalar : kind.isScalar with
    | true => exact Kind.wellFormed_of_admits scalar (toKind_reaches scalar accepted).admits
    | false =>
        rw [toKind_of_not_isScalar env scalar] at accepted
        cases accepted
        exact formed

theorem toArray_follows {inner : Checker} (follows : inner.Follows Fit.formed) :
    (toArray inner).Follows Fit.formed where
  evident := toArray_evident inner
  fits := by
    intro value path result formed accepted
    simp only [toArray] at accepted
    cases found : value.items? with
    | none =>
        rw [found] at accepted
        cases accepted
        exact formed
    | some items =>
        rw [found] at accepted
        obtain ⟨⟨values, violations⟩, checked, concluded⟩ := Attempt.bind_eq_ok_iff.mp accepted
        obtain ⟨rfl, rfl⟩ := Check.conclude_eq_accepted_iff.mp (Except.ok.inj concluded)
        have each := Check.items_accepted follows.evident checked
        exact Value.allWellFormed_iff.mpr (forall_mem_of_forall₂
          (follows.forall₂_fits (Value.wellFormed_of_items found formed) each))

theorem toUnion_follows (spec : TypeSpec) {alternatives : List Checker}
    (follow : ∀ checker ∈ alternatives, checker.Follows Fit.formed) :
    (toUnion spec alternatives).Follows Fit.formed where
  evident := toUnion_evident _ _
  fits := by
    intro value path result formed accepted
    obtain ⟨found, tried, concluded⟩ := Attempt.bind_eq_ok_iff.mp accepted
    cases found with
    | none => exact absurd concluded (refuse_ne_accepted _ _ _ _ _)
    | some first =>
        cases concluded
        have each : List.Forall₂ Checker.Follows alternatives (alternatives.map fun _ =>
          Fit.formed) :=
          List.forall₂_map_right_iff.mpr (List.forall₂_same.mpr follow)
        obtain ⟨fit, among, fits⟩ := Checker.Follows.fits_of_firstAccepted each formed tried
        obtain ⟨_, _, rfl⟩ := List.mem_map.mp among
        exact fits

theorem toRawUnion_follows (spec : TypeSpec) {alternatives : Attempt (List Checker)}
    (follow : ∀ checkers, alternatives = .ok checkers →
      ∀ checker ∈ checkers, checker.Follows Fit.formed) :
    (toRawUnion spec alternatives).Follows Fit.formed := by
  cases alternatives with
  | ok checkers => exact toUnion_follows spec (follow checkers rfl)
  | error fault => exact ⟨fun _ _ => nofun, fun _ => nofun⟩

theorem toUnknownKind_follows (env : Environment) (kind : Value) :
    (toUnknownKind env kind).Follows Fit.formed := by
  unfold toUnknownKind
  split
  · exact accept_follows
  · exact ⟨toAtom_evident env _, fun _ accepted =>
      Kind.wellFormed_of_admits rfl (toAtom_reaches accepted).admits⟩

end Coercion

theorem TypeSpec.coerce_follows (env : Environment) (spec : TypeSpec) :
    (spec.coerce env).Follows Fit.formed := by
  induction spec using TypeSpec.induction with
  | primitive kind => exact Coercion.toKind_follows env kind
  | unknownKind kind => exact Coercion.toUnknownKind_follows env kind
  | array inner minItems maxItems ih => exact Coercion.toArray_follows ih
  | union alternatives ih => exact Coercion.toUnion_follows _ (TypeSpec.forall_coercers ih)
  | rawUnion field ih => exact Coercion.toRawUnion_follows _ (Value.forall_memberCoercers ih)
  | tuple | rawTuple | map | ref | raw => exact Coercion.accept_follows

namespace Schema

/-- Field tuples define fields of distinct names. -/
theorem distinct_of_fieldsOfSpecs {specs : List Value} {done fields : List Field}
    (distinct : (done.map Field.name).Nodup)
    (defined : fieldsOfSpecs done specs = .ok fields) : (fields.map Field.name).Nodup := by
  induction specs generalizing done with
  | nil =>
      cases defined
      exact distinct
  | cons spec rest ih =>
      obtain ⟨field, _, others⟩ := Attempt.bind_eq_ok_iff.mp defined
      split at others
      case isTrue => exact absurd others (DefinitionFlaw.refuse_ne_ok _ _)
      case isFalse unused =>
        have fresh : field.name ∉ done.map Field.name := by
          intro among
          obtain ⟨other, otherAmong, same⟩ := List.mem_map.mp among
          exact unused (List.any_eq_true.mpr ⟨other, otherAmong, beq_iff_eq.mpr same⟩)
        refine ih ?_ others
        rw [List.map_append, List.map_singleton]
        exact List.Nodup.append distinct (List.nodup_singleton _)
          (List.disjoint_singleton.mpr fresh)

theorem distinct_of_define {specs : Value} {settings : Settings} {schema : Schema}
    (defined : define specs settings = .ok schema) : (schema.fields.map Field.name).Nodup := by
  simp only [define] at defined
  split at defined
  case isTrue => exact absurd defined (DefinitionFlaw.refuse_ne_ok _ _)
  case isFalse =>
    obtain ⟨hook, _, others⟩ := Attempt.bind_eq_ok_iff.mp defined
    obtain ⟨elements, _, others⟩ := Attempt.bind_eq_ok_iff.mp others
    obtain ⟨fields, fieldsDefined, others⟩ := Attempt.bind_eq_ok_iff.mp others
    obtain ⟨metadata, _, same⟩ := Attempt.bind_eq_ok_iff.mp others
    cases same
    have none : (([] : List Field).map Field.name).Nodup := List.nodup_nil
    exact distinct_of_fieldsOfSpecs none fieldsDefined

end Schema

end Conform
