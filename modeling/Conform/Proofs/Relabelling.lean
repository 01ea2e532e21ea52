import Conform.Proofs.Soundness

/-!
# Relabelled sequences

Checks give back lists for some sequences and tuples for others.  A value relabels another if it is
the same but for which of its sequences are lists and which are tuples; the keys of mappings stay.
Checks of types without references do not tell such values apart, and what they accept relabels what
they were given.
-/

namespace Conform

mutual

/-- Values are the same but for which of their sequences are lists and which are tuples. -/
inductive Value.Relabels : Value → Value → Prop where
  | same (value : Value) : Relabels value value
  | sequence {value other : Value} {items others : List Value}
      (listed : value.items? = some items) (otherListed : other.items? = some others)
      (each : RelabelAll items others) : Relabels value other
  | map {entries others : Entries} (each : RelabelEntries entries others) :
      Relabels (.map entries) (.map others)

/-- Values are such pair by pair. -/
inductive Value.RelabelAll : List Value → List Value → Prop where
  | nil : RelabelAll [] []
  | cons {value other : Value} {rest others : List Value} (first : Relabels value other)
      (each : RelabelAll rest others) : RelabelAll (value :: rest) (other :: others)

/-- Entries have the same keys, and such values. -/
inductive Value.RelabelEntries : Entries → Entries → Prop where
  | nil : RelabelEntries [] []
  | cons {key value other : Value} {rest others : Entries} (first : Relabels value other)
      (each : RelabelEntries rest others) :
      RelabelEntries ((key, value) :: rest) ((key, other) :: others)

end

namespace Value

theorem RelabelAll.refl (items : List Value) : RelabelAll items items := by
  induction items with
  | nil => exact .nil
  | cons item rest ih => exact .cons (.same item) ih

theorem RelabelEntries.refl (entries : Entries) : RelabelEntries entries entries := by
  induction entries with
  | nil => exact .nil
  | cons entry rest ih => exact .cons (.same entry.2) ih

theorem RelabelAll.of_forall₂ {items others : List Value}
    (each : List.Forall₂ Relabels items others) : RelabelAll items others := by
  induction each with
  | nil => exact .nil
  | cons first _ ih => exact .cons first ih

theorem RelabelEntries.of_forall₂ {entries others : Entries}
    (each : List.Forall₂ (fun entry other => other.1 = entry.1 ∧ entry.2.Relabels other.2)
      entries others) : RelabelEntries entries others := by
  induction each with
  | nil => exact .nil
  | @cons entry other _ _ first _ ih =>
      obtain ⟨key, value⟩ := entry
      obtain ⟨_, otherValue⟩ := other
      obtain ⟨rfl, relabels⟩ := first
      exact .cons relabels ih

theorem RelabelAll.forall₂ {items others : List Value} (each : RelabelAll items others) :
    List.Forall₂ Relabels items others := by
  induction items generalizing others with
  | nil =>
      cases each
      exact .nil
  | cons item rest ih =>
      cases each with
      | cons first each => exact .cons first (ih each)

theorem RelabelAll.length_eq {items others : List Value} (each : RelabelAll items others) :
    items.length = others.length := each.forall₂.length_eq

namespace Relabels

variable {value other : Value}

/-- What relabels a sequence is a sequence. -/
theorem items (relabels : value.Relabels other) :
    (value.items? = none ∧ other.items? = none) ∨
      ∃ items others, value.items? = some items ∧ other.items? = some others ∧
        RelabelAll items others := by
  cases relabels with
  | same =>
      cases listed : value.items? with
      | none => exact .inl ⟨rfl, rfl⟩
      | some items => exact .inr ⟨items, items, rfl, rfl, .refl items⟩
  | sequence listed otherListed each => exact .inr ⟨_, _, listed, otherListed, each⟩
  | map => exact .inl ⟨rfl, rfl⟩

/-- What relabels a mapping is a mapping. -/
theorem entries (relabels : value.Relabels other) :
    (value.entries? = none ∧ other.entries? = none) ∨
      ∃ entries others, value = .map entries ∧ other = .map others ∧
        RelabelEntries entries others := by
  cases relabels with
  | same =>
      cases value with
      | map entries => exact .inr ⟨entries, entries, rfl, rfl, .refl entries⟩
      | _ => exact .inl ⟨rfl, rfl⟩
  | sequence listed otherListed each =>
      cases value <;> cases listed <;> cases other <;> cases otherListed <;> exact .inl ⟨rfl, rfl⟩
  | map each => exact .inr ⟨_, _, rfl, rfl, each⟩

theorem admits_eq (relabels : value.Relabels other) (kind : Kind) :
    kind.admits value = kind.admits other := by
  cases relabels with
  | same => rfl
  | sequence listed otherListed each =>
      cases value <;> cases listed <;> cases other <;> cases otherListed <;> cases kind <;> rfl
  | map each => cases kind <;> rfl

end Relabels

end Value

/-! ## Outcomes that are alike -/

/-- Two operations end in the same fault, or in results that are related. -/
inductive Attempt.Alike {α β : Type} (related : α → β → Prop) : Attempt α → Attempt β → Prop where
  | ok {result : α} {other : β} (relates : related result other) :
      Alike related (.ok result) (.ok other)
  | error (fault : Fault) : Alike related (.error fault) (.error fault)

/-- Sequences are alike if their steps are. -/
theorem Attempt.Alike.bind {α β γ δ : Type} {related : α → β → Prop} {later : γ → δ → Prop}
    {attempt : Attempt α} {other : Attempt β} (first : Alike related attempt other)
    {next : α → Attempt γ} {otherNext : β → Attempt δ}
    (second : ∀ result otherResult, related result otherResult →
      Alike later (next result) (otherNext otherResult)) :
    Alike later (attempt >>= next) (other >>= otherNext) := by
  cases first with
  | ok relates => exact second _ _ relates
  | error fault => exact .error fault

theorem Attempt.Alike.refl {α : Type} {related : α → α → Prop} (attempt : Attempt α)
    (reflexive : ∀ result, attempt = .ok result → related result result) :
    Alike related attempt attempt := by
  cases attempt with
  | ok result => exact .ok (reflexive result rfl)
  | error fault => exact .error fault

/-- Two verdicts both accept, or both reject for a reason. -/
inductive Verdict.Agree : Verdict Value → Verdict Value → Prop where
  | accepted (value other : Value) : Agree (.accepted value) (.accepted other)
  | rejected {violations others : List Violation} (some : violations ≠ []) (any : others ≠ []) :
      Agree (.rejected violations) (.rejected others)

theorem Verdict.rejected_agree {first other : Violation} {rest others : List Violation} :
    (Verdict.rejected (first :: rest)).Agree (.rejected (other :: others)) :=
  .rejected (List.cons_ne_nil _ _) (List.cons_ne_nil _ _)

/-- A checker does not tell apart values that relabel each other. -/
def Checker.Blind (checker : Checker) : Prop :=
  ∀ {value other : Value} (path : Path), value.Relabels other →
    Attempt.Alike Verdict.Agree (checker value path) (checker other path)

/-- A checker that does not tell apart values that relabel each other, and accepts a value only with
a result that relabels it. -/
structure Checker.Indifferent (checker : Checker) : Prop where
  blind : checker.Blind
  follows : checker.Follows Value.Relabels

open Attempt (Alike)
open Verdict (rejected_agree)

/-! ## Constraints and parts -/

/-- Constraints that say the same about two values both let them pass or both do not. -/
theorem Constraint.checkAll_alike {constraints : List Constraint} {value other : Value}
    (same : ∀ constraint ∈ constraints,
      message constraint.1 constraint.2 value = message constraint.1 constraint.2 other)
    (path : Path) :
    Alike Verdict.Agree (checkAll constraints value path) (checkAll constraints other path) := by
  have violated : violations constraints value path = violations constraints other path := by
    induction constraints with
    | nil => rfl
    | cons constraint rest ih =>
        obtain ⟨first, others⟩ := List.forall_mem_cons.mp same
        simp [violations, check, first, ih others]
  simp only [checkAll, violated]
  refine Alike.bind (.refl _ fun _ _ => rfl) ?_
  rintro found _ rfl
  cases found with
  | nil => exact .ok (.accepted _ _)
  | cons first rest => exact .ok rejected_agree

/-- Bounds on the number of items say the same about lists of the same length. -/
theorem Constraint.message_of_length {items others : List Value} {minItems maxItems : Value}
    (sameLength : items.length = others.length) :
    ∀ constraint ∈ TypeSpec.boundConstraints minItems maxItems,
      message constraint.1 constraint.2 (.list items) =
        message constraint.1 constraint.2 (.list others) := by
  intro constraint among
  have bounds : constraint.1 = .minItems ∨ constraint.1 = .maxItems := by
    simp only [TypeSpec.boundConstraints, List.mem_append] at among
    rcases among with least | most
    · split at least <;> simp_all
    · split at most <;> simp_all
  obtain ⟨key, bound⟩ := constraint
  rcases bounds with rfl | rfl <;>
    simp [message, checkItems, Value.items?, sameLength]

namespace Check

/-- What became of parts on either side: as many values, and violations on both sides or on none. -/
structure PartsAgree (parts others : List Value × List Violation) : Prop where
  sameLength : parts.1.length = others.1.length
  violations : parts.2 = [] ↔ others.2 = []

/-- Two parts have the same checker, which does not tell their values apart. -/
structure PartAgrees (part other : Checker × Value) : Prop where
  same : part.1 = other.1
  blind : part.1.Blind
  relabels : part.2.Relabels other.2

/-- Members that relabel each other are checked alike, place by place. -/
theorem members_alike {parts others : List (Checker × Value)}
    (each : List.Forall₂ PartAgrees parts others)
    (path : Path) (index : Nat) :
    Alike PartsAgree (members path index parts) (members path index others) := by
  induction each generalizing index with
  | nil => exact .ok ⟨rfl, Iff.rfl⟩
  | @cons part other rest others first _ ih =>
      obtain ⟨checker, item⟩ := part
      obtain ⟨_, otherItem⟩ := other
      obtain ⟨rfl, blind, relabels⟩ := first
      rw [members_cons, members_cons]
      refine (blind _ relabels).bind ?_
      intro verdict otherVerdict agree
      refine (ih (index + 1)).bind ?_
      intro rest others restAgree
      cases agree with
      | accepted value other =>
          exact .ok ⟨congrArg Nat.succ restAgree.sameLength, restAgree.violations⟩
      | rejected some any => exact .ok ⟨restAgree.sameLength, by simp [some, any]⟩

/-- Verdicts on wholes agree if what became of their parts does. -/
theorem conclude_agree {parts others : List Value × List Violation}
    (agree : PartsAgree parts others) (build : List Value → Value) :
    (conclude build parts).Agree (conclude build others) := by
  obtain ⟨values, violations⟩ := parts
  obtain ⟨otherValues, otherViolations⟩ := others
  cases violations with
  | nil =>
      cases agree.violations.mp rfl
      exact .accepted _ _
  | cons first rest =>
      cases otherViolations with
      | nil => cases agree.violations.mpr rfl
      | cons otherFirst otherRest => exact rejected_agree

/-- The first alternative to accept is the same for values that relabel each other. -/
theorem firstAccepted_alike {checkers : List Checker} (blind : ∀ checker ∈ checkers, checker.Blind)
    {value other : Value} (relabels : value.Relabels other) (path : Path) :
    Alike (fun found otherFound => found.isSome = otherFound.isSome)
      (firstAccepted value path checkers) (firstAccepted other path checkers) := by
  induction checkers with
  | nil => exact .ok rfl
  | cons checker rest ih =>
      obtain ⟨headBlind, restBlind⟩ := List.forall_mem_cons.mp blind
      refine (headBlind path relabels).bind ?_
      intro verdict otherVerdict agree
      cases agree with
      | accepted value other => exact .ok rfl
      | rejected some any => exact ih restBlind

/-- Entries whose values relabel each other are checked alike, whatever was stored before. -/
theorem entries_alike (key : Checker) {value : Checker} (blind : value.Blind)
    {found others : Entries} (each : Value.RelabelEntries found others) (path : Path)
    (position : Nat) (done otherDone : Entries) :
    Alike (fun result other => result.2 = [] ↔ other.2 = [])
      (entries key value path position found done)
      (entries key value path position others otherDone) := by
  -- What was stored before has no part in the violations, so it may differ on the two sides.
  induction found generalizing others position done otherDone with
  | nil =>
      cases each
      exact .ok Iff.rfl
  | cons entry rest ih =>
      cases each with
      | @cons k v w _ others first each =>
          simp only [entries]
          refine Alike.bind (.refl _ fun _ _ => rfl) ?_
          rintro keyVerdict _ rfl
          refine (blind _ first).bind ?_
          intro verdict otherVerdict agree
          have goOn : ∀ stored otherStored, Alike (fun result other => result.2 = [] ↔ other.2 = [])
              (entries key value path (position + 1) rest stored >>= fun result =>
                .ok (result.1,
                  keyVerdict.violations ++ (verdict.violations ++ result.2)))
              (entries key value path (position + 1) others otherStored >>= fun result =>
                .ok (result.1,
                  keyVerdict.violations ++ (otherVerdict.violations ++ result.2))) := by
            intro stored otherStored
            refine (ih each (position + 1) stored otherStored).bind ?_
            intro result otherResult same
            cases agree with
            | accepted => exact .ok (by simp [Verdict.violations, same])
            | rejected some any => exact .ok (by simp [Verdict.violations, some, any])
          cases agree with
          | rejected some any => cases keyVerdict <;> exact goOn done otherDone
          | accepted newValue otherValue =>
              cases keyVerdict with
              | rejected violations => exact goOn done otherDone
              | accepted newKey =>
                  dsimp only
                  refine Alike.bind (.refl newKey.asKey fun _ _ => rfl) ?_
                  rintro stored _ rfl
                  exact goOn _ _

/-! ## Combinators -/

theorem kind_blind (kind : Kind) : (Check.kind kind).Blind := by
  intro value other path relabels
  simp only [Check.kind, ← relabels.admits_eq kind]
  split
  · exact .ok (.accepted _ _)
  · exact .ok rejected_agree

theorem array_blind {inner : Checker} (blind : inner.Blind) (minItems maxItems : Value) :
    (Check.array inner (TypeSpec.boundConstraints minItems maxItems)).Blind := by
  intro value other path relabels
  obtain ⟨none, otherNone⟩ | ⟨items, others, listed, otherListed, each⟩ := relabels.items
  · simp only [Check.array, none, otherNone]
    exact .ok rejected_agree
  · simp only [Check.array, listed, otherListed]
    have parts : List.Forall₂ PartAgrees
        (items.map fun item => (inner, item)) (others.map fun item => (inner, item)) := by
      rw [List.forall₂_map_left_iff, List.forall₂_map_right_iff]
      exact each.forall₂.imp fun _ _ relabels => ⟨rfl, blind, relabels⟩
    refine (members_alike parts path 0).bind ?_
    rintro ⟨values, violations⟩ ⟨otherValues, otherViolations⟩ agree
    cases violations with
    | nil =>
        cases agree.violations.mp rfl
        exact Constraint.checkAll_alike (Constraint.message_of_length agree.sameLength) path
    | cons first rest =>
        cases otherViolations with
        | nil => cases agree.violations.mpr rfl
        | cons otherFirst otherRest => exact .ok rejected_agree

theorem union_blind (description : Attempt String) {alternatives : List Checker}
    (blind : ∀ checker ∈ alternatives, checker.Blind) :
    (Check.union description alternatives).Blind := by
  intro value other path relabels
  refine (firstAccepted_alike blind relabels path).bind ?_
  intro found otherFound same
  cases found with
  | some result =>
      cases otherFound with
      | some otherResult => exact .ok (.accepted _ _)
      | none => cases same
  | none =>
      cases otherFound with
      | some otherResult => cases same
      | none =>
          refine Alike.bind (.refl description fun _ _ => rfl) ?_
          intro text _ _
          exact .ok rejected_agree

/-- Sequences that relabel each other are checked by the same checkers. -/
theorem partAgrees_zip {checkers : List Checker} (blind : ∀ checker ∈ checkers, checker.Blind)
    {items others : List Value} (each : Value.RelabelAll items others) :
    List.Forall₂ PartAgrees (checkers.zip items) (checkers.zip others) := by
  induction checkers generalizing items others with
  | nil => exact .nil
  | cons checker rest ih =>
      obtain ⟨headBlind, restBlind⟩ := List.forall_mem_cons.mp blind
      cases each with
      | nil => exact .nil
      | cons first each => exact .cons ⟨rfl, headBlind, first⟩ (ih restBlind each)

theorem tuple_blind {elements : List Checker} (blind : ∀ checker ∈ elements, checker.Blind) :
    (Check.tuple elements).Blind := by
  intro value other path relabels
  obtain ⟨none, otherNone⟩ | ⟨items, others, listed, otherListed, each⟩ := relabels.items
  · simp only [Check.tuple, none, otherNone]
    exact .ok rejected_agree
  · simp only [Check.tuple, listed, otherListed, each.length_eq]
    split
    case isTrue =>
      refine (members_alike (partAgrees_zip blind each) path 0).bind ?_
      intro found otherFound agree
      exact .ok (conclude_agree agree .tuple)
    case isFalse => exact .ok rejected_agree

theorem map_blind (key : Checker) {value : Checker} (blind : value.Blind) :
    (Check.map key value).Blind := by
  intro data other path relabels
  obtain ⟨none, otherNone⟩ | ⟨entries, others, rfl, rfl, each⟩ := relabels.entries
  · cases data <;> cases none <;> cases other <;> cases otherNone <;> exact .ok rejected_agree
  · refine (entries_alike key blind each path 0 [] []).bind ?_
    rintro ⟨done, violations⟩ ⟨otherDone, otherViolations⟩ same
    cases violations with
    | nil =>
        cases same.mp rfl
        exact .ok (.accepted _ _)
    | cons first rest =>
        cases otherViolations with
        | nil => cases same.mpr rfl
        | cons otherFirst otherRest => exact .ok rejected_agree

end Check

/-! ## Results -/

theorem Checker.Follows.mono {checker : Checker} {fit wider : Fit} (follows : checker.Follows fit)
    (widens : ∀ {value result}, fit value result → wider value result) : checker.Follows wider where
  evident := follows.evident
  fits formed accepted := widens (follows.fits formed accepted)

namespace Fit

theorem relabels_of_array {minItems maxItems value result : Value}
    (fits : Fit.array Value.Relabels minItems maxItems value result) : value.Relabels result := by
  obtain ⟨items, results, listed, rfl, each, _⟩ := fits
  exact .sequence listed rfl (.of_forall₂ each)

/-- A tuple of relabelled members relabels the sequence. -/
theorem relabels_of_tuple {fits : List Fit} (all : ∀ fit ∈ fits, fit = Value.Relabels)
    {value result : Value} (fitting : Fit.tuple fits value result) : value.Relabels result := by
  obtain ⟨items, results, listed, rfl, each⟩ := fitting
  refine .sequence listed rfl ?_
  clear listed
  induction each with
  | nil => exact .nil
  | cons first _ ih =>
      obtain ⟨rfl, others⟩ := List.forall_mem_cons.mp all
      exact .cons first (ih others)

theorem relabels_of_union {fits : List Fit} (all : ∀ fit ∈ fits, fit = Value.Relabels)
    {value result : Value} (fitting : Fit.union fits value result) : value.Relabels result := by
  obtain ⟨fit, among, fits⟩ := fitting
  exact all fit among ▸ fits

end Fit

namespace Checker.Indifferent

variable {checkers : List Checker}

theorem blind_of_mem (each : ∀ checker ∈ checkers, Indifferent checker) :
    ∀ checker ∈ checkers, checker.Blind :=
  fun checker among => (each checker among).blind

theorem follow (each : ∀ checker ∈ checkers, Indifferent checker) :
    List.Forall₂ Checker.Follows checkers (checkers.map fun _ => Value.Relabels) := by
  rw [List.forall₂_map_right_iff, List.forall₂_same]
  exact fun checker among => (each checker among).follows

end Checker.Indifferent

theorem eq_relabels_of_mem {checkers : List Checker} :
    ∀ fit ∈ checkers.map fun _ => Value.Relabels, fit = Value.Relabels := by
  intro fit among
  obtain ⟨_, _, rfl⟩ := List.mem_map.mp among
  rfl

namespace Check

theorem kind_indifferent (kind : Kind) : (Check.kind kind).Indifferent where
  blind := kind_blind kind
  follows := (kind_follows kind).mono fun fits => fits.1 ▸ .same _

theorem array_indifferent {inner : Checker} (indifferent : inner.Indifferent)
    (minItems maxItems : Value) :
    (Check.array inner (TypeSpec.boundConstraints minItems maxItems)).Indifferent where
  blind := array_blind indifferent.blind minItems maxItems
  follows := (array_follows indifferent.follows minItems maxItems).mono Fit.relabels_of_array

theorem union_indifferent (description : Attempt String) {alternatives : List Checker}
    (each : ∀ checker ∈ alternatives, checker.Indifferent) :
    (Check.union description alternatives).Indifferent where
  blind := union_blind description (Checker.Indifferent.blind_of_mem each)
  follows := (union_follows (Checker.Indifferent.follow each) description).mono
    (Fit.relabels_of_union eq_relabels_of_mem)

theorem tuple_indifferent {elements : List Checker}
    (each : ∀ checker ∈ elements, checker.Indifferent) : (Check.tuple elements).Indifferent where
  blind := tuple_blind (Checker.Indifferent.blind_of_mem each)
  follows := (tuple_follows (Checker.Indifferent.follow each)).mono
    (Fit.relabels_of_tuple eq_relabels_of_mem)

theorem map_indifferent {key value : Checker} {fit : Fit} (keyFollows : key.Follows fit)
    (keepsKeys : fit.KeepsKeys) (indifferent : value.Indifferent) :
    (Check.map key value).Indifferent where
  blind := map_blind key indifferent.blind
  follows := {
    evident := map_evident key value
    fits := by
      intro data path result formed accepted
      obtain ⟨found, stored, rfl, rfl, each⟩ :=
        map_accepted keyFollows keepsKeys indifferent.follows.evident formed accepted
      have parts := (Value.wellFormed_map.mp formed).2
      refine .map (.of_forall₂ (((List.forall₂_and_left _ _).mpr ⟨parts, each⟩).imp ?_))
      rintro entry new ⟨⟨_, _, valueFormed⟩, same, _, ⟨_, valueAccepted⟩⟩
      exact ⟨same, indifferent.follows.fits valueFormed valueAccepted⟩ }

end Check

mutual

/-- The check of a resolved type without references is indifferent to labels. -/
theorem TypeSpec.check_indifferent (env : Environment) : (spec : TypeSpec) →
    spec.isRegular = true → spec.isClosed = true → (spec.check env).Indifferent
  | .primitive kind, _, _ => Check.kind_indifferent kind
  | .array inner minItems maxItems, regular, closed =>
      Check.array_indifferent (TypeSpec.check_indifferent env inner regular closed) minItems
        maxItems
  | .union alternatives, regular, closed =>
      Check.union_indifferent _ (TypeSpec.checkers_indifferent env alternatives regular closed)
  | .tuple elements, regular, closed =>
      Check.tuple_indifferent (TypeSpec.checkers_indifferent env elements regular closed)
  | .map key value, regular, closed => by
      obtain ⟨keyRegular, valueRegular⟩ := Bool.and_eq_true_iff.mp regular
      obtain ⟨keyClosed, valueClosed⟩ := Bool.and_eq_true_iff.mp closed
      exact Check.map_indifferent (TypeSpec.check_follows env key keyRegular)
        (TypeSpec.fit_keepsKeys env key)
        (TypeSpec.check_indifferent env value valueRegular valueClosed)
  | .ref target, _, closed => nomatch closed
  | .unknownKind _, regular, _ => nomatch regular
  | .rawUnion _, regular, _ | .rawTuple _, regular, _ | .raw _, regular, _ => nomatch regular

/-- The checks of resolved types without references are indifferent to labels. -/
theorem TypeSpec.checkers_indifferent (env : Environment) : (specs : List TypeSpec) →
    TypeSpec.allRegular specs = true → TypeSpec.allEverywhere TypeSpec.isClosedNode specs = true →
    ∀ checker ∈ TypeSpec.checkers env specs, checker.Indifferent
  | [], _, _ => fun _ among => nomatch among
  | spec :: rest, regular, closed => by
      obtain ⟨specRegular, restRegular⟩ := Bool.and_eq_true_iff.mp regular
      obtain ⟨specClosed, restClosed⟩ := Bool.and_eq_true_iff.mp closed
      exact List.forall_mem_cons.mpr ⟨TypeSpec.check_indifferent env spec specRegular specClosed,
        TypeSpec.checkers_indifferent env rest restRegular restClosed⟩

end

end Conform
