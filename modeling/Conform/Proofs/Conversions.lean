import Conform.Proofs.Idempotence
import Conform.Proofs.Retention

/-!
# Conversions of accepted values

A conversion never refuses what the check of the same type accepts.  It may all the same make
another value of it, because a union takes the first alternative that can convert, whatever that
alternative and the constraints of the field say of the result.  Where each union takes an
alternative that leaves the value as it is, or that accepts it as it stands, the check gives the
converted value the result that it gave the value itself.
-/

namespace Conform

/-- A conversion refuses a value nowhere. -/
def Checker.Admits (conversion : Checker) (value : Value) : Prop :=
  ∀ path violations, conversion value path ≠ .ok (.rejected violations)

/-- A conversion does not refuse what a checker accepts. -/
def Checker.Spares (conversion checker : Checker) : Prop :=
  ∀ {value result : Value}, checker.Accepts value result → conversion.Admits value

/-- A checker does not tell apart values that relabel each other if a conversion refuses anything.
-/
def Checker.Selects (conversion checker : Checker) : Prop :=
  (∃ value path violations, conversion value path = .ok (.rejected violations)) → checker.Blind

/-! ## Several conversions -/

namespace Check

/-- Of several members with violations one is refused. -/
theorem exists_refused_of_members {parts : List (Checker × Value)} {path : Path} {index : Nat}
    {outcome : List Value × List Violation} (checked : members path index parts = .ok outcome)
    (some : outcome.2 ≠ []) :
    ∃ part ∈ parts, ∃ place violations, part.1 part.2 place = .ok (.rejected violations) := by
  induction parts generalizing index outcome with
  | nil =>
      cases checked
      exact absurd rfl some
  | cons part rest ih =>
      obtain ⟨checker, item⟩ := part
      rw [members_cons] at checked
      obtain ⟨verdict, headChecked, others⟩ := Attempt.bind_eq_ok_iff.mp checked
      obtain ⟨more, restChecked, joined⟩ := Attempt.bind_eq_ok_iff.mp others
      cases verdict with
      | rejected violations => exact ⟨_, List.mem_cons_self, _, violations, headChecked⟩
      | accepted value =>
          cases joined
          obtain ⟨refused, among, refuses⟩ := ih restChecked some
          exact ⟨refused, List.mem_cons_of_mem _ among, refuses⟩

theorem refused_of_firstAccepted {checkers : List Checker} {value : Value} {path : Path}
    (none : firstAccepted value path checkers = .ok none) :
    ∀ checker ∈ checkers, ∃ violations, checker value path = .ok (.rejected violations) := by
  induction checkers with
  | nil => exact List.forall_mem_nil _
  | cons checker rest ih =>
      obtain ⟨verdict, checked, others⟩ := Attempt.bind_eq_ok_iff.mp none
      cases verdict with
      | accepted value => cases others
      | rejected violations => exact List.forall_mem_cons.mpr ⟨⟨violations, checked⟩, ih others⟩

/-- An alternative that is taken accepts. -/
theorem exists_accepts_of_firstAccepted {checkers : List Checker} {value result : Value}
    {path : Path} (found : firstAccepted value path checkers = .ok (some result)) :
    ∃ checker ∈ checkers, checker.Accepts value result := by
  induction checkers with
  | nil => cases found
  | cons checker rest ih =>
      obtain ⟨verdict, checked, others⟩ := Attempt.bind_eq_ok_iff.mp found
      cases verdict with
      | accepted accepted =>
          cases others
          exact ⟨checker, List.mem_cons_self, path, checked⟩
      | rejected violations =>
          obtain ⟨later, among, accepts⟩ := ih others
          exact ⟨later, List.mem_cons_of_mem _ among, accepts⟩

end Check

namespace Coercion

/-- What is refused by a conversion to an array is a sequence with an item that is refused. -/
theorem refused_of_toArray {inner : Checker} {value : Value} {path : Path}
    {violations : List Violation}
    (refused : toArray inner value path = .ok (.rejected violations)) :
    ∃ items, value.items? = some items ∧
      ∃ item ∈ items, ∃ place found, inner item place = .ok (.rejected found) := by
  simp only [toArray] at refused
  cases listed : value.items? with
  | none =>
      rw [listed] at refused
      cases refused
  | some items =>
      rw [listed] at refused
      obtain ⟨parts, checked, concluded⟩ := Attempt.bind_eq_ok_iff.mp refused
      have reasons : parts.2 ≠ [] := by
        intro none
        rw [Check.conclude, none] at concluded
        cases concluded
      obtain ⟨part, among, refuses⟩ := Check.exists_refused_of_members checked reasons
      obtain ⟨item, itemAmong, rfl⟩ := List.mem_map.mp among
      exact ⟨items, rfl, item, itemAmong, refuses⟩

theorem refused_of_toUnion {spec : TypeSpec} {alternatives : List Checker} {value : Value}
    {path : Path} {violations : List Violation}
    (refused : toUnion spec alternatives value path = .ok (.rejected violations)) :
    ∀ conversion ∈ alternatives, ∃ found, conversion value path = .ok (.rejected found) := by
  obtain ⟨found, tried, concluded⟩ := Attempt.bind_eq_ok_iff.mp refused
  cases found with
  | some result => cases concluded
  | none => exact Check.refused_of_firstAccepted tried

/-! ## Accepted values are not refused -/

theorem toKind_of_admits (env : Environment) {kind : Kind} {value : Value}
    (admits : kind.admits value = true) (path : Path) :
    toKind env kind value path = .ok (.accepted value) := by
  cases kind <;> cases value <;> cases admits <;> rfl

theorem admits_of_kind {kind : Kind} {value result : Value} {path : Path}
    (accepted : Check.kind kind value path = .ok (.accepted result)) :
    result = value ∧ kind.admits value = true := by
  unfold Check.kind at accepted
  split at accepted
  case isTrue admits =>
    cases accepted
    exact ⟨rfl, admits⟩
  case isFalse => cases accepted

theorem kind_spares (env : Environment) (kind : Kind) :
    (toKind env kind).Spares (Check.kind kind) := by
  rintro value result ⟨place, accepted⟩ path violations refused
  rw [toKind_of_admits env (admits_of_kind accepted).2] at refused
  cases refused

theorem array_spares {conversion inner : Checker} (spares : conversion.Spares inner)
    (evident : inner.Evident) (bounds : List Constraint) :
    (toArray conversion).Spares (Check.array inner bounds) := by
  rintro value result ⟨place, accepted⟩ path violations refused
  obtain ⟨items, values, listed, rfl, each, _⟩ := Check.array_accepted evident accepted
  obtain ⟨others, otherListed, item, among, spot, found, refuses⟩ := refused_of_toArray refused
  cases listed.symm.trans otherListed
  have admitted : ∀ item ∈ items, conversion.Admits item :=
    forall_mem_of_forall₂ (each.flip.imp fun _ _ accepts => spares accepts)
  exact admitted item among spot found refuses

theorem union_spares (spec : TypeSpec) (description : Attempt String)
    {conversions alternatives : List Checker}
    (each : List.Forall₂ Checker.Spares conversions alternatives) :
    (toUnion spec conversions).Spares (Check.union description alternatives) := by
  rintro value result ⟨place, accepted⟩ path violations refused
  obtain ⟨checker, among, accepts⟩ :=
    Check.exists_accepts_of_firstAccepted (Check.union_accepted accepted)
  have spared : ∀ checker ∈ alternatives, ∀ result, ¬ checker.Accepts value result := by
    apply forall_mem_of_forall₂
    refine ((List.forall₂_and_left _ _).mpr ⟨refused_of_toUnion refused, each⟩).imp ?_
    rintro conversion checker ⟨⟨found, refuses⟩, spares⟩ result accepts
    exact spares accepts _ _ refuses
  exact spared checker among result accepts

/-! ## Conversions that refuse -/

theorem accept_spares (checker : Checker) :
    Checker.Spares (fun value _ => accept value) checker := by
  intro value result _ path violations refused
  cases refused

theorem accept_selects (checker : Checker) :
    Checker.Selects (fun value _ => accept value) checker := by
  rintro ⟨value, path, violations, refused⟩
  cases refused

theorem array_selects {conversion inner : Checker} (selects : conversion.Selects inner)
    (minItems maxItems : Value) : (toArray conversion).Selects
      (Check.array inner (TypeSpec.boundConstraints minItems maxItems)) := by
  rintro ⟨value, path, violations, refused⟩
  obtain ⟨items, _, item, _, place, found, refuses⟩ := refused_of_toArray refused
  exact Check.array_blind (selects ⟨item, place, found, refuses⟩) minItems maxItems

theorem union_selects (spec : TypeSpec) (description : Attempt String)
    {conversions alternatives : List Checker}
    (each : List.Forall₂ Checker.Selects conversions alternatives) :
    (toUnion spec conversions).Selects (Check.union description alternatives) := by
  rintro ⟨value, path, violations, refused⟩
  apply Check.union_blind
  apply forall_mem_of_forall₂
  refine ((List.forall₂_and_left _ _).mpr ⟨refused_of_toUnion refused, each⟩).imp ?_
  rintro conversion checker ⟨⟨found, refuses⟩, selects⟩
  exact selects ⟨value, path, found, refuses⟩

end Coercion

mutual

theorem TypeSpec.coerce_spares (env : Environment) : (spec : TypeSpec) →
    spec.isCanonical = true → (spec.coerce env).Spares (spec.check env)
  | .primitive kind, _ => Coercion.kind_spares env kind
  | .array inner _ _, canonical =>
      Coercion.array_spares
        (TypeSpec.coerce_spares env inner (Bool.and_eq_true_iff.mp canonical).2)
        (inner.check_evident env) _
  | .union alternatives, canonical =>
      Coercion.union_spares _ _
        (TypeSpec.coercers_spare env alternatives (Bool.and_eq_true_iff.mp canonical).2)
  | .tuple _, _ | .map _ _, _ | .ref _, _ => Coercion.accept_spares _
  | .unknownKind _, canonical
  | .rawUnion _, canonical | .rawTuple _, canonical | .raw _, canonical => nomatch canonical

theorem TypeSpec.coercers_spare (env : Environment) : (specs : List TypeSpec) →
    TypeSpec.allEverywhere TypeSpec.isCanonicalNode specs = true →
    List.Forall₂ Checker.Spares (TypeSpec.coercers env specs) (TypeSpec.checkers env specs)
  | [], _ => .nil
  | spec :: rest, canonical => by
      obtain ⟨first, others⟩ := Bool.and_eq_true_iff.mp canonical
      exact .cons (TypeSpec.coerce_spares env spec first) (TypeSpec.coercers_spare env rest others)

end

mutual

theorem TypeSpec.coerce_selects (env : Environment) : (spec : TypeSpec) →
    spec.isCanonical = true → (spec.coerce env).Selects (spec.check env)
  | .primitive kind, _ => fun _ => Check.kind_blind kind
  | .array inner minItems maxItems, canonical =>
      Coercion.array_selects
        (TypeSpec.coerce_selects env inner (Bool.and_eq_true_iff.mp canonical).2) minItems maxItems
  | .union alternatives, canonical =>
      Coercion.union_selects _ _
        (TypeSpec.coercers_select env alternatives (Bool.and_eq_true_iff.mp canonical).2)
  | .tuple _, _ | .map _ _, _ | .ref _, _ => Coercion.accept_selects _
  | .unknownKind _, canonical
  | .rawUnion _, canonical | .rawTuple _, canonical | .raw _, canonical => nomatch canonical

theorem TypeSpec.coercers_select (env : Environment) : (specs : List TypeSpec) →
    TypeSpec.allEverywhere TypeSpec.isCanonicalNode specs = true →
    List.Forall₂ Checker.Selects (TypeSpec.coercers env specs) (TypeSpec.checkers env specs)
  | [], _ => .nil
  | spec :: rest, canonical => by
      obtain ⟨first, others⟩ := Bool.and_eq_true_iff.mp canonical
      exact .cons (TypeSpec.coerce_selects env spec first)
        (TypeSpec.coercers_select env rest others)

end

/-! ## Conversions that keep the result -/

mutual

/-- At every union that a conversion enters, the alternative it takes leaves the value as it is, or
accepts it as it stands. -/
def TypeSpec.Faithful (env : Environment) : TypeSpec → Value → Prop
  | .array inner _ _, value => ∀ items, value.items? = some items →
    ∀ item ∈ items, TypeSpec.Faithful env inner item
  | .union alternatives, value => TypeSpec.TakesFaithfully env alternatives value
  | _, _ => True

/-- The first of several types to which a value can be converted leaves the value as it is, or
accepts it as it stands and is faithful to its parts. -/
def TypeSpec.TakesFaithfully (env : Environment) : List TypeSpec → Value → Prop
  | [], _ => True
  | spec :: rest, value =>
    match spec.coerce env value [] with
    | .ok (.accepted converted) => converted = value ∨
      (∃ result, (spec.check env).Accepts value result) ∧ TypeSpec.Faithful env spec value
    | .ok (.rejected _) => TypeSpec.TakesFaithfully env rest value
    | .error _ => False

end

/-- A conversion makes of a value one that relabels it, and that a checker accepts with the given
result. -/
def Checker.Carries (conversion checker : Checker) (value result : Value) : Prop :=
  ∃ converted, conversion.Accepts value converted ∧ value.Relabels converted ∧
    checker.Accepts converted result

theorem Checker.Rooted.rejects_anywhere {checker : Checker} (rooted : checker.Rooted)
    {value : Value} {violations : List Violation}
    (rejected : checker value [] = .ok (.rejected violations)) (path : Path) :
    ∃ found, checker value path = .ok (.rejected found) := by
  have here := rooted path value []
  rw [List.append_nil, rejected] at here
  exact ⟨_, here⟩

theorem Checker.Blind.rejects {checker : Checker} (blind : checker.Blind) {value other : Value}
    (relabels : value.Relabels other) {path : Path} {violations : List Violation}
    (rejected : checker value path = .ok (.rejected violations)) :
    ∃ found, checker other path = .ok (.rejected found) := by
  have alike := blind path relabels
  rw [rejected] at alike
  generalize outcome : checker other path = verdict at alike
  cases alike with
  | ok agree =>
      cases agree with
      | @rejected _ others => exact ⟨others, rfl⟩

namespace Coercion

theorem carries_of_same {conversion checker : Checker} {value result : Value}
    (same : ∀ path, conversion value path = .ok (.accepted value))
    (accepts : checker.Accepts value result) : conversion.Carries checker value result :=
  ⟨value, ⟨[], same []⟩, .same value, accepts⟩

theorem members_of_items {checker : Checker} (rooted : checker.Rooted) {items values : List Value}
    (each : List.Forall₂ checker.Accepts items values) (path : Path) (index : Nat) :
    Check.members path index (items.map fun item => (checker, item)) = .ok (values, []) := by
  apply Check.members_of_accepts
  rw [List.forall₂_map_left_iff]
  exact each.imp fun _ _ accepts => ⟨rooted, accepts⟩

theorem items_carried {conversion checker : Checker} {items values : List Value}
    (each : List.Forall₂ (conversion.Carries checker) items values) :
    ∃ converted, List.Forall₂ conversion.Accepts items converted ∧
      Value.RelabelAll items converted ∧ List.Forall₂ checker.Accepts converted values := by
  induction each with
  | nil => exact ⟨[], .nil, .nil, .nil⟩
  | cons first _ ih =>
      obtain ⟨other, converts, relabels, accepts⟩ := first
      obtain ⟨others, restConvert, restRelabel, restAccept⟩ := ih
      exact ⟨other :: others, .cons converts restConvert, .cons relabels restRelabel,
        .cons accepts restAccept⟩

theorem array_carries {conversion inner : Checker} (conversionRooted : conversion.Rooted)
    (rooted : inner.Rooted) (evident : inner.Evident) {bounds : List Constraint}
    {value result : Value} (each : ∀ items, value.items? = some items → ∀ item ∈ items,
      ∀ result, inner.Accepts item result → conversion.Carries inner item result)
    (accepts : (Check.array inner bounds).Accepts value result) :
    (toArray conversion).Carries (Check.array inner bounds) value result := by
  obtain ⟨path, accepted⟩ := accepts
  obtain ⟨items, values, listed, rfl, accepted, bounded⟩ := Check.array_accepted evident accepted
  have carried : List.Forall₂ (conversion.Carries inner) items values :=
    ((List.forall₂_and_left _ _).mpr ⟨each items listed, accepted⟩).imp
      fun item value both => both.1 value both.2
  obtain ⟨others, converted, relabelled, checked⟩ := items_carried carried
  refine ⟨.list others, ⟨path, ?_⟩, .sequence listed rfl relabelled, path, ?_⟩
  · simp only [toArray, listed, members_of_items conversionRooted converted]
    rfl
  · simp only [Check.array, Value.items?, members_of_items rooted checked]
    exact bounded

/-- A conversion to several types, the first of which to convert takes the value faithfully. -/
theorem firstAccepted_carries (env : Environment) {specs : List TypeSpec}
    (canonical : TypeSpec.allEverywhere TypeSpec.isCanonicalNode specs = true)
    {value result : Value}
    (each : ∀ spec ∈ specs, spec.Faithful env value → (spec.check env).Accepts value result →
      (spec.coerce env).Carries (spec.check env) value result)
    (faithful : TypeSpec.TakesFaithfully env specs value) {path : Path}
    (found : Check.firstAccepted value path (TypeSpec.checkers env specs) = .ok (some result)) :
    ∃ converted, Check.firstAccepted value path (TypeSpec.coercers env specs) =
        .ok (some converted) ∧ value.Relabels converted ∧
      Check.firstAccepted converted path (TypeSpec.checkers env specs) = .ok (some result) := by
  induction specs with
  | nil => cases found
  | cons spec rest ih =>
      obtain ⟨first, others⟩ := Bool.and_eq_true_iff.mp canonical
      obtain ⟨firstCarries, restCarry⟩ := List.forall_mem_cons.mp each
      have tried := found
      obtain ⟨verdict, checked, found⟩ := Attempt.bind_eq_ok_iff.mp found
      unfold TypeSpec.TakesFaithfully at faithful
      split at faithful
      case h_1 converted converts =>
        have taken : Check.firstAccepted value path (TypeSpec.coercers env (spec :: rest)) =
            .ok (some converted) := by
          rw [TypeSpec.coercers, Check.firstAccepted,
            (spec.coerce_rooted env).anywhere ⟨[], converts⟩ path]
          rfl
        rcases faithful with rfl | ⟨⟨other, accepts⟩, faithful⟩
        · exact ⟨converted, taken, .same converted, tried⟩
        · have here := (spec.check_rooted env).anywhere accepts path
          rw [here] at checked
          cases checked
          cases found
          obtain ⟨again, convertsAgain, relabels, accepted⟩ := firstCarries faithful accepts
          have same := (spec.coerce_rooted env).anywhere convertsAgain []
          rw [converts] at same
          cases same
          refine ⟨converted, taken, relabels, ?_⟩
          rw [TypeSpec.checkers, Check.firstAccepted,
            (spec.check_rooted env).anywhere accepted path]
          rfl
      case h_2 violations refused =>
        obtain ⟨passed, refusedHere⟩ := (spec.coerce_rooted env).rejects_anywhere refused path
        cases verdict with
        | accepted accepted =>
            exact absurd refused (spec.coerce_spares env first ⟨path, checked⟩ [] violations)
        | rejected reasons =>
            obtain ⟨converted, taken, relabels, accepted⟩ := ih others restCarry faithful found
            have blind : (spec.check env).Blind :=
              spec.coerce_selects env first ⟨value, [], violations, refused⟩
            obtain ⟨again, checkedAgain⟩ := blind.rejects relabels checked
            refine ⟨converted, ?_, relabels, ?_⟩
            · rw [TypeSpec.coercers, Check.firstAccepted, refusedHere]
              exact taken
            · rw [TypeSpec.checkers, Check.firstAccepted, checkedAgain]
              exact accepted
      case h_3 => exact faithful.elim

end Coercion

mutual

/-- A faithful conversion carries what the check of the same type accepts to its result. -/
theorem TypeSpec.coerce_carries (env : Environment) : (spec : TypeSpec) → {value result : Value} →
    spec.isCanonical = true → spec.Faithful env value → (spec.check env).Accepts value result →
    (spec.coerce env).Carries (spec.check env) value result
  | .primitive _, _, _, _, _, ⟨path, accepted⟩ => by
      have admits := (Coercion.admits_of_kind accepted).2
      exact Coercion.carries_of_same (fun _ => Coercion.toKind_of_admits env admits _)
        ⟨path, accepted⟩
  | .array inner _ _, _, _, canonical, faithful, accepts =>
      Coercion.array_carries (inner.coerce_rooted env) (inner.check_rooted env)
        (inner.check_evident env)
        (fun items listed item among _ itemAccepts =>
          TypeSpec.coerce_carries env inner (Bool.and_eq_true_iff.mp canonical).2
            (faithful items listed item among) itemAccepts)
        accepts
  | .union alternatives, value, result, canonical, faithful, ⟨path, accepted⟩ => by
      have others := (Bool.and_eq_true_iff.mp canonical).2
      obtain ⟨converted, taken, relabels, again⟩ := Coercion.firstAccepted_carries env others
        (TypeSpec.coercers_carry env alternatives others) faithful (Check.union_accepted accepted)
      refine ⟨converted, ⟨path, ?_⟩, relabels, path, ?_⟩
      · rw [TypeSpec.coerce, Coercion.toUnion, taken]
        rfl
      · rw [TypeSpec.check, Check.union, again]
        rfl
  | .tuple _, _, _, _, _, accepts | .map _ _, _, _, _, _, accepts | .ref _, _, _, _, _, accepts =>
      Coercion.carries_of_same (fun _ => rfl) accepts
  | .unknownKind _, _, _, canonical, _, _ | .rawUnion _, _, _, canonical, _, _
  | .rawTuple _, _, _, canonical, _, _ | .raw _, _, _, canonical, _, _ => nomatch canonical

theorem TypeSpec.coercers_carry (env : Environment) : (specs : List TypeSpec) →
    {value result : Value} → TypeSpec.allEverywhere TypeSpec.isCanonicalNode specs = true →
    ∀ spec ∈ specs, spec.Faithful env value → (spec.check env).Accepts value result →
      (spec.coerce env).Carries (spec.check env) value result
  | [], _, _, _ => fun _ among => nomatch among
  | spec :: rest, _, _, canonical => by
      obtain ⟨first, others⟩ := Bool.and_eq_true_iff.mp canonical
      exact List.forall_mem_cons.mpr ⟨TypeSpec.coerce_carries env spec first,
        TypeSpec.coercers_carry env rest others⟩

end

/-- Whether a conversion to a type enters no union. -/
def TypeSpec.convertsPlainly : TypeSpec → Bool
  | .array inner _ _ => inner.convertsPlainly
  | .union _ | .rawUnion _ => false
  | _ => true

theorem TypeSpec.faithful_of_convertsPlainly (env : Environment) : (spec : TypeSpec) →
    spec.convertsPlainly = true → ∀ value, spec.Faithful env value
  | .array inner _ _, plain, _ => fun _ _ item _ =>
      TypeSpec.faithful_of_convertsPlainly env inner plain item
  | .union _, plain, _ | .rawUnion _, plain, _ => nomatch plain
  | .primitive _, _, _ | .unknownKind _, _, _ | .tuple _, _, _ | .rawTuple _, _, _ | .map _ _, _, _
  | .ref _, _, _ | .raw _, _, _ => trivial

/-! ## Records -/

namespace Record

variable {env : Environment} {data : Entries} {path : Path} {strict : Bool} {fields : List Field}
  {first second : Field → Checker} {related : Value → Value → Prop}

/-- Entries under the same names, with related values. -/
abbrev SameNames (related : Value → Value → Prop) :
    List (String × Value) → List (String × Value) → Prop :=
  List.Forall₂ fun entry other => entry.1 = other.1 ∧ related entry.2 other.2

/-- If a second check of each field accepts what the first one accepts, then as much is gathered
with it. -/
theorem gather_transfer (reflexive : ∀ value, related value value)
    (evident : ∀ field ∈ fields, (first field).Evident)
    (rooted : ∀ field ∈ fields, (second field).Rooted)
    (each : ∀ field ∈ fields, ∀ value, lookup env data field.name = some value → ∀ result,
      (first field).Accepts value result →
      ∃ other, (second field).Accepts value other ∧ related result other)
    {values : List (String × Value)}
    (gathered : gather env data path (fields.map fun field => ⟨field, first field⟩) =
      .ok (values, [])) :
    ∃ others, gather env data path (fields.map fun field => ⟨field, second field⟩) =
      .ok (others, []) ∧ SameNames related values others := by
  induction fields generalizing values with
  | nil =>
      cases gathered
      exact ⟨[], rfl, .nil⟩
  | cons field rest ih =>
      obtain ⟨fieldEvident, restEvident⟩ := List.forall_mem_cons.mp evident
      obtain ⟨fieldRooted, restRooted⟩ := List.forall_mem_cons.mp rooted
      obtain ⟨fieldEach, restEach⟩ := List.forall_mem_cons.mp each
      obtain ⟨decision, decided, others⟩ := Attempt.bind_eq_ok_iff.mp gathered
      obtain ⟨⟨restValues, violations⟩, restGathered, joined⟩ := Attempt.bind_eq_ok_iff.mp others
      have joined : addVerdict field.name decision (restValues, violations) = (values, []) :=
        Except.ok.inj joined
      cases found : lookup env data field.name with
      | some given =>
          simp only [fieldVerdict, found] at decided
          obtain ⟨verdict, checked, same⟩ := Attempt.bind_eq_ok_iff.mp decided
          cases same
          cases verdict with
          | rejected reasons =>
              have none := (Prod.mk.inj joined).2
              rw [(List.append_eq_nil_iff.mp none).1] at checked
              exact absurd checked (fieldEvident _ _)
          | accepted value =>
              cases joined
              obtain ⟨others, restAgain, same⟩ := ih restEvident restRooted restEach restGathered
              obtain ⟨other, accepts, relates⟩ := fieldEach given found value ⟨_, checked⟩
              have again : fieldVerdict env data path ⟨field, second field⟩ =
                  .ok (some (.accepted other)) := by
                simp [fieldVerdict, found, fieldRooted.anywhere accepts]
              refine ⟨(field.name, other) :: others, ?_, .cons ⟨rfl, relates⟩ same⟩
              rw [List.map_cons, gather, again, Attempt.ok_bind, restAgain]
              rfl
      | none =>
          -- The checks have no part in the verdict on an absent field.
          have again : fieldVerdict env data path ⟨field, second field⟩ = .ok decision := by
            rw [← decided]
            simp [fieldVerdict, found]
          rw [List.map_cons, gather, again, Attempt.ok_bind]
          cases decision with
          | none =>
              cases joined
              obtain ⟨others, restAgain, same⟩ := ih restEvident restRooted restEach restGathered
              exact ⟨others, by rw [restAgain]; rfl, same⟩
          | some verdict =>
              cases verdict with
              | accepted value =>
                  cases joined
                  obtain ⟨others, restAgain, same⟩ :=
                    ih restEvident restRooted restEach restGathered
                  exact ⟨(field.name, value) :: others, by rw [restAgain]; rfl,
                    .cons ⟨rfl, reflexive value⟩ same⟩
              | rejected reasons =>
                  obtain ⟨rfl, none⟩ := Prod.mk.inj joined
                  obtain ⟨rfl, rfl⟩ := List.append_eq_nil_iff.mp none
                  obtain ⟨others, restAgain, same⟩ :=
                    ih restEvident restRooted restEach restGathered
                  exact ⟨others, by rw [restAgain]; rfl, same⟩

/-- A record whose fields gather entries under the same names is accepted with these. -/
theorem candidate_transfer {rules others : List Rule}
    (fields : rules.map Rule.field = others.map Rule.field)
    {values otherValues : List (String × Value)}
    (gathered : gather env data path rules = .ok (values, []))
    (otherGathered : gather env data path others = .ok (otherValues, []))
    (names : values.map Prod.fst = otherValues.map Prod.fst) {record : Value}
    (proposed : candidate env rules strict (.map data) path = .ok (.accepted record)) :
    candidate env others strict (.map data) path = .ok (.accepted (.record otherValues)) := by
  simp only [candidate, ← fields, gathered, otherGathered, Attempt.ok_bind] at proposed ⊢
  split at proposed
  case h_1 => cases proposed
  case h_2 =>
    cases strict with
    | false => rfl
    | true =>
        obtain ⟨extra, named, concluded⟩ := Attempt.bind_eq_ok_iff.mp proposed
        rw [names] at named
        simp only [Bool.not_eq_true', List.isEmpty_nil, Bool.true_eq_false, if_false, if_true,
          named, Attempt.ok_bind]
        cases extra with
        | nil => rfl
        | cons first rest => cases concluded

/-- If a second check of each field accepts what the first one accepts, then so does the check of
the record. -/
theorem check_transfer (reflexive : ∀ value, related value value)
    (evident : ∀ field ∈ fields, (first field).Evident)
    (rooted : ∀ field ∈ fields, (second field).Rooted)
    (each : ∀ field ∈ fields, ∀ value, lookup env data field.name = some value → ∀ result,
      (first field).Accepts value result →
      ∃ other, (second field).Accepts value other ∧ related result other)
    {result : Value}
    (accepted : check env (fields.map fun field => ⟨field, first field⟩) strict none (.map data)
      path = .ok (.accepted result)) :
    ∃ values others, result = .record values ∧ SameNames related values others ∧
      check env (fields.map fun field => ⟨field, second field⟩) strict none (.map data) path =
        .ok (.accepted (.record others)) := by
  obtain ⟨verdict, proposed, reviewed⟩ := Attempt.bind_eq_ok_iff.mp (stages_of_check accepted)
  cases verdict with
  | rejected violations => cases reviewed
  | accepted record =>
      cases reviewed
      obtain ⟨_, values, same, rfl, gathered⟩ := gather_of_candidate proposed
      cases same
      obtain ⟨others, gatheredAgain, same⟩ :=
        gather_transfer reflexive evident rooted each gathered
      have names : values.map Prod.fst = others.map Prod.fst := by
        rw [← List.forall₂_eq_eq_eq, List.forall₂_map_left_iff, List.forall₂_map_right_iff]
        exact same.imp fun _ _ both => both.1
      have fieldsAgain : (fields.map fun field => Rule.mk field (first field)).map Rule.field =
          (fields.map fun field => Rule.mk field (second field)).map Rule.field := by
        rw [List.map_map, List.map_map]
        rfl
      have again := candidate_transfer fieldsAgain gathered gatheredAgain names proposed
      refine ⟨values, others, rfl, same, ?_⟩
      simp [check, stages, again, review]

end Record

/-! ## Validations with conversions -/

@[simp] theorem Field.check_eq (env : Environment) (field : Field) :
    field.check env = Check.constrained (field.type.check env) field.constraints := by
  cases field
  rfl

/-- With a conversion before its check, a field accepts what its check accepts of converted values.
-/
theorem Field.checkWith_accepts_iff (env : Environment) (field : Field) {value result : Value} :
    (field.checkWith env true).Accepts value result ↔
      ∃ converted, (field.type.coerce env).Accepts value converted ∧
        (field.check env).Accepts converted result := by
  simp only [Field.checkWith, if_true]
  constructor
  · rintro ⟨path, accepted⟩
    obtain ⟨verdict, converts, checked⟩ := Attempt.bind_eq_ok_iff.mp accepted
    cases verdict with
    | accepted converted => exact ⟨converted, ⟨path, converts⟩, path, checked⟩
    | rejected violations => cases checked
  · rintro ⟨converted, converts, path, checked⟩
    refine ⟨path, ?_⟩
    rw [Check.coerced, (field.type.coerce_rooted env).anywhere converts path]
    exact checked

theorem Field.accepts_iff (env : Environment) (field : Field) {value result : Value} :
    (field.check env).Accepts value result ↔ (field.type.check env).Accepts value result ∧
      ∃ path, Constraint.checkAll field.constraints result path = .ok (.accepted result) := by
  rw [Field.check_eq]
  constructor
  · rintro ⟨path, accepted⟩
    obtain ⟨checked, passed⟩ := Check.constrained_accepted accepted
    exact ⟨⟨path, checked⟩, path, passed⟩
  · rintro ⟨checked, path, passed⟩
    refine ⟨path, ?_⟩
    rw [Check.constrained, (field.type.check_rooted env).anywhere checked path]
    exact passed

theorem Field.accepts_converted (env : Environment) {field : Field}
    (canonical : field.type.isCanonical = true) {value result : Value}
    (faithful : field.type.Faithful env value) (accepts : (field.check env).Accepts value result) :
    (field.checkWith env true).Accepts value result := by
  obtain ⟨checked, passed⟩ := (field.accepts_iff env).mp accepts
  obtain ⟨converted, converts, _, again⟩ :=
    TypeSpec.coerce_carries env field.type canonical faithful checked
  exact (field.checkWith_accepts_iff env).mpr
    ⟨converted, converts, (field.accepts_iff env).mpr ⟨again, passed⟩⟩

/-- Data holds for each field only values of which a property holds. -/
def Schema.EachValue (env : Environment) (schema : Schema) (data : Entries)
    (holds : Field → Value → Prop) : Prop :=
  ∀ field ∈ schema.fields, ∀ value, Record.lookup env data field.name = some value →
    holds field value

namespace Schema

variable {env : Environment} {schema : Schema} {data : Entries} {coerce : Bool}
  {strict : Option Bool} {path : Path} {result : Value}

theorem eachValue_of_validate
    (accepted : (validate env schema (.map data) ⟨coerce, strict, path, false⟩).outcome =
      .ok (.accepted result)) :
    schema.EachValue env data fun field value =>
      ∃ kept, (field.checkWith env coerce).Accepts value kept := by
  intro field among value found
  obtain ⟨_, same, passes, _⟩ := Record.passes_of_check (schema.rulesWith_evident env coerce)
    (verdict_of_validate accepted)
  cases same
  have ruleAmong : (⟨field, field.checkWith env coerce⟩ : Rule) ∈ schema.rulesWith env coerce :=
    List.mem_map_of_mem among
  obtain ⟨kept, checked, _⟩ := Record.mem_validated ruleAmong (passes.agreed _ ruleAmong) found
  exact ⟨kept, _, checked⟩

/-- If fields accept with conversions what they accept without, then so does the schema without a
hook. -/
theorem validate_coerce_of_each (hookFree : schema.hook = none)
    {related : Value → Value → Prop} (reflexive : ∀ value, related value value)
    (each : schema.EachValue env data fun field value => ∀ result,
      (field.check env).Accepts value result →
      ∃ other, (field.checkWith env true).Accepts value other ∧ related result other)
    (accepted : (validate env schema (.map data) ⟨false, strict, path, false⟩).outcome =
      .ok (.accepted result)) :
    ∃ values others, result = .record values ∧ Record.SameNames related values others ∧
      (validate env schema (.map data) ⟨true, strict, path, false⟩).outcome =
        .ok (.accepted (.record others)) := by
  have checked := verdict_of_validate accepted
  rw [verdict, hookFree, rulesWith] at checked
  rw [outcome_validate, verdict, hookFree, rulesWith]
  exact Record.check_transfer reflexive (fun field _ => field.checkWith_evident env false)
    (fun field _ => field.checkWith_rooted env true) each checked

theorem admits_of_validate (canonical : ∀ field ∈ schema.fields, field.type.isCanonical = true)
    (accepted : (validate env schema (.map data) ⟨false, strict, path, false⟩).outcome =
      .ok (.accepted result)) :
    schema.EachValue env data fun field value => (field.type.coerce env).Admits value := by
  intro field among value found
  obtain ⟨kept, accepts⟩ := eachValue_of_validate accepted field among value found
  exact TypeSpec.coerce_spares env field.type (canonical field among)
    ((field.accepts_iff env).mp accepts).1

/-- Data with faithful conversions keeps its result. -/
theorem validate_coerce_of_faithful (hookFree : schema.hook = none)
    (canonical : ∀ field ∈ schema.fields, field.type.isCanonical = true)
    (faithful : schema.EachValue env data fun field value => field.type.Faithful env value)
    (accepted : (validate env schema (.map data) ⟨false, strict, path, false⟩).outcome =
      .ok (.accepted result)) :
    (validate env schema (.map data) ⟨true, strict, path, false⟩).outcome =
      .ok (.accepted result) := by
  have each : schema.EachValue env data fun field value => ∀ result,
      (field.check env).Accepts value result →
      ∃ other, (field.checkWith env true).Accepts value other ∧ result = other := by
    intro field among value found result accepts
    exact ⟨result, Field.accepts_converted env (canonical field among)
      (faithful field among value found) accepts, rfl⟩
  obtain ⟨values, others, rfl, same, again⟩ :=
    validate_coerce_of_each hookFree (fun _ => rfl) each accepted
  have equal : values = others :=
    List.forall₂_eq_eq_eq ▸ same.imp fun _ _ both => Prod.ext both.1 both.2
  rw [again, equal]

/-- Data whose values can be converted stays accepted exactly when the converted values are. -/
theorem validate_coerce_iff (hookFree : schema.hook = none)
    (canonical : ∀ field ∈ schema.fields, field.type.isCanonical = true)
    (converts : schema.EachValue env data fun field value =>
      ∃ verdict, field.type.coerce env value [] = .ok verdict)
    (accepted : (validate env schema (.map data) ⟨false, strict, path, false⟩).outcome =
      .ok (.accepted result)) :
    (∃ other, (validate env schema (.map data) ⟨true, strict, path, false⟩).outcome =
        .ok (.accepted other)) ↔
      schema.EachValue env data fun field value => ∀ converted,
        (field.type.coerce env).Accepts value converted →
        ∃ other, (field.check env).Accepts converted other := by
  constructor
  case mp =>
    rintro ⟨other, again⟩ field among value found converted ⟨place, made⟩
    obtain ⟨kept, accepts⟩ := eachValue_of_validate again field among value found
    obtain ⟨between, madeAgain, checks⟩ := (field.checkWith_accepts_iff env).mp accepts
    have same := (field.type.coerce_rooted env).anywhere madeAgain place
    rw [made] at same
    cases same
    exact ⟨kept, checks⟩
  case mpr =>
    intro each
    have transferred : schema.EachValue env data fun field value => ∀ result,
        (field.check env).Accepts value result →
        ∃ other, (field.checkWith env true).Accepts value other ∧ True := by
      intro field among value found result _
      obtain ⟨verdict, made⟩ := converts field among value found
      cases verdict with
      | rejected violations =>
          exact absurd made (admits_of_validate canonical accepted field among value found _ _)
      | accepted converted =>
          obtain ⟨other, checks⟩ := each field among value found converted ⟨[], made⟩
          exact ⟨other, (field.checkWith_accepts_iff env).mpr ⟨converted, ⟨[], made⟩, checks⟩,
            trivial⟩
    obtain ⟨_, others, _, _, again⟩ :=
      validate_coerce_of_each hookFree (fun _ => trivial) transferred accepted
    exact ⟨_, again⟩

/-- What becomes of accepted data when its values are converted before they are checked. -/
structure ConversionLaw (env : Environment) (schema : Schema) (data : Entries)
    (strict : Option Bool) (path : Path) (result : Value) : Prop where
  /-- No value of a field is refused by its conversion. -/
  admitted : schema.EachValue env data fun field value => (field.type.coerce env).Admits value
  /-- If every value can be converted, then the data is accepted exactly when the type and the
  constraints of each field accept the converted value. -/
  accepted_iff :
    (schema.EachValue env data fun field value =>
      ∃ verdict, field.type.coerce env value [] = .ok verdict) →
    ((∃ other, (validate env schema (.map data) ⟨true, strict, path, false⟩).outcome =
        .ok (.accepted other)) ↔
      schema.EachValue env data fun field value => ∀ converted,
        (field.type.coerce env).Accepts value converted →
        ∃ other, (field.check env).Accepts converted other)
  /-- If the conversions are faithful, then the data is accepted with the same result. -/
  faithful :
    (schema.EachValue env data fun field value => field.type.Faithful env value) →
    (validate env schema (.map data) ⟨true, strict, path, false⟩).outcome = .ok (.accepted result)
  /-- In particular if they enter no union. -/
  plain : (∀ field ∈ schema.fields, field.type.convertsPlainly = true) →
    (validate env schema (.map data) ⟨true, strict, path, false⟩).outcome = .ok (.accepted result)

/-- Data that a schema without a hook accepts as it is stays accepted with conversions, unless the
conversion to a union makes something of a value that its field does not accept. -/
theorem validate_coerce_of_validate (env : Environment) (schema : Schema)
    (hookFree : schema.hook = none)
    (canonical : ∀ field ∈ schema.fields, field.type.isCanonical = true)
    (data : Entries) (strict : Option Bool) (path : Path) (result : Value)
    (accepted : (validate env schema (.map data) ⟨false, strict, path, false⟩).outcome =
      .ok (.accepted result)) :
    schema.ConversionLaw env data strict path result where
  admitted := admits_of_validate canonical accepted
  accepted_iff converts := validate_coerce_iff hookFree canonical converts accepted
  faithful each := validate_coerce_of_faithful hookFree canonical each accepted
  plain each := validate_coerce_of_faithful hookFree canonical
    (fun field among value _ => field.type.faithful_of_convertsPlainly env (each field among) value)
    accepted

/-- A tuple of texts is refused as a number and taken as an array of texts, and a mapping is taken
as it is; both are accepted with conversions as they are without. -/
theorem validate_coerce_of_tags :
    let schema : Schema := ⟨[
      ⟨"tags", .union [.primitive .integer, .array (.primitive .string) (.int 1) .null], true, [],
        .null, .null, .null⟩,
      ⟨"extra", .union [.primitive .boolean, .primitive .map], true, [], .null, .null, .null⟩],
      .null, .null, false, none, []⟩
    let data : Entries :=
      [(.str "tags", .tuple [.str "a", .str "b"]), (.str "extra", .map [(.str "k", .null)])]
    let result : Value :=
      .record [("tags", .list [.str "a", .str "b"]), ("extra", .map [(.str "k", .null)])]
    schema.ConversionLaw .bare data none [] result ∧
      (validate .bare schema (.map data) { coerce := true }).outcome = .ok (.accepted result) := by
  intro schema data result
  have canonical : ∀ field ∈ schema.fields, field.type.isCanonical = true := by decide
  have law := validate_coerce_of_validate .bare schema rfl canonical data none [] result rfl
  refine ⟨law, law.faithful ?_⟩
  intro field among value found
  rcases List.mem_cons.mp among with rfl | among
  · cases found
    exact .inr ⟨⟨_, [], rfl⟩, fun _ _ _ _ => trivial⟩
  · cases List.mem_singleton.mp among
    cases found
    exact .inl rfl

/-- A numeral that is accepted as a text is rejected once it is converted: the union takes its first
alternative, and the number is none of the choices. -/
theorem validate_coerce_rejects_numeral :
    let schema : Schema := ⟨[⟨"a", .union [.primitive .integer, .primitive .string], true,
      [(.choices, .list [.str "1"])], .null, .null, .null⟩], .null, .null, false, none, []⟩
    let data : Value := .map [(.str "a", .str "1")]
    define (.list [.tuple [.str "a", .tuple [.str "union", .list [.str "integer", .str "string"]],
        .map [(.str "choices", .list [.str "1"])]]]) {} = .ok schema ∧
      (∀ field ∈ schema.fields, field.type.isCanonical = true) ∧
      (validate .bare schema data {}).outcome = .ok (.accepted (.record [("a", .str "1")])) ∧
      ∃ violations,
        (validate .bare schema data { coerce := true }).outcome = .ok (.rejected violations) := by
  intro schema data
  exact ⟨rfl, by decide, rfl, _, rfl⟩

end Schema

end Conform
