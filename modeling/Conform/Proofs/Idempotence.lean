import Conform.Proofs.Relabelling
import Conform.Proofs.Rerooting

/-!
# Validation is idempotent

A check rewrites what it accepts: sequences change their labels, values are converted, keys that are
no fields are dropped and defaults are filled in.  A check that is steady accepts its own results
unchanged.  A union is steady because its earlier alternatives do not tell a result from the value
that it relabels, so that they reject both.
-/

namespace Conform

/-- What one checker accepts another accepts unchanged. -/
def Checker.Again (first second : Checker) : Prop :=
  ∀ {value result : Value}, value.wellFormed = true → first.Accepts value result →
    second.Accepts result result

/-- A checker that accepts its own results unchanged. -/
abbrev Checker.Steady (checker : Checker) : Prop := checker.Again checker

/-- What a rooted checker accepts somewhere it accepts everywhere. -/
theorem Checker.Rooted.anywhere {checker : Checker} (rooted : checker.Rooted) {value result : Value}
    (accepts : checker.Accepts value result) (path : Path) :
    checker value path = .ok (.accepted result) := by
  obtain ⟨place, accepted⟩ := accepts
  have here := rooted path value []
  have there := rooted place value []
  rw [List.append_nil] at here there
  rw [there] at accepted
  rw [here]
  cases outcome : checker value [] with
  | error fault =>
      rw [outcome] at accepted
      cases accepted
  | ok verdict =>
      rw [outcome] at accepted
      cases verdict with
      | accepted value =>
          cases accepted
          rfl
      | rejected violations => cases accepted

namespace Check

/-! ## Parts -/

theorem members_of_accepts {parts : List (Checker × Value)} {values : List Value}
    (each : List.Forall₂ (fun part value => part.1.Rooted ∧ part.1.Accepts part.2 value)
      parts values) (path : Path) (index : Nat) :
    members path index parts = .ok (values, []) := by
  induction each generalizing index with
  | nil => rfl
  | @cons part value _ _ first _ ih =>
      obtain ⟨checker, item⟩ := part
      obtain ⟨rooted, accepts⟩ := first
      have headAccepted : checker item (path ++ [.int index]) = .ok (.accepted value) :=
        rooted.anywhere accepts _
      rw [members_cons, headAccepted, Attempt.ok_bind, ih (index + 1), Attempt.ok_bind]

/-- Entries that are accepted unchanged one by one, with distinct keys, are accepted together. -/
theorem entries_of_accepts {key value : Checker} (keyRooted : key.Rooted)
    (valueRooted : value.Rooted) {stored : Entries}
    (each : ∀ entry ∈ stored, entry.1.hashable = true ∧ key.Accepts entry.1 entry.1 ∧
      value.Accepts entry.2 entry.2)
    (distinct : stored.Pairwise fun earlier later => (earlier.1 == later.1) = false)
    {done : Entries} (fresh : ∀ earlier ∈ done, ∀ entry ∈ stored, (earlier.1 == entry.1) = false)
    (path : Path) (position : Nat) :
    entries key value path position stored done = .ok (done ++ stored, []) := by
  induction stored generalizing done position with
  | nil => rw [entries, List.append_nil]
  | cons entry rest ih =>
      obtain ⟨k, v⟩ := entry
      obtain ⟨⟨hashable, keyAccepts, valueAccepts⟩, others⟩ := List.forall_mem_cons.mp each
      obtain ⟨fromHere, restDistinct⟩ := List.pairwise_cons.mp distinct
      have restFresh : ∀ earlier ∈ done ++ [(k, v)], ∀ entry ∈ rest,
          (earlier.1 == entry.1) = false := by
        intro earlier member entry among
        rcases List.mem_append.mp member with old | new
        · exact fresh earlier old entry (List.mem_cons_of_mem _ among)
        · cases List.mem_singleton.mp new
          exact fromHere entry among
      rw [entries_of_accepted (keyRooted.anywhere keyAccepts _)
        (valueRooted.anywhere valueAccepts _) hashable,
        Entries.put_of_fresh fun earlier member => fresh earlier member _ List.mem_cons_self,
        ih others restDistinct restFresh, List.append_assoc]
      rfl

/-! ## Combinators -/

theorem kind_steady (kind : Kind) : (Check.kind kind).Steady := by
  rintro value result formed ⟨path, accepted⟩
  obtain ⟨rfl, _⟩ := (kind_follows kind).fits formed accepted
  exact ⟨path, accepted⟩

theorem array_steady {inner : Checker} (evident : inner.Evident) (rooted : inner.Rooted)
    (steady : inner.Steady) (bounds : List Constraint) : (Check.array inner bounds).Steady := by
  rintro value result formed ⟨path, accepted⟩
  obtain ⟨items, values, listed, rfl, each, bounded⟩ := array_accepted evident accepted
  have itemsFormed := Value.wellFormed_of_items listed formed
  have again : List.Forall₂ (fun part value => part.1.Rooted ∧ part.1.Accepts part.2 value)
      (values.map fun item => (inner, item)) values := by
    rw [List.forall₂_map_left_iff, List.forall₂_same]
    apply forall_mem_of_forall₂
    refine ((List.forall₂_and_left _ _).mpr ⟨itemsFormed, each⟩).imp ?_
    rintro item result ⟨itemFormed, accepts⟩
    exact ⟨rooted, steady itemFormed accepts⟩
  refine ⟨path, ?_⟩
  simp only [Check.array, Value.items?, members_of_accepts again path 0]
  exact bounded

/-- If the first alternative to accept a value accepts its result as well, and those before it do
not tell the two apart, then it is also the first to accept the result. -/
theorem firstAccepted_steady {checkers : List Checker}
    (each : ∀ checker ∈ checkers, checker.Blind ∧ checker.Rooted ∧ checker.Steady)
    {value result : Value} (formed : value.wellFormed = true) (relabels : value.Relabels result)
    {path : Path} (found : firstAccepted value path checkers = .ok (some result)) :
    firstAccepted result path checkers = .ok (some result) := by
  induction checkers with
  | nil => cases found
  | cons checker rest ih =>
      obtain ⟨⟨blind, rooted, steady⟩, others⟩ := List.forall_mem_cons.mp each
      obtain ⟨verdict, checked, found⟩ := Attempt.bind_eq_ok_iff.mp found
      cases verdict with
      | accepted accepted =>
          cases found
          rw [firstAccepted, rooted.anywhere (steady formed ⟨path, checked⟩) path]
          rfl
      | rejected violations =>
          have alike := blind path relabels
          rw [checked] at alike
          generalize outcome : checker result path = other at alike
          cases alike with
          | ok agree =>
              cases agree with
              | rejected some any =>
                  rw [firstAccepted, outcome]
                  exact ih others found

theorem union_steady (description : Attempt String) {alternatives : List Checker}
    (indifferent : ∀ checker ∈ alternatives, checker.Indifferent)
    (rooted : ∀ checker ∈ alternatives, checker.Rooted)
    (steady : ∀ checker ∈ alternatives, checker.Steady) :
    (Check.union description alternatives).Steady := by
  rintro value result formed ⟨path, accepted⟩
  have relabels := (union_indifferent description indifferent).follows.fits formed accepted
  have again : firstAccepted result path alternatives = .ok (some result) := by
    refine firstAccepted_steady ?_ formed relabels (union_accepted accepted)
    exact fun checker among =>
      ⟨(indifferent checker among).blind, rooted checker among, steady checker among⟩
  refine ⟨path, ?_⟩
  rw [Check.union, again]
  rfl

/-- What is accepted place by place is accepted again place by place. -/
theorem zip_accepts_again {elements : List Checker}
    (each : ∀ checker ∈ elements, checker.Rooted ∧ checker.Steady) {items values : List Value}
    (formed : ∀ item ∈ items, item.wellFormed = true) (sameLength : items.length = elements.length)
    (accepted : List.Forall₂ (fun part value => part.1.Accepts part.2 value)
      (elements.zip items) values) :
    List.Forall₂ (fun part value => part.1.Rooted ∧ part.1.Accepts part.2 value)
      (elements.zip values) values := by
  induction elements generalizing items values with
  | nil =>
      cases accepted
      exact .nil
  | cons checker rest ih =>
      obtain ⟨⟨rooted, steady⟩, restEach⟩ := List.forall_mem_cons.mp each
      cases items with
      | nil => cases sameLength
      | cons item others =>
          obtain ⟨itemFormed, othersFormed⟩ := List.forall_mem_cons.mp formed
          cases accepted with
          | cons accepts others =>
              exact .cons ⟨rooted, steady itemFormed accepts⟩
                (ih restEach othersFormed (Nat.succ.inj sameLength) others)

theorem tuple_steady {elements : List Checker} (evident : ∀ checker ∈ elements, checker.Evident)
    (rooted : ∀ checker ∈ elements, checker.Rooted)
    (steady : ∀ checker ∈ elements, checker.Steady) : (Check.tuple elements).Steady := by
  rintro value result formed ⟨path, accepted⟩
  obtain ⟨items, values, listed, rfl, sameLength, each⟩ := tuple_accepted evident accepted
  have itemsFormed := Value.wellFormed_of_items listed formed
  have again : List.Forall₂ (fun part value => part.1.Rooted ∧ part.1.Accepts part.2 value)
      (elements.zip values) values :=
    zip_accepts_again (fun checker among => ⟨rooted checker among, steady checker among⟩)
      itemsFormed sameLength each
  have resultLength : values.length = elements.length := by
    rw [← each.length_eq, List.length_zip, sameLength, Nat.min_self]
  refine ⟨path, ?_⟩
  simp only [Check.tuple, Value.items?, resultLength, if_true, members_of_accepts again path 0]
  rfl

theorem map_steady {key value : Checker} {keyFit : Fit} (keyFollows : key.Follows keyFit)
    (keepsKeys : keyFit.KeepsKeys) (keyRooted : key.Rooted) (valueEvident : value.Evident)
    (valueRooted : value.Rooted) (steady : value.Steady) : (Check.map key value).Steady := by
  rintro data result formed ⟨path, accepted⟩
  obtain ⟨found, stored, rfl, rfl, each⟩ :=
    map_accepted keyFollows keepsKeys valueEvident formed accepted
  obtain ⟨distinct, parts⟩ := Value.wellFormed_map.mp formed
  have entriesAgain : ∀ entry ∈ stored, entry.1.hashable = true ∧ key.Accepts entry.1 entry.1 ∧
      value.Accepts entry.2 entry.2 := by
    apply forall_mem_of_forall₂
    refine ((List.forall₂_and_left _ _).mpr ⟨parts, each⟩).imp ?_
    rintro entry new ⟨⟨hashable, _, valueFormed⟩, same, keyAccepts, valueAccepts⟩
    rw [← same] at hashable keyAccepts
    exact ⟨hashable, keyAccepts, steady valueFormed valueAccepts⟩
  have keys : found.map Prod.fst = stored.map Prod.fst := by
    rw [← List.forall₂_eq_eq_eq, List.forall₂_map_left_iff, List.forall₂_map_right_iff]
    exact each.imp fun _ _ kept => kept.1.symm
  have storedDistinct : stored.Pairwise fun earlier later => (earlier.1 == later.1) = false := by
    have keysDistinct : (found.map Prod.fst).Pairwise fun earlier later : Value =>
        (earlier == later) = false := List.pairwise_map.mpr distinct
    rw [keys] at keysDistinct
    exact List.pairwise_map.mp keysDistinct
  have again := entries_of_accepts keyRooted valueRooted entriesAgain storedDistinct
    (fun _ among => absurd among List.not_mem_nil) path 0
  refine ⟨path, ?_⟩
  rw [Check.map, again]
  rfl

theorem nested_steady {record : Checker}
    (steady : ∀ {value result}, value.wellFormed = true → record.Accepts value result →
      ∀ path, record result path = .ok (.accepted result)) : (Check.nested record).Steady := by
  rintro value result formed ⟨path, accepted⟩
  refine ⟨path, ?_⟩
  rw [Check.nested, steady formed ⟨[], nested_accepted accepted⟩ []]
  rfl

theorem constrained_again {first second : Checker} (again : first.Again second)
    (rooted : second.Rooted) (constraints : List Constraint) :
    (Check.constrained first constraints).Again (Check.constrained second constraints) := by
  rintro value result formed ⟨path, accepted⟩
  obtain ⟨checked, passed⟩ := constrained_accepted accepted
  refine ⟨path, ?_⟩
  rw [Check.constrained, rooted.anywhere (again formed ⟨path, checked⟩) path]
  exact passed

end Check

/-! ## Records -/

namespace Record

variable {env : Environment} {data : Entries} {rules : List Rule} {values : List (String × Value)}

@[simp] theorem lookup_ofTexts (env : Environment) (values : List (String × Value))
    (name : String) :
    lookup env (Entries.ofTexts values) name = values.lookup name := by
  have symbolFree : (Entries.ofTexts values).get? (.symbol name) = none := by
    simp only [Entries.get?, Entries.ofTexts, Option.map_eq_none_iff, List.find?_eq_none]
    intro entry among
    obtain ⟨pair, _, rfl⟩ := List.mem_map.mp among
    exact Bool.false_ne_true
  rw [lookup, Entries.get?_ofTexts]
  cases values.lookup name with
  | some value => rfl
  | none =>
      dsimp only
      rw [symbolFree, ite_self]

theorem extraNames_of_known (known names : List String) (all : ∀ name ∈ names, name ∈ known) :
    extraNames known [] (names.map Value.str) = .ok [] := by
  induction names with
  | nil => rfl
  | cons name rest ih =>
      obtain ⟨first, others⟩ := List.forall_mem_cons.mp all
      have named : keyName (.str name) = .ok name := rfl
      rw [List.map_cons, extraNames, named, Attempt.ok_bind, List.contains_iff_mem.mpr first]
      exact ih others

variable {fields : List Field} {first second : Field → Checker}

/-- Fields whose values and defaults are accepted again. -/
structure FieldAgain (first second : Field → Checker) (field : Field) : Prop where
  rooted : (second field).Rooted
  again : (first field).Again (second field)
  default : field.hasDefault = true → (second field).Accepts field.default field.default

/-- The values of a gathered record are gathered from it again. -/
theorem Gathered.again {env : Environment} {data : Entries} {values : List (String × Value)}
    (formed : (Value.map data).wellFormed = true)
    (gathered : Gathered env data (fields.map fun field => ⟨field, first field⟩) values)
    (each : ∀ field ∈ fields, FieldAgain first second field)
    (distinct : (fields.map Field.name).Nodup) {record : Entries}
    (found : ∀ field ∈ fields, lookup env record field.name = values.lookup field.name)
    (path : Path) :
    gather env record path (fields.map fun field => ⟨field, second field⟩) = .ok (values, []) := by
  -- The induction is on the fields.  The record stays whole: only what is found in it matters.
  induction fields generalizing values with
  | nil =>
      cases gathered
      rfl
  | cons field rest ih =>
      obtain ⟨fieldAgain, restAgain⟩ := List.forall_mem_cons.mp each
      obtain ⟨fieldFound, restFound⟩ := List.forall_mem_cons.mp found
      obtain ⟨fresh, restDistinct⟩ := List.nodup_cons.mp distinct
      -- The other fields are found behind the value of this one.
      have behind : ∀ {value : Value} {others : List (String × Value)},
          values = (field.name, value) :: others →
          ∀ other ∈ rest, lookup env record other.name = others.lookup other.name := by
        rintro value others rfl other among
        rw [restFound other among, lookup_behind Field.name fresh among]
      cases gathered with
      | @present _ _ others given value presented accepts gathered =>
          rw [List.lookup_cons_self] at fieldFound
          have accepted : second field value (path ++ [.str field.name]) = .ok (.accepted value) :=
            fieldAgain.rooted.anywhere
              (fieldAgain.again (wellFormed_of_lookup formed presented) accepts) _
          simp only [List.map_cons, gather, fieldVerdict, fieldFound, accepted,
            ih gathered restAgain restDistinct (behind rfl), Attempt.ok_bind]
          rfl
      | @filled _ _ others absent fills gathered =>
          rw [List.lookup_cons_self] at fieldFound
          have accepted : second field field.default (path ++ [.str field.name]) =
              .ok (.accepted field.default) :=
            fieldAgain.rooted.anywhere (fieldAgain.default fills) _
          simp only [List.map_cons, gather, fieldVerdict, fieldFound, accepted,
            ih gathered restAgain restDistinct (behind rfl), Attempt.ok_bind]
          rfl
      | left absent bare free gathered =>
          have unnamed : values.lookup field.name = none := by
            apply gathered.lookup_eq_none
            rwa [List.map_map]
          rw [unnamed] at fieldFound
          simp only [Field.hasDefault] at bare free
          simp only [List.map_cons, gather, fieldVerdict, fieldFound, bare, free,
            ih gathered restAgain restDistinct restFound, Bool.false_eq_true, if_false]
          rfl

/-- No required field is missing from a gathered record. -/
theorem Gathered.missing_eq_nil {env : Environment} {data : Entries} {rules : List Rule}
    {values : List (String × Value)} (gathered : Gathered env data rules values)
    (distinct : (rules.map fun rule => rule.field.name).Nodup) (path : Path) :
    missing env (rules.map Rule.field) (Entries.ofTexts values) path = [] := by
  rw [missing, List.map_eq_nil_iff, List.filter_eq_nil_iff]
  intro field among lacking
  obtain ⟨rule, ruleAmong, rfl⟩ := List.mem_map.mp among
  obtain ⟨required, absent⟩ := Bool.and_eq_true_iff.mp lacking
  rw [lookup_ofTexts] at absent
  obtain ⟨ofPresent, ofAbsent⟩ := gathered.lookup_name distinct rule ruleAmong
  cases found : lookup env data rule.field.name with
  | some given =>
      obtain ⟨value, entry, _⟩ := ofPresent given found
      rw [entry] at absent
      cases absent
  | none =>
      obtain ⟨entry, fills⟩ := ofAbsent found
      rw [entry, if_pos (fills required)] at absent
      cases absent

/-- The check of a record accepts what it accepted before, also when it did so after conversions. -/
theorem check_again {env : Environment} (evident : ∀ field ∈ fields, (first field).Evident)
    (each : ∀ field ∈ fields, FieldAgain first second field)
    (distinct : (fields.map Field.name).Nodup) (strict : Bool) {value result : Value}
    (formed : value.wellFormed = true)
    (accepts : (Record.check env (fields.map fun field => ⟨field, first field⟩) strict none).Accepts
      value result) (path : Path) :
    Record.check env (fields.map fun field => ⟨field, second field⟩) strict none result path =
      .ok (.accepted result) := by
  obtain ⟨place, accepted⟩ := accepts
  have rulesEvident : ∀ rule ∈ fields.map fun field => Rule.mk field (first field),
      rule.check.Evident := by
    intro rule among
    obtain ⟨field, fieldAmong, rfl⟩ := List.mem_map.mp among
    exact evident field fieldAmong
  obtain ⟨data, values, rfl, rfl, gathered⟩ := check_accepted rulesEvident accepted
  have names : ((fields.map fun field => Rule.mk field (first field)).map
      fun rule => rule.field.name).Nodup := by rwa [List.map_map]
  have complete := gathered.missing_eq_nil names path
  have again := gathered.again formed each distinct
    (fun field _ => lookup_ofTexts env values field.name) path
  have known : extraNames (values.map Prod.fst) [] ((Entries.ofTexts values).map Prod.fst) =
      .ok [] := by
    have keys : (Entries.ofTexts values).map Prod.fst = (values.map Prod.fst).map Value.str := by
      rw [Entries.ofTexts, List.map_map, List.map_map]
      rfl
    rw [keys]
    exact extraNames_of_known _ _ fun name among => among
  have proposed : candidate env (fields.map fun field => ⟨field, second field⟩) strict
      (.record values) path = .ok (.accepted (.record values)) := by
    rw [List.map_map] at complete
    simp only [candidate, Value.record, List.map_map, again, Attempt.ok_bind]
    rw [show (Rule.field ∘ fun field => Rule.mk field (second field)) =
      Rule.field ∘ fun field => Rule.mk field (first field) from rfl, complete]
    cases strict with
    | false => rfl
    | true =>
        simp only [known]
        rfl
  simp [Record.check, stages, proposed, review]

end Record

/-! ## Types and schemas -/

mutual

/-- Whether a type refers to schemas outside unions only, and to such that accept their defaults
unchanged. -/
def TypeSpec.Stable (env : Environment) : TypeSpec → Prop
  | .array inner _ _ => TypeSpec.Stable env inner
  | .union alternatives => TypeSpec.allEverywhere TypeSpec.isClosedNode alternatives = true
  | .tuple elements => TypeSpec.AllStable env elements
  | .map _ value => TypeSpec.Stable env value
  | .ref target => Value.StableTarget env target
  | .primitive _ | .unknownKind _ | .rawUnion _ | .rawTuple _ | .raw _ => True

/-- Whether all of the types are stable. -/
def TypeSpec.AllStable (env : Environment) : List TypeSpec → Prop
  | [] => True
  | spec :: rest => TypeSpec.Stable env spec ∧ TypeSpec.AllStable env rest

/-- Whether the fields of a schema that is referred to are stable. -/
def Value.StableTarget (env : Environment) : Value → Prop
  | .schema _ schema => Schema.Stable env schema
  | _ => True

/-- Whether the fields of a schema are stable. -/
def Schema.Stable (env : Environment) : Schema → Prop
  | ⟨fields, _, _, _, _, _⟩ => Schema.FieldsStable env fields

/-- Whether all of the fields are stable. -/
def Schema.FieldsStable (env : Environment) : List Field → Prop
  | [] => True
  | field :: rest => Field.Stable env field ∧ Schema.FieldsStable env rest

/-- Whether the type of a field is stable, and its default, if it has one, is accepted unchanged by
its type and its constraints. -/
def Field.Stable (env : Environment) : Field → Prop
  | ⟨_, type, _, constraints, _, _, default⟩ => TypeSpec.Stable env type ∧
    ((!default.isNull) = true →
      (Check.constrained (type.check env) constraints).Accepts default default)

end

mutual

theorem TypeSpec.stable_of_closed (env : Environment) : (spec : TypeSpec) →
    spec.isClosed = true → spec.Stable env
  | .primitive _, _ | .unknownKind _, _ | .rawUnion _, _ | .rawTuple _, _ | .raw _, _ => trivial
  | .array inner _ _, closed => TypeSpec.stable_of_closed env inner closed
  | .union _, closed => closed
  | .tuple elements, closed => TypeSpec.allStable_of_closed env elements closed
  | .map _ value, closed =>
      TypeSpec.stable_of_closed env value (Bool.and_eq_true_iff.mp closed).2
  | .ref _, closed => nomatch closed

theorem TypeSpec.allStable_of_closed (env : Environment) : (specs : List TypeSpec) →
    TypeSpec.allEverywhere TypeSpec.isClosedNode specs = true → TypeSpec.AllStable env specs
  | [], _ => trivial
  | spec :: rest, closed => by
      obtain ⟨specClosed, restClosed⟩ := Bool.and_eq_true_iff.mp closed
      exact ⟨TypeSpec.stable_of_closed env spec specClosed,
        TypeSpec.allStable_of_closed env rest restClosed⟩

end

mutual

/-- The check of a regular and stable type accepts its own results unchanged. -/
theorem TypeSpec.check_steady (env : Environment) : (spec : TypeSpec) →
    spec.isRegular = true → spec.Stable env → (spec.check env).Steady
  | .primitive kind, _, _ => Check.kind_steady kind
  | .array inner _ _, regular, stable =>
      Check.array_steady (inner.check_evident env) (inner.check_rooted env)
        (TypeSpec.check_steady env inner regular stable) _
  | .union alternatives, regular, closed =>
      Check.union_steady _ (TypeSpec.checkers_indifferent env alternatives regular closed)
        (TypeSpec.forall_checkers fun spec _ => spec.check_rooted env)
        (TypeSpec.checkers_steady env alternatives regular
          (TypeSpec.allStable_of_closed env alternatives closed))
  | .tuple elements, regular, stable =>
      Check.tuple_steady
        (Checker.Follows.evident_of_mem (TypeSpec.checkers_follow env elements regular))
        (TypeSpec.forall_checkers fun spec _ => spec.check_rooted env)
        (TypeSpec.checkers_steady env elements regular stable)
  | .map key value, regular, stable => by
      obtain ⟨keyRegular, valueRegular⟩ := Bool.and_eq_true_iff.mp regular
      exact Check.map_steady (TypeSpec.check_follows env key keyRegular)
        (TypeSpec.fit_keepsKeys env key) (key.check_rooted env) (value.check_evident env)
        (value.check_rooted env) (TypeSpec.check_steady env value valueRegular stable)
  | .ref target, regular, stable => Value.checkAsTarget_steady env target regular stable
  | .unknownKind _, regular, _ => nomatch regular
  | .rawUnion _, regular, _ | .rawTuple _, regular, _ | .raw _, regular, _ => nomatch regular

theorem TypeSpec.checkers_steady (env : Environment) : (specs : List TypeSpec) →
    TypeSpec.allRegular specs = true → TypeSpec.AllStable env specs →
    ∀ checker ∈ TypeSpec.checkers env specs, checker.Steady
  | [], _, _ => fun _ among => nomatch among
  | spec :: rest, regular, stable => by
      obtain ⟨specRegular, restRegular⟩ := Bool.and_eq_true_iff.mp regular
      exact List.forall_mem_cons.mpr ⟨TypeSpec.check_steady env spec specRegular stable.1,
        TypeSpec.checkers_steady env rest restRegular stable.2⟩

theorem Value.checkAsTarget_steady (env : Environment) : (target : Value) →
    target.isRegularTarget = true → target.StableTarget env → (target.checkAsTarget env).Steady
  | .schema _ schema, regular, stable =>
      Check.nested_steady (Schema.check_steady env schema regular stable)
  | .null, regular, _ | .bool _, regular, _ | .int _, regular, _ | .float _, regular, _
  | .str _, regular, _ | .bytes _, regular, _ | .bytearray _, regular, _ | .list _, regular, _
  | .tuple _, regular, _ | .set _, regular, _ | .frozenset _, regular, _ | .map _, regular, _
  | .symbol _, regular, _ | .member .., regular, _ | .enumeration .., regular, _
  | .pattern _, regular, _ | .type _, regular, _ | .spec _, regular, _ | .violation _, regular, _
  | .ok _, regular, _ | .err _, regular, _ | .target _, regular, _ => nomatch regular

theorem Schema.check_steady (env : Environment) : (schema : Schema) →
    schema.isRegular = true → schema.Stable env →
    ∀ {value result}, value.wellFormed = true → (schema.check env).Accepts value result →
      ∀ path, schema.check env result path = .ok (.accepted result)
  | ⟨fields, _, _, strict, hook, _⟩, regular, stable => by
      simp only [Schema.isRegular, Bool.and_eq_true, Option.isNone_iff_eq_none,
        decide_eq_true_eq] at regular
      obtain ⟨⟨rfl, distinct⟩, fieldsRegular⟩ := regular
      rw [Schema.check, Schema.rules_eq_map]
      exact Record.check_again (fun field _ => field.check_evident env)
        (Schema.fields_again env fields fieldsRegular stable) distinct strict

theorem Schema.fields_again (env : Environment) : (fields : List Field) →
    Schema.fieldsRegular fields = true → Schema.FieldsStable env fields →
    ∀ field ∈ fields, Record.FieldAgain (Field.check env) (Field.check env) field
  | [], _, _ => fun _ among => nomatch among
  | field :: rest, regular, stable => by
      obtain ⟨fieldRegular, restRegular⟩ := Bool.and_eq_true_iff.mp regular
      exact List.forall_mem_cons.mpr ⟨Field.check_again env field fieldRegular stable.1,
        Schema.fields_again env rest restRegular stable.2⟩

theorem Field.check_again (env : Environment) : (field : Field) → field.isRegular = true →
    field.Stable env → Record.FieldAgain (Field.check env) (Field.check env) field
  | ⟨_, type, _, constraints, _, _, _⟩, regular, stable => {
      rooted := Check.constrained_rooted (type.check_rooted env) constraints
      again := Check.constrained_again (TypeSpec.check_steady env type regular stable.1)
        (type.check_rooted env) constraints
      default := stable.2 }

end

namespace Schema

end Schema

end Conform
