import Conform.Proofs.Conversions

/-!
# Where violations lie

The violations that the check of a type gives lie at parts of the value: at the items of arrays and
tuples under their indices, at the values of mappings under their keys, and at the keys of mappings
under labels of their own.  A type tells of a part exactly what the type of the part tells of it
alone.  Unions tell nothing of parts, only that no alternative agrees.
-/

namespace Conform

namespace TypeSpec

/-- A type reads a part of a value, to which a single step of paths leads, by another type. -/
inductive Part : TypeSpec → Value → Value → TypeSpec → Value → Prop where
  | item {inner : TypeSpec} {minItems maxItems value item : Value} {items : List Value}
      {index : Nat} (read : value.items? = some items) (held : items[index]? = some item) :
      Part (.array inner minItems maxItems) value (.int index) inner item
  | element {elements : List TypeSpec} {value item : Value} {items : List Value} {index : Nat}
      {spec : TypeSpec} (read : value.items? = some items) (fits : items.length = elements.length)
      (typed : elements[index]? = some spec) (held : items[index]? = some item) :
      Part (.tuple elements) value (.int index) spec item
  | key {keyType valueType : TypeSpec} {entries : Entries} {position : Nat} {key value : Value}
      (held : entries[position]? = some (key, value)) :
      Part (.map keyType valueType) (.map entries) (Check.keyLabel position) keyType key
  | value {keyType valueType : TypeSpec} {entries : Entries} {position : Nat} {key value : Value}
      (held : entries[position]? = some (key, value)) :
      Part (.map keyType valueType) (.map entries) key valueType value

/-- A place leads from a value that a type reads to a part of it at some depth. -/
inductive Leads : TypeSpec → Value → Path → TypeSpec → Value → Prop where
  | here {spec : TypeSpec} {value : Value} : Leads spec value [] spec value
  | inside {spec part inner : TypeSpec} {value held kept step : Value} {place : Path}
      (first : Part spec value step part held) (rest : Leads part held place inner kept) :
      Leads spec value (step :: place) inner kept

/-- The violations at a path that a type gives for a value as a whole, apart from its parts. -/
inductive Blames (path : Path) : TypeSpec → Value → Violation → Prop where
  | kind {kind : Kind} {value : Value} (other : kind.admits value = false) :
      Blames path (.primitive kind) value (.wrongSort path kind.name value.sortName)
  | array {inner : TypeSpec} {minItems maxItems value : Value} (other : value.items? = none) :
      Blames path (.array inner minItems maxItems) value (.wrongSort path "array" value.sortName)
  | tuple {elements : List TypeSpec} {value : Value} (other : value.items? = none) :
      Blames path (.tuple elements) value (.wrongSort path "tuple" value.sortName)
  | map {key inner : TypeSpec} {value : Value} (other : value.entries? = none) :
      Blames path (.map key inner) value (.wrongSort path "map" value.sortName)
  | union {alternatives : List TypeSpec} {value : Value} {text : String}
      (named : (TypeSpec.union alternatives).describe = .ok text) :
      Blames path (.union alternatives) value (.noAlternative path text value.sortName)
  | arity {elements : List TypeSpec} {value : Value} {items : List Value}
      (read : value.items? = some items) (differs : items.length ≠ elements.length) :
      Blames path (.tuple elements) value (.wrongArity path elements.length items.length)
  | few {inner : TypeSpec} {maxItems value : Value} {n : Int} {items : List Value}
      (read : value.items? = some items) (less : (items.length : Int) < n) :
      Blames path (.array inner (.int n) maxItems) value
        (.detailed path "min_items" ("must have at least " ++ wholeText n ++ " items")
          [("constraint", .str "min_items"), ("limit", .int n)])
  | many {inner : TypeSpec} {minItems value : Value} {n : Int} {items : List Value}
      (read : value.items? = some items) (more : n < (items.length : Int)) :
      Blames path (.array inner minItems (.int n)) value
        (.detailed path "max_items" ("must have at most " ++ wholeText n ++ " items")
          [("constraint", .str "max_items"), ("limit", .int n)])

end TypeSpec

/-! ## Reports -/

/-- A checker rejects a value at a path with a violation among others. -/
def Checker.Reports (checker : Checker) (value : Value) (path : Path)
    (violation : Violation) : Prop :=
  ∃ found, checker value path = .ok (.rejected found) ∧ violation ∈ found

/-- A checker reaches a verdict on a value at a path and finds nothing but violations that are
known. -/
def Checker.Contributes (checker : Checker) (value : Value) (path : Path)
    (known : List Violation) : Prop :=
  ∃ verdict, checker value path = .ok verdict ∧ ∀ violation ∈ verdict.violations, violation ∈ known

theorem Checker.Contributes.mono {checker : Checker} {value : Value} {path : Path}
    {known more : List Violation} (contributes : checker.Contributes value path known)
    (grows : known ⊆ more) : checker.Contributes value path more := by
  obtain ⟨verdict, checked, within⟩ := contributes
  exact ⟨verdict, checked, fun violation among => grows (within violation among)⟩

theorem Checker.reports_of_mem {checker : Checker} {value : Value} {path : Path}
    {verdict : Verdict Value} (checked : checker value path = .ok verdict) {violation : Violation}
    (among : violation ∈ verdict.violations) : checker.Reports value path violation := by
  cases verdict with
  | accepted result => cases among
  | rejected found => exact ⟨found, checked, among⟩

namespace Check

theorem members_cons_eq_ok {path : Path} {index : Nat} {checker : Checker} {item : Value}
    {rest : List (Checker × Value)} {parts : List Value × List Violation}
    (checked : members path index ((checker, item) :: rest) = .ok parts) :
    ∃ verdict others, checker item (path ++ [.int index]) = .ok verdict ∧
      members path (index + 1) rest = .ok others ∧ parts.2 = verdict.violations ++ others.2 := by
  rw [members_cons] at checked
  obtain ⟨verdict, headChecked, checked⟩ := Attempt.bind_eq_ok_iff.mp checked
  obtain ⟨others, restChecked, joined⟩ := Attempt.bind_eq_ok_iff.mp checked
  refine ⟨verdict, others, headChecked, restChecked, ?_⟩
  cases verdict <;> cases joined <;> rfl

/-- The violations of members are those of each of them at its index. -/
theorem members_reports {path : Path} {index : Nat} {parts : List (Checker × Value)}
    {done : List Value × List Violation} (checked : members path index parts = .ok done) :
    (∀ (position : Nat) (checker : Checker) (item : Value),
      parts[position]? = some (checker, item) →
      checker.Contributes item (path ++ [.int (index + position : Nat)]) done.2) ∧
    ∀ violation ∈ done.2, ∃ (position : Nat) (checker : Checker) (item : Value),
      parts[position]? = some (checker, item) ∧
      checker.Reports item (path ++ [.int (index + position : Nat)]) violation := by
  induction parts generalizing index done with
  | nil =>
      cases checked
      exact ⟨fun _ _ _ held => (nomatch held), List.forall_mem_nil _⟩
  | cons part rest ih =>
      obtain ⟨checker, item⟩ := part
      obtain ⟨verdict, others, headChecked, restChecked, joined⟩ := members_cons_eq_ok checked
      obtain ⟨contribute, reported⟩ := ih restChecked
      rw [joined]
      constructor
      · intro position other held atPosition
        cases position with
        | zero =>
            cases atPosition
            exact ⟨verdict, headChecked, fun _ among => List.mem_append_left _ among⟩
        | succ position =>
            have next := contribute position other held atPosition
            rw [Nat.succ_add_eq_add_succ] at next
            exact next.mono (List.subset_append_right _ _)
      · intro violation among
        rcases List.mem_append.mp among with first | behind
        · exact ⟨0, checker, item, rfl, Checker.reports_of_mem headChecked first⟩
        · obtain ⟨position, other, held, atPosition, reports⟩ := reported violation behind
          rw [Nat.succ_add_eq_add_succ] at reports
          exact ⟨position + 1, other, held, atPosition, reports⟩

theorem entries_cons_eq_ok {key value : Checker} {path : Path} {position : Nat} {k v : Value}
    {rest done : Entries} {result : Entries × List Violation}
    (checked : entries key value path position ((k, v) :: rest) done = .ok result) :
    ∃ keyVerdict valueVerdict stored others, key k (path ++ [keyLabel position]) = .ok keyVerdict ∧
      value v (path ++ [k]) = .ok valueVerdict ∧
      entries key value path (position + 1) rest stored = .ok others ∧
      result.2 = keyVerdict.violations ++ (valueVerdict.violations ++ others.2) := by
  obtain ⟨keyVerdict, keyChecked, checked⟩ := Attempt.bind_eq_ok_iff.mp checked
  obtain ⟨valueVerdict, valueChecked, checked⟩ := Attempt.bind_eq_ok_iff.mp checked
  have goesOn (stored : Entries)
      (checked : (entries key value path (position + 1) rest stored >>= fun others =>
        .ok (others.1, keyVerdict.violations ++ (valueVerdict.violations ++ others.2))) =
          .ok result) :
      ∃ others, entries key value path (position + 1) rest stored = .ok others ∧
        result.2 = keyVerdict.violations ++ (valueVerdict.violations ++ others.2) := by
    obtain ⟨others, restChecked, joined⟩ := Attempt.bind_eq_ok_iff.mp checked
    cases joined
    exact ⟨others, restChecked, rfl⟩
  -- Only a pair of accepted verdicts stores an entry before the others are checked.
  obtain ⟨stored, others, restChecked, joined⟩ : ∃ stored others,
      entries key value path (position + 1) rest stored = .ok others ∧
        result.2 = keyVerdict.violations ++ (valueVerdict.violations ++ others.2) := by
    cases keyVerdict with
    | rejected _ => exact ⟨done, goesOn done checked⟩
    | accepted newKey =>
        cases valueVerdict with
        | rejected _ => exact ⟨done, goesOn done checked⟩
        | accepted newValue =>
            obtain ⟨keyed, _, checked⟩ := Attempt.bind_eq_ok_iff.mp checked
            exact ⟨_, goesOn (done.put keyed newValue) checked⟩
  exact ⟨keyVerdict, valueVerdict, stored, others, keyChecked, valueChecked, restChecked, joined⟩

/-- The violations of entries are those of each key at its label and of each value at its key. -/
theorem entries_reports {key value : Checker} {path : Path} {position : Nat} {found done : Entries}
    {result : Entries × List Violation}
    (checked : entries key value path position found done = .ok result) :
    (∀ (index : Nat) (k v : Value), found[index]? = some (k, v) →
      key.Contributes k (path ++ [keyLabel (position + index)]) result.2 ∧
      value.Contributes v (path ++ [k]) result.2) ∧
    ∀ violation ∈ result.2, ∃ (index : Nat) (k v : Value), found[index]? = some (k, v) ∧
      (key.Reports k (path ++ [keyLabel (position + index)]) violation ∨
        value.Reports v (path ++ [k]) violation) := by
  induction found generalizing position done result with
  | nil =>
      cases checked
      exact ⟨fun _ _ _ held => (nomatch held), List.forall_mem_nil _⟩
  | cons entry rest ih =>
      obtain ⟨k, v⟩ := entry
      obtain ⟨keyVerdict, valueVerdict, stored, others, keyChecked, valueChecked, restChecked,
        joined⟩ :=
        entries_cons_eq_ok checked
      obtain ⟨contribute, reported⟩ := ih restChecked
      rw [joined]
      constructor
      · intro index otherKey otherValue atIndex
        cases index with
        | zero =>
            cases atIndex
            exact ⟨⟨keyVerdict, keyChecked, fun _ among => List.mem_append_left _ among⟩,
              valueVerdict, valueChecked, fun _ among =>
                List.mem_append_right _ (List.mem_append_left _ among)⟩
        | succ index =>
            obtain ⟨ofKey, ofValue⟩ := contribute index otherKey otherValue atIndex
            have grows : others.2 ⊆
              keyVerdict.violations ++ (valueVerdict.violations ++ others.2) :=
              fun _ among => List.mem_append_right _ (List.mem_append_right _ among)
            rw [Nat.succ_add_eq_add_succ] at ofKey
            exact ⟨ofKey.mono grows, ofValue.mono grows⟩
      · intro violation among
        rcases List.mem_append.mp among with ofKey | among
        · exact ⟨0, k, v, rfl, .inl (Checker.reports_of_mem keyChecked ofKey)⟩
        rcases List.mem_append.mp among with ofValue | behind
        · exact ⟨0, k, v, rfl, .inr (Checker.reports_of_mem valueChecked ofValue)⟩
        · obtain ⟨index, otherKey, otherValue, atIndex, reports⟩ := reported violation behind
          rw [Nat.succ_add_eq_add_succ] at reports
          exact ⟨index + 1, otherKey, otherValue, atIndex, reports⟩

theorem subset_violations (result : Value) (violations : List Violation) :
    violations ⊆ (if violations.isEmpty then Verdict.accepted result
      else .rejected violations).violations := by
  cases violations with
  | nil => exact List.nil_subset _
  | cons first rest => exact List.Subset.refl _

end Check

namespace Constraint

theorem exists_check_of_violations {constraints : List Constraint} {value : Value} {path : Path}
    {found : List Violation} (checked : violations constraints value path = .ok found) :
    ∀ violation ∈ found, ∃ constraint ∈ constraints,
      check constraint value path = .ok (some violation) := by
  induction constraints generalizing found with
  | nil =>
      cases checked
      exact List.forall_mem_nil _
  | cons constraint rest ih =>
      obtain ⟨first, firstChecked, checked⟩ := Attempt.bind_eq_ok_iff.mp checked
      obtain ⟨others, restChecked, joined⟩ := Attempt.bind_eq_ok_iff.mp checked
      cases joined
      intro violation among
      rcases List.mem_append.mp among with here | behind
      · cases Option.mem_toList.mp here
        exact ⟨constraint, List.mem_cons_self, firstChecked⟩
      · obtain ⟨other, otherAmong, violated⟩ := ih restChecked violation behind
        exact ⟨other, List.mem_cons_of_mem _ otherAmong, violated⟩

theorem eq_detailed_of_items (key : ConstraintKey) (holds : Number → Number → Bool)
    (leading : String)
    (worded : ∀ bound value, message key bound value = checkItems holds leading bound value)
    {n : Int} {items : List Value} {path : Path} {violation : Violation}
    (violated : check (key, .int n) (.list items) path = .ok (some violation)) :
    holds (.whole items.length) (.whole n) = false ∧
      violation = .detailed path key.name (leading ++ wholeText n ++ " items")
        [("constraint", .str key.name), ("limit", .int n)] := by
  obtain ⟨text, said, violated⟩ := Attempt.bind_eq_ok_iff.mp violated
  rw [worded, checkItems_list] at said
  split at said
  case isTrue =>
    cases said
    cases violated
  case isFalse broken =>
    split at said <;> cases said
    cases violated
    exact ⟨Bool.eq_false_iff.mpr broken, rfl⟩

end Constraint

namespace TypeSpec

/-- Violated bounds of an array type blame the sequence for its length. -/
theorem blames_of_bounds {inner : TypeSpec} {minItems maxItems value : Value} {path : Path}
    (minBound : minItems.isBound = true) (maxBound : maxItems.isBound = true)
    {items values : List Value}
    (read : value.items? = some items) (same : values.length = items.length)
    {found : List Violation}
    (checked : Constraint.checkAll (boundConstraints minItems maxItems) (.list values) path =
      .ok (.rejected found)) :
    ∀ violation ∈ found, Blames path (.array inner minItems maxItems) value violation := by
  obtain ⟨broken, violated, rejected⟩ := Attempt.bind_eq_ok_iff.mp checked
  have eachBroken : ∀ violation ∈ found, violation ∈ broken := by
    cases broken with
    | nil => cases rejected
    | cons first rest =>
        cases rejected
        exact fun _ among => among
  intro violation among
  obtain ⟨constraint, own, violates⟩ :=
    Constraint.exists_check_of_violations violated violation (eachBroken violation among)
  rcases List.mem_append.mp own with least | most
  · cases minItems with
    | null => cases least
    | int n =>
        cases List.mem_singleton.mp least
        obtain ⟨fails, rfl⟩ := Constraint.eq_detailed_of_items .minItems
          (fun n limit => limit.le n) _ (fun _ _ => rfl) violates
        rw [Number.whole_le_whole, decide_eq_false_iff_not, Int.not_le, same] at fails
        exact .few read fails
    | _ => cases minBound
  · cases maxItems with
    | null => cases most
    | int n =>
        cases List.mem_singleton.mp most
        obtain ⟨fails, rfl⟩ := Constraint.eq_detailed_of_items .maxItems
          (fun n limit => n.le limit) _ (fun _ _ => rfl) violates
        rw [Number.whole_le_whole, decide_eq_false_iff_not, Int.not_le, same] at fails
        exact .many read fails
    | _ => cases maxBound

/-! ## A single step -/

variable {env : Environment}

/-- A type that reaches a verdict on a value reaches one on each part, with its violations among
those of the value. -/
theorem contributes_of_part {spec part : TypeSpec} {value step held : Value} {path : Path}
    {verdict : Verdict Value} (reads : Part spec value step part held)
    (checked : spec.check env value path = .ok verdict) :
    (part.check env).Contributes held (path ++ [step]) verdict.violations := by
  cases reads with
  | @item _ _ _ _ _ items index read atIndex =>
      simp only [check, Check.array, read] at checked
      obtain ⟨done, membersChecked, concluded⟩ := Attempt.bind_eq_ok_iff.mp checked
      have among : (items.map fun item => (part.check env, item))[index]? =
          some (part.check env, held) := by
        rw [List.getElem?_map, atIndex]
        rfl
      have contributes := (Check.members_reports membersChecked).1 index _ _ among
      rw [Nat.zero_add] at contributes
      have within : done.2 ⊆ (Check.conclude .list done).violations :=
        Check.subset_violations _ done.2
      generalize Check.conclude .list done = whole at concluded within
      cases whole with
      | accepted result => exact contributes.mono (List.Subset.trans within (List.nil_subset _))
      | rejected violations =>
          cases concluded
          exact contributes.mono within
  | @element elements _ _ items index _ read fits typed atIndex =>
      simp only [check, Check.tuple, read, length_checkers, fits, if_true] at checked
      obtain ⟨done, membersChecked, concluded⟩ := Attempt.bind_eq_ok_iff.mp checked
      cases concluded
      have among : ((checkers env elements).zip items)[index]? = some (part.check env, held) := by
        rw [List.getElem?_zip_eq_some, checkers_eq_map, List.getElem?_map, typed]
        exact ⟨rfl, atIndex⟩
      have contributes := (Check.members_reports membersChecked).1 index _ _ among
      rw [Nat.zero_add] at contributes
      exact contributes.mono (Check.subset_violations _ done.2)
  | @key _ _ _ position _ _ atPosition =>
      obtain ⟨done, entriesChecked, concluded⟩ := Attempt.bind_eq_ok_iff.mp checked
      cases concluded
      have contributes := ((Check.entries_reports entriesChecked).1 position _ _ atPosition).1
      rw [Nat.zero_add] at contributes
      exact contributes.mono (Check.subset_violations _ done.2)
  | @value _ _ _ position _ _ atPosition =>
      obtain ⟨done, entriesChecked, concluded⟩ := Attempt.bind_eq_ok_iff.mp checked
      cases concluded
      have contributes := ((Check.entries_reports entriesChecked).1 position _ _ atPosition).2
      exact contributes.mono (Check.subset_violations _ done.2)

/-- A violation at a path is one of a part of a value, or blames the value as a whole. -/
def Traced (env : Environment) (spec : TypeSpec) (value : Value) (path : Path)
    (violation : Violation) : Prop :=
  (∃ step part held, Part spec value step part held ∧
    (part.check env).Reports held (path ++ [step]) violation) ∨
  Blames path spec value violation

/-- The violations of an array type are those of items, or blame the value as a whole. -/
theorem traced_of_array {inner : TypeSpec} {minItems maxItems value : Value}
    (minBound : minItems.isBound = true) (maxBound : maxItems.isBound = true) {path : Path}
    {violation : Violation}
    (reports : ((array inner minItems maxItems).check env).Reports value path violation) :
    Traced env (.array inner minItems maxItems) value path violation := by
  obtain ⟨found, checked, among⟩ := reports
  simp only [check, Check.array] at checked
  cases read : value.items? with
  | none =>
      rw [read] at checked
      cases checked
      cases List.mem_singleton.mp among
      exact .inr (.array read)
  | some items =>
      rw [read] at checked
      obtain ⟨⟨values, violations⟩, membersChecked, concluded⟩ := Attempt.bind_eq_ok_iff.mp checked
      cases violations with
      | nil =>
          -- The bounds are checked on the items as they were accepted, which are as many.
          have each := Check.items_accepted (inner.check_evident env) membersChecked
          exact .inr (blames_of_bounds minBound maxBound read each.length_eq.symm concluded
            violation among)
      | cons first rest =>
          cases concluded
          obtain ⟨index, checker, item, atIndex, ofItem⟩ :=
            (Check.members_reports membersChecked).2 violation among
          rw [List.getElem?_map] at atIndex
          obtain ⟨held, heldAt, same⟩ := Option.map_eq_some_iff.mp atIndex
          cases same
          rw [Nat.zero_add] at ofItem
          exact .inl ⟨_, inner, item, .item read heldAt, ofItem⟩

/-- The violations of a tuple type are those of elements, or blame the value as a whole. -/
theorem traced_of_tuple {elements : List TypeSpec} {value : Value} {path : Path}
    {violation : Violation} (reports : ((tuple elements).check env).Reports value path violation) :
    Traced env (.tuple elements) value path violation := by
  obtain ⟨found, checked, among⟩ := reports
  simp only [check, Check.tuple, length_checkers] at checked
  cases read : value.items? with
  | none =>
      rw [read] at checked
      cases checked
      cases List.mem_singleton.mp among
      exact .inr (.tuple read)
  | some items =>
      rw [read] at checked
      dsimp only at checked
      split at checked
      case isFalse differs =>
        cases checked
        cases List.mem_singleton.mp among
        exact .inr (.arity read differs)
      case isTrue fits =>
        obtain ⟨⟨values, violations⟩, membersChecked, concluded⟩ :=
          Attempt.bind_eq_ok_iff.mp checked
        cases violations with
        | nil => cases concluded
        | cons first rest =>
            cases concluded
            obtain ⟨index, checker, item, atIndex, ofElement⟩ :=
              (Check.members_reports membersChecked).2 violation among
            rw [List.getElem?_zip_eq_some, checkers_eq_map, List.getElem?_map] at atIndex
            obtain ⟨typedAt, heldAt⟩ := atIndex
            obtain ⟨spec, typed, rfl⟩ := Option.map_eq_some_iff.mp typedAt
            rw [Nat.zero_add] at ofElement
            exact .inl ⟨_, spec, item, .element read fits typed heldAt, ofElement⟩

theorem traced_of_map {keyType valueType : TypeSpec} {value : Value} {path : Path}
    {violation : Violation}
    (reports : ((map keyType valueType).check env).Reports value path violation) :
    Traced env (.map keyType valueType) value path violation := by
  obtain ⟨found, checked, among⟩ := reports
  cases value with
  | map entries =>
      obtain ⟨⟨stored, violations⟩, entriesChecked, concluded⟩ := Attempt.bind_eq_ok_iff.mp checked
      cases violations with
      | nil => cases concluded
      | cons first rest =>
          cases concluded
          obtain ⟨position, key, held, atPosition, ofEntry⟩ :=
            (Check.entries_reports entriesChecked).2 violation among
          rw [Nat.zero_add] at ofEntry
          rcases ofEntry with ofKey | ofValue
          · exact .inl ⟨_, keyType, key, .key atPosition, ofKey⟩
          · exact .inl ⟨_, valueType, held, .value atPosition, ofValue⟩
  | _ =>
      cases checked
      cases List.mem_singleton.mp among
      exact .inr (.map rfl)

theorem traced_of_reports {spec : TypeSpec} (regular : spec.Regular) {value : Value} {path : Path}
    {violation : Violation} (reports : (spec.check env).Reports value path violation) :
    Traced env spec value path violation := by
  cases spec with
  | primitive kind =>
      obtain ⟨found, checked, among⟩ := reports
      simp only [check, Check.kind] at checked
      split at checked <;> cases checked
      cases List.mem_singleton.mp among
      exact .inr (.kind (Bool.eq_false_iff.mpr ‹_›))
  | array inner minItems maxItems =>
      exact traced_of_array regular.bounds.1 regular.bounds.2 reports
  | union alternatives =>
      obtain ⟨found, checked, among⟩ := reports
      obtain ⟨first, tried, concluded⟩ := Attempt.bind_eq_ok_iff.mp checked
      cases first with
      | some result => cases concluded
      | none =>
          obtain ⟨text, named, concluded⟩ := Attempt.bind_eq_ok_iff.mp concluded
          cases concluded
          cases List.mem_singleton.mp among
          exact .inr (.union named)
  | tuple elements => exact traced_of_tuple reports
  | map keyType valueType => exact traced_of_map reports
  | ref target => cases regular.closed
  | unknownKind | rawUnion | rawTuple | raw => cases regular.canonical

/-! ## Steps in sequence -/

theorem Blames.path_eq {path : Path} {spec : TypeSpec} {value : Value} {violation : Violation}
    (blames : Blames path spec value violation) : violation.path = path := by
  cases blames <;> rfl

theorem Part.regular {spec part : TypeSpec} {value step held : Value}
    (reads : Part spec value step part held) (regular : spec.Regular) : part.Regular := by
  cases reads with
  | item => exact regular.inner
  | element _ _ typed => exact regular.element _ (List.mem_of_getElem? typed)
  | key => exact regular.parts.1
  | value => exact regular.parts.2

theorem Leads.regular {spec part : TypeSpec} {value held : Value} {place : Path}
    (leads : Leads spec value place part held) (regular : spec.Regular) : part.Regular := by
  induction leads with
  | here => exact regular
  | inside reads _ ih => exact ih (reads.regular regular)

theorem Part.sizeOf_lt {spec part : TypeSpec} {value step held : Value}
    (reads : Part spec value step part held) : sizeOf part < sizeOf spec := by
  cases reads with
  | element _ _ typed =>
      have smaller := List.sizeOf_lt_of_mem (List.mem_of_getElem? typed)
      simp only [TypeSpec.tuple.sizeOf_spec]
      omega
  | _ =>
      simp only [TypeSpec.array.sizeOf_spec, TypeSpec.map.sizeOf_spec]
      omega

theorem Leads.split {first rest : Path} {spec inner : TypeSpec} {value kept : Value}
    (leads : Leads spec value (first ++ rest) inner kept) :
    ∃ part held, Leads spec value first part held ∧ Leads part held rest inner kept := by
  induction first generalizing spec value with
  | nil => exact ⟨spec, value, .here, leads⟩
  | cons step first ih =>
      cases leads with
      | inside reads behind =>
          obtain ⟨part, held, before, after⟩ := ih behind
          exact ⟨part, held, .inside reads before, after⟩

theorem contributes_of_leads {spec part : TypeSpec} {value held : Value} {place : Path}
    (leads : Leads spec value place part held) {path : Path} {verdict : Verdict Value}
    (checked : spec.check env value path = .ok verdict) :
    (part.check env).Contributes held (path ++ place) verdict.violations := by
  induction leads generalizing path verdict with
  | here =>
      rw [List.append_nil]
      exact ⟨verdict, checked, fun _ among => among⟩
  | inside reads _ ih =>
      obtain ⟨own, ownChecked, within⟩ := contributes_of_part reads checked
      have deep := ih ownChecked
      rw [List.append_assoc, List.singleton_append] at deep
      exact deep.mono within

theorem exists_blame {spec : TypeSpec} (regular : spec.Regular) {value : Value} {path : Path}
    {violation : Violation} (reports : (spec.check env).Reports value path violation) :
    ∃ place part held, Leads spec value place part held ∧
      (part.check env).Reports held (path ++ place) violation ∧
      Blames (path ++ place) part held violation := by
  rcases traced_of_reports regular reports with ⟨step, part, held, reads, ofPart⟩ | blames
  · have smaller := reads.sizeOf_lt
    obtain ⟨place, inner, kept, leads, deep, blames⟩ := exists_blame (reads.regular regular) ofPart
    rw [List.append_assoc, List.singleton_append] at deep blames
    exact ⟨step :: place, inner, kept, .inside reads leads, deep, blames⟩
  · refine ⟨[], spec, value, .here, ?_⟩
    rw [List.append_nil]
    exact ⟨reports, blames⟩
termination_by sizeOf spec

end TypeSpec

/-- A checker rejects a value at some path. -/
def Checker.Rejects (checker : Checker) (value : Value) : Prop :=
  ∃ path found, checker value path = .ok (.rejected found)

namespace TypeSpec

variable {env : Environment}

/-- Violations lie at or below a place exactly if a part that is there is rejected by its own
type. -/
theorem exists_violation_iff {spec : TypeSpec} (regular : spec.Regular) {value : Value}
    {path : Path} {violations : List Violation}
    (rejected : spec.check env value path = .ok (.rejected violations)) (place : Path) :
    (∃ violation ∈ violations, path ++ place <+: violation.path) ↔
      ∃ part held, Leads spec value place part held ∧ (part.check env).Rejects held := by
  constructor
  · rintro ⟨violation, among, below⟩
    obtain ⟨deep, inner, kept, leads, ⟨found, innerChecked, within⟩, blames⟩ :=
      exists_blame regular ⟨violations, rejected, among⟩
    rw [blames.path_eq, List.prefix_append_right_inj] at below
    obtain ⟨rest, rfl⟩ := below
    obtain ⟨part, held, before, after⟩ := leads.split
    obtain ⟨verdict, checked, -⟩ := contributes_of_leads before rejected
    obtain ⟨own, ownChecked, passesOn⟩ := contributes_of_leads after checked
    rw [List.append_assoc, innerChecked] at ownChecked
    cases ownChecked
    have reported := passesOn violation within
    cases verdict with
    | accepted result => cases reported
    | rejected found => exact ⟨part, held, before, _, _, checked⟩
  · rintro ⟨part, held, leads, elsewhere, found, partRejected⟩
    obtain ⟨verdict, checked, passesOn⟩ := contributes_of_leads leads rejected
    cases verdict with
    | accepted result =>
        rw [(part.check_rooted env).anywhere ⟨_, checked⟩ elsewhere] at partRejected
        cases partRejected
    | rejected own =>
        cases own with
        | nil => exact absurd checked (part.check_evident env _ _)
        | cons violation rest =>
            obtain ⟨deep, _, _, -, -, blames⟩ :=
              exists_blame (leads.regular regular) ⟨_, checked, List.mem_cons_self⟩
            refine ⟨violation, passesOn violation List.mem_cons_self, ?_⟩
            rw [blames.path_eq]
            exact List.prefix_append _ _

end TypeSpec

/-! ## Places of their own -/

theorem Check.keyLabel_inj {position other : Nat} (same : keyLabel position = keyLabel other) :
    position = other := by
  have written : Nat.repr position = Nat.repr other :=
    (String.append_right_inj _).mp (Value.str.inj same)
  simp only [Nat.repr_eq_ofList_toDigits, String.ofList_inj] at written
  have read := congrArg (fun digits => Nat.ofDigitChars 10 digits 0) written
  simpa only [Nat.ofDigitChars_ten_toDigits] using read

/-- The keys of a mapping differ from each other and from the labels of keys. -/
structure Entries.Telling (entries : Entries) : Prop where
  distinct : (entries.map Prod.fst).Nodup
  free : ∀ entry ∈ entries, ∀ position, entry.1 ≠ Check.keyLabel position

namespace TypeSpec

/-- The mappings that a type reads in a value have keys that differ from each other and from the
labels of keys.  The keys of a mapping are unequal and so differ, with one exception: keys that
stand for no number are unequal even to themselves, and may look alike in paths. -/
def TellsKeys (spec : TypeSpec) (value : Value) : Prop :=
  ∀ place part entries, Leads spec value place part (.map entries) → Entries.Telling entries

variable {spec part : TypeSpec} {value step held : Value}

theorem TellsKeys.of_part (tells : spec.TellsKeys value) (reads : Part spec value step part held) :
    part.TellsKeys held :=
  fun place inner entries leads => tells (step :: place) inner entries (.inside reads leads)

/-- A step leads to only one part, if keys are told apart. -/
theorem Part.unique (tells : spec.TellsKeys value) {otherHeld otherStep : Value}
    {otherPart : TypeSpec} (reads : Part spec value step part held)
    (also : Part spec value otherStep otherPart otherHeld) (same : step = otherStep) :
    part = otherPart ∧ held = otherHeld := by
  cases reads with
  | item read atIndex =>
      cases also with
      | item otherRead atOther =>
          cases read.symm.trans otherRead
          cases Int.ofNat.inj (Value.int.inj same)
          exact ⟨rfl, Option.some.inj (atIndex.symm.trans atOther)⟩
  | element read _ typed atIndex =>
      cases also with
      | element otherRead _ otherTyped atOther =>
          cases read.symm.trans otherRead
          cases Int.ofNat.inj (Value.int.inj same)
          exact ⟨Option.some.inj (typed.symm.trans otherTyped),
            Option.some.inj (atIndex.symm.trans atOther)⟩
  | key atPosition =>
      have telling := tells _ _ _ .here
      cases also with
      | key atOther =>
          cases Check.keyLabel_inj same
          cases atPosition.symm.trans atOther
          exact ⟨rfl, rfl⟩
      | value atOther =>
          exact absurd same.symm (telling.free _ (List.mem_of_getElem? atOther) _)
  | value atPosition =>
      have telling := tells _ _ _ .here
      cases also with
      | key atOther => exact absurd same (telling.free _ (List.mem_of_getElem? atPosition) _)
      | value atOther =>
          have entry := List.inj_on_of_nodup_map telling.distinct
            (List.mem_of_getElem? atPosition) (List.mem_of_getElem? atOther) same
          cases entry
          exact ⟨rfl, rfl⟩

theorem Leads.unique {place : Path} (leads : Leads spec value place part held)
    (tells : spec.TellsKeys value) {otherPart : TypeSpec} {otherHeld : Value}
    (also : Leads spec value place otherPart otherHeld) : part = otherPart ∧ held = otherHeld := by
  induction leads with
  | here =>
      cases also
      exact ⟨rfl, rfl⟩
  | inside reads _ ih =>
      cases also with
      | inside otherReads otherRest =>
          obtain ⟨rfl, rfl⟩ := reads.unique tells otherReads rfl
          exact ih (tells.of_part reads) otherRest

/-- How the violations of a type for a value at a path are located. -/
structure Localized (env : Environment) (spec : TypeSpec) (value : Value) (path : Path)
    (violations : List Violation) : Prop where
  /-- Every violation lies at a part of the value, and is one that the type of the part blames it
  for as a whole. -/
  located : ∀ violation ∈ violations, ∃ place part held, violation.path = path ++ place ∧
    Leads spec value place part held ∧ Blames violation.path part held violation
  /-- There are violations at or below a place exactly if a part there is rejected by its own
  type. -/
  covered : ∀ place, (∃ violation ∈ violations, path ++ place <+: violation.path) ↔
    ∃ part held, Leads spec value place part held ∧ (part.check env).Rejects held
  /-- If keys are told apart, every part has violations at or below its place exactly if its own
  type rejects it. -/
  told : spec.TellsKeys value → ∀ place part held, Leads spec value place part held →
    ((∃ violation ∈ violations, path ++ place <+: violation.path) ↔ (part.check env).Rejects held)

/-- The violations that a canonical type without references gives for a value point at its faults.
Each lies at a part of the value that is of another sort, of another length or beyond the bounds of
what its type demands there; and the parts that have violations at or below their places are those
that their own types reject. -/
theorem localized_of_check {env : Environment} (regular : spec.Regular) {path : Path}
    {violations : List Violation}
    (rejected : spec.check env value path = .ok (.rejected violations)) :
    spec.Localized env value path violations where
  located := by
    intro violation among
    obtain ⟨place, part, held, leads, -, blames⟩ :=
      exists_blame regular ⟨violations, rejected, among⟩
    refine ⟨place, part, held, blames.path_eq, leads, ?_⟩
    rw [blames.path_eq]
    exact blames
  covered := exists_violation_iff regular rejected
  told := by
    intro tells place part held leads
    rw [exists_violation_iff regular rejected place]
    constructor
    · rintro ⟨otherPart, otherHeld, also, rejects⟩
      obtain ⟨rfl, rfl⟩ := leads.unique tells also
      exact rejects
    · intro rejects
      exact ⟨part, held, leads, rejects⟩

/-- A text among the integers of a mapping is refused at its place, and the integer before it is
not. -/
theorem localized_of_list_in_map :
    let spec : TypeSpec := .map (.primitive .string) (.array (.primitive .integer) .null .null)
    let value : Value := .map [(.str "a", .list [.int 1, .str "x"])]
    ∃ violations, spec.check .bare value [] = .ok (.rejected violations) ∧
      (∃ violation ∈ violations, [.str "a", .int 1] <+: violation.path) ∧
      ¬ ∃ violation ∈ violations, [.str "a", .int 0] <+: violation.path := by
  intro spec value
  have regular : spec.Regular := ⟨rfl, rfl⟩
  obtain ⟨violations, rejected⟩ :
      ∃ violations, spec.check .bare value [] = .ok (.rejected violations) := ⟨_, rfl⟩
  have localized := localized_of_check regular rejected
  have scalar {kind : Kind} {item : Value} {place : Path} {part : TypeSpec} {entries : Entries}
      (leads : Leads (.primitive kind) item place part (.map entries)) : item = .map entries := by
    cases leads with
    | here => rfl
    | inside reads => cases reads
  -- The only mapping that is read is the value itself.
  have tells : TellsKeys (.map (.primitive .string) (.array (.primitive .integer) .null .null))
      (.map [(.str "a", .list [.int 1, .str "x"])]) := by
    intro place part entries leads
    cases leads with
    | here =>
        refine ⟨List.nodup_singleton _, List.forall_mem_singleton.mpr fun position same => ?_⟩
        have lengths : 1 = 4 + (Digits.write position).length := by
          rw [← show "key_".length = 4 from rfl, ← String.length_append]
          exact congrArg String.length (Value.str.inj same)
        omega
    | inside reads behind =>
        cases reads with
        | key held =>
            cases List.mem_singleton.mp (List.mem_of_getElem? held)
            cases scalar behind
        | value held =>
            cases List.mem_singleton.mp (List.mem_of_getElem? held)
            cases behind with
            | inside reads behind =>
                cases reads with
                | item read held =>
                    cases read
                    rcases List.mem_pair.mp (List.mem_of_getElem? held) with rfl | rfl <;>
                      cases scalar behind
  have entry : [(Value.str "a", Value.list [.int 1, .str "x"])][0]? =
      some (.str "a", .list [.int 1, .str "x"]) := rfl
  have first : Leads spec value [.str "a", .int (0 : Nat)] (.primitive .integer) (.int 1) :=
    .inside (.value entry) (.inside (.item rfl rfl) .here)
  have second : Leads spec value [.str "a", .int (1 : Nat)] (.primitive .integer) (.str "x") :=
    .inside (.value entry) (.inside (.item rfl rfl) .here)
  refine ⟨violations, rejected, ?second, ?first⟩
  case second => exact (localized.told tells _ _ _ second).mpr ⟨[], _, rfl⟩
  case first =>
    intro found
    obtain ⟨path, reasons, refused⟩ := (localized.told tells _ _ _ first).mp found
    cases refused

end TypeSpec

end Conform
