import Conform.Proofs.Canonical

/-!
# Conversions to scalars

A value of a kind of scalars is a text, a number, a truth value or an atom: it has no members.
Kinds of scalars are those that have conversions, and whatever these make is of the kind.
-/

namespace Conform

/-! ## Kinds of scalars -/

/-- Whether a kind is one of scalars.  These are the kinds that have conversions. -/
def Kind.isScalar : Kind → Bool
  | .any | .map => false
  | _ => true

theorem Kind.items?_of_admits {kind : Kind} (scalar : kind.isScalar = true) {value : Value}
    (admits : kind.admits value = true) : value.items? = none := by
  cases kind <;> cases value <;> simp_all [isScalar, Kind.admits, Value.items?]

/-- A value of a kind of scalars holds no mappings. -/
theorem Kind.wellFormed_of_admits {kind : Kind} (scalar : kind.isScalar = true) {value : Value}
    (admits : kind.admits value = true) : value.wellFormed = true := by
  cases value with
  | list _ | tuple _ | map _ =>
      cases kind with
      | any | map => cases scalar
      | _ => cases admits
  | _ => rfl

/-! ## Conversions to kinds of scalars -/

namespace Coercion

variable {env : Environment} {spec : TypeSpec} {value result : Value} {path : Path}

/-- A refusal accepts nothing. -/
theorem refuse_ne_accepted (spec : TypeSpec) (value : Value) (path : Path) (reason : String)
    (result : Value) : refuse spec value path reason ≠ .ok (.accepted result) := by
  intro accepted
  obtain ⟨text, _, refused⟩ := Attempt.bind_eq_ok_iff.mp accepted
  cases refused

/-- A value without members was converted to one of a kind. -/
structure Reaches (kind : Kind) (value result : Value) : Prop where
  admits : kind.admits result = true
  plain : value.items? = none

theorem toText_reaches (accepted : toText spec value path = .ok (.accepted result)) :
    Reaches .string value result := by
  unfold toText at accepted
  split at accepted
  case h_3 =>
    obtain ⟨text, _, same⟩ := Attempt.bind_eq_ok_iff.mp accepted
    cases same
    exact ⟨rfl, rfl⟩
  case h_7 => exact absurd accepted (refuse_ne_accepted _ _ _ _ _)
  all_goals
    cases accepted
    exact ⟨rfl, rfl⟩

theorem toInteger_reaches (accepted : toInteger spec value path = .ok (.accepted result)) :
    Reaches .integer value result := by
  unfold toInteger at accepted
  split at accepted
  · cases accepted
    exact ⟨rfl, rfl⟩
  · split at accepted
    · obtain ⟨n, _, same⟩ := Attempt.bind_eq_ok_iff.mp accepted
      cases same
      exact ⟨rfl, rfl⟩
    · exact absurd accepted (refuse_ne_accepted _ _ _ _ _)
  · exact absurd accepted (refuse_ne_accepted _ _ _ _ _)

theorem toFloat_reaches (accepted : toFloat spec value path = .ok (.accepted result)) :
    Reaches .float value result := by
  unfold toFloat at accepted
  split at accepted
  · cases accepted
    exact ⟨rfl, rfl⟩
  case h_2 n =>
    generalize Double.ofInt? n = nearest at accepted
    cases nearest with
    | none => cases accepted
    | some x =>
        cases accepted
        exact ⟨rfl, rfl⟩
  · split at accepted
    · obtain rfl := Verdict.accepted.inj (Except.ok.inj accepted)
      exact ⟨rfl, rfl⟩
    · exact absurd accepted (refuse_ne_accepted _ _ _ _ _)
  · exact absurd accepted (refuse_ne_accepted _ _ _ _ _)

theorem toBoolean_reaches (accepted : toBoolean spec value path = .ok (.accepted result)) :
    Reaches .boolean value result := by
  unfold toBoolean at accepted
  split at accepted
  case h_4 => exact absurd accepted (refuse_ne_accepted _ _ _ _ _)
  all_goals
    cases accepted
    exact ⟨rfl, rfl⟩

theorem toAtom_reaches (accepted : toAtom env spec value path = .ok (.accepted result)) :
    Reaches .atom value result := by
  unfold toAtom at accepted
  split at accepted
  · cases accepted
    exact ⟨rfl, rfl⟩
  · cases accepted
    exact ⟨rfl, rfl⟩
  · split at accepted
    · cases accepted
      exact ⟨rfl, rfl⟩
    · exact absurd accepted (refuse_ne_accepted _ _ _ _ _)
  · exact absurd accepted (refuse_ne_accepted _ _ _ _ _)

/-- What a conversion to a kind of scalars makes is of that kind, and it makes nothing of
sequences. -/
theorem toKind_reaches {kind : Kind} (scalar : kind.isScalar = true)
    (accepted : toKind env kind value path = .ok (.accepted result)) :
    Reaches kind value result := by
  cases kind with
  | string => exact toText_reaches accepted
  | integer => exact toInteger_reaches accepted
  | float => exact toFloat_reaches accepted
  | boolean => exact toBoolean_reaches accepted
  | atom => exact toAtom_reaches accepted
  | any | map => cases scalar

/-- Kinds without conversions pass values through. -/
theorem toKind_of_not_isScalar (env : Environment) {kind : Kind} (other : kind.isScalar = false) :
    toKind env kind = fun value _ => accept value := by
  cases kind with
  | any | map => rfl
  | _ => cases other

end Coercion

end Conform
