import Conform.Fault

/-!
# Copying values

A default is copied into every record that takes it.  Schemas are shared and never copied, and so
neither is anything that holds one.  A copy is the value itself (`Value.copy_eq_ok_iff`), also that
of a target.
-/

namespace Conform

mutual

/-- Whether a value can be copied. -/
def Value.copyable : Value → Bool
  | .schema .. => false
  | .list items => Value.allCopyable items
  | .tuple items => Value.allCopyable items
  | .set items => Value.allCopyable items
  | .frozenset items => Value.allCopyable items
  | .map entries => Value.entriesCopyable entries
  | .spec node => node.copyable
  | .violation record => record.copyable
  | .ok value => value.copyable
  | .err reason => reason.copyable
  | _ => true

/-- Whether all of the values can be copied. -/
def Value.allCopyable : List Value → Bool
  | [] => true
  | value :: rest => value.copyable && Value.allCopyable rest

/-- Whether all keys and values of entries can be copied. -/
def Value.entriesCopyable : List (Value × Value) → Bool
  | [] => true
  | (key, value) :: rest => key.copyable && value.copyable && Value.entriesCopyable rest

/-- Whether all components of a type specification can be copied. -/
def TypeSpec.copyable : TypeSpec → Bool
  | .primitive _ => true
  | .unknownKind kind => kind.copyable
  | .array inner minItems maxItems => inner.copyable && minItems.copyable && maxItems.copyable
  | .union alternatives => TypeSpec.allCopyable alternatives
  | .rawUnion alternatives => alternatives.copyable
  | .tuple elements => TypeSpec.allCopyable elements
  | .rawTuple elements => elements.copyable
  | .map key value => key.copyable && value.copyable
  | .ref target => target.copyable
  | .raw component => component.copyable

/-- Whether all of the specifications can be copied. -/
def TypeSpec.allCopyable : List TypeSpec → Bool
  | [] => true
  | spec :: rest => spec.copyable && TypeSpec.allCopyable rest

/-- Whether all parts of a violation record can be copied. -/
def Violation.copyable : Violation → Bool
  | ⟨path, code, message, context⟩ =>
    Value.allCopyable path && code.copyable && message.copyable && context.copyable

end

namespace Value

/-- A copy of a value, which has to be copyable. -/
def copy (value : Value) : Attempt Value :=
  if value.copyable then .ok value else .error .unsupported

@[simp] theorem copy_eq_ok_iff {value result : Value} :
    value.copy = .ok result ↔ value.copyable = true ∧ result = value := by
  unfold copy
  split <;> rename_i h
  · simp only [h, Except.ok.injEq, true_and]
    exact eq_comm
  · simp [h]

end Value

end Conform
