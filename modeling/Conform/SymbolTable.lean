import Conform.Value.Access
import Conform.Value.Literal

/-!
# The table of symbols

Symbols are interned: a name stands for one symbol, and asking for it again gives the same one.
Looking a symbol up never creates it.
-/

namespace Conform

/-- The names of the symbols that exist, oldest first. -/
structure SymbolTable where
  names : List String := []

namespace SymbolTable

/-- Whether a symbol of the given name exists. -/
def has (table : SymbolTable) (name : String) : Bool := table.names.contains name

/-- The table with a symbol of the given name. -/
def add (table : SymbolTable) (name : String) : SymbolTable :=
  if table.has name then table else ⟨table.names ++ [name]⟩

/-- The symbol of a name, created if it does not exist yet. -/
def intern (table : SymbolTable) (name : Value) : Attempt (Value × SymbolTable) :=
  match name with
  | .str text => if text = "" then .error .symbolName else .ok (.symbol text, table.add text)
  | _ => .error .symbolName

/-- The symbol of a name, or the null value if it does not exist. -/
def existing (table : SymbolTable) (name : Value) : Attempt Value := do
  match ← name.asKey with
  | .str text => return if table.has text then .symbol text else .null
  | _ => return .null

/-- Symbols are immutable, so that no attribute of one can be set. -/
def setAttribute (_symbol _attribute : Value) : Attempt Unit := .error .immutableSymbol

/-- The names in ascending order. -/
def sortedNames (table : SymbolTable) : List String :=
  table.names.mergeSort fun a b => a ≤ b

@[simp] theorem has_add (table : SymbolTable) (name : String) :
    (table.add name).has name = true := by
  unfold add
  split
  · assumption
  · simp [has]

end SymbolTable

end Conform
