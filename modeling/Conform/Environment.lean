import Conform.Value.Equality
import Conform.Value.Literal

/-!
# The environment of a check

What a check depends on besides its arguments: the symbols that exist, and what opaque targets and
hooks do.  Statements about checks hold for every environment unless they say otherwise.
-/

namespace Conform

/-- What a hook does with a record: it returns a value, or it fails with the name of an exception
and its account, which may itself be beyond writing. -/
inductive HookOutcome where
  | returned (value : Value)
  | raised (exception : String) (account : Attempt String)

namespace HookOutcome

/-- A failure whose account is at hand. -/
def failed (exception account : String) : HookOutcome := .raised exception (.ok account)

/-- Go on with values that may not be keys. -/
def keyed (keys : List Value) (outcome : HookOutcome) : HookOutcome :=
  match Value.firstUnhashable? keys with
  | some name => failed "TypeError" ("unhashable type: " ++ quoted name)
  | none => outcome

/-- A value, wrapped as accepted or as it is. -/
def returning (wrapped : Bool) (value : Value) : HookOutcome :=
  .returned (if wrapped then .ok value else value)

end HookOutcome

/-- What a data type does when it serves as a hook: it converts the record, or it fails. -/
def DataType.review (type : DataType) (record : Value) : HookOutcome :=
  let keys := record.elements?.getD []
  match type with
  | .text =>
    match record.plain with
    | .ok shown => .returned (.str shown)
    | .error fault => .failed "ValueError" (fault.message.getD "")
  | .boolean => .returned (.bool record.truthy)
  | .mapping => .returned record
  | .list => .returned (.list keys)
  | .tuple => .returned (.tuple keys)
  | .set => .returned (.set keys)
  | .bytes =>
    if keys.isEmpty then .returned (.bytes [])
    else .failed "TypeError" "'str' object cannot be interpreted as an integer"
  | .integer => .failed "TypeError"
    "int() argument must be a string, a bytes-like object or a real number, not 'dict'"
  | .float => .failed "TypeError" "float() argument must be a string or a real number, not 'dict'"
  | .symbol => .failed "ValueError" "Symbol name must be a non-empty string"
  | .object => .failed "TypeError" "object() takes no arguments"
  | .null => .failed "TypeError" (type.name ++ " takes no arguments")

/-- The symbols that exist, and the behaviour of opaque targets and of hooks. -/
structure Environment where
  /-- The names of the existing symbols. -/
  symbols : List String
  /-- The answer of a target: the accepted value, or a reason of any sort. -/
  respond : Target → Value → Attempt (Except Value Value)
  /-- The outcome of the hook with the given handle. -/
  review : Nat → Value → HookOutcome

namespace Environment

/-- Whether a symbol of the given name exists. -/
def knows (env : Environment) (name : String) : Bool := env.symbols.contains name

/-- The environment without symbols, whose targets and hooks accept everything. -/
def bare : Environment where
  symbols := []
  respond := fun _ value => .ok (.ok value)
  review := fun _ record => .returned record

end Environment

end Conform
