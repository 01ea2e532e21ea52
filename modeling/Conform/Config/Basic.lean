import Conform.Validation.Basic
import Conform.Value.Copy

/-!
# Configurations

Default options for an application.  Any value can be given for an option; what it means is decided
where the option is used.
-/

namespace Conform

/-- Default options. -/
structure Config where
  coerce : Value := .bool false
  strict : Value := .null
  debug : Value := .bool false
  maxConcurrent : Value := .int 5
  logLevel : Value := .str "WARNING"

mutual

/-- A copy of a value with every record in it taken apart into a mapping of its parts. -/
def Value.takeApart : Value → Attempt Value
  | .list items => do return .list (← Value.takeApartAll items)
  | .tuple items => do return .tuple (← Value.takeApartAll items)
  | .map entries => do return .map (← Value.takeApartEntries [] entries)
  | .spec node => node.takeApart
  | .violation ⟨path, code, message, context⟩ => do
    return .record [("path", .tuple (← Value.takeApartAll path)), ("code", ← code.takeApart),
      ("message", ← message.takeApart), ("context", ← context.takeApart)]
  | .ok value => do return .record [("value", ← value.takeApart)]
  | .err reason => do return .record [("error", ← reason.takeApart)]
  | other => other.copy

/-- Values with every record taken apart. -/
def Value.takeApartAll : List Value → Attempt (List Value)
  | [] => .ok []
  | value :: rest => do return (← value.takeApart) :: (← Value.takeApartAll rest)

/-- Entries with every record taken apart, after those given. -/
def Value.takeApartEntries (done : Entries) : List (Value × Value) → Attempt Entries
  | [] => .ok done
  | (key, value) :: rest => do
    let newKey ← key.takeApart
    let newValue ← value.takeApart
    Value.takeApartEntries (done.put (← newKey.asKey) newValue) rest
termination_by structural entries => entries

/-- A type node as a mapping of its parts. -/
def TypeSpec.takeApart : TypeSpec → Attempt Value
  | .primitive kind => .ok (.record [("kind", .str kind.name)])
  | .unknownKind kind => do return .record [("kind", ← kind.takeApart)]
  | .array inner minItems maxItems => do
    return .record [("inner", ← inner.takeApart), ("min_items", ← minItems.takeApart),
      ("max_items", ← maxItems.takeApart)]
  | .union alternatives => do
    return .record [("alternatives", .tuple (← TypeSpec.takeApartAll alternatives))]
  | .rawUnion alternatives => do return .record [("alternatives", ← alternatives.takeApart)]
  | .tuple elements => do return .record [("elements", .tuple (← TypeSpec.takeApartAll elements))]
  | .rawTuple elements => do return .record [("elements", ← elements.takeApart)]
  | .map key value => do
    return .record [("key", ← key.takeApart), ("value", ← value.takeApart)]
  | .ref target => do return .record [("target", ← target.takeApart)]
  | .raw component => component.takeApart

/-- Type nodes as mappings of their parts. -/
def TypeSpec.takeApartAll : List TypeSpec → Attempt (List Value)
  | [] => .ok []
  | spec :: rest => do return (← spec.takeApart) :: (← TypeSpec.takeApartAll rest)

end

namespace Config

/-- The configuration with one option set; a key that is no option is ignored. -/
def withOption (config : Config) (option : Value × Value) : Config :=
  match option with
  | (.str "coerce", value) => { config with coerce := value }
  | (.str "strict", value) => { config with strict := value }
  | (.str "debug", value) => { config with debug := value }
  | (.str "max_concurrent", value) => { config with maxConcurrent := value }
  | (.str "log_level", value) => { config with logLevel := value }
  | _ => config

/-- The configuration that entries describe. -/
def ofEntries (entries : Entries) : Config := entries.foldl withOption {}

/-- The configuration that a mapping describes. -/
def ofValue (data : Value) : Attempt Config := do return ofEntries (← data.entries)

/-- The options of a configuration by name. -/
def toValue (config : Config) : Attempt Value := do
  return .record [("coerce", ← config.coerce.takeApart), ("strict", ← config.strict.takeApart),
    ("debug", ← config.debug.takeApart), ("max_concurrent", ← config.maxConcurrent.takeApart),
    ("log_level", ← config.logLevel.takeApart)]

/-- The options for a validation: the strictness only when it is set. -/
def validationOptions (config : Config) : NamedOptions :=
  [("coerce", config.coerce), ("debug", config.debug)] ++
    if config.strict.isNull then [] else [("strict", config.strict)]

end Config

end Conform
