import Conform.Constraint

/-!
# Tags

A tag says what sort of value a node denotes.  A plain text without a tag is resolved by its look:
the first form in `Tag.forms` that it has decides, of those that texts with its first character
have.
-/

namespace Conform.Yaml

/-- The sorts of values that nodes can denote.  Merge and default keys have a meaning only as keys
of mappings. -/
inductive Tag where
  | null
  | boolean
  | integer
  | float
  | binary
  | timestamp
  | orderedPairs
  | pairs
  | set
  | text
  | sequence
  | mapping
  | merge
  | defaultKey
  | unknown
deriving DecidableEq

namespace Tag

/-- What the names of the standard tags begin with. -/
def standard : String := "tag:yaml.org,2002:"

/-- The standard tags by name. -/
def names : List (String × Tag) := [
  ("null", .null), ("bool", .boolean), ("int", .integer), ("float", .float), ("binary", .binary),
  ("timestamp", .timestamp), ("omap", .orderedPairs), ("pairs", .pairs), ("set", .set),
  ("str", .text), ("seq", .sequence), ("map", .mapping), ("merge", .merge), ("value", .defaultKey)]

/-- The tag of a full name. -/
def ofName (name : String) : Tag :=
  match names.find? fun entry => standard ++ entry.1 == name with
  | some (_, tag) => tag
  | none => .unknown

/-- A form of plain texts that are no mere texts: what they may begin with, and their pattern. -/
structure Form where
  tag : Tag
  leads : String
  pattern : String

/-- The forms of plain texts, in the order they are tried. -/
def forms : List Form := [
  ⟨.boolean, "yYnNtTfFoO",
    "^(?:yes|Yes|YES|no|No|NO|true|True|TRUE|false|False|FALSE|on|On|ON|off|Off|OFF)$"⟩,
  ⟨.float, "-+0123456789.",
    "^(?:[-+]?(?:[0-9][0-9_]*)\\.[0-9_]*(?:[eE][-+][0-9]+)?" ++
    "|\\.[0-9][0-9_]*(?:[eE][-+][0-9]+)?" ++
    "|[-+]?[0-9][0-9_]*(?::[0-5]?[0-9])+\\.[0-9_]*" ++
    "|[-+]?\\.(?:inf|Inf|INF)|\\.(?:nan|NaN|NAN))$"⟩,
  ⟨.integer, "-+0123456789",
    "^(?:[-+]?0b[0-1_]+|[-+]?0[0-7_]+|[-+]?(?:0|[1-9][0-9_]*)" ++
    "|[-+]?0x[0-9a-fA-F_]+|[-+]?[1-9][0-9_]*(?::[0-5]?[0-9])+)$"⟩,
  ⟨.merge, "<", "^(?:<<)$"⟩,
  ⟨.null, "~nN", "^(?:~|null|Null|NULL|)$"⟩,
  ⟨.timestamp, "0123456789",
    "^(?:[0-9][0-9][0-9][0-9]-[0-9][0-9]-[0-9][0-9]" ++
    "|[0-9][0-9][0-9][0-9]-[0-9][0-9]?-[0-9][0-9]?(?:[Tt]|[ \\t]+)[0-9][0-9]?:[0-9][0-9]:[0-9][0-9]" ++
    "(?:\\.[0-9]*)?(?:[ \\t]*(?:Z|[-+][0-9][0-9]?(?::[0-9][0-9])?))?)$"⟩,
  ⟨.defaultKey, "=", "^(?:=)$"⟩,
  ⟨.unknown, "!&*", "^(?:!|&|\\*)$"⟩]

/-- Whether a text has the form of a pattern. -/
def hasForm (form text : String) : Bool :=
  match Pattern.search form {} text with
  | .ok found => found
  | .error _ => false

/-- The tag of a plain text. -/
def ofPlain (text : String) : Tag :=
  match text.toList with
  | [] => .null
  | first :: _ =>
    match forms.find? fun form => form.leads.contains first && hasForm form.pattern text with
    | some form => form.tag
    | none => .text

end Tag

end Conform.Yaml
