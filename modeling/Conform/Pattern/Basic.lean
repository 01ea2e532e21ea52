/-!
# Patterns

A pattern is a regular expression with the settings it is read under.  It is written in text and
sought in texts, or it is written in bytes and sought in bytes only.
-/

namespace Conform

/-- The settings a pattern is read under.  A template has no repetitions; the locale is asked by
patterns of bytes only. -/
structure Flags where
  template : Bool := false
  ignoreCase : Bool := false
  locale : Bool := false
  multiline : Bool := false
  dotAll : Bool := false
  verbose : Bool := false
  ascii : Bool := false
deriving DecidableEq

/-- What a regular expression is written in. -/
inductive Pattern.Source where
  | text (source : String)
  | bytes (octets : List UInt8)
deriving DecidableEq

/-- A regular expression: its source and its settings, those set inside the source included. -/
structure Pattern where
  source : Pattern.Source
  flags : Flags
deriving DecidableEq

namespace Flags

/-- The settings of either. -/
def union (a b : Flags) : Flags where
  template := a.template || b.template
  ignoreCase := a.ignoreCase || b.ignoreCase
  locale := a.locale || b.locale
  multiline := a.multiline || b.multiline
  dotAll := a.dotAll || b.dotAll
  verbose := a.verbose || b.verbose
  ascii := a.ascii || b.ascii

/-- The names of the settings that are on, in their fixed order. -/
def names (flags : Flags) : List String :=
  (if flags.template then ["re.TEMPLATE"] else []) ++
  (if flags.ignoreCase then ["re.IGNORECASE"] else []) ++
  (if flags.locale then ["re.LOCALE"] else []) ++
  (if flags.multiline then ["re.MULTILINE"] else []) ++
  (if flags.dotAll then ["re.DOTALL"] else []) ++
  (if flags.verbose then ["re.VERBOSE"] else []) ++
  (if flags.ascii then ["re.ASCII"] else [])

end Flags

end Conform
