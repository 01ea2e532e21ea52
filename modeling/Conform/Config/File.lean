import Conform.Config.Basic
import Conform.Config.Path
import Conform.Journal
import Conform.Yaml.Document

/-!
# Configuration files

A configuration is read from a file that holds a YAML mapping.  A file that is named has to be
readable; a file that is merely looked for is passed over when it is not, and without any file the
defaults stand.
-/

namespace Conform

/-- Whether a fault says that a file is no good configuration, so that another one may be tried. -/
def Fault.isUnreadable : Fault → Bool
  | .missingFile | .isDirectory | .notDirectory | .nameTooLong | .nullInPath | .undecodable
  | .malformedDocument
  | .notConfiguration _ | .digitsToRead _ | .malformedInteger .. | .malformedDouble _
  | .malformedDate _ | .characterRange => true
  | _ => false

namespace Config

/-- The configuration in a file. -/
def ofFile (files : Files) (path : String) : Attempt Config := do
  match ← Yaml.read (← (files.content path).read) with
  | .null => return {}
  | .map entries => return ofEntries entries
  | _ => throw (.notConfiguration (FilePath.normalize path))

/-- The files that are looked for in the working directory. -/
def defaultPaths : List String := [".shapeguard.yaml", ".shapeguard.yml"]

/-- The logger of configurations. -/
def loggerName : String := "shapeguard.config"

/-- The configuration in the first readable file, or the defaults. -/
def search (files : Files) : List String → Run Config
  | [] => pure {}
  | path :: rest => do
    let shown := FilePath.normalize path
    if ← Run.lift (files.content path).exists? then
      match ofFile files path with
      | .ok config => do
        Run.emit [.logged ⟨.debug, loggerName, "Loaded config from " ++ shown⟩]
        return config
      | .error fault =>
        if fault.isUnreadable then do
          Run.emit [.logged ⟨.warning, loggerName, "Failed to load config from " ++ shown⟩]
          search files rest
        else Run.lift (.error fault)
    else search files rest

/-- The configuration in the named file, or else in the first readable candidate. -/
def load (files : Files) (path : String) (candidates : List String) : Run Config :=
  if path = "" then search files candidates else Run.lift (ofFile files path)

end Config

end Conform
