import Conform.Config.Basic
import Conform.Logging.Template

/-!
# Logging

Records are emitted under dotted names below the name of the package.  What becomes of them is
decided by the level of the package and by its handlers; nothing is written to a stream before one
is installed, except warnings and what is graver.
-/

namespace Conform

/-- Where records go. -/
inductive Handler where
  /-- The handler that configuring installs, with its template. -/
  | own (template : Template)
  /-- A handler of the caller, which writes bare messages. -/
  | plain
  /-- A handler of the caller that is none. -/
  | foreign (value : Value)

/-- The level of the package, if one is set, and its handlers in order. -/
structure Logging where
  level : Value := .int 0
  handlers : List Handler := []

namespace Logging

/-- The name of the logger of the package. -/
def packageName : String := "shapeguard"

/-- The names of the levels. -/
def levelNames : List (String × Int) := [
  ("CRITICAL", 50), ("FATAL", 50), ("ERROR", 40), ("WARN", 30), ("WARNING", 30), ("INFO", 20),
  ("DEBUG", 10), ("NOTSET", 0)]

/-- The upper case of a character, as far as level names go: two letters beyond ASCII have an ASCII
letter as their upper case. -/
def upper (c : Char) : Char :=
  if c == '\u0131' then 'I' else if c == '\u017f' then 'S' else c.toUpper

/-- The full name of the logger of a component. -/
def loggerName (name : Value) : Attempt String :=
  if !name.truthy then .ok packageName
  else
    match name with
    | .str text =>
      if text = packageName ∨ (packageName ++ ".").toList.isPrefixOf text.toList then .ok text
      else .ok (packageName ++ "." ++ text)
    | .bytes _ | .bytearray _ | .type .text | .type .bytes => .error .unsupported
    | _ => .error .missingAttribute

/-- The level that a value stands for: a number for itself, a name in any case for its number. -/
def resolveLevel (level : Value) : Attempt Value :=
  match level with
  | .int n => .ok (.int n)
  | .bool flag => .ok (.bool flag)
  | .str name =>
    match levelNames.lookup (String.ofList (name.toList.map upper)) with
    | some n => .ok (.int n)
    | none => .error (.unknownLevel (quoted name))
  | .bytes octets => .error (.unknownLevel (quotedBytes octets))
  | .bytearray _ => .error .unhashable
  | .type .text | .type .bytes => .error .unsupported
  | _ => .error .missingAttribute

/-- The template of the own handler unless another one is given. -/
def defaultFormat : String := "[%(levelname)s] %(name)s: %(message)s"

/-- The template that a format given by a caller stands for. -/
def templateOf (format : Value) : Attempt Template :=
  if !format.truthy then Template.ofText defaultFormat
  else
    match format with
    | .str text => Template.ofText text
    | _ => .error .notText

/-- Whether a handler is the own one. -/
def isOwn : Handler → Bool
  | .own _ => true
  | _ => false

/-- Whether a value is among the handlers. -/
def hasForeign (handlers : List Handler) (value : Value) : Bool :=
  handlers.any fun handler =>
    match handler with
    | .foreign other => other == value
    | _ => false

/-- Attach the handler of a caller, or see to the own handler if none is given. -/
def attach (handlers : List Handler) (format handler : Value) : Attempt (List Handler) :=
  match handler with
  | .null => do
    let template ← templateOf format
    if handlers.any isOwn then
      return handlers.map fun handler => if isOwn handler then .own template else handler
    else return handlers ++ [.own template]
  | .bool true => .ok (handlers ++ [.plain])
  | other =>
    .ok (if hasForeign handlers other then handlers else handlers ++ [.foreign other])

/-- What a caller asks for: a level, a format, a handler. -/
structure Request where
  level : Value := .int 30
  format : Value := .null
  handler : Value := .null

/-- Read named options over a request. -/
def Request.read (request : Request) : NamedOptions → Attempt Request
  | [] => .ok request
  | ("level", level) :: rest => Request.read { request with level } rest
  | ("format", format) :: rest => Request.read { request with format } rest
  | ("handler", handler) :: rest => Request.read { request with handler } rest
  | _ => .error .unexpectedOption

/-- Set the level and attach a handler.  The level stays set where the handler cannot be
attached. -/
def configure (logging : Logging) (named : NamedOptions) : Logging × Attempt Unit :=
  match Request.read {} named with
  | .error fault => (logging, .error fault)
  | .ok request =>
    match resolveLevel request.level with
    | .error fault => (logging, .error fault)
    | .ok level =>
      match attach logging.handlers request.format request.handler with
      | .error fault => ({ logging with level }, .error fault)
      | .ok handlers => (⟨level, handlers⟩, .ok ())

/-- The level below which records are dropped when the package has none of its own. -/
def fallbackLevel : Int := 30

/-- The level of the package as a number. -/
def levelNumber (logging : Logging) : Int :=
  match logging.level with
  | .int n => n
  | .bool true => 1
  | _ => 0

/-- The level that a record has to reach. -/
def effectiveLevel (logging : Logging) : Int :=
  if logging.levelNumber = 0 then fallbackLevel else logging.levelNumber

/-- The name of a level in log lines. -/
def levelText (level : Int) : String :=
  match level with
  | 50 => "CRITICAL"
  | 40 => "ERROR"
  | 30 => "WARNING"
  | 20 => "INFO"
  | 10 => "DEBUG"
  | 0 => "NOTSET"
  | other => "Level " ++ wholeText other

/-- The parts of a record. -/
def recordParts (name : String) (level : Int) (message : String) : List (String × RecordPart) := [
  ("name", .text name), ("levelname", .text (levelText level)), ("levelno", .whole level),
  ("message", .text message), ("msg", .text message), ("args", .object "()"),
  ("exc_info", .object "None"), ("exc_text", .object "None"), ("stack_info", .object "None"),
  ("threadName", .text "MainThread"), ("processName", .text "MainProcess")]

/-- What a record wrote: to the error stream, and to the streams of the handlers of callers. -/
structure Output where
  errorStream : String := ""
  callerStream : String := ""

/-- Let handlers write a record, in order. -/
def writeAll (name : String) (level : Int) (message : String) (output : Output) :
    List Handler → Attempt Output
  | [] => .ok output
  | .own template :: rest =>
    let line := match template.fill (recordParts name level message) with
      | some text => text ++ "\n"
      | none => ""
    writeAll name level message
      { output with errorStream := output.errorStream ++ line } rest
  | .plain :: rest =>
    writeAll name level message
      { output with callerStream := output.callerStream ++ message ++ "\n" } rest
  | .foreign _ :: _ => .error .missingAttribute

/-- Emit a record.  Without any handler the message of a grave one goes to the error stream. -/
def emit (logging : Logging) (logger : Value) (level : Int) (message : String) :
    Attempt Output := do
  let name ← loggerName logger
  if level ≤ 0 ∨ level < logging.effectiveLevel then return {}
  else if logging.handlers.isEmpty then
    return if fallbackLevel ≤ level then { errorStream := message ++ "\n" } else {}
  else writeAll name level message {} logging.handlers

end Logging

/-- Set the level of the package to that of a configuration. -/
def Config.applyLogging (config : Config) (logging : Logging) : Logging × Attempt Unit :=
  logging.configure [("level", config.logLevel)]

end Conform
