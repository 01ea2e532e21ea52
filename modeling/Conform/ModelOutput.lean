import Conform.Json.Extraction
import Conform.Json.Reader
import Conform.Validation.Basic
import Conform.Violation.Summary

/-!
# Validating model output

The response of a language model is text with JSON somewhere in it.  Its payload is read and then
validated; text that cannot be read gives a violation of its own.
-/

namespace Conform

namespace ModelOutput

/-- The text of a value that has to be text. -/
def textOf (value : Value) : Attempt String :=
  match value with
  | .str text => .ok text
  | _ => .error .notText

/-- The text without code fences. -/
def stripFences (text : String) : String := String.ofList (Extraction.strip text.toList)

/-- The payload of a text. -/
def payload (text : String) : String := String.ofList (Extraction.payload text.toList)

/-- The value of the payload of a text, or the account of what is wrong with it. -/
def decode (text : String) : Attempt (Except String Value) := Json.read (payload text)

/-- How much of an output a violation shows. -/
def previewLength : Nat := 200

/-- The beginning of an output. -/
def preview (output : Value) : Attempt String := do
  let text ← match output with
    | .str text => pure text
    | other => other.literal
  let chars := text.toList
  if previewLength < chars.length then
    return String.ofList (chars.take previewLength) ++ "..."
  else return text

/-- The logger of model output. -/
def loggerName : String := "shapeguard.llm"

/-- The value of a response, or the violation of being unreadable. -/
def parse (text : Value) : Run (Verdict Value) := do
  let written ← Run.lift (textOf text)
  match ← Run.lift (decode written) with
  | .ok value => return .accepted value
  | .error reason =>
    Run.emit [.logged ⟨.debug, loggerName, "Could not decode model output: " ++ reason⟩]
    return .rejected [.unreadable reason (← Run.lift (preview text))]

end ModelOutput

/-- Validate the payload of a text. -/
def validateText (env : Environment) (schema : Schema) (text : Value) (named : NamedOptions) :
    Run (Verdict Value) := do
  Run.lift (refuseRepeated ["schema", "text"] named)
  match ← ModelOutput.parse text with
  | .accepted value => validateNamed env schema value named
  | .rejected violations => return .rejected violations

/-- Validate model output, text or data; every violation also tells the prompt and the output. -/
def validateOutput (env : Environment) (schema : Schema) (output prompt : Value)
    (named : NamedOptions) : Run (Verdict Value) := do
  Run.lift (refuseRepeated ["schema", "output", "prompt"] named)
  let verdict ← match output with
    | .str text => validateText env schema (.str text) named
    | data => validateNamed env schema data named
  match verdict with
  | .accepted value => return .accepted value
  | .rejected violations =>
    let enriched ← Run.lift (violations.mapM fun violation => do
      violation.withDetails
        (Entries.ofTexts [("prompt", prompt), ("output", .str (← ModelOutput.preview output))]))
    return .rejected enriched

end Conform
