import Conform.Value.Basic

/-!
# Faults

A fault ends an operation without a verdict.  It is a cause with its data; `Fault.message` holds the
wording of those that have one.  Bad data under validation is not a fault: it gives violations.
-/

namespace Conform

/-- Why an operation ended without a verdict. -/
inductive Fault where
  /-- A schema or a type specification is malformed, with the full account. -/
  | malformedDefinition (account : String)
  /-- A whole number is too long to be written. -/
  | digitsToWrite
  /-- A digit string of the given length is too long to be read. -/
  | digitsToRead (length : Nat)
  /-- A number was sought among bytes that no byte can be. -/
  | byteRange
  /-- A symbol needs a name that is a text and not empty. -/
  | symbolName
  /-- No log level has the quoted name. -/
  | unknownLevel (quotedName : String)
  /-- No document provider has the quoted name. -/
  | unknownProvider (quotedName : String)
  /-- A batch needs room for at least one validation. -/
  | noConcurrency
  /-- The quoted item of a list of pairs has a wrong length. -/
  | malformedPair (index : Nat) (quotedItem : String)
  /-- An element given as an entry of a mapping has a length other than two. -/
  | malformedEntry (index length : Nat)
  /-- A configuration file holds something other than a mapping. -/
  | notConfiguration (path : String)
  /-- No whole number in the given base has the quoted text. -/
  | malformedInteger (base : Nat) (quotedText : String)
  /-- No double has the quoted text. -/
  | malformedDouble (quotedText : String)
  /-- A date or a time of day does not exist. -/
  | malformedDate (account : String)
  /-- No character has a code. -/
  | characterRange
  /-- The code of a character is beyond the range of machine words. -/
  | characterOverflow
  /-- A format of log lines names no part of a record. -/
  | malformedFormat (format : String)
  /-- A regular expression is malformed. -/
  | malformedPattern
  /-- A repetition count in a regular expression is out of range. -/
  | repetitionRange
  /-- A regular expression asks for the full character set, its settings for ASCII. -/
  | conflictingSettings
  /-- A regular expression looks back too far. -/
  | lookbehindRange
  /-- A group of a regular expression was found to end before its start. -/
  | reversedGroup
  /-- A whole number is beyond the range of doubles. -/
  | doubleRange
  /-- A value that can grow was used as a key. -/
  | unhashable
  /-- A value without members was asked for them. -/
  | notIterable
  /-- Two values have no order. -/
  | unordered
  /-- A text was needed. -/
  | notText
  /-- A number was needed. -/
  | notNumber
  /-- A function was given an option that it does not take, or the same one twice. -/
  | unexpectedOption
  /-- A value was used in a way that its data type does not offer. -/
  | unsupported
  /-- An attribute was asked for that the value does not have. -/
  | missingAttribute
  /-- An attribute of a symbol was set. -/
  | immutableSymbol
  /-- A key was asked for that the mapping does not hold. -/
  | missingKey
  /-- An index lies outside its sequence. -/
  | indexRange
  /-- Something that is not text was put into a cell of a table. -/
  | unrenderable
  /-- An opaque target failed, with its account. -/
  | targetFailed (account : String)
  /-- Data was rejected where the caller asked for a fault. -/
  | rejected (violations : List Violation) (account : String)
  /-- A file does not exist. -/
  | missingFile
  /-- A directory stands where a file was expected. -/
  | isDirectory
  /-- A file stands where a directory was expected. -/
  | notDirectory
  /-- The name of a file is longer than names can be. -/
  | nameTooLong
  /-- The name of a file holds the null character. -/
  | nullInPath
  /-- The bytes of a file are not text. -/
  | undecodable
  /-- A document is not well-formed. -/
  | malformedDocument

namespace Fault

/-- The wording of a fault that has one. -/
def message : Fault → Option String
  | .malformedDefinition account => some account
  | .digitsToWrite => some (s!"Exceeds the limit ({digitLimit} digits) for integer string " ++
      "conversion; use sys.set_int_max_str_digits() to increase the limit")
  | .digitsToRead length => some (s!"Exceeds the limit ({digitLimit} digits) for integer string " ++
      s!"conversion: value has {length} digits; " ++
      "use sys.set_int_max_str_digits() to increase the limit")
  | .byteRange => some "byte must be in range(0, 256)"
  | .symbolName => some "Symbol name must be a non-empty string"
  | .unknownLevel quotedName => some ("Unknown log level: " ++ quotedName)
  | .unknownProvider quotedName => some ("Unknown provider " ++ quotedName ++
      ". Available: ['generic', 'openai', 'anthropic']")
  | .noConcurrency => some "max_concurrent must be at least 1"
  | .malformedPair index quotedItem => some (s!"Invalid item at index {index}: " ++ quotedItem)
  | .malformedEntry index length => some (s!"dictionary update sequence element #{index} has " ++
      s!"length {length}; 2 is required")
  | .notConfiguration path => some ("Config file " ++ path ++ " must contain a mapping")
  | .malformedInteger base quotedText =>
    some (s!"invalid literal for int() with base {base}: " ++ quotedText)
  | .malformedDouble quotedText => some ("could not convert string to float: " ++ quotedText)
  | .malformedDate account => some account
  | .characterRange => some "chr() arg not in range(0x110000)"
  | .malformedFormat format => some ("Invalid format '" ++ format ++ "' for '%' style")
  | .conflictingSettings => some "ASCII and UNICODE flags are incompatible"
  | .lookbehindRange => some "invalid SRE code"
  | .nullInPath => some "embedded null byte"
  | .immutableSymbol => some "Symbol is immutable"
  | .targetFailed account => some account
  | .rejected _ account => some account
  | _ => none

end Fault

/-- An operation that may end in a fault. -/
abbrev Attempt := Except Fault

namespace Attempt

variable {ε α β : Type}

/-- A sequence gives a result exactly when both of its steps do, whatever the faults are. -/
theorem bind_eq_ok_iff {attempt : Except ε α} {next : α → Except ε β} {result : β} :
    attempt >>= next = .ok result ↔ ∃ value, attempt = .ok value ∧ next value = .ok result := by
  cases attempt <;> simp [bind, Except.bind]

@[simp] theorem pure_eq_ok (value : α) : (pure value : Attempt α) = .ok value := rfl

/-- A sequence goes on with the result of its first step. -/
@[simp] theorem ok_bind (value : α) (next : α → Attempt β) :
    (Except.ok value : Attempt α) >>= next = next value := rfl

/-- A sequence ends with the fault of its first step. -/
@[simp] theorem error_bind (fault : Fault) (next : α → Attempt β) :
    (Except.error fault : Attempt α) >>= next = .error fault := rfl

@[simp] theorem bind_ok (attempt : Attempt α) : (attempt >>= fun value => .ok value) = attempt := by
  cases attempt <;> rfl

end Attempt

/-- The answer of a check: the accepted value, or what is wrong. -/
inductive Verdict (α : Type) where
  | accepted (value : α)
  | rejected (violations : List Violation)

namespace Verdict

/-- Whether the check accepted. -/
def isAccepted {α : Type} : Verdict α → Bool
  | .accepted _ => true
  | .rejected _ => false

/-- What is wrong; nothing when the check accepted. -/
def violations {α : Type} : Verdict α → List Violation
  | .accepted _ => []
  | .rejected violations => violations

/-- Apply a function to an accepted value. -/
def map {α β : Type} (f : α → β) : Verdict α → Verdict β
  | .accepted value => .accepted (f value)
  | .rejected violations => .rejected violations

end Verdict

end Conform
