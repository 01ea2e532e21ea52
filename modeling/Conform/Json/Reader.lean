import Conform.Fault
import Conform.Number.Shortest
import Conform.Text.CharSet
import Conform.Value.Equality

/-!
# Reading JSON

JSON text as a value.  Objects keep the order of their keys, and of equal keys the last value wins.
The words `NaN`, `Infinity` and `-Infinity` are read as doubles.  What is wrong with a text is a
flaw together with the number of characters that were left there, which gives its line and column.
-/

namespace Conform.Json

/-- What is wrong with a JSON text. -/
inductive Flaw where
  | expectingValue
  | expectingName
  | expectingColon
  | expectingComma
  | unterminatedText
  | controlCharacter
  | unknownEscape
  | malformedCode
  | extraData
  | byteOrderMark
deriving DecidableEq

namespace Flaw

/-- The wording of a flaw. -/
def message : Flaw → String
  | .expectingValue => "Expecting value"
  | .expectingName => "Expecting property name enclosed in double quotes"
  | .expectingColon => "Expecting ':' delimiter"
  | .expectingComma => "Expecting ',' delimiter"
  | .unterminatedText => "Unterminated string starting at"
  | .controlCharacter => "Invalid control character at"
  | .unknownEscape => "Invalid \\escape"
  | .malformedCode => "Invalid \\uXXXX escape"
  | .extraData => "Extra data"
  | .byteOrderMark => "Unexpected UTF-8 BOM (decode using utf-8-sig)"

end Flaw

/-- Why a text was not read: a flaw where so many characters were left, or a number that is too
long. -/
inductive Failure where
  | flawed (flaw : Flaw) (left : Nat)
  | tooLong (digits : Nat)
deriving DecidableEq

/-- Whether a character is a blank between tokens. -/
def isBlank (c : Char) : Bool := c == ' ' || c == '\t' || c == '\n' || c == '\r'

/-- Drop blanks. -/
def skipBlanks (chars : List Char) : List Char := chars.dropWhile isBlank

/-- Report a flaw in front of the given rest. -/
def flawed {α : Type} (flaw : Flaw) (rest : List Char) : Except Failure α :=
  .error (.flawed flaw rest.length)

/-- The character that a short escape stands for. -/
def shortEscape? (c : Char) : Option Char :=
  match c with
  | '\x22' => some '\x22'
  | '\\' => some '\\'
  | '/' => some '/'
  | 'b' => some '\x08'
  | 'f' => some '\x0c'
  | 'n' => some '\n'
  | 'r' => some '\r'
  | 't' => some '\t'
  | _ => none

/-- The code unit of four hexadecimal digits. -/
def codeUnit? (a b c d : Char) : Option Nat := do
  let w ← CharSet.hexDigit? a
  let x ← CharSet.hexDigit? b
  let y ← CharSet.hexDigit? c
  let z ← CharSet.hexDigit? d
  return ((w * 16 + x) * 16 + y) * 16 + z

/-- Whether a code unit is the first half of a pair. -/
def isHighHalf (unit : Nat) : Bool := 0xD800 ≤ unit && unit < 0xDC00

/-- Whether a code unit is the second half of a pair. -/
def isLowHalf (unit : Nat) : Bool := 0xDC00 ≤ unit && unit < 0xE000

/-- The character of a code unit; a half without its other half is replaced. -/
def charOfUnit (unit : Nat) : Char :=
  if isHighHalf unit || isLowHalf unit then Char.ofNat 0xFFFD else Char.ofNat unit

/-- The character of the two halves of a pair. -/
def charOfPair (high low : Nat) : Char :=
  Char.ofNat (0x10000 + (high - 0xD800) * 1024 + (low - 0xDC00))

/-- The character of an escape by code, and the number of characters it takes after the backslash;
the letter comes first. -/
def readCode (chars : List Char) : Except Failure (Char × Nat) :=
  match chars with
  | _ :: a :: b :: c :: d :: e :: after =>
    match codeUnit? a b c d with
    | none => flawed .malformedCode chars
    | some unit =>
      match isHighHalf unit, e, after with
      | true, '\\', 'u' :: a :: b :: c :: d :: f :: more =>
        match codeUnit? a b c d with
        | none => flawed .malformedCode ('u' :: a :: b :: c :: d :: f :: more)
        | some low =>
          if isLowHalf low then .ok (charOfPair unit low, 11) else .ok (charOfUnit unit, 5)
      | _, _, _ => .ok (charOfUnit unit, 5)
  | _ => flawed .malformedCode chars

/-- The character of an escape, and the number of characters it takes after the backslash.
`opening` is the text from the opening quote on. -/
def readEscape (opening chars : List Char) : Except Failure (Char × Nat) :=
  match chars with
  | [] => flawed .unterminatedText opening
  | c :: _ =>
    if c == 'u' then readCode chars
    else
      match shortEscape? c with
      | some meant => .ok (meant, 1)
      | none => flawed .unknownEscape ('\\' :: chars)

/-- The characters of a text up to its closing quote, the first `skip` being part of an escape.
Those read so far come latest first. -/
def readChars (opening : List Char) :
    Nat → List Char → List Char → Except Failure (String × List Char)
  | _, _, [] => flawed .unterminatedText opening
  | skip + 1, done, _ :: rest => readChars opening skip done rest
  | 0, done, c :: rest =>
    if c == '\x22' then .ok (String.ofList done.reverse, rest)
    else if c == '\\' then
      match readEscape opening rest with
      | .ok (meant, taken) => readChars opening taken (meant :: done) rest
      | .error failure => .error failure
    else if c.toNat < 32 then flawed .controlCharacter (c :: rest)
    else readChars opening 0 (c :: done) rest

/-- The text whose opening quote has been read. -/
def readText (rest : List Char) : Except Failure (String × List Char) :=
  readChars ('\x22' :: rest) 0 [] rest

/-- Digits, and what follows them. -/
def spanDigits (chars : List Char) : List Char × List Char :=
  (chars.takeWhile Digits.isDigit, chars.dropWhile Digits.isDigit)

/-- The whole part of a number: a zero, or digits that do not begin with one. -/
def wholePart : List Char → Option (List Char × List Char)
  | '0' :: rest => some (['0'], rest)
  | c :: rest =>
    if Digits.isDigit c then
      let (digits, rest) := spanDigits (c :: rest)
      some (digits, rest)
    else none
  | [] => none

/-- The decimals of a number: a point and at least one digit. -/
def decimalPart : List Char → List Char × List Char
  | '.' :: rest =>
    match spanDigits rest with
    | ([], _) => ([], '.' :: rest)
    | (digits, after) => ('.' :: digits, after)
  | rest => ([], rest)

/-- A sign, if there is one, and what follows it. -/
def signPart : List Char → List Char × List Char
  | '+' :: rest => (['+'], rest)
  | '-' :: rest => (['-'], rest)
  | rest => ([], rest)

/-- The exponent of a number: a letter, an optional sign and at least one digit. -/
def exponentPart : List Char → List Char × List Char
  | c :: rest =>
    if c == 'e' || c == 'E' then
      let (sign, digitsOn) := signPart rest
      match spanDigits digitsOn with
      | ([], _) => ([], c :: rest)
      | (digits, after) => (c :: sign ++ digits, after)
    else ([], c :: rest)
  | [] => ([], [])

/-- Whether a number has a minus sign, and what follows it. -/
def minusPart : List Char → Bool × List Char
  | '-' :: rest => (true, rest)
  | rest => (false, rest)

/-- A number: whole if it has neither decimals nor an exponent, else a double. -/
def readNumber (chars : List Char) : Except Failure (Value × List Char) :=
  let (negative, unsigned) := minusPart chars
  match wholePart unsigned with
  | none => flawed .expectingValue chars
  | some (whole, rest) =>
    let (decimals, rest) := decimalPart rest
    let (exponent, rest) := exponentPart rest
    if decimals.isEmpty && exponent.isEmpty then
      if digitLimit < whole.length then .error (.tooLong whole.length)
      else
        let size : Int := Digits.read whole
        .ok (.int (if negative then -size else size), rest)
    else .ok (.float (Double.readUnsigned negative (whole ++ decimals ++ exponent)), rest)

/-- The words that stand for values. -/
def words : List (List Char × Value) := [
  ("null".toList, .null),
  ("true".toList, .bool true),
  ("false".toList, .bool false),
  ("NaN".toList, .float .nan),
  ("Infinity".toList, .float (.infinity false)),
  ("-Infinity".toList, .float (.infinity true))]

/-- A word or a number. -/
def readScalar (chars : List Char) : Except Failure (Value × List Char) :=
  match words.find? fun word => word.1.isPrefixOf chars with
  | some (word, value) => .ok (value, chars.drop word.length)
  | none => readNumber chars

mutual

/-- A value at the very front of the text. -/
def readValue : Nat → List Char → Except Failure (Value × List Char)
  | 0, chars => flawed .expectingValue chars
  | fuel + 1, chars =>
    match chars with
    | [] => flawed .expectingValue []
    | '\x22' :: rest => do
      let (text, rest) ← readText rest
      return (.str text, rest)
    | '\x7b' :: rest =>
      match skipBlanks rest with
      | '\x7d' :: after => .ok (.map [], after)
      | members => readMembers fuel [] members
    | '[' :: rest =>
      match skipBlanks rest with
      | ']' :: after => .ok (.list [], after)
      | items => readItems fuel [] items
    | c :: rest => readScalar (c :: rest)

/-- The items of an array, one at least, up to its closing bracket; those read so far come latest
first. -/
def readItems : Nat → List Value → List Char → Except Failure (Value × List Char)
  | 0, _, chars => flawed .expectingValue chars
  | fuel + 1, done, chars => do
    let (item, rest) ← readValue fuel chars
    match skipBlanks rest with
    | ']' :: after => return (.list (item :: done).reverse, after)
    | ',' :: after => readItems fuel (item :: done) (skipBlanks after)
    | other => flawed .expectingComma other

/-- The members of an object, one at least, up to its closing brace, after those read so far. -/
def readMembers : Nat → Entries → List Char → Except Failure (Value × List Char)
  | 0, _, chars => flawed .expectingValue chars
  | fuel + 1, done, chars => do
    match chars with
    | '\x22' :: rest =>
      let (name, rest) ← readText rest
      match skipBlanks rest with
      | ':' :: rest =>
        let (value, rest) ← readValue fuel (skipBlanks rest)
        let done := done.put (.str name) value
        match skipBlanks rest with
        | '\x7d' :: after => return (.map done, after)
        | ',' :: after => readMembers fuel done (skipBlanks after)
        | other => flawed .expectingComma other
      | other => flawed .expectingColon other
    | other => flawed .expectingName other

end

/-- The value of a whole text. -/
def readWhole (chars : List Char) : Except Failure Value :=
  match chars with
  | '\ufeff' :: _ => flawed .byteOrderMark chars
  | _ => do
    let (value, rest) ← readValue (2 * chars.length + 4) (skipBlanks chars)
    match skipBlanks rest with
    | [] => return value
    | other => flawed .extraData other

/-- The line and the column, both from one on, of the place where so many characters are left. -/
def location (chars : List Char) (left : Nat) : Nat × Nat :=
  let before := chars.take (chars.length - left)
  (before.count '\n' + 1, (before.reverse.takeWhile (· != '\n')).length + 1)

/-- The account of a flaw in a text. -/
def account (chars : List Char) (flaw : Flaw) (left : Nat) : String :=
  let (line, column) := location chars left
  flaw.message ++ s!": line {line} column {column}"

/-- Read a text: its value, the account of a flaw, or the fault of a number that is too long. -/
def read (text : String) : Attempt (Except String Value) :=
  let chars := text.toList
  match readWhole chars with
  | .ok value => .ok (.ok value)
  | .error (.flawed flaw left) => .ok (.error (account chars flaw left))
  | .error (.tooLong digits) => .error (.digitsToRead digits)

end Conform.Json
