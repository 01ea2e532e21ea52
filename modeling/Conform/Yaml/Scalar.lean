import Conform.Fault
import Conform.Number.Numeral
import Conform.Text.Lowercase
import Conform.Text.Quoted

/-!
# Values of YAML texts

What the text of a node denotes under a tag: truth values, numbers with underscores and in several
bases, numbers by sixties, bytes in base 64, dates.  A text that its tag does not fit is a fault.
-/

namespace Conform.Yaml.Scalar

/-- The truth value of a text. -/
def readBoolean (text : String) : Attempt Value :=
  match lowercase text with
  | "yes" | "true" | "on" => .ok (.bool true)
  | "no" | "false" | "off" => .ok (.bool false)
  | _ => .error .missingKey

/-- The number of characters up to which a text that is no whole number is shown, quotes
included. -/
def shownLength : Nat := 200

/-- The whole number of digits in a base, with an optional sign and blanks around it. -/
def readWhole (base : Nat) (chars : List Char) : Attempt Int :=
  match Whole.read base chars with
  | .ok n => .ok n
  | .error .malformed =>
    let shown := (quoted (String.ofList chars)).toList.take shownLength
    .error (.malformedInteger base (String.ofList shown))
  | .error (.tooLong digits) => .error (.digitsToRead digits)

/-- Split a text at colons. -/
def splitColons (chars : List Char) : List (List Char) :=
  let (last, done) := chars.foldr
    (fun c (part, done) => if c == ':' then ([], part :: done) else (c :: part, done)) ([], [])
  last :: done

/-- A number without its underscores. -/
def digitsOf (text : String) : String := String.ofList (text.toList.filter (· != '_'))

/-- The number whose digits by sixties are the given ones. -/
def sixties (digits : List Int) : Int := digits.foldl (fun total digit => 60 * total + digit) 0

/-- The size of a whole number: binary, hexadecimal, octal, by sixties or decimal. -/
def readSize (chars : List Char) : Attempt Int :=
  match chars with
  | ['0'] => .ok 0
  | '0' :: 'b' :: rest => readWhole 2 rest
  | '0' :: 'x' :: rest => readWhole 16 rest
  | '0' :: _ => readWhole 8 chars
  | _ =>
    if chars.contains ':' then do
      return sixties (← (splitColons chars).mapM (readWhole 10))
    else readWhole 10 chars

/-- The whole number of a text. -/
def readInteger (text : String) : Attempt Value := do
  let (negative, size) := Whole.splitSign (digitsOf text).toList
  if size.isEmpty then throw .indexRange
  else
    let n ← readSize size
    return .int (if negative then -n else n)

/-- The double of a decimal with an optional sign and blanks around it, or of a word. -/
def readReal (chars : List Char) : Attempt Double :=
  match Numeral.readDouble? chars with
  | some x => .ok x
  | none => .error (.malformedDouble (quoted (String.ofList chars)))

/-- The sum of doubles each sixty times as heavy as the one before it.  There are no weights beyond
the range of doubles. -/
def realSixties (power : Nat) (total : Double) : List Double → Attempt Double
  | [] => .ok total
  | digit :: rest =>
    match Double.ofInt? (60 ^ power : Nat) with
    | some weight => realSixties (power + 1) (total.add (digit.mul weight)) rest
    | none => .error .doubleRange

/-- The size of a double. -/
def readMagnitude (chars : List Char) : Attempt Double :=
  match String.ofList chars with
  | ".inf" => .ok (.infinity false)
  | ".nan" => .ok .nan
  | _ =>
    if chars.contains ':' then do
      realSixties 0 .zero (← (splitColons chars).mapM readReal).reverse
    else readReal chars

/-- The double of a text. -/
def readFloat (text : String) : Attempt Value := do
  let chars := (lowercase (digitsOf text)).toList
  if chars.isEmpty then throw .indexRange
  else
    let (negative, size) := Whole.splitSign chars
    let x ← readMagnitude size
    return .float (if negative then x.neg else x)

/-- The value of a character in base 64. -/
def sextet? (c : Char) : Option Nat :=
  let code := c.toNat
  if 65 ≤ code ∧ code ≤ 90 then some (code - 65)
  else if 97 ≤ code ∧ code ≤ 122 then some (code - 71)
  else if Digits.isDigit c then some (code + 4)
  else if c == '+' then some 62
  else if c == '/' then some 63
  else none

/-- The bytes of characters in base 64; other characters are skipped.  `place` counts the characters
of the group so far, `carry` holds the bits not yet written, `pads` counts fillers. -/
def readSextets (place carry pads : Nat) : List Char → Attempt (List UInt8)
  | [] => if place = 0 then .ok [] else .error .malformedDocument
  | c :: rest =>
    if c == '=' then
      if 2 ≤ place then
        if 4 ≤ place + pads + 1 then .ok [] else readSextets place carry (pads + 1) rest
      else readSextets place carry pads rest
    else
      match sextet? c with
      | none => readSextets place carry pads rest
      | some bits =>
        match place with
        | 0 => readSextets 1 bits 0 rest
        | 1 => do
          return UInt8.ofNat (carry * 4 + bits / 16) :: (← readSextets 2 (bits % 16) 0 rest)
        | 2 => do
          return UInt8.ofNat (carry * 16 + bits / 4) :: (← readSextets 3 (bits % 4) 0 rest)
        | _ => do return UInt8.ofNat (carry * 64 + bits) :: (← readSextets 0 0 0 rest)

/-- The bytes of a text. -/
def readBinary (text : String) : Attempt Value :=
  if text.toList.all fun c => c.toNat < 128 then do
    return .bytes (← readSextets 0 0 0 text.toList)
  else .error .malformedDocument

/-- A date with an optional time of day and offset from universal time, in minutes. -/
structure Timestamp where
  year : Nat
  month : Nat
  day : Nat
  time : Option (Nat × Nat × Nat) := none
  offset : Option (Bool × Nat) := none

namespace Timestamp

/-- Digits, at least and at most so many. -/
def takeDigits (least most : Nat) (chars : List Char) : Option (Nat × List Char) :=
  let digits := (chars.take most).takeWhile Digits.isDigit
  if digits.length < least then none else some (Digits.read digits, chars.drop digits.length)

/-- The given character. -/
def expect (c : Char) : List Char → Option (List Char)
  | first :: rest => if first == c then some rest else none
  | [] => none

/-- The offset from universal time; nothing for universal time itself. -/
def readOffset (chars : List Char) : Option (Option (Bool × Nat)) :=
  match chars.dropWhile fun c => c == ' ' || c == '\t' with
  | [] => if chars.isEmpty then some none else none
  | ['Z'] => some none
  | sign :: rest => do
    if sign != '+' && sign != '-' then none
    else
      let (hours, rest) ← takeDigits 1 2 rest
      match rest with
      | [] => some (some (sign == '-', 60 * hours))
      | ':' :: rest =>
        let (minutes, rest) ← takeDigits 2 2 rest
        if rest.isEmpty then some (some (sign == '-', 60 * hours + minutes)) else none
      | _ => none

/-- Go on past the decimals of a second. -/
def skipDecimals : List Char → List Char
  | '.' :: rest => rest.dropWhile Digits.isDigit
  | rest => rest

/-- What is between a date and a time: a letter, or blanks. -/
def skipSeparator : List Char → Option (List Char)
  | c :: rest =>
    if c == 'T' || c == 't' then some rest
    else if c == ' ' || c == '\t' then some (rest.dropWhile fun c => c == ' ' || c == '\t')
    else none
  | [] => none

/-- A text without a line end at its end. -/
def dropLineEnd (chars : List Char) : List Char :=
  if chars.getLast? == some '\n' then chars.dropLast else chars

/-- The timestamp of a text, if it has the form of one; a line end may follow. -/
def read? (text : String) : Option Timestamp := do
  let (year, rest) ← takeDigits 4 4 (dropLineEnd text.toList)
  let (month, rest) ← takeDigits 1 2 (← expect '-' rest)
  let (day, rest) ← takeDigits 1 2 (← expect '-' rest)
  if rest.isEmpty then some { year, month, day }
  else
    let (hour, rest) ← takeDigits 1 2 (← skipSeparator rest)
    let (minute, rest) ← takeDigits 2 2 (← expect ':' rest)
    let (second, rest) ← takeDigits 2 2 (← expect ':' rest)
    let offset ← readOffset (skipDecimals rest)
    some { year, month, day, time := some (hour, minute, second), offset }

/-- Whether a year has a leap day. -/
def isLeap (year : Nat) : Bool := year % 4 == 0 && (year % 100 != 0 || year % 400 == 0)

/-- The number of days of a month. -/
def daysIn (year month : Nat) : Nat :=
  if month = 2 then if isLeap year then 29 else 28
  else if month = 4 ∨ month = 6 ∨ month = 9 ∨ month = 11 then 30
  else 31

/-- A length of time in minutes, as days and seconds. -/
def durationText (negative : Bool) (minutes : Nat) : String :=
  let size : Int := if negative then -(minutes : Int) else minutes
  let days := size.fdiv 1440
  let seconds := size.fmod 1440 * 60
  "datetime.timedelta(days=" ++ wholeText days ++
    (if seconds = 0 then "" else ", seconds=" ++ wholeText seconds) ++ ")"

/-- What is wrong with an offset, if anything. -/
def offsetFlaw? : Option (Bool × Nat) → Option String
  | some (negative, minutes) =>
    if minutes < 1440 then none
    else some ("offset must be a timedelta strictly between -timedelta(hours=24) and " ++
      "timedelta(hours=24), not " ++ durationText negative minutes ++ ".")
  | none => none

/-- What is wrong with a date, if anything. -/
def dateFlaw? (stamp : Timestamp) : Option String :=
  if stamp.year = 0 then some "year 0 is out of range"
  else if stamp.month = 0 ∨ 12 < stamp.month then some "month must be in 1..12"
  else if stamp.day = 0 ∨ daysIn stamp.year stamp.month < stamp.day then
    some "day is out of range for month"
  else none

/-- What is wrong with a time of day, if anything. -/
def timeFlaw? : Option (Nat × Nat × Nat) → Option String
  | none => none
  | some (hour, minute, second) =>
    if 23 < hour then some "hour must be in 0..23"
    else if 59 < minute then some "minute must be in 0..59"
    else if 59 < second then some "second must be in 0..59"
    else none

/-- What is wrong with a timestamp, if anything: its offset, its date, its time of day. -/
def flaw? (stamp : Timestamp) : Option String :=
  (offsetFlaw? stamp.offset).or ((dateFlaw? stamp).or (timeFlaw? stamp.time))

end Timestamp

/-- The value of a timestamp, which is kept as text, once it is known to exist. -/
def readTimestamp (text : String) : Attempt Value :=
  match Timestamp.read? text with
  | none => .error .missingAttribute
  | some stamp =>
    match stamp.flaw? with
    | some account => .error (.malformedDate account)
    | none => .ok (.str text)

end Conform.Yaml.Scalar
