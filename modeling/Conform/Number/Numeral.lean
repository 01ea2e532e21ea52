import Conform.Number.Shortest
import Conform.Number.Whole

/-!
# Doubles in text

A double is written as a decimal with an optional point and an optional exponent, or as a word for
infinity or for no number, with an optional sign and blanks around the whole.  Digits of any script
count.
-/

namespace Conform.Numeral

/-- One digit or more. -/
def isDigits (chars : List Char) : Bool := !chars.isEmpty && chars.all Digits.isDigit

/-- Whether a text is digits with an optional point among or around them. -/
def isMantissa (chars : List Char) : Bool :=
  let whole := chars.takeWhile Digits.isDigit
  match chars.drop whole.length with
  | [] => !whole.isEmpty
  | '.' :: rest => rest.all Digits.isDigit && (!whole.isEmpty || !rest.isEmpty)
  | _ => false

/-- Whether a text is an optional sign and digits. -/
def isInteger (chars : List Char) : Bool := isDigits (Whole.splitSign chars).2

/-- Whether a text is an optional sign, a mantissa and an optional exponent. -/
def isDecimal (chars : List Char) : Bool :=
  let size := (Whole.splitSign chars).2
  let mantissa := size.takeWhile fun c => c != 'e' && c != 'E'
  let exponent := size.drop mantissa.length
  isMantissa mantissa && (exponent.isEmpty || isInteger (exponent.drop 1))

/-- A digit of any script as the digit of ASCII with its value. -/
def asciiDigit (c : Char) : Char :=
  match decimalValue? c with
  | some value => Char.ofNat (48 + value)
  | none => c

/-- A text without the blanks around it. -/
def trimSpaces (chars : List Char) : List Char :=
  ((chars.dropWhile isSpace).reverse.dropWhile isSpace).reverse

/-- The double that a text denotes. -/
def readDouble? (text : List Char) : Option Double :=
  let chars := (trimSpaces text).map asciiDigit
  let (negative, size) := Whole.splitSign chars
  match String.ofList (size.map Char.toLower) with
  | "inf" | "infinity" => some (.infinity negative)
  | "nan" => some .nan
  | _ => if isDecimal chars then some (.readDecimal chars) else none

end Conform.Numeral
