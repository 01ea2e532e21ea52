import Conform.Number.Double

/-!
# Notations of natural numbers

A natural number in a base, with a fixed number of decimal places, or as a decimal with an exponent.
A number is rounded to the digits that there is room for, a half to the even neighbour.
-/

namespace Conform.Notation

/-- The digits of a natural number in a base of at least two, up to a count, the last one first. -/
def digitsUpTo (base : Nat) : Nat → Nat → List Nat
  | 0, _ => []
  | count + 1, n => if n = 0 then [] else n % base :: digitsUpTo base count (n / base)

/-- The digits of a natural number in a base of at least two, of which one has as many as the number
has binary digits. -/
def digits (base n : Nat) : List Nat :=
  if n = 0 then [0] else (digitsUpTo base (Nat.log2 n + 1) n).reverse

/-- A number of zeros. -/
def zeros (count : Nat) : List Char := List.replicate count '0'

/-- A point and decimals; no point without decimals, unless it is kept. -/
def afterPoint (keepPoint : Bool) (decimals : List Char) : List Char :=
  if decimals.isEmpty && !keepPoint then [] else '.' :: decimals

/-- A number with a fixed number of decimal places. -/
def fixed (keepPoint : Bool) (places n : Nat) : List Char :=
  (Digits.write n).toList ++ afterPoint keepPoint (zeros places)

/-- The first digits of a number, rounded, and the power of ten of the first one. -/
def leading (count n : Nat) : List Char × Nat :=
  let digits := (Digits.write n).toList
  let power := digits.length - 1
  if digits.length ≤ count then (digits ++ zeros (count - digits.length), power)
  else
    let rounded := (Digits.write (Double.nearest n (Nat.pow 10 (digits.length - count)))).toList
    (rounded.take count, power + (rounded.length - count))

/-- The sign and the digits of an exponent, two of them at least. -/
def exponentText (letter : Char) (power : Nat) : List Char :=
  let digits := (Digits.write power).toList
  letter :: '+' :: (zeros (2 - digits.length) ++ digits)

/-- A number as a decimal with one digit in front of the point, and an exponent. -/
def exponential (keepPoint : Bool) (letter : Char) (places n : Nat) : List Char :=
  let (digits, power) := leading (places + 1) n
  digits.take 1 ++ afterPoint keepPoint (digits.drop 1) ++ exponentText letter power

/-- Drop zeros from the end. -/
def trimZeros (digits : List Char) : List Char := (digits.reverse.dropWhile (· == '0')).reverse

/-- A number with so many digits: with an exponent only where they do not reach to the point, and
without zeros at the end unless the point is kept. -/
def general (keepPoint : Bool) (letter : Char) (count n : Nat) : List Char :=
  let count := max count 1
  let (digits, power) := leading count n
  let trimmed (decimals : List Char) := if keepPoint then decimals else trimZeros decimals
  if power < count then
    digits.take (power + 1) ++ afterPoint keepPoint (trimmed (digits.drop (power + 1)))
  else
    digits.take 1 ++ afterPoint keepPoint (trimmed (digits.drop 1)) ++ exponentText letter power

end Conform.Notation
