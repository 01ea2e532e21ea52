/-!
# Decimal digits

A natural number is read from and written to ASCII digits.  Writing is the shortest digit string;
reading also takes leading zeros.  Whole numbers carry a leading minus sign when negative.

Digit strings longer than `digitLimit` are refused by every conversion between text and whole
numbers, in both directions, so that untrusted input cannot ask for quadratic work.
-/

namespace Conform

/-- The longest run of digits that is converted to or from a whole number. -/
def digitLimit : Nat := 4300

/-- The least natural number whose digit string is longer than `digitLimit`. -/
def digitBound : Nat := Nat.pow 10 digitLimit

namespace Digits

/-- The number that an ASCII digit stands for. -/
def value (digit : Char) : Nat := digit.toNat - 48

/-- Whether a character is one of the ten ASCII digits. -/
def isDigit (c : Char) : Bool := 48 ≤ c.toNat && c.toNat ≤ 57

/-- The number that a digit string denotes in base ten, most significant digit first. -/
def read (digits : List Char) : Nat :=
  digits.foldl (fun total digit => 10 * total + value digit) 0

/-- The digit string of a natural number. -/
def write (n : Nat) : String := toString n

end Digits

/-- The decimal text of a whole number of any size. -/
def wholeText (n : Int) : String :=
  if n < 0 then "-" ++ Digits.write n.natAbs else Digits.write n.natAbs

/-- Whether a whole number is short enough to be written. -/
def withinDigitLimit (n : Int) : Bool := n.natAbs < digitBound

end Conform
