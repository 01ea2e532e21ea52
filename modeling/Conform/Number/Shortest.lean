import Conform.Number.Double

/-!
# Shortest decimal text

A double is written with the fewest significant digits that read back as the same double, and among
those with the digits nearest to it.  Exponents from -4 to 15 are written positionally, others with
a two-digit exponent.
-/

namespace Conform

namespace Double

/-- A decimal: significant digits and the power of ten of the last one. -/
structure Decimal where
  digits : Nat
  scale : Int
deriving DecidableEq

/-- The numerator and denominator of `numerator / denominator / 10 ^ scale`. -/
def scaledQuotient (numerator denominator : Nat) (scale : Int) : Nat × Nat :=
  if scale < 0 then (numerator * Nat.pow 10 scale.natAbs, denominator)
  else (numerator, denominator * Nat.pow 10 scale.natAbs)

/-- The decimals of the given scale that read back as the positive finite double `x`, of the two
next to it; the nearer first. -/
def gridNeighbours (x : Double) (scale : Int) : List Decimal :=
  let (numerator, denominator) := scaledQuotient x.magnitude gridOne scale
  let lower := numerator / denominator
  let twice := 2 * (numerator % denominator)
  let nearerFirst :=
    if twice < denominator ∨ (twice = denominator ∧ lower % 2 = 0) then [lower, lower + 1]
    else [lower + 1, lower]
  (nearerFirst.map fun digits => ⟨digits, scale⟩).filter fun decimal =>
    ofDecimal false decimal.digits decimal.scale == { x with negative := false }

/-- The power of ten of the leading digit of a positive finite double. -/
def leadingPower (x : Double) : Int :=
  let whole := x.magnitude / gridOne
  if 0 < whole then ((Digits.write whole).length : Int) - 1
  else
    -- Enough further places that even the least double shows a digit.
    let places : Nat := 340
    ((Digits.write (x.magnitude * Nat.pow 10 places / gridOne)).length : Int) - 1 - (places : Int)

/-- The first decimal that reads back, trying `count` more digits from the given scale on. -/
def searchShortest (x : Double) : Nat → Int → Option Decimal
  | 0, _ => none
  | count + 1, scale =>
    match x.gridNeighbours scale with
    | decimal :: _ => some decimal
    | [] => searchShortest x count (scale - 1)

/-- The fewest digits that read back, the nearest of those; zero has the digit zero. -/
def shortest (x : Double) : Decimal :=
  if x.magnitude = 0 then ⟨0, 0⟩
  else (x.searchShortest 18 x.leadingPower).getD ⟨0, 0⟩

/-- The least power of ten of the leading digit that is written positionally. -/
def leastPositional : Int := -4

/-- The least power of ten of the leading digit above those written positionally. -/
def firstExponential : Int := 16

/-- Drop trailing zeros, which carry no information. -/
def trimZeros (digits : List Char) : List Char :=
  (digits.reverse.dropWhile (· == '0')).reverse

/-- The text of digits whose first one stands at the given power of ten. -/
def placeDigits (digits : List Char) (power : Int) : String :=
  if power < leastPositional ∨ firstExponential ≤ power then
    let mantissa := match digits with
      | [] => "0"
      | [digit] => String.singleton digit
      | digit :: rest => String.ofList (digit :: '.' :: rest)
    let size := Digits.write power.natAbs
    let padded := if size.length < 2 then "0" ++ size else size
    mantissa ++ (if power < 0 then "e-" else "e+") ++ padded
  else if power < 0 then
    "0." ++ String.ofList (List.replicate (power.natAbs - 1) '0' ++ digits)
  else
    let count := power.natAbs + 1
    let whole := digits.take count ++ List.replicate (count - digits.length) '0'
    let rest := digits.drop count
    String.ofList whole ++ "." ++ (if rest.isEmpty then "0" else String.ofList rest)

/-- The text of a double. -/
def text (x : Double) : String :=
  if x.isNaN then "nan"
  else
    let sign := if x.negative then "-" else ""
    if x.isInfinite then sign ++ "inf"
    else
      let decimal := x.shortest
      let written := (Digits.write decimal.digits).toList
      let power := if decimal.digits = 0 then 0 else (written.length : Int) - 1 + decimal.scale
      let digits := match trimZeros written with
        | [] => ['0']
        | trimmed => trimmed
      sign ++ placeDigits digits power

/-- Read `digits [. digits] [e [sign] digits]`, the sign given apart; the caller has checked the
form. -/
def readUnsigned (negative : Bool) (chars : List Char) : Double :=
  let mantissa := chars.takeWhile fun c => c != 'e' && c != 'E'
  let whole := mantissa.takeWhile (· != '.')
  let decimals := (mantissa.drop whole.length).drop 1
  let exponentPart := (chars.drop mantissa.length).drop 1
  let exponent : Int := match exponentPart with
    | '-' :: digits => -(Digits.read digits : Int)
    | '+' :: digits => Digits.read digits
    | digits => Digits.read digits
  ofDecimal negative (Digits.read (whole ++ decimals)) (exponent - decimals.length)

/-- Read an optionally signed decimal; the caller has checked the form. -/
def readDecimal (chars : List Char) : Double :=
  match chars with
  | '-' :: rest => readUnsigned true rest
  | '+' :: rest => readUnsigned false rest
  | rest => readUnsigned false rest

end Double

end Conform
