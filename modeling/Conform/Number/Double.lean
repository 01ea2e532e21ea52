import Conform.Number.Digits

/-!
# Double-precision numbers

A double is its sign, its biased exponent and its fraction, so two doubles are the same exactly when
their fields agree.  Every finite double is a whole number of units of 2^-1074; comparison, addition
and division go through that exact whole number and round once, to nearest with ties to even.
-/

namespace Conform

/-- A binary64 number: sign, biased exponent, fraction. -/
structure Double where
  negative : Bool
  exponent : Fin 2048
  fraction : Fin 4503599627370496
deriving DecidableEq

namespace Double

/-- How many powers of two the unit of the grid lies below one. -/
def gridExponent : Nat := 1074

/-- One, in units of the grid. -/
def gridOne : Nat := Nat.pow 2 gridExponent

/-- The least fraction that does not fit. -/
def fractionBound : Nat := 4503599627370496

/-- Positive zero. -/
def zero : Double := ⟨false, 0, 0⟩

/-- Infinity of the given sign. -/
def infinity (negative : Bool) : Double := ⟨negative, 2047, 0⟩

/-- The value that stands for no number. -/
def nan : Double := ⟨false, 2047, 2251799813685248⟩

/-- One of many doubles that stand for no number. -/
def nanOf (which : Nat) : Double := ⟨false, 2047, nan.fraction + 1 + Fin.ofNat _ which⟩

/-- Whether the value stands for no number. -/
def isNaN (x : Double) : Bool := x.exponent == 2047 && x.fraction != 0

/-- Whether the value is one of the two infinities. -/
def isInfinite (x : Double) : Bool := x.exponent == 2047 && x.fraction == 0

/-- Whether the value is a number other than the infinities. -/
def isFinite (x : Double) : Bool := x.exponent != 2047

/-- Whether the value is one of the two zeros. -/
def isZero (x : Double) : Bool := x.exponent == 0 && x.fraction == 0

/-- The size of a finite double in units of the grid. -/
def magnitude (x : Double) : Nat :=
  if x.exponent.val = 0 then x.fraction.val
  else (fractionBound + x.fraction.val) * Nat.pow 2 (x.exponent.val - 1)

/-- A finite double in units of the grid, with its sign. -/
def units (x : Double) : Int :=
  if x.negative then -(x.magnitude : Int) else (x.magnitude : Int)

/-- The double with the given significand and power of two above the grid; what is too large for
the format is infinite. -/
def ofSignificand (negative : Bool) (significand shift : Nat) : Double :=
  if significand < fractionBound then
    ⟨negative, 0, Fin.ofNat _ significand⟩
  else
    let carried := significand == 2 * fractionBound
    let exponent := if carried then shift + 2 else shift + 1
    let fraction := if carried then 0 else significand - fractionBound
    if exponent < 2047 then ⟨negative, Fin.ofNat _ exponent, Fin.ofNat _ fraction⟩
    else infinity negative

/-- The nearest whole number to a quotient; a half goes to the even neighbour. -/
def nearest (numerator denominator : Nat) : Nat :=
  let quotient := numerator / denominator
  let twice := 2 * (numerator % denominator)
  if twice < denominator then quotient
  else if twice = denominator ∧ quotient % 2 = 0 then quotient
  else quotient + 1

/-- The double nearest to a quotient counted in units of the grid; ties go to the even one. -/
def ofUnits (negative : Bool) (numerator denominator : Nat) : Double :=
  let whole := numerator / denominator
  let shift := if whole < 2 * fractionBound then 0 else Nat.log2 whole - 52
  ofSignificand negative (nearest numerator (denominator * Nat.pow 2 shift)) shift

/-- The double nearest to a quotient of natural numbers; ties go to the even one. -/
def ofQuotient (negative : Bool) (numerator denominator : Nat) : Double :=
  ofUnits negative (numerator * gridOne) denominator

/-- The double nearest to a whole number, if it is within the range of the format. -/
def ofInt? (n : Int) : Option Double :=
  let x := ofQuotient (n < 0) n.natAbs 1
  if x.isInfinite then none else some x

/-- The number of digits above which the value of a decimal is certainly infinite, and below whose
negative it is certainly zero. -/
def decimalReach : Int := 400

/-- The double nearest to `digits * 10 ^ scale`, with the sign given apart. -/
def ofDecimal (negative : Bool) (digits : Nat) (scale : Int) : Double :=
  let leading : Int := (Digits.write digits).length + scale
  if digits = 0 ∨ leading < -decimalReach then { zero with negative }
  else if decimalReach < leading then infinity negative
  else if scale < 0 then ofQuotient negative digits (Nat.pow 10 scale.natAbs)
  else ofQuotient negative (digits * Nat.pow 10 scale.natAbs) 1

/-- The sum, rounded once. -/
def add (x y : Double) : Double :=
  if x.isNaN || y.isNaN then nan
  else if x.isInfinite then
    if y.isInfinite && x.negative != y.negative then nan else x
  else if y.isInfinite then y
  else
    let total := x.units + y.units
    if total = 0 then { zero with negative := x.negative && y.negative }
    else ofUnits (total < 0) total.natAbs 1

/-- The product, rounded once. -/
def mul (x y : Double) : Double :=
  let negative := x.negative != y.negative
  if x.isNaN || y.isNaN then nan
  else if x.isInfinite || y.isInfinite then
    if x.isZero || y.isZero then nan else infinity negative
  else ofUnits negative (x.magnitude * y.magnitude) gridOne

/-- The number of opposite sign. -/
def neg (x : Double) : Double := { x with negative := !x.negative }

/-- The quotient by a positive natural number, rounded once. -/
def divNat (x : Double) (n : Nat) : Double :=
  if x.isNaN then nan
  else if x.isInfinite then x
  else ofUnits x.negative x.magnitude n

end Double

/-- A place on the extended number line, finite places counted in units of the grid. -/
inductive Place where
  | below
  | finite (units : Int)
  | above
deriving DecidableEq

namespace Place

/-- Strictly to the left. -/
def lt : Place → Place → Bool
  | .below, .below => false
  | .below, _ => true
  | .finite _, .below => false
  | .finite x, .finite y => x < y
  | .finite _, .above => true
  | .above, _ => false

/-- The place of a whole number. -/
def ofInt (n : Int) : Place := .finite (n * (Double.gridOne : Int))

end Place

/-- The place of a double; the value that stands for no number has none. -/
def Double.place? (x : Double) : Option Place :=
  if x.isNaN then none
  else if x.isInfinite then some (if x.negative then .below else .above)
  else some (.finite x.units)

/-- A number of either sort. -/
inductive Number where
  | whole (n : Int)
  | real (x : Double)
deriving DecidableEq

namespace Number

/-- The place of a number on the extended line. -/
def place? : Number → Option Place
  | .whole n => some (Place.ofInt n)
  | .real x => x.place?

/-- Exact comparison across the two sorts; no number compares with the value that stands for
none. -/
def lt : Number → Number → Bool
  | .whole m, .whole n => m < n
  | a, b =>
    match a.place?, b.place? with
    | some p, some q => p.lt q
    | _, _ => false

/-- Exact equality across the two sorts. -/
def eq : Number → Number → Bool
  | .whole m, .whole n => m == n
  | a, b =>
    match a.place?, b.place? with
    | some p, some q => p == q
    | _, _ => false

/-- Less than or equal. -/
def le (a b : Number) : Bool := a.lt b || a.eq b

end Number

end Conform
