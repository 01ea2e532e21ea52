import Conform.Number.Digits
import Conform.Text.Classes

/-!
# Whole numbers in text

A whole number is written as a sign, digits of any script with single underscores between them, and
blanks around the whole.  In the bases 2, 8 and 16 the digits may be announced, as in `0x1f`.
Decimal digit strings beyond the digit limit are refused before what follows them is looked at.
-/

namespace Conform.Whole

/-- Why a text is not a whole number. -/
inductive Flaw where
  | malformed
  | tooLong (digits : Nat)
deriving DecidableEq

/-- The value of a digit of any base up to sixteen. -/
def digit? (base : Nat) (c : Char) : Option Nat :=
  match decimalValue? c with
  | some value => if value < base then some value else none
  | none =>
    match CharSet.hexDigit? c with
    | some value => if value < base then some value else none
    | none => none

/-- The values of the digits that a text begins with, and the rest; nothing where an underscore does
not stand between digits. -/
def scan (base : Nat) (afterUnderscore : Bool) : List Char → Option (List Nat × List Char)
  | [] => if afterUnderscore then none else some ([], [])
  | c :: rest =>
    match digit? base c with
    | some value => (scan base false rest).map fun (values, rest) => (value :: values, rest)
    | none =>
      if afterUnderscore then none
      else if c == '_' then scan base true rest
      else some ([], c :: rest)

/-- Whether a letter announces a base. -/
def announces (base : Nat) (c : Char) : Bool :=
  (base == 2 && (c == 'b' || c == 'B')) || (base == 8 && (c == 'o' || c == 'O')) ||
    (base == 16 && (c == 'x' || c == 'X'))

/-- The digits of a number without the announcement of their base. -/
def unannounced (base : Nat) (chars : List Char) : List Char :=
  match chars with
  | zero :: c :: rest =>
    if decimalValue? zero == some 0 && announces base c then
      if rest.head? == some '_' then rest.drop 1 else rest
    else zero :: c :: rest
  | other => other

/-- A sign, and what follows it. -/
def splitSign (chars : List Char) : Bool × List Char :=
  match chars with
  | '-' :: rest => (true, rest)
  | '+' :: rest => (false, rest)
  | rest => (false, rest)

/-- The number that digits in a base denote, most significant digit first. -/
def ofDigits (base : Nat) (digits : List Nat) : Nat :=
  digits.foldl (fun total digit => base * total + digit) 0

/-- The whole number that a text denotes in a base. -/
def read (base : Nat) (text : List Char) : Except Flaw Int :=
  let (negative, unsigned) := splitSign (text.dropWhile isSpace)
  let digits := unannounced base unsigned
  if digits.head? == some '_' then .error .malformed
  else
    match scan base false digits with
    | none | some ([], _) => .error .malformed
    | some (values, rest) =>
      if base == 10 && digitLimit < values.length then .error (.tooLong values.length)
      else if !rest.all isSpace then .error .malformed
      else
        let size : Int := ofDigits base values
        .ok (if negative then -size else size)

end Conform.Whole
