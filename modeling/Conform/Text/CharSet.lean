/-!
# Sets of characters

A set of characters beyond ASCII is a list of closed ranges of code points, written as hexadecimal
text: one code point, or two joined by a hyphen, with blanks between the ranges.
-/

namespace Conform

/-- A set of characters, as closed ranges of code points. -/
structure CharSet where
  ranges : Array (Nat × Nat)

namespace CharSet

/-- The value of a hexadecimal digit in lower or upper case. -/
def hexDigit? (c : Char) : Option Nat :=
  let code := c.toNat
  if 48 ≤ code ∧ code ≤ 57 then some (code - 48)
  else if 97 ≤ code ∧ code ≤ 102 then some (code - 87)
  else if 65 ≤ code ∧ code ≤ 70 then some (code - 55)
  else none

/-- The number that hexadecimal text denotes; other characters count as zero. -/
def readHex (digits : List Char) : Nat :=
  digits.foldl (fun total digit => 16 * total + (hexDigit? digit).getD 0) 0

/-- The words of a text between single blanks. -/
def words (code : List Char) : List (List Char) :=
  let step (state : List Char × List (List Char)) (c : Char) :=
    if c == ' ' then ([], state.1.reverse :: state.2) else (c :: state.1, state.2)
  let (last, done) := code.foldl step ([], [])
  (last.reverse :: done).reverse

/-- The range that one word of the written form denotes. -/
def readRange (word : List Char) : Nat × Nat :=
  let first := word.takeWhile (· != '-')
  let rest := (word.drop first.length).drop 1
  (readHex first, if rest.isEmpty then readHex first else readHex rest)

/-- The words of several lines. -/
def wordsOf (lines : List String) : List (List Char) := lines.flatMap fun line => words line.toList

/-- The set that the lines of its written form denote. -/
def ofLines (lines : List String) : CharSet := ⟨((wordsOf lines).map readRange).toArray⟩

/-- Whether a character belongs to the set. -/
def contains (set : CharSet) (c : Char) : Bool :=
  set.ranges.any fun (first, last) => first ≤ c.toNat && c.toNat ≤ last

end CharSet

end Conform
