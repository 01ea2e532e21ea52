import Conform.Number.Notation
import Conform.Text.Quoted

/-!
# Directives

A directive such as `%(name)-8s` stands for a part of a record.  Behind the name it may have flags,
a least width, a precision and a letter for the size, which means nothing; the last letter says how
the part is written.  A part that cannot be written in that way has no text.
-/

namespace Conform

/-- A part of a record: a text, a whole number, or something that can only be shown. -/
inductive RecordPart where
  | text (text : String)
  | whole (n : Int)
  | object (shown : String)

/-- What a directive asks for. -/
structure Directive where
  name : String
  flags : List Char
  width : Nat
  precision : Option Nat
  letter : Char

namespace Directive

/-- The characters up to the parenthesis that closes one opened before, and what follows it. -/
def splitName : Nat → List Char → Option (List Char × List Char)
  | _, [] => none
  | depth, ')' :: rest =>
    match depth with
    | 0 => some ([], rest)
    | depth + 1 => (splitName depth rest).map fun (name, rest) => (')' :: name, rest)
  | depth, c :: rest =>
    (splitName (if c == '(' then depth + 1 else depth) rest).map fun (name, rest) =>
      (c :: name, rest)

/-- The digits that a text begins with, as a number, and what follows them. -/
def splitNumber (chars : List Char) : Nat × List Char :=
  let digits := chars.takeWhile Digits.isDigit
  (Digits.read digits, chars.drop digits.length)

/-- The directive that a text begins with, behind its percent sign, and what follows it. -/
def read? : List Char → Option (Directive × List Char)
  | '(' :: rest => do
    let (name, rest) ← splitName 0 rest
    let flags := rest.takeWhile fun c => "#0+- ".contains c
    let (width, rest) := splitNumber (rest.drop flags.length)
    let (precision, rest) := match rest with
      | '.' :: rest =>
        let (precision, rest) := splitNumber rest
        (some precision, rest)
      | rest => (none, rest)
    let rest := match rest with
      | c :: more => if c == 'h' || c == 'l' || c == 'L' then more else c :: more
      | [] => []
    match rest with
    | letter :: rest =>
      return ({ name := String.ofList name, flags, width, precision, letter }, rest)
    | [] => none
  | _ => none

/-- Whether a flag is set. -/
def has (directive : Directive) (flag : Char) : Bool := directive.flags.contains flag

/-- Whether a text is put on the left of its field. -/
def onLeft (directive : Directive) : Bool := directive.has '-'

/-- A text in a field of the least width. -/
def inField (directive : Directive) (chars : List Char) : String :=
  let blanks := List.replicate (directive.width - chars.length) ' '
  String.ofList (if directive.onLeft then chars ++ blanks else blanks ++ chars)

/-- A text, cut to the precision. -/
def showText (directive : Directive) (text : String) : String :=
  directive.inField (match directive.precision with
    | some most => text.toList.take most
    | none => text.toList)

/-- A number in a field of the least width.  Zeros fill it behind the sign and the mark of the
base. -/
def showNumber (directive : Directive) (negative : Bool) (mark digits : List Char) : String :=
  let sign := if negative then ['-'] else if directive.has '+' then ['+']
    else if directive.has ' ' then [' '] else []
  let lead := sign ++ mark
  if directive.has '0' && !directive.onLeft then
    let fill := Notation.zeros (directive.width - (lead.length + digits.length))
    String.ofList (lead ++ fill ++ digits)
  else directive.inField (lead ++ digits)

/-- A whole number in a base, with as many digits as the precision says at least. -/
def showWhole (directive : Directive) (base : Nat) (mark : List Char) (n : Int) : String :=
  let digits := (Notation.digits base n.natAbs).map hexDigit
  let cased := if directive.letter == 'X' then digits.map Char.toUpper else digits
  let fill := Notation.zeros (directive.precision.getD 0 - digits.length)
  directive.showNumber (n < 0) (if directive.has '#' then mark else []) (fill ++ cased)

/-- The number of digits after the point when nothing else is asked for. -/
def defaultPrecision : Nat := 6

/-- A whole number as a decimal, rounded to a double, if there is one. -/
def showDecimal (directive : Directive) (n : Int) : Option String := do
  let size := (← Double.ofInt? n).magnitude / Double.gridOne
  let precision := directive.precision.getD defaultPrecision
  let keepPoint := directive.has '#'
  let digits ← match directive.letter with
    | 'f' | 'F' => some (Notation.fixed keepPoint precision size)
    | 'e' | 'E' => some (Notation.exponential keepPoint directive.letter precision size)
    | 'g' => some (Notation.general keepPoint 'e' precision size)
    | 'G' => some (Notation.general keepPoint 'E' precision size)
    | _ => none
  return directive.showNumber (n < 0) [] digits

/-- One character: a text that is one, or a code of one. -/
def showCharacter (directive : Directive) : RecordPart → Option String
  | .text text => if text.length = 1 then some (directive.inField text.toList) else none
  | .whole n =>
    if 0 ≤ n ∧ n < 0x110000 then some (directive.inField [Char.ofNat n.toNat]) else none
  | .object _ => none

/-- A whole number, in the way that the letter says. -/
def showInt (directive : Directive) (n : Int) : Option String :=
  match directive.letter with
  | 'd' | 'i' | 'u' =>
    if withinDigitLimit n then
      let digits := (Digits.write n.natAbs).toList
      let fill := Notation.zeros (directive.precision.getD 0 - digits.length)
      some (directive.showNumber (n < 0) [] (fill ++ digits))
    else none
  | 'o' => some (directive.showWhole 8 ['0', 'o'] n)
  | 'x' => some (directive.showWhole 16 ['0', 'x'] n)
  | 'X' => some (directive.showWhole 16 ['0', 'X'] n)
  | 's' | 'r' | 'a' =>
    if withinDigitLimit n then some (directive.showText (wholeText n)) else none
  | _ => directive.showDecimal n

/-- The text of a part, if it can be written in the way that the directive says. -/
def show? (directive : Directive) (part : RecordPart) : Option String :=
  if directive.letter == 'c' then directive.showCharacter part
  else
    match part with
    | .whole n => directive.showInt n
    | .text text =>
      match directive.letter with
      | 's' => some (directive.showText text)
      | 'r' => some (directive.showText (quoted text))
      | 'a' => some (directive.showText (quotedAscii text))
      | _ => none
    | .object shown =>
      match directive.letter with
      | 's' | 'r' | 'a' => some (directive.showText shown)
      | _ => none

end Directive

end Conform
