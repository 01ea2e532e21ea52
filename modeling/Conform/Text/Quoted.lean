import Conform.Text.Printable

/-!
# Quoted text

Text is quoted between single quotes, or between double quotes when it holds a single quote and no
double one.  The chosen quote and the backslash are escaped, tab, line feed and carriage return have
short escapes, and every other character that is not printable is written by its code point in
hexadecimal, with two, four or eight digits.
-/

namespace Conform

/-- The lower-case hexadecimal digit of a number below sixteen. -/
def hexDigit (n : Nat) : Char :=
  if n < 10 then Char.ofNat (48 + n) else Char.ofNat (87 + n)

/-- The last `width` hexadecimal digits of a number. -/
def hexDigits : Nat → Nat → List Char
  | 0, _ => []
  | width + 1, n => hexDigits width (n / 16) ++ [hexDigit (n % 16)]

namespace Quoted

/-- The quote to put around text made of the given characters. -/
def quoteFor (chars : List Char) : Char :=
  if chars.contains '\x27' && !chars.contains '\x22' then '\x22' else '\x27'

/-- A character as an escape by its code point. -/
def codeEscape (c : Char) : List Char :=
  if c.toNat < 0x100 then '\\' :: 'x' :: hexDigits 2 c.toNat
  else if c.toNat < 0x10000 then '\\' :: 'u' :: hexDigits 4 c.toNat
  else '\\' :: 'U' :: hexDigits 8 c.toNat

/-- The written form of one character between the given quotes. -/
def escape (quote : Char) (c : Char) : List Char :=
  if c == quote || c == '\\' then ['\\', c]
  else if c == '\t' then ['\\', 't']
  else if c == '\n' then ['\\', 'n']
  else if c == '\r' then ['\\', 'r']
  else if isPrintable c then [c]
  else codeEscape c

/-- The written form of one byte between the given quotes. -/
def escapeByte (quote : Char) (byte : UInt8) : List Char :=
  let c := Char.ofNat byte.toNat
  if 128 ≤ byte.toNat then '\\' :: 'x' :: hexDigits 2 byte.toNat else escape quote c

end Quoted

/-- Text between quotes, with escapes. -/
def quoted (text : String) : String :=
  let chars := text.toList
  let quote := Quoted.quoteFor chars
  String.ofList (quote :: chars.flatMap (Quoted.escape quote) ++ [quote])

/-- Text between quotes, with escapes for all that is beyond ASCII. -/
def quotedAscii (text : String) : String :=
  String.ofList ((quoted text).toList.flatMap fun c =>
    if c.toNat < 128 then [c] else Quoted.codeEscape c)

/-- Bytes between quotes, with escapes, after a marking letter. -/
def quotedBytes (bytes : List UInt8) : String :=
  let quote := Quoted.quoteFor (bytes.map fun byte => Char.ofNat byte.toNat)
  String.ofList ('b' :: quote :: bytes.flatMap (Quoted.escapeByte quote) ++ [quote])

/-- Texts with a separator between each two of them. -/
def joinWith (separator : String) : List String → String
  | [] => ""
  | [last] => last
  | first :: rest => first ++ separator ++ joinWith separator rest

end Conform
