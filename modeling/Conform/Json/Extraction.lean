import Conform.Text.Classes

/-!
# Finding JSON in prose

Model output wraps JSON in prose and code fences.  Fences are removed wherever they stand; then the
payload is the text from the first opening bracket to the bracket that closes it, where brackets
inside quoted text do not count, or to the end if nothing closes it.
-/

namespace Conform.Extraction

/-- Whether four characters are the tag of a fence, in any letter case. -/
def isTag (a b c d : Char) : Bool :=
  (a == 'j' || a == 'J') && (b == 's' || b == 'S' || b == '\u017f') && (c == 'o' || c == 'O') &&
    (d == 'n' || d == 'N')

/-- Whether a text begins with the tag of a fence. -/
def isTagged : List Char → Bool
  | a :: b :: c :: d :: _ => isTag a b c d
  | _ => false

/-- The mark that begins a fence. -/
def fenceMark : List Char := ['\x60', '\x60', '\x60']

/-- The length of the fence at the front of a text: three backticks and an optional tag. -/
def fenceLength (chars : List Char) : Nat :=
  if fenceMark.isPrefixOf chars then if isTagged (chars.drop 3) then 7 else 3 else 0

/-- The text without fences, its first `skip` characters being dropped. -/
def dropFences : Nat → List Char → List Char
  | _, [] => []
  | skip + 1, _ :: rest => dropFences skip rest
  | 0, c :: rest =>
    match fenceLength (c :: rest) with
    | 0 => c :: dropFences 0 rest
    | length + 1 => dropFences length rest

/-- The text without fences and without blanks at its ends. -/
def strip (chars : List Char) : List Char := trimBlanks (dropFences 0 chars)

/-- Where a scan stands: inside quoted text or not, and right after a backslash there or not. -/
inductive Mode where
  | plain
  | quoted
  | escaped
deriving DecidableEq

/-- The length of a text up to the bracket that brings the depth back to zero. -/
def closingLength? (opener closer : Char) : Mode → Nat → List Char → Option Nat
  | _, _, [] => none
  | .escaped, depth, _ :: rest => (closingLength? opener closer .quoted depth rest).map (· + 1)
  | .quoted, depth, c :: rest =>
    let mode := if c == '\\' then Mode.escaped else if c == '\x22' then .plain else .quoted
    (closingLength? opener closer mode depth rest).map (· + 1)
  | .plain, depth, c :: rest =>
    if c == '\x22' then (closingLength? opener closer .quoted depth rest).map (· + 1)
    else if c == opener then (closingLength? opener closer .plain (depth + 1) rest).map (· + 1)
    else if c == closer then
      if depth ≤ 1 then some 1
      else (closingLength? opener closer .plain (depth - 1) rest).map (· + 1)
    else (closingLength? opener closer .plain depth rest).map (· + 1)

/-- Whether a character opens a payload. -/
def isOpener (c : Char) : Bool := c == '\x7b' || c == '['

/-- The bracket that closes an opening one. -/
def closerOf (c : Char) : Char := if c == '[' then ']' else '\x7d'

/-- The length of the payload that a text begins with, if it is closed. -/
def payloadLength? : List Char → Option Nat
  | [] => none
  | c :: rest => closingLength? c (closerOf c) .plain 0 (c :: rest)

/-- The payload of a text; all of it if there is no opening bracket. -/
def payload (chars : List Char) : List Char :=
  let stripped := strip chars
  match stripped.dropWhile fun c => !isOpener c with
  | [] => stripped
  | found =>
    match payloadLength? found with
    | some length => found.take length
    | none => found

end Conform.Extraction
