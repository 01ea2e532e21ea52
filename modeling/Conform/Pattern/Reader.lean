import Conform.Number.Whole
import Conform.Pattern.Item
import Conform.Pattern.Token
import Conform.Text.CharacterName
import Conform.Text.Identifier

/-!
# Reading regular expressions

The items that the text of a pattern denotes, or the reason why it denotes none.  Settings given
inside the text at its very beginning hold for all of it, others for their group.  A backslash that
ends the text is noticed as soon as the token before it has been taken.
-/

namespace Conform.Regex

/-- Why a text is not a regular expression, or why a search with it has no answer. -/
inductive Refusal where
  /-- The text breaks a rule of the notation. -/
  | malformed
  /-- A repetition count is out of range. -/
  | repetitionRange
  /-- A repetition count has too many digits to be read. -/
  | digitsToRead (length : Nat)
  /-- The text asks for the full character set and its caller for ASCII. -/
  | conflictingSettings
  /-- A condition on the text before a place looks back too far. -/
  | lookbehindRange
  /-- A group was found to end before its start. -/
  | reversedGroup
deriving DecidableEq

/-- What has been read so far. -/
structure Progress where
  rest : List Token
  nextGroup : Nat
  names : List (String × Nat)
  widths : List (Nat × Width)
  lookbehindStart : Option Nat
  awaited : List Nat
  flags : Flags
  full : Bool

/-- A step of reading. -/
abbrev Reader := StateT Progress (Except Refusal)

/-- Give up. -/
def malformed {α : Type} : Reader α := throw .malformed

/-- The next token, left in place. -/
def peek : Reader (Option Token) := do return (← get).rest.head?

/-- Go on past the next token, behind which the text may not end in a backslash. -/
def advance : Reader Unit := do
  modify fun progress => { progress with rest := progress.rest.drop 1 }
  if (← peek) == some .unfinished then malformed

/-- Take the next token. -/
def take? : Reader (Option Token) := do
  let next ← peek
  advance
  return next

/-- Take the next token if it is the given character. -/
def accept (c : Char) : Reader Bool := do
  if (← peek) == some (.plain c) then
    advance
    return true
  else return false

/-- Take up to `count` characters that pass a test. -/
def takeUpTo (test : Char → Bool) : Nat → Reader (List Char)
  | 0 => return []
  | count + 1 => do
    match (← peek).bind (Token.plain? test) with
    | some c =>
      advance
      return c :: (← takeUpTo test count)
    | none => return []

/-- Take all characters that pass a test. -/
def takeAll (test : Char → Bool) : Reader (List Char) := do
  takeUpTo test (← get).rest.length

/-- Take the characters before a closing one, and that one too. -/
def takeUntil (closing : Char) : Reader (List Char) := do
  let rest := (← get).rest
  let taken := rest.takeWhile (· != .plain closing)
  let after := rest.drop taken.length
  if taken.isEmpty || after.isEmpty then malformed
  else
    modify fun progress => { progress with rest := after }
    advance
    return taken.flatMap Token.chars

/-- Go on past a closing character, or to the end of the text, and say which. -/
def skipPast (closing : Char) : Reader Bool := do
  let after := (← get).rest.dropWhile (· != .plain closing)
  if after.isEmpty && (← get).rest.contains .unfinished then malformed
  else
    modify fun progress => { progress with rest := after }
    advance
    return !after.isEmpty

/-- Whether a character is an octal digit. -/
def isOctal (c : Char) : Bool := 48 ≤ c.toNat && c.toNat ≤ 55

/-- Whether a character is a decimal digit of ASCII. -/
def isDigit (c : Char) : Bool := Digits.isDigit c

/-- Whether a character is a hexadecimal digit. -/
def isHex (c : Char) : Bool := (CharSet.hexDigit? c).isSome

/-- The number that octal digits denote. -/
def readOctal (digits : List Char) : Nat :=
  digits.foldl (fun total digit => 8 * total + Digits.value digit) 0

/-- The class that an escape letter names, and whether it is negated. -/
def categoryOf? (c : Char) : Option (Category × Bool) :=
  match c with
  | 'd' => some (.digit, false)
  | 'D' => some (.digit, true)
  | 's' => some (.blank, false)
  | 'S' => some (.blank, true)
  | 'w' => some (.word, false)
  | 'W' => some (.word, true)
  | _ => none

/-- The control character that an escape letter names. -/
def controlOf? (c : Char) : Option Nat :=
  match c with
  | 'a' => some 7
  | 'b' => some 8
  | 'f' => some 12
  | 'n' => some 10
  | 'r' => some 13
  | 't' => some 9
  | 'v' => some 11
  | '\\' => some 92
  | _ => none

/-- The code point of exactly `count` hexadecimal digits. -/
def readCode (count : Nat) : Reader Nat := do
  let digits ← takeUpTo isHex count
  let code := CharSet.readHex digits
  if digits.length < count || 0x110000 ≤ code then malformed else return code

/-- The code point of the character whose name stands between braces. -/
def readNamed : Reader Nat := do
  if ← accept '\x7b' then
    let name ← takeUntil '\x7d'
    match CharacterName.codePoint? (String.ofList name) with
    | some code => return code
    | none => malformed
  else malformed

/-- The code point of an escape that denotes one character the same way everywhere; `c` follows the
backslash. -/
def readCommonEscape (c : Char) : Reader Nat := do
  if c == 'x' then readCode 2
  else if c == 'u' then readCode 4
  else if c == 'U' then readCode 8
  else if c == 'N' then readNamed
  else if isAsciiLetter c || isDigit c then malformed
  else return c.toNat

/-- The member of a bracketed class that an escape denotes; `c` follows the backslash. -/
def readClassEscape (c : Char) : Reader Member := do
  match categoryOf? c with
  | some (category, negated) => return .category category negated
  | none =>
    match controlOf? c with
    | some code => return .literal code
    | none =>
      if isOctal c then
        let more ← takeUpTo isOctal 2
        let code := readOctal (c :: more)
        if 255 < code then malformed else return .literal code
      else return .literal (← readCommonEscape c)

/-- The member of a bracketed class that begins with a token already taken. -/
def readClassMember : Token → Reader Member
  | .plain c => return .literal c.toNat
  | .escaped c => readClassEscape c
  | .unfinished => malformed

/-- The members of a bracketed class up to its closing bracket, latest first. -/
def readClassMembers : Nat → List Member → Reader (List Member)
  | 0, _ => malformed
  | fuel + 1, members => do
    match ← take? with
    | none => malformed
    | some token =>
      if token == .plain ']' && !members.isEmpty then return members
      else
        let member ← readClassMember token
        if ← accept '-' then
          match ← take? with
          | none => malformed
          | some (.plain ']') => return .literal 45 :: member :: members
          | some last =>
            match member, ← readClassMember last with
            | .literal lo, .literal hi =>
              if hi < lo then malformed
              else readClassMembers fuel (.range lo hi :: members)
            | _, _ => malformed
        else readClassMembers fuel (member :: members)

/-- The item of a bracketed class, its opening bracket being already taken. -/
def readClass : Reader Item := do
  let negated ← accept '^'
  let members ← readClassMembers ((← get).rest.length + 1) []
  match members.reverse.eraseDups with
  | [.literal code] => return .literal code negated
  | members => return .set members negated

/-- Whether a group is complete, so that it may be referred to. -/
def isClosed (progress : Progress) (index : Nat) : Bool :=
  progress.widths.any fun entry => entry.1 == index

/-- Check that a group may be referred to from inside a lookbehind. -/
def checkLookbehind (index : Nat) : Reader Unit := do
  let progress ← get
  match progress.lookbehindStart with
  | none => return
  | some start => if isClosed progress index && index < start then return else malformed

/-- A reference to an earlier group. -/
def readReference (index : Nat) : Reader Item := do
  let progress ← get
  if index < progress.nextGroup && isClosed progress index then
    checkLookbehind index
    return .reference index
  else malformed

/-- The place that an escape letter denotes. -/
def placeOf? (c : Char) : Option Place :=
  match c with
  | 'A' => some .textStart
  | 'b' => some .boundary
  | 'B' => some .inside
  | 'Z' => some .textEnd
  | _ => none

/-- The item of an escape that begins with a digit other than zero: a character of three octal
digits, or a reference. -/
def readNumbered (c : Char) : Reader Item := do
  let second ← takeUpTo isDigit 1
  let third ←
    if isOctal c && !second.isEmpty && second.all isOctal then takeUpTo isOctal 1 else pure []
  if third.isEmpty then readReference (Digits.read (c :: second))
  else
    let code := readOctal (c :: second ++ third)
    if 255 < code then malformed else return .literal code false

/-- The item that an escape denotes; `c` follows the backslash. -/
def readEscape (c : Char) : Reader Item := do
  match placeOf? c, categoryOf? c, controlOf? c with
  | some place, _, _ => return .place place
  | none, some (category, negated), _ => return .set [.category category negated] false
  | none, none, some code => return .literal code false
  | none, none, none =>
    if c == '0' then
      let more ← takeUpTo isOctal 2
      return .literal (readOctal (c :: more)) false
    else if isDigit c then readNumbered c
    else return .literal (← readCommonEscape c) false

/-- A repetition count. -/
def readCount (digits : List Char) : Reader Nat := do
  if digitLimit < digits.length then throw (.digitsToRead digits.length)
  else
    let count := Digits.read digits
    if count < unlimited then return count else throw .repetitionRange

/-- The counts between braces, or nothing, with all tokens left in place, when there is no such
thing here. -/
def readCounts : Reader (Option (Nat × Nat)) := do
  let before := (← get).rest
  if before.head? == some (.plain '\x7d') then return none
  else
    let low ← takeAll isDigit
    let high ← if ← accept ',' then takeAll isDigit else pure low
    if ← accept '\x7d' then
      let least ← if low.isEmpty then pure 0 else readCount low
      let most ← if high.isEmpty then pure unlimited else readCount high
      if most < least then malformed else return some (least, most)
    else
      modify fun progress => { progress with rest := before }
      return none

/-- The setting of a letter; the letter for the full character set has none. -/
def flagOf? (c : Char) : Option Flags :=
  match c with
  | 't' => some { template := true }
  | 'i' => some { ignoreCase := true }
  | 'm' => some { multiline := true }
  | 's' => some { dotAll := true }
  | 'x' => some { verbose := true }
  | 'a' => some { ascii := true }
  | 'u' => some {}
  | _ => none

/-- Whether a character is the letter of a setting. -/
def isFlag (c : Char) : Bool := (flagOf? c).isSome

/-- All settings of the letters. -/
def flagsOf (letters : List Char) : Flags :=
  letters.foldl (fun flags c => flags.union ((flagOf? c).getD {})) {}

/-- The change of settings inside round brackets, the first letter being already taken: settings for
the whole text, or for the group that follows. -/
def readChange (first : Char) : Reader (Change × Bool) := do
  let on ← if first == '-' then pure [] else do pure (first :: (← takeAll isFlag))
  if on.contains 'a' && on.contains 'u' then malformed
  else
    let change : Change := { on := flagsOf on, full := on.contains 'u' }
    let next ← if first == '-' then pure (some (Token.plain '-')) else take?
    if next == some (.plain ')') then return (change, true)
    else if on.contains 't' then malformed
    else if next == some (.plain ':') then return (change, false)
    else if next == some (.plain '-') then
      let off ← takeAll isFlag
      if off.isEmpty || (off.any fun c => c == 'a' || c == 'u' || c == 't' || on.contains c) then
        malformed
      else if (← take?) == some (.plain ':') then
        return ({ change with off := flagsOf off }, false)
      else malformed
    else malformed

/-- The greatest number of groups. -/
def groupBound : Nat := 1073741823

/-- The group that a condition asks about. -/
def readCondition (name : List Char) : Reader Nat := do
  let text := String.ofList name
  if isIdentifier text then
    match (← get).names.find? fun entry => entry.1 == text with
    | some (_, index) => return index
    | none => malformed
  else
    match Whole.read 10 name with
    | .ok (.ofNat index) =>
      if index = 0 || groupBound ≤ index then malformed
      else
        modify fun progress => { progress with awaited := index :: progress.awaited }
        return index
    | _ => malformed

/-- Open a group, with a name if it has one. -/
def openGroup (name : Option String) : Reader Nat := do
  let progress ← get
  let index := progress.nextGroup
  match name with
  | none => set { progress with nextGroup := index + 1 }
  | some name =>
    if progress.names.any fun entry => entry.1 == name then malformed
    else set { progress with nextGroup := index + 1, names := (name, index) :: progress.names }
  return index

/-- Close a group. -/
def closeGroup (index : Nat) (body : List Item) : Reader Unit :=
  modify fun progress =>
    { progress with widths := (index, width progress.widths body) :: progress.widths }

/-- Take the bracket that closes a group. -/
def closeBracket : Reader Unit := do
  if ← accept ')' then return else malformed

/-- Whether blanks and comments are left out: outside all groups, as the whole text says. -/
def isVerbose (nested verbose : Bool) : Reader Bool := do
  if nested then return verbose else return (← get).flags.verbose

/-- Whether a character separates words where blanks do not count. -/
def isLayout (c : Char) : Bool := c == ' ' || (9 ≤ c.toNat && c.toNat ≤ 13)

/-- Put a repetition around the latest item. -/
def repeatLast (items : List Item) (least most : Nat) : Reader (List Item) := do
  match items with
  | [] | .place _ :: _ | .repeated .. :: _ => malformed
  | item :: rest =>
    let greed ← do
      if ← accept '?' then pure Greed.lazy
      else if ← accept '+' then pure Greed.possessive
      else pure Greed.greedy
    return .repeated least most greed item.spliced :: rest

mutual

/-- Alternatives up to a closing bracket or the end. -/
def readChoice : Nat → Bool → Bool → Reader (List Item)
  | 0, _, _ => malformed
  | fuel + 1, verbose, nested => do
    let first ← readSequence fuel verbose nested (!nested) []
    return Item.ofBranches (first :: (← readBranches fuel verbose nested))

/-- The alternatives after the first. -/
def readBranches : Nat → Bool → Bool → Reader (List (List Item))
  | 0, _, _ => malformed
  | fuel + 1, verbose, nested => do
    if ← accept '|' then
      let branch ← readSequence fuel verbose nested false []
      return branch :: (← readBranches fuel verbose nested)
    else return []

/-- Items up to a bar, a closing bracket or the end; those already read come latest first. -/
def readSequence : Nat → Bool → Bool → Bool → List Item → Reader (List Item)
  | 0, _, _, _, _ => malformed
  | fuel + 1, verbose, nested, leading, items => do
    let next ← peek
    if next.isNone || next == some (.plain '|') || next == some (.plain ')') then
      return items.reverse.flatMap Item.spliced
    else
      let items ← readItem fuel (← isVerbose nested verbose) leading items
      readSequence fuel verbose nested leading items

/-- One more item, or nothing where the text has layout, a comment or settings. -/
def readItem : Nat → Bool → Bool → List Item → Reader (List Item)
  | 0, _, _, _ => malformed
  | fuel + 1, verbose, leading, items => do
    match ← take? with
    | none => return items
    | some .unfinished => malformed
    | some (.escaped c) => return (← readEscape c) :: items
    | some (.plain c) =>
      if verbose && isLayout c then return items
      else if verbose && c == '#' then
        let _ ← skipPast '\n'
        return items
      else if c == '[' then return (← readClass) :: items
      else if c == '.' then return .any :: items
      else if c == '^' then return .place .start :: items
      else if c == '$' then return .place .finish :: items
      else if c == '?' then repeatLast items 0 1
      else if c == '*' then repeatLast items 0 unlimited
      else if c == '+' then repeatLast items 1 unlimited
      else if c == '\x7b' then
        match ← readCounts with
        | none => return .literal c.toNat false :: items
        | some (least, most) => repeatLast items least most
      else if c == '(' then readGroup fuel verbose leading items
      else return .literal c.toNat false :: items

/-- What follows an opening round bracket. -/
def readGroup : Nat → Bool → Bool → List Item → Reader (List Item)
  | 0, _, _, _ => malformed
  | fuel + 1, verbose, leading, items => do
    let capture (name : Option String) : Reader (List Item) := do
      let index ← openGroup name
      let body ← readChoice fuel verbose true
      closeBracket
      closeGroup index body
      return .group (some index) {} body :: items
    let enclosed (verbose : Bool) (wrap : List Item → Item) : Reader (List Item) := do
      let body ← readChoice fuel verbose true
      closeBracket
      return wrap body :: items
    let look (behind negated : Bool) : Reader (List Item) := do
      let before := (← get).lookbehindStart
      if behind && before.isNone then
        modify fun progress => { progress with lookbehindStart := some progress.nextGroup }
      let body ← readChoice fuel verbose true
      if behind then modify fun progress => { progress with lookbehindStart := before }
      closeBracket
      return .look behind negated body :: items
    if ← accept '?' then
      match ← take? with
      | some (.plain 'P') =>
        if ← accept '<' then
          let name := String.ofList (← takeUntil '>')
          if isIdentifier name then capture (some name) else malformed
        else if ← accept '=' then
          let name := String.ofList (← takeUntil ')')
          match (← get).names.find? fun entry => entry.1 == name with
          | some (_, index) => return (← readReference index) :: items
          | none => malformed
        else malformed
      | some (.plain ':') => enclosed verbose (.group none {})
      | some (.plain '#') => if ← skipPast ')' then return items else malformed
      | some (.plain '=') => look false false
      | some (.plain '!') => look false true
      | some (.plain '<') =>
        if ← accept '=' then look true false
        else if ← accept '!' then look true true
        else malformed
      | some (.plain '(') =>
        let index ← readCondition (← takeUntil ')')
        checkLookbehind index
        let present ← readSequence fuel verbose true false []
        let absent ← if ← accept '|' then readSequence fuel verbose true false [] else pure []
        closeBracket
        return .conditional index present absent :: items
      | some (.plain '>') => enclosed verbose .atomic
      | some (.plain c) =>
        if isFlag c || c == '-' then
          let (change, whole) ← readChange c
          if whole then
            if leading && items.isEmpty then
              modify fun progress => { progress with
                flags := progress.flags.union change.on, full := progress.full || change.full }
              return items
            else malformed
          else
            enclosed ((verbose || change.on.verbose) && !change.off.verbose) (.group none change)
        else malformed
      | _ => malformed
    else capture none

end

/-- What the text of a pattern denotes: its items, the settings it ends up with, and the widths of
its groups. -/
structure Reading where
  items : List Item
  flags : Flags
  widths : List (Nat × Width)

/-- Read the whole text of a pattern under the settings of its caller. -/
def Reading.ofText (source : String) (flags : Flags) : Except Refusal Reading := do
  let tokens := Token.ofChars source.toList
  if tokens.head? == some .unfinished then throw .malformed
  else
    let start : Progress := ⟨tokens, 1, [], [], none, [], flags, false⟩
    let (items, progress) ← (readChoice (4 * tokens.length + 8) false false).run start
    if progress.flags.ascii && progress.full then throw .conflictingSettings
    else if progress.rest.isEmpty && progress.awaited.all (· < progress.nextGroup) then
      return ⟨items, progress.flags, progress.widths⟩
    else throw .malformed

end Conform.Regex
