import Conform.Number.Digits
import Conform.Text.CharSet

/-!
# Tokens of YAML

The text of a YAML document as tokens.  Block structure is marked by indentation, so the scan keeps
the open indentation levels and emits a token where one begins or ends.  A key need not be
announced: where a key might begin is remembered, and when its colon turns up the key token is put
in front of it.
-/

namespace Conform.Yaml

/-- Why a document is refused: it is not well-formed, or it holds a number that is too long or an
escape for a code that no character has. -/
inductive Refusal where
  | malformed
  | characterRange
  | characterOverflow
  | digitsToRead (length : Nat)
deriving DecidableEq

/-- A token, or what keeps the tokens from going on. -/
inductive Token where
  | streamEnd
  | versionDirective (major : Nat)
  | tagDirective (handle lead : String)
  | otherDirective
  | documentStart
  | documentEnd
  | blockSequenceStart
  | blockMappingStart
  | blockEnd
  | flowSequenceStart
  | flowSequenceEnd
  | flowMappingStart
  | flowMappingEnd
  | blockEntry
  | flowEntry
  | key
  | value
  | alias (name : String)
  | anchor (name : String)
  | tag (handle : Option String) (suffix : String)
  | scalar (text : String) (plain : Bool)
  | broken (refusal : Refusal)
deriving DecidableEq

/-- A place where a key may begin. -/
structure PossibleKey where
  flowLevel : Nat
  tokenNumber : Nat
  required : Bool
  index : Nat
  line : Nat
  column : Nat

/-- How far the scan has come. -/
structure Scan where
  rest : List Char
  index : Nat := 0
  line : Nat := 0
  column : Nat := 0
  flowLevel : Nat := 0
  indent : Int := -1
  indents : List Int := []
  keyAllowed : Bool := true
  possibleKeys : List PossibleKey := []
  tokens : Array Token := #[]
  done : Bool := false

/-- A step of the scan. -/
abbrev Scanner := StateT Scan (Except Refusal)

/-- Give up. -/
def refuse {α : Type} : Scanner α := throw .malformed

/-- What stands for the end of the text. -/
def endMark : Char := '\x00'

/-- The character at a distance. -/
def peekAt (distance : Nat) : Scanner Char := do
  return ((← get).rest[distance]?).getD endMark

/-- The next character. -/
def peek : Scanner Char := peekAt 0

/-- Whether a character ends a line. -/
def isBreak (c : Char) : Bool :=
  c == '\n' || c == '\r' || c == '\u0085' || c == '\u2028' || c == '\u2029'

/-- Whether a character ends a line or the text. -/
def isBreakOrEnd (c : Char) : Bool := isBreak c || c == endMark

/-- Whether a character separates words: a blank, a tab, or the end of a line or the text. -/
def isSpace (c : Char) : Bool := c == ' ' || c == '\t' || isBreakOrEnd c

/-- Go on past one character. -/
def advance : Scanner Unit :=
  modify fun scan =>
    match scan.rest with
    | [] => scan
    | c :: rest =>
      if isBreak c && !(c == '\r' && rest.head? == some '\n') then
        { scan with rest, index := scan.index + 1, line := scan.line + 1, column := 0 }
      else if c == '\ufeff' then { scan with rest, index := scan.index + 1 }
      else { scan with rest, index := scan.index + 1, column := scan.column + 1 }

/-- Go on past a number of characters. -/
def advanceBy : Nat → Scanner Unit
  | 0 => return
  | count + 1 => do
    advance
    advanceBy count

/-- Take the characters that pass a test. -/
def takeWhile (test : Char → Bool) : Scanner (List Char) := do
  let taken := (← get).rest.takeWhile test
  advanceBy taken.length
  return taken

/-- Take the end of a line, if there is one here; most sorts of it are one and the same. -/
def takeBreak : Scanner (List Char) := do
  let c ← peek
  if c == '\r' || c == '\n' || c == '\u0085' then
    if c == '\r' && (← peekAt 1) == '\n' then advanceBy 2 else advance
    return ['\n']
  else if c == '\u2028' || c == '\u2029' then
    advance
    return [c]
  else return []

/-- Emit a token. -/
def emit (token : Token) : Scanner Unit :=
  modify fun scan => { scan with tokens := scan.tokens.push token }

/-- Put a token in front of the one with the given number. -/
def emitAt (number : Nat) (token : Token) : Scanner Unit :=
  modify fun scan =>
    let tokens := scan.tokens.toList
    { scan with tokens := (tokens.take number ++ token :: tokens.drop number).toArray }

/-- The number of further characters that a key may extend over. -/
def keyReach : Nat := 1024

/-- Whether a key would extend too far. -/
def Scan.isStale (scan : Scan) (key : PossibleKey) : Bool :=
  key.line != scan.line || keyReach < scan.index - key.index

/-- Forget the places of keys that have come to nothing; a key that has to be there is an error. -/
def dropStaleKeys : Scanner Unit := do
  let scan ← get
  if scan.possibleKeys.any fun key => scan.isStale key && key.required then refuse
  else set { scan with possibleKeys := scan.possibleKeys.filter fun key => !scan.isStale key }

/-- Forget the place of a key at the current level. -/
def dropKey : Scanner Unit := do
  let scan ← get
  let here (key : PossibleKey) : Bool := key.flowLevel == scan.flowLevel
  if scan.possibleKeys.any fun key => here key && key.required then refuse
  else set { scan with possibleKeys := scan.possibleKeys.filter fun key => !here key }

/-- Remember that a key may begin here. -/
def saveKey : Scanner Unit := do
  if (← get).keyAllowed then
    dropKey
    modify fun scan =>
      let key : PossibleKey := {
        flowLevel := scan.flowLevel
        tokenNumber := scan.tokens.size
        required := scan.flowLevel == 0 && scan.indent == scan.column
        index := scan.index
        line := scan.line
        column := scan.column }
      { scan with possibleKeys := scan.possibleKeys ++ [key] }

/-- Say whether a key may begin next. -/
def allowKey (allowed : Bool) : Scanner Unit :=
  modify fun scan => { scan with keyAllowed := allowed }

/-- End the blocks that are indented more than a column. -/
def unwindTo (column : Int) : List Int → Scanner Unit
  | [] => return
  | outer :: rest => do
    let scan ← get
    if scan.flowLevel == 0 && column < scan.indent then
      emit .blockEnd
      modify fun scan => { scan with indent := outer, indents := rest }
      unwindTo column rest

/-- End the blocks that are indented more than a column. -/
def unwind (column : Int) : Scanner Unit := do unwindTo column (← get).indents

/-- Open a block at a column, if it is indented more than the one around it. -/
def openBlock (column : Int) : Scanner Bool := do
  let scan ← get
  if scan.indent < column then
    set { scan with indents := scan.indent :: scan.indents, indent := column }
    return true
  else return false

/-- Whether three characters and a space after them are here. -/
def atMarker (c : Char) : Scanner Bool := do
  let rest := (← get).rest
  return rest.take 3 == [c, c, c] && isSpace ((rest[3]?).getD endMark)

/-- Whether a marker between documents is here. -/
def atSeparator : Scanner Bool := do
  let start ← atMarker '-'
  let finish ← atMarker '.'
  return start || finish

/-- Drop blanks, comments and ends of lines up to the next token. -/
def skipToToken : Nat → Scanner Unit
  | 0 => return
  | fuel + 1 => do
    let _ ← takeWhile (· == ' ')
    if (← peek) == '#' then
      let _ ← takeWhile fun c => !isBreakOrEnd c
    if (← takeBreak).isEmpty then return
    else
      if (← get).flowLevel == 0 then allowKey true
      skipToToken fuel

/-- Whether a character may occur in names. -/
def isNameChar (c : Char) : Bool := c.isAlphanum || c == '-' || c == '_'

/-- A name, of one character or more. -/
def takeName : Scanner String := do
  let name ← takeWhile isNameChar
  if name.isEmpty then refuse else return String.ofList name

/-- Whether a character may follow a name. -/
def mayFollowName (c : Char) : Bool := isSpace c || "?:,]\x7d%@\x60".contains c

/-- A reference or its target, whose sign is here. -/
def scanReference : Scanner String := do
  advance
  let name ← takeName
  if mayFollowName (← peek) then return name else refuse

/-- Whether a character may occur in a tag. -/
def isTagChar (c : Char) : Bool := c.isAlphanum || "-;/?:@&=+$,_.!~*\x27()[]%".contains c

/-- The bytes of the characters of a tag, which are ASCII; an escape stands for a byte. -/
def tagBytes? : List Char → Option (List UInt8)
  | [] => some []
  | '%' :: a :: b :: rest => do
    let high ← CharSet.hexDigit? a
    let low ← CharSet.hexDigit? b
    return UInt8.ofNat (16 * high + low) :: (← tagBytes? rest)
  | '%' :: _ => none
  | c :: rest => do return UInt8.ofNat c.toNat :: (← tagBytes? rest)

/-- The text of the characters of a tag. -/
def tagText? (chars : List Char) : Option String := do
  String.fromUTF8? ⟨(← tagBytes? chars).toArray⟩

/-- The body of a tag, of one character or more. -/
def takeTagBody : Scanner String := do
  let body ← takeWhile isTagChar
  if body.isEmpty then refuse
  else
    match tagText? body with
    | some text => return text
    | none => refuse

/-- The handle of a tag, between exclamation marks. -/
def takeHandle : Scanner String := do
  if (← peek) != '!' then refuse
  else
    advance
    if (← peek) == ' ' then return "!"
    else
      let name ← takeWhile isNameChar
      if (← peek) != '!' then refuse
      else
        advance
        return "!" ++ String.ofList name ++ "!"

/-- A tag, whose exclamation mark is here. -/
def scanTag : Scanner Token := do
  let next ← peekAt 1
  let token ←
    if next == '<' then do
      advanceBy 2
      let suffix ← takeTagBody
      if (← peek) != '>' then refuse
      else
        advance
        pure (Token.tag none suffix)
    else if isSpace next then do
      advance
      pure (Token.tag none "!")
    else do
      let ahead := ((← get).rest.drop 1).takeWhile fun c => !(isBreakOrEnd c || c == ' ')
      if ahead.contains '!' then do
        let handle ← takeHandle
        pure (Token.tag (some handle) (← takeTagBody))
      else do
        advance
        pure (Token.tag (some "!") (← takeTagBody))
  let after ← peek
  if after == ' ' || isBreakOrEnd after then return token else refuse

/-- Drop the rest of a line, where only a comment may be. -/
def skipLine : Scanner Unit := do
  let _ ← takeWhile (· == ' ')
  if (← peek) == '#' then
    let _ ← takeWhile fun c => !isBreakOrEnd c
  if isBreakOrEnd (← peek) then
    let _ ← takeBreak
  else refuse

/-- A number of a version. -/
def takeVersionNumber : Scanner Nat := do
  let digits ← takeWhile Digits.isDigit
  if digits.isEmpty then refuse
  else if digitLimit < digits.length then throw (.digitsToRead digits.length)
  else return Digits.read digits

/-- Check that a blank or the end of the line is here. -/
def expectBlank : Scanner Unit := do
  let c ← peek
  if c == ' ' || isBreakOrEnd c then return else refuse

/-- A directive, whose percent sign is here. -/
def scanDirective : Scanner Token := do
  advance
  let name ← takeName
  expectBlank
  let token ←
    if name == "YAML" then do
      let _ ← takeWhile (· == ' ')
      let major ← takeVersionNumber
      if (← peek) != '.' then refuse
      else
        advance
        let _ ← takeVersionNumber
        expectBlank
        pure (Token.versionDirective major)
    else if name == "TAG" then do
      let _ ← takeWhile (· == ' ')
      let handle ← takeHandle
      if (← peek) != ' ' then refuse
      else
        let _ ← takeWhile (· == ' ')
        let lead ← takeTagBody
        expectBlank
        pure (Token.tagDirective handle lead)
    else do
      let _ ← takeWhile fun c => !isBreakOrEnd c
      pure Token.otherDirective
  skipLine
  return token

/-- Whether final line ends are kept, dropped, or reduced to one. -/
inductive Chomping where
  | clip
  | strip
  | keep
deriving DecidableEq

/-- The indentation sign of a block text, if it is here. -/
def takeIndentSign : Scanner (Option Nat) := do
  let c ← peek
  if Digits.isDigit c then
    if c == '0' then refuse
    else
      advance
      return some (Digits.value c)
  else return none

/-- The chomping sign of a block text, if it is here. -/
def takeChomping : Scanner (Option Chomping) := do
  let c ← peek
  if c == '+' then
    advance
    return some .keep
  else if c == '-' then
    advance
    return some .strip
  else return none

/-- The signs of a block text, in either order. -/
def takeBlockSigns : Scanner (Chomping × Option Nat) := do
  let signs ← match ← takeChomping with
    | some chomping => do pure (chomping, ← takeIndentSign)
    | none =>
      match ← takeIndentSign with
      | some indent => do pure ((← takeChomping).getD .clip, some indent)
      | none => pure (.clip, none)
  expectBlank
  return signs

/-- Blanks up to a column. -/
def skipBlanksTo (column : Nat) : Scanner Unit := do
  let scan ← get
  let blanks := (scan.rest.takeWhile (· == ' ')).length
  advanceBy (min blanks (column - scan.column))

/-- Empty lines of a block text, blanks up to its column included. -/
def takeEmptyLines (column : Nat) : Nat → Scanner (List Char)
  | 0 => return []
  | fuel + 1 => do
    skipBlanksTo column
    match ← takeBreak with
    | [] => return []
    | found => return found ++ (← takeEmptyLines column fuel)

/-- Empty lines in front of a block text, and the widest indentation among them. -/
def takeLeadingLines (widest : Nat) : Nat → Scanner (List Char × Nat)
  | 0 => return ([], widest)
  | fuel + 1 => do
    let c ← peek
    if c == ' ' then
      advance
      takeLeadingLines (max widest (← get).column) fuel
    else
      match ← takeBreak with
      | [] => return ([], widest)
      | found =>
        let (rest, widest) ← takeLeadingLines widest fuel
        return (found ++ rest, widest)

/-- The lines of a block text: its characters, the last line end, and the line ends after it.
`pending` are the line ends in front. -/
def takeBlockLines (folded : Bool) (indent : Nat) (pending lastBreak : List Char) :
    Nat → Scanner (List Char × List Char × List Char)
  | 0 => return ([], lastBreak, pending)
  | fuel + 1 => do
    let scan ← get
    let first ← peek
    if scan.column == indent && first != endMark then
      let solid := !(first == ' ' || first == '\t')
      let line ← takeWhile fun c => !isBreakOrEnd c
      let lineBreak ← takeBreak
      let following ← takeEmptyLines indent fuel
      let next ← peek
      let goesOn := (← get).column == indent && next != endMark
      let joint :=
        if !goesOn then []
        else if folded && lineBreak == ['\n'] && solid && !(next == ' ' || next == '\t') then
          if following.isEmpty then [' '] else []
        else lineBreak
      let (rest, lastBreak, final) ← takeBlockLines folded indent following lineBreak fuel
      return (pending ++ line ++ joint ++ rest, lastBreak, final)
    else return ([], lastBreak, pending)

/-- A block text, whose sign is here. -/
def scanBlockText (folded : Bool) : Scanner Token := do
  advance
  let (chomping, sign) ← takeBlockSigns
  skipLine
  let scan ← get
  let fuel := scan.rest.length + 1
  let least := (max (scan.indent + 1) 1).toNat
  let (pending, indent) ← match sign with
    | none => do
      let (pending, widest) ← takeLeadingLines 0 fuel
      pure (pending, max least widest)
    | some sign => do
      let indent := least + sign - 1
      pure (← takeEmptyLines indent fuel, indent)
  let (chars, lastBreak, final) ← takeBlockLines folded indent pending [] fuel
  let ending := match chomping with
    | .strip => []
    | .clip => lastBreak
    | .keep => lastBreak ++ final
  return .scalar (String.ofList (chars ++ ending)) false

/-- The character that an escape in a double-quoted text stands for. -/
def escaped? (c : Char) : Option Char :=
  match c with
  | '0' => some '\x00'
  | 'a' => some '\x07'
  | 'b' => some '\x08'
  | 't' => some '\t'
  | '\t' => some '\t'
  | 'n' => some '\n'
  | 'v' => some '\x0b'
  | 'f' => some '\x0c'
  | 'r' => some '\r'
  | 'e' => some '\x1b'
  | ' ' => some ' '
  | '\x22' => some '\x22'
  | '\\' => some '\\'
  | '/' => some '/'
  | 'N' => some '\u0085'
  | '_' => some '\u00a0'
  | 'L' => some '\u2028'
  | 'P' => some '\u2029'
  | _ => none

/-- The number of digits of an escape by code. -/
def codeLength? (c : Char) : Option Nat :=
  match c with
  | 'x' => some 2
  | 'u' => some 4
  | 'U' => some 8
  | _ => none

/-- Line ends inside a quoted text, blanks around them dropped. -/
def takeQuotedBreaks : Nat → Scanner (List Char)
  | 0 => return []
  | fuel + 1 => do
    if ← atSeparator then refuse
    else
      let _ ← takeWhile fun c => c == ' ' || c == '\t'
      match ← takeBreak with
      | [] => return []
      | found => return found ++ (← takeQuotedBreaks fuel)

/-- An escape in a double-quoted text, whose backslash is here. -/
def takeEscape (fuel : Nat) : Scanner (List Char) := do
  advance
  let c ← peek
  match escaped? c, codeLength? c with
  | some meant, _ =>
    advance
    return [meant]
  | none, some length =>
    advance
    let digits := (← get).rest.take length
    if digits.length < length || digits.any (fun digit => (CharSet.hexDigit? digit).isNone) then
      refuse
    else
      advanceBy length
      let code := CharSet.readHex digits
      if 0x80000000 ≤ code then throw .characterOverflow
      else if 0x110000 ≤ code then throw .characterRange
      else return [Char.ofNat code]
  | none, none =>
    if isBreak c then
      let _ ← takeBreak
      takeQuotedBreaks fuel
    else refuse

/-- The characters of a quoted text that are no blanks. -/
def takeQuotedSolid (double : Bool) : Nat → Scanner (List Char)
  | 0 => return []
  | fuel + 1 => do
    let solid ← takeWhile fun c => !(c == '\x27' || c == '\x22' || c == '\\' || isSpace c)
    let c ← peek
    if !double && c == '\x27' && (← peekAt 1) == '\x27' then
      advanceBy 2
      return solid ++ '\x27' :: (← takeQuotedSolid double fuel)
    else if (double && c == '\x27') || (!double && (c == '\x22' || c == '\\')) then
      advance
      return solid ++ c :: (← takeQuotedSolid double fuel)
    else if double && c == '\\' then
      let meant ← takeEscape fuel
      return solid ++ meant ++ (← takeQuotedSolid double fuel)
    else return solid

/-- Blanks inside a quoted text; a single line end counts as one blank. -/
def takeQuotedBlanks (fuel : Nat) : Scanner (List Char) := do
  let blanks ← takeWhile fun c => c == ' ' || c == '\t'
  let c ← peek
  if c == endMark then refuse
  else if isBreak c then
    let first ← takeBreak
    let others ← takeQuotedBreaks fuel
    if first != ['\n'] then return first ++ others
    else if others.isEmpty then return [' ']
    else return others
  else return blanks

/-- The characters of a quoted text up to its closing quote. -/
def takeQuoted (double : Bool) (quote : Char) : Nat → Scanner (List Char)
  | 0 => refuse
  | fuel + 1 => do
    if (← peek) == quote then return []
    else
      let blanks ← takeQuotedBlanks fuel
      let solid ← takeQuotedSolid double fuel
      return blanks ++ solid ++ (← takeQuoted double quote fuel)

/-- A quoted text, whose opening quote is here. -/
def scanQuoted (double : Bool) : Scanner Token := do
  let quote ← peek
  let fuel := (← get).rest.length + 1
  advance
  let first ← takeQuotedSolid double fuel
  let rest ← takeQuoted double quote fuel
  advance
  return .scalar (String.ofList (first ++ rest)) false

/-- Whether a plain text ends in front of a character, given the one after it. -/
def endsPlain (inFlow : Bool) (c next : Char) : Bool :=
  isSpace c || (c == ':' && (isSpace next || (inFlow && ",[]\x7b\x7d".contains next))) ||
    (inFlow && ",?[]\x7b\x7d".contains c)

/-- The characters of a plain text up to a blank or its end. -/
def plainRun (inFlow : Bool) : List Char → List Char
  | [] => []
  | c :: rest =>
    if endsPlain inFlow c (rest.head?.getD endMark) then [] else c :: plainRun inFlow rest

/-- Line ends after a plain text, with the blanks around them; nothing if a marker between documents
turns up. -/
def takePlainBreaks : Nat → Scanner (Option (List Char))
  | 0 => return some []
  | fuel + 1 => do
    if ← atSeparator then return none
    else
      let _ ← takeWhile (· == ' ')
      match ← takeBreak with
      | [] => return some []
      | found => return (← takePlainBreaks fuel).map (found ++ ·)

/-- Blanks after a part of a plain text, as they would be joined to a further part. -/
def takePlainBlanks (fuel : Nat) : Scanner (List Char) := do
  let blanks ← takeWhile (· == ' ')
  if isBreak (← peek) then
    let first ← takeBreak
    allowKey true
    match ← takePlainBreaks fuel with
    | none => return []
    | some others =>
      if first != ['\n'] then return first ++ others
      else if others.isEmpty then return [' ']
      else return others
  else return blanks

/-- The parts of a plain text; `blanks` are those in front of the next part. -/
def takePlain (indent : Int) (blanks : List Char) : Nat → Scanner (List Char)
  | 0 => return []
  | fuel + 1 => do
    let scan ← get
    let run := if (← peek) == '#' then [] else plainRun (scan.flowLevel != 0) scan.rest
    if run.isEmpty then return []
    else
      allowKey false
      advanceBy run.length
      let following ← takePlainBlanks fuel
      let scan ← get
      if following.isEmpty || (← peek) == '#' || (scan.flowLevel == 0 && scan.column < indent) then
        return blanks ++ run
      else return blanks ++ run ++ (← takePlain indent following fuel)

/-- A plain text. -/
def scanPlain : Scanner Token := do
  let scan ← get
  let chars ← takePlain (scan.indent + 1) [] (scan.rest.length + 1)
  return .scalar (String.ofList chars) true

/-- The signs that no plain text begins with. -/
def indicators : String := "-?:,[]\x7b\x7d#&*!|>\x27\x22%@\x60"

/-- Whether a plain text begins here. -/
def atPlain : Scanner Bool := do
  let c ← peek
  let next ← peekAt 1
  let inFlow := (← get).flowLevel != 0
  return (!isSpace c && !indicators.contains c) ||
    (!isSpace next && (c == '-' || (!inFlow && (c == '?' || c == ':'))))

/-- A sign that may only stand where keys may, and that opens a block there. -/
def openAtSign (start : Token) : Scanner Unit := do
  let scan ← get
  if scan.flowLevel == 0 then
    if !scan.keyAllowed then refuse
    else if ← openBlock scan.column then emit start

/-- The sign of a block entry. -/
def fetchBlockEntry : Scanner Unit := do
  openAtSign .blockSequenceStart
  allowKey true
  dropKey
  advance
  emit .blockEntry

/-- The sign of a key. -/
def fetchKey : Scanner Unit := do
  openAtSign .blockMappingStart
  allowKey ((← get).flowLevel == 0)
  dropKey
  advance
  emit .key

/-- The sign of a value; the key in front of it may only now turn out to be one. -/
def fetchValue : Scanner Unit := do
  let scan ← get
  match scan.possibleKeys.find? fun key => key.flowLevel == scan.flowLevel with
  | some key =>
    set { scan with
      possibleKeys := scan.possibleKeys.filter fun key => key.flowLevel != scan.flowLevel }
    emitAt key.tokenNumber .key
    if scan.flowLevel == 0 then
      if ← openBlock key.column then emitAt key.tokenNumber .blockMappingStart
    allowKey false
  | none =>
    openAtSign .blockMappingStart
    allowKey (scan.flowLevel == 0)
    dropKey
  advance
  emit .value

/-- An opening bracket. -/
def fetchFlowStart (token : Token) : Scanner Unit := do
  saveKey
  modify fun scan => { scan with flowLevel := scan.flowLevel + 1, keyAllowed := true }
  advance
  emit token

/-- A closing bracket. -/
def fetchFlowEnd (token : Token) : Scanner Unit := do
  dropKey
  if (← get).flowLevel == 0 then refuse
  else
    modify fun scan => { scan with flowLevel := scan.flowLevel - 1, keyAllowed := false }
    advance
    emit token

/-- A marker between documents. -/
def fetchMarker (token : Token) : Scanner Unit := do
  unwind (-1)
  dropKey
  allowKey false
  advanceBy 3
  emit token

/-- A token that may be a key by itself. -/
def fetchNode (scanner : Scanner Token) : Scanner Unit := do
  saveKey
  allowKey false
  emit (← scanner)

/-- The end of the text. -/
def fetchEnd : Scanner Unit := do
  unwind (-1)
  dropKey
  modify fun scan => { scan with keyAllowed := false, possibleKeys := [], done := true }
  emit .streamEnd

/-- The next token. -/
def fetch : Scanner Unit := do
  let start ← get
  if start.index == 0 && start.rest.head? == some '\ufeff' then advance
  skipToToken (start.rest.length + 1)
  dropStaleKeys
  unwind (← get).column
  let scan ← get
  let c ← peek
  let next ← peekAt 1
  let inFlow := scan.flowLevel != 0
  let atLineStart := scan.column == 0
  let startsDocument ← atMarker '-'
  let endsDocument ← atMarker '.'
  if c == endMark then fetchEnd
  else if atLineStart && c == '%' then
    unwind (-1)
    dropKey
    allowKey false
    emit (← scanDirective)
  else if atLineStart && startsDocument then fetchMarker .documentStart
  else if atLineStart && endsDocument then fetchMarker .documentEnd
  else if c == '[' then fetchFlowStart .flowSequenceStart
  else if c == '\x7b' then fetchFlowStart .flowMappingStart
  else if c == ']' then fetchFlowEnd .flowSequenceEnd
  else if c == '\x7d' then fetchFlowEnd .flowMappingEnd
  else if c == ',' then
    allowKey true
    dropKey
    advance
    emit .flowEntry
  else if c == '-' && isSpace next then fetchBlockEntry
  else if c == '?' && (inFlow || isSpace next) then fetchKey
  else if c == ':' && (inFlow || isSpace next) then fetchValue
  else if c == '*' then fetchNode (do return .alias (← scanReference))
  else if c == '&' then fetchNode (do return .anchor (← scanReference))
  else if c == '!' then fetchNode scanTag
  else if !inFlow && (c == '|' || c == '>') then
    allowKey true
    dropKey
    emit (← scanBlockText (c == '>'))
  else if c == '\x27' then fetchNode (scanQuoted false)
  else if c == '\x22' then fetchNode (scanQuoted true)
  else if ← atPlain then fetchNode scanPlain
  else refuse

/-- The number of tokens in front of which no key token can be put any more. -/
def Scan.settled (scan : Scan) : Nat :=
  let awaited := scan.possibleKeys.filter fun key => !scan.isStale key
  awaited.foldl (fun least key => min least key.tokenNumber) scan.tokens.size

/-- All tokens.  What is wrong with a document counts from where it turns up, so a number or an
escape that cannot be read takes the place of the first token that depends on it. -/
def fetchAll : Nat → Scan → Except Refusal (List Token)
  | 0, _ => .error .malformed
  | fuel + 1, scan =>
    if scan.done then .ok scan.tokens.toList
    else
      match fetch.run scan with
      | .ok (_, scan) => fetchAll fuel scan
      | .error .malformed => .error .malformed
      | .error refusal => .ok (scan.tokens.toList.take scan.settled ++ [.broken refusal])

/-- Whether a character may occur in a document. -/
def isAllowed (c : Char) : Bool :=
  let code := c.toNat
  c == '\t' || c == '\n' || c == '\r' || (32 ≤ code && code ≤ 126) || code == 0x85 ||
    (0xA0 ≤ code && code ≤ 0xD7FF) || (0xE000 ≤ code && code ≤ 0xFFFD) ||
    (0x10000 ≤ code && code ≤ 0x10FFFF)

/-- The tokens of a text. -/
def Token.scan (text : String) : Except Refusal (List Token) := do
  let chars := text.toList
  if chars.all isAllowed then
    fetchAll (2 * chars.length + 4) { rest := chars }
  else throw .malformed

end Conform.Yaml
