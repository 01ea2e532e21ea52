import Conform.Yaml.Tag
import Conform.Yaml.Token

/-!
# Nodes of YAML

The tree of a document, built from its tokens.  A reference to a finished node is replaced by that
node; a reference to a collection from within it stays as `Node.enclosing`.
-/

namespace Conform.Yaml

/-- A node, or a reference to a collection around it, which is a list or a mapping. -/
inductive Node where
  | scalar (tag : Tag) (text : String)
  | sequence (tag : Tag) (items : List Node)
  | mapping (tag : Tag) (entries : List (Node × Node))
  | enclosing (isList : Bool)

namespace Node

/-- The tag of a node. -/
def tag : Node → Tag
  | .scalar tag _ | .sequence tag _ | .mapping tag _ => tag
  | .enclosing isList => if isList then .sequence else .mapping

/-- A node under another tag. -/
def withTag (tag : Tag) : Node → Node
  | .scalar _ text => .scalar tag text
  | .sequence _ items => .sequence tag items
  | .mapping _ entries => .mapping tag entries
  | .enclosing isList => .enclosing isList

/-- The node of a text that is left out. -/
def absent : Node := .scalar .null ""

/-- How far the reading has come: the tokens left, the nodes that can be referred to, and the tag
handles with what they stand for. -/
structure Progress where
  tokens : List Token
  targets : List (String × Node) := []
  handles : List (String × String) := []

/-- A step of the reading. -/
abbrev Composer := StateT Progress (Except Refusal)

/-- Give up. -/
def fail {α : Type} : Composer α := throw .malformed

/-- The next token. -/
def next : Composer Token := do
  match (← get).tokens.head? with
  | some (.broken refusal) => throw refusal
  | some token => return token
  | none => return .streamEnd

/-- Go on past a token. -/
def skip : Composer Unit := modify fun progress => { progress with tokens := progress.tokens.tail }

/-- Go on past a token if it is the given one, and say whether it was. -/
def accept (token : Token) : Composer Bool := do
  if (← next) == token then
    skip
    return true
  else return false

/-- Whether the next token is one of some. -/
def nextIn (tokens : List Token) : Composer Bool := do return tokens.contains (← next)

/-- The name under which the next node can be referred to, if one is given. -/
def takeTarget : Composer (Option String) := do
  match ← next with
  | .anchor name =>
    skip
    return some name
  | _ => return none

/-- The tag of the next node, if one is given: its handle, if it has one, and its suffix. -/
def takeTag : Composer (Option (Option String × String)) := do
  match ← next with
  | .tag handle suffix =>
    skip
    return some (handle, suffix)
  | _ => return none

/-- The full name of a tag; its handle has to be known. -/
def tagName : Option (Option String × String) → Composer (Option String)
  | none => return none
  | some (none, suffix) => return some suffix
  | some (some handle, suffix) => do
    match (← get).handles.lookup handle with
    | some lead => return some (lead ++ suffix)
    | none => fail

/-- The properties of the next node in either order. -/
def takeProperties : Composer (Option String × Option String) := do
  let first ← takeTarget
  let tag ← takeTag
  let name ← if first.isNone && tag.isSome then takeTarget else pure first
  return (name, ← tagName tag)

/-- Let a name refer to a node. -/
def bindTarget (name : Option String) (node : Node) : Composer Unit :=
  match name with
  | none => return
  | some name =>
    modify fun progress => { progress with targets := (name, node) :: progress.targets }

/-- Refuse a name that is in use. -/
def checkTarget (name : Option String) : Composer Unit := do
  match name with
  | none => return
  | some name => if ((← get).targets.lookup name).isSome then fail

/-- The node that a name refers to. -/
def refer (name : String) : Composer Node := do
  match (← get).targets.lookup name with
  | some node => return node
  | none => fail

/-- The tag of a text. -/
def scalarTag (tag : Option String) (text : String) (plain : Bool) : Tag :=
  match tag with
  | none => if plain then .ofPlain text else .text
  | some "!" => .ofPlain text
  | some name => .ofName name

/-- Whether a list begins with a token. -/
def startsList (token : Token) : Bool :=
  token == .blockEntry || token == .blockSequenceStart || token == .flowSequenceStart

/-- The tag of a collection. -/
def collectionTag (tag : Option String) (standard : Tag) : Tag :=
  match tag with
  | none | some "!" => standard
  | some name => .ofName name

mutual

/-- A node. In blocks it may be a block collection; `indentless` allows entries without a block. -/
def compose : Nat → Bool → Bool → Composer Node
  | 0, _, _ => fail
  | fuel + 1, block, indentless => do
    match ← next with
    | .alias name =>
      skip
      refer name
    | _ =>
      let (name, tag) ← takeProperties
      let token ← next
      checkTarget name
      match token with
      | .scalar text plain =>
        skip
        let node := Node.scalar (scalarTag tag text plain) text
        bindTarget name node
        return node
      | token =>
        bindTarget name (.enclosing (startsList token))
        let node ← composeCollection fuel block indentless (name.isSome || tag.isSome) tag token
        bindTarget name node
        return node

/-- A collection that begins with the given token, or a text that is left out behind properties. -/
def composeCollection : Nat → Bool → Bool → Bool → Option String → Token → Composer Node
  | 0, _, _, _, _, _ => fail
  | fuel + 1, block, indentless, marked, tag, token => do
    let listTag := collectionTag tag .sequence
    let recordTag := collectionTag tag .mapping
    if indentless && token == .blockEntry then
      return .sequence listTag (← composeEntries fuel true)
    else if token == .flowSequenceStart then
      skip
      return .sequence listTag (← composeItems fuel true)
    else if token == .flowMappingStart then
      skip
      return .mapping recordTag (← composePairs fuel true)
    else if block && token == .blockSequenceStart then
      skip
      return .sequence listTag (← composeEntries fuel false)
    else if block && token == .blockMappingStart then
      skip
      return .mapping recordTag (← composeFields fuel)
    else if marked then return .scalar (scalarTag tag "" true) ""
    else fail

/-- The entries of a block sequence; without a block of its own it ends where no entry follows. -/
def composeEntries : Nat → Bool → Composer (List Node)
  | 0, _ => fail
  | fuel + 1, indentless => do
    if ← accept .blockEntry then
      let ends := [.blockEntry, .blockEnd] ++ if indentless then [.key, .value] else []
      let node ← composeUnless fuel ends true false
      return node :: (← composeEntries fuel indentless)
    else if indentless then return []
    else if ← accept .blockEnd then return []
    else fail

/-- A node, or a text that is left out if one of some tokens follows. -/
def composeUnless : Nat → List Token → Bool → Bool → Composer Node
  | 0, _, _, _ => fail
  | fuel + 1, ends, block, indentless => do
    if ← nextIn ends then return absent else compose fuel block indentless

/-- The value behind a key, or a text that is left out if there is none. -/
def composeValue : Nat → List Token → Bool → Composer Node
  | 0, _, _ => fail
  | fuel + 1, ends, block => do
    if ← accept .value then composeUnless fuel ends block block else return absent

/-- The keys and values of a block mapping. -/
def composeFields : Nat → Composer (List (Node × Node))
  | 0 => fail
  | fuel + 1 => do
    let ends := [Token.key, .value, .blockEnd]
    if ← accept .key then
      let key ← composeUnless fuel ends true true
      let value ← composeValue fuel ends true
      return (key, value) :: (← composeFields fuel)
    else if ← accept .blockEnd then return []
    else fail

/-- The items of a sequence in brackets; one may be a key with its value. -/
def composeItems : Nat → Bool → Composer (List Node)
  | 0, _ => fail
  | fuel + 1, first => do
    if ← accept .flowSequenceEnd then return []
    else
      let separated ← if first then pure true else accept .flowEntry
      if !separated then fail
      else if ← accept .key then
        let ends := [Token.flowEntry, .flowSequenceEnd]
        let key ← composeUnless fuel (.value :: ends) false false
        let value ← composeValue fuel ends false
        return .mapping .mapping [(key, value)] :: (← composeItems fuel false)
      else if ← accept .flowSequenceEnd then return []
      else
        let item ← compose fuel false false
        return item :: (← composeItems fuel false)

/-- The keys and values of a mapping in braces; a node without a colon is a key without a value. -/
def composePairs : Nat → Bool → Composer (List (Node × Node))
  | 0, _ => fail
  | fuel + 1, first => do
    if ← accept .flowMappingEnd then return []
    else
      let separated ← if first then pure true else accept .flowEntry
      if !separated then fail
      else if ← accept .key then
        let ends := [Token.flowEntry, .flowMappingEnd]
        let key ← composeUnless fuel (.value :: ends) false false
        let value ← composeValue fuel ends false
        return (key, value) :: (← composePairs fuel false)
      else if ← accept .flowMappingEnd then return []
      else
        let key ← compose fuel false false
        return (key, absent) :: (← composePairs fuel false)

end

/-- The tag handles that need no directive. -/
def standardHandles : List (String × String) := [("!", "!"), ("!!", Tag.standard)]

/-- The directives in front of a document; at most one gives the version, and none repeats a handle.
-/
def takeDirectives : Nat → Bool → List (String × String) → Composer (List (String × String))
  | 0, _, _ => fail
  | fuel + 1, versioned, handles => do
    match ← next with
    | .versionDirective major =>
      skip
      if versioned || major != 1 then fail else takeDirectives fuel true handles
    | .tagDirective handle lead =>
      skip
      if (handles.lookup handle).isSome then fail
      else takeDirectives fuel versioned ((handle, lead) :: handles)
    | .otherDirective =>
      skip
      takeDirectives fuel versioned handles
    | _ => return handles

/-- Whether the next token is a directive. -/
def atDirective : Composer Bool := do
  match ← next with
  | .versionDirective _ | .tagDirective .. | .otherDirective => return true
  | _ => return false

/-- Go on past markers of the end of a document. -/
def skipDocumentEnds : Nat → Composer Unit
  | 0 => return
  | fuel + 1 => do if ← accept .documentEnd then skipDocumentEnds fuel

/-- The node of the only document, if there is one. -/
def composeDocument (fuel : Nat) : Composer (Option Node) := do
  if ← accept .streamEnd then return none
  else
    let directed ← atDirective
    let started ← nextIn [.documentStart]
    let handles ← takeDirectives fuel false []
    modify fun progress => { progress with handles := handles ++ standardHandles }
    let node ←
      if directed || started then do
        if !(← accept .documentStart) then fail
        else
          let bare ← atDirective
          let ended ← nextIn [.documentStart, .documentEnd, .streamEnd]
          if bare || ended then pure absent else compose fuel true false
      else compose fuel true false
    skipDocumentEnds fuel
    if ← accept .streamEnd then return some node
    else
      let _ ← takeDirectives fuel false []
      let _ ← next
      fail

/-- The node of a text; none if the text holds no document. -/
def ofText (text : String) : Except Refusal (Option Node) := do
  let tokens ← Token.scan text
  let (node, _) ← (composeDocument (4 * tokens.length + 8)).run { tokens }
  return node

end Node

end Conform.Yaml
