import Conform.Pattern.Reader
import Conform.Text.Casing

/-!
# Regular expressions

The tree of a regular expression in which settings are resolved, so that every leaf says by itself
what it matches.  `Node.ofItems` makes it from the items of a pattern.

Letters that have case are compared by their lower-case forms where case is ignored.  A class none
of whose members has case is not changed by the setting.  In a class with case, a single character
beyond the first plane matches only itself, and a range that reaches beyond the first plane matches
what has a lower-case or upper-case form within it.
-/

namespace Conform.Regex

/-- Which letters count as the same. -/
inductive Folding where
  | none
  | ascii
  | full
deriving DecidableEq

/-- A bracketed class under its settings. -/
structure CharClass where
  members : List Member
  negated : Bool
  ascii : Bool
  folding : Folding

/-- What a single character has to be. -/
inductive Test where
  | any
  | anyExceptBreak
  | literal (code : Nat) (folding : Folding) (negated : Bool)
  | oneOf (set : CharClass)

/-- A condition on a place in the text. -/
inductive Anchor where
  | textStart
  | lineStart
  | textEnd
  | beforeFinalBreak
  | lineEnd
  | boundary (ascii : Bool)
  | inside (ascii : Bool)

/-- A regular expression.  A run repeats the test of a single character; where it is followed by a
given character without case, it keeps it, so that the places can be passed over where that
character does not follow. -/
inductive Node where
  | one (test : Test)
  | anchor (anchor : Anchor)
  | sequence (nodes : List Node)
  | choice (branches : List Node)
  | group (index : Nat) (node : Node)
  | reference (index : Nat) (folding : Folding)
  | run (least : Nat) (most : Option Nat) (greed : Greed) (test : Test) (follower : Option Nat)
  | repeated (least : Nat) (most : Option Nat) (greed : Greed) (node : Node)
  | look (negated : Bool) (width : Nat) (node : Node)
  | atomic (node : Node)
  | conditional (index : Nat) (present absent : Node)

/-- How letters are compared under the settings. -/
def foldingOf (flags : Flags) : Folding :=
  if flags.ignoreCase then if flags.ascii then .ascii else .full else .none

namespace Category

/-- Whether a character belongs to the class. -/
def contains (category : Category) (ascii : Bool) (c : Char) : Bool :=
  match category, ascii with
  | .digit, false => isDecimalDigit c
  | .digit, true => 48 ≤ c.toNat && c.toNat ≤ 57
  | .blank, false => isBlank c
  | .blank, true => isAsciiBlank c
  | .word, false => isWord c
  | .word, true => isAsciiWord c

end Category

/-- The last code point of the first plane. -/
def firstPlaneEnd : Nat := 0xffff

namespace Folding

/-- The code points that count as the same as the given one. -/
def variants (folding : Folding) (code : Nat) : List Nat :=
  match folding with
  | .none => [code]
  | .ascii => asciiCaseVariants code
  | .full => caseVariants code

/-- The representative of the code points that count as the same. -/
def lower (folding : Folding) (code : Nat) : Nat :=
  match folding with
  | .none => code
  | .ascii => if 65 ≤ code ∧ code ≤ 90 then code + 32 else code
  | .full => lowerCode code

/-- Whether one of the code points between two bounds has case. -/
def hasCaseWithin (folding : Folding) (first last : Nat) : Bool :=
  match folding with
  | .none => false
  | .ascii => Conform.hasAsciiCaseWithin first last
  | .full => Conform.hasCaseWithin first last

end Folding

namespace Member

/-- Whether the member has case, which all that lies beyond the first plane is taken to have. -/
def hasCase (member : Member) (folding : Folding) : Bool :=
  match member with
  | .literal code => firstPlaneEnd < code || folding.hasCaseWithin code code
  | .range first last => firstPlaneEnd < last || folding.hasCaseWithin first last
  | .category .. => false

/-- Whether a code point, which is a representative, belongs to the member. -/
def contains (member : Member) (ascii : Bool) (folding : Folding) (code : Nat) : Bool :=
  match member with
  | .category kind negated => kind.contains ascii (Char.ofNat code) != negated
  | .literal given =>
    if folding == .none || firstPlaneEnd < given then given == code
    else (folding.variants code).contains given
  | .range first last =>
    if folding == .none then first ≤ code && code ≤ last
    else
      (folding.variants code).any (fun other =>
        other ≤ firstPlaneEnd && first ≤ other && other ≤ last) ||
      (firstPlaneEnd < last && ((first ≤ code && code ≤ last) ||
        (first ≤ upperCode code && upperCode code ≤ last)))

end Member

namespace CharClass

/-- The class of members under settings. -/
def ofMembers (flags : Flags) (members : List Member) (negated : Bool) : CharClass :=
  let folding := foldingOf flags
  { members, negated, ascii := flags.ascii,
    folding := if folding != .none && members.any fun member => member.hasCase folding then folding
      else .none }

/-- Whether a character belongs to the class. -/
def contains (set : CharClass) (c : Char) : Bool :=
  let code := set.folding.lower c.toNat
  (set.members.any fun member => member.contains set.ascii set.folding code) != set.negated

end CharClass

namespace Test

/-- The test for a character that is, or is not, a given one.  A letter with more than one
lower-case form is a class. -/
def ofCode (flags : Flags) (code : Nat) (negated : Bool) : Test :=
  let folding := foldingOf flags
  if folding.hasCaseWithin code code then
    let lower := folding.lower code
    if folding == .full && caseKin.any fun row => row.head? == some lower then
      .oneOf ⟨[.literal lower], negated, flags.ascii, folding⟩
    else .literal lower folding negated
  else .literal code .none negated

/-- Whether a character passes the test. -/
def passes (test : Test) (c : Char) : Bool :=
  match test with
  | .any => true
  | .anyExceptBreak => c != '\n'
  | .literal code folding negated => (folding.lower c.toNat == code) != negated
  | .oneOf set => set.contains c

/-- Whether the test is one of a class with case. -/
def isFoldedClass : Test → Bool
  | .oneOf set => set.folding != .none
  | _ => false

/-- The character without case that the test asks for. -/
def plainCode? : Test → Option Nat
  | .literal code .none false => some code
  | _ => none

end Test

/-- The condition that a place puts on the text. -/
def Anchor.ofPlace (flags : Flags) (place : Place) : Anchor :=
  match place with
  | .start => if flags.multiline then .lineStart else .textStart
  | .finish => if flags.multiline then .lineEnd else .beforeFinalBreak
  | .textStart => .textStart
  | .textEnd => .textEnd
  | .boundary => .boundary flags.ascii
  | .inside => .inside flags.ascii

/-- What an expression begins with. -/
inductive Beginning where
  /-- The expression is empty. -/
  | nothing
  /-- The test of a character. -/
  | test (test : Test)
  /-- Anything else. -/
  | other

mutual

/-- What an expression begins with. -/
def Node.beginning : Node → Beginning
  | .one test => .test test
  | .sequence nodes => Node.beginningAll nodes
  | _ => .other
termination_by structural node => node

/-- What expressions one after another begin with. -/
def Node.beginningAll : List Node → Beginning
  | [] => .nothing
  | node :: rest =>
    match node.beginning with
    | .nothing => Node.beginningAll rest
    | first => first
termination_by structural nodes => nodes

end

namespace Node

/-- The character without case that an expression begins with, given the one that follows it. -/
def leading? (node : Node) (follower : Option Nat) : Option Nat :=
  match node.beginning with
  | .nothing => follower
  | .test test => test.plainCode?
  | .other => none

/-- The test that an expression consists of. -/
def test? : Node → Option Test
  | .one test => some test
  | .sequence [node] => node.test?
  | _ => none

/-- The repetition of an expression. -/
def ofRounds (least : Nat) (most : Option Nat) (greed : Greed) (follower : Option Nat)
    (body : Node) :
    Node :=
  match body.test? with
  | some test => .run least most greed test follower
  | none => .repeated least most greed body

end Node

mutual

/-- The expression of an item, given the character without case that follows it. -/
def Item.node (widths : List (Nat × Width)) (flags : Flags) (follower : Option Nat) :
    Item → Except Refusal Node
  | .literal code negated => .ok (.one (.ofCode flags code negated))
  | .any => .ok (.one (if flags.dotAll then .any else .anyExceptBreak))
  | .set members negated => .ok (.one (.oneOf (.ofMembers flags members negated)))
  | .place spot => .ok (.anchor (.ofPlace flags spot))
  | .reference index => .ok (.reference index (foldingOf flags))
  | .conditional index present absent => do
    let after := if absent.isEmpty then follower else none
    let present ← Item.nodes widths flags after present
    return .conditional index (.sequence present)
      (.sequence (← Item.nodes widths flags follower absent))
  | .choice branches => do return .choice (← Item.branches widths flags branches)
  | .group none change body => do
    return .sequence (← Item.nodes widths (change.apply flags) follower body)
  | .group (some index) change body => do
    return .group index (.sequence (← Item.nodes widths (change.apply flags) none body))
  | .repeated least most greed body => do
    if flags.template then throw .malformed
    else
      let body ← Item.nodes widths flags none body
      return .ofRounds least (if most = unlimited then none else some most) greed follower
        (.sequence body)
  | .look behind negated body => do
    let span := if behind then Regex.width widths body else ⟨0, 0⟩
    if span.least != span.most then throw .malformed
    else return .look negated span.least (.sequence (← Item.nodes widths flags none body))
  | .atomic body => do return .atomic (.sequence (← Item.nodes widths flags none body))
termination_by structural item => item

/-- The expressions of items one after another, given the character without case that follows
them. -/
def Item.nodes (widths : List (Nat × Width)) (flags : Flags) (follower : Option Nat) :
    List Item → Except Refusal (List Node)
  | [] => .ok []
  | item :: rest => do
    let rest ← Item.nodes widths flags follower rest
    let node ← item.node widths flags ((Node.sequence rest).leading? follower)
    return node :: rest
termination_by structural items => items

/-- The expressions of alternatives. -/
def Item.branches (widths : List (Nat × Width)) (flags : Flags) :
    List (List Item) → Except Refusal (List Node)
  | [] => .ok []
  | branch :: rest => do
    let nodes ← Item.nodes widths flags none branch
    return .sequence nodes :: (← Item.branches widths flags rest)
termination_by structural branches => branches

end

mutual

/-- The greatest number of characters that an expression looks back. -/
def Node.reach : Node → Nat
  | .sequence nodes | .choice nodes => Node.reachAll nodes
  | .group _ node | .repeated _ _ _ node | .atomic node => node.reach
  | .look _ width node => max width node.reach
  | .conditional _ present absent => max present.reach absent.reach
  | _ => 0
termination_by structural node => node

/-- The greatest number of characters that some of the expressions looks back. -/
def Node.reachAll : List Node → Nat
  | [] => 0
  | node :: rest => max node.reach (Node.reachAll rest)
termination_by structural nodes => nodes

end

/-- The number of characters that no expression may look back. -/
def reachBound : Nat := 2147483648

/-- The expression of all items of a pattern. -/
def Node.ofItems (widths : List (Nat × Width)) (flags : Flags) (items : List Item) :
    Except Refusal Node := do
  let node := Node.sequence (← Item.nodes widths flags none items)
  if node.reach < reachBound then return node else throw .lookbehindRange

end Conform.Regex
