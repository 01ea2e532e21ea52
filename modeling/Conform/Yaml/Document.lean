import Conform.Value.Access
import Conform.Yaml.Node
import Conform.Yaml.Scalar

/-!
# The value of a YAML document

Nodes as values.  Collections are filled level by level from the root on, so that of two faults the
one nearer to the root is reported, and of two on one level the first.
-/

namespace Conform.Yaml

/-- A fault and the level at which it arises. -/
structure Trouble where
  level : Nat
  fault : Fault

namespace Trouble

/-- The one of two troubles that is reported. -/
def first (a b : Trouble) : Trouble := if b.level < a.level then b else a

end Trouble

/-- A value, or what keeps it from being built. -/
abbrev Outcome (α : Type) := Except Trouble α

namespace Outcome

/-- The outcome of an attempt at a level. -/
def ofAttempt {α : Type} (level : Nat) : Attempt α → Outcome α
  | .ok value => .ok value
  | .error fault => .error ⟨level, fault⟩

/-- A document that is refused at a level. -/
def refused {α : Type} (level : Nat) : Outcome α := .error ⟨level, .malformedDocument⟩

/-- Two outcomes, or the trouble to report. -/
def both {α β : Type} : Outcome α → Outcome β → Outcome (α × β)
  | .ok a, .ok b => .ok (a, b)
  | .error a, .error b => .error (a.first b)
  | .error a, .ok _ => .error a
  | .ok _, .error b => .error b

/-- All outcomes, or the trouble to report. -/
def all {α : Type} : List (Outcome α) → Outcome (List α)
  | [] => .ok []
  | outcome :: rest => (both outcome (all rest)).map fun (value, values) => value :: values

end Outcome

namespace Node

/-- The text of a node: of a mapping, that of the value under its default key. -/
def text? : Node → Option String
  | .scalar _ text => some text
  | .mapping _ entries => defaultText? entries
  | _ => none
where
  /-- The text of the value under the default key. -/
  defaultText? : List (Node × Node) → Option String
    | [] => none
    | (key, value) :: rest =>
      if key.tag = .defaultKey then value.text? else defaultText? rest

mutual

/-- The entries of a mapping with those of merged mappings in front; none if something is merged
that cannot be. -/
def flattened : List (Node × Node) → Option (List (Node × Node) × List (Node × Node))
  | [] => some ([], [])
  | (key, value) :: rest =>
    if key.tag = .merge then do
      let added ← merged value
      let (others, own) ← flattened rest
      return (added ++ others, own)
    else do
      let (others, own) ← flattened rest
      return (others, (if key.tag = .defaultKey then key.withTag .text else key, value) :: own)

/-- The entries that a mapping or a list of mappings adds. -/
def merged : Node → Option (List (Node × Node))
  | .mapping _ entries => do
    let (others, own) ← flattened entries
    return others ++ own
  | .sequence _ items => mergedAll items
  | .enclosing _ => some []
  | .scalar .. => none

/-- The entries that a list of mappings adds, the last mapping first. -/
def mergedAll : List Node → Option (List (Node × Node))
  | [] => some []
  | item :: rest => do
    let added ← mergedItem item
    let others ← mergedAll rest
    return others ++ added

/-- The entries that a mapping in a list adds. -/
def mergedItem : Node → Option (List (Node × Node))
  | .mapping _ entries => do
    let (others, own) ← flattened entries
    return others ++ own
  | .enclosing false => some []
  | _ => none

end

mutual

/-- The depth of a node. -/
def depth : Node → Nat
  | .scalar .. | .enclosing _ => 1
  | .sequence _ items => depthAll items + 1
  | .mapping _ entries => depthEntries entries + 1

/-- The depth of the deepest node. -/
def depthAll : List Node → Nat
  | [] => 0
  | node :: rest => max node.depth (depthAll rest)

/-- The depth of the deepest key or value. -/
def depthEntries : List (Node × Node) → Nat
  | [] => 0
  | (key, value) :: rest => max (max key.depth value.depth) (depthEntries rest)

end

/-- Whether a node is a text. -/
def isScalar : Node → Bool
  | .scalar .. => true
  | _ => false

/-- The value of a text under a tag for texts. -/
def scalarValue (tag : Tag) (text : String) : Attempt Value :=
  match tag with
  | .null => .ok .null
  | .boolean => Scalar.readBoolean text
  | .integer => Scalar.readInteger text
  | .float => Scalar.readFloat text
  | .binary => Scalar.readBinary text
  | .timestamp => Scalar.readTimestamp text
  | .text => .ok (.str text)
  | _ => .error .malformedDocument

/-- The only entry of each node that is a mapping with one entry; none if one is not. -/
def onlyEntries : List Node → Option (List (Node × Node))
  | [] => some []
  | .mapping _ [entry] :: rest => (onlyEntries rest).map (entry :: ·)
  | _ => none

/-- A key at a level, which has to be one that mappings can hold. -/
def keyOutcome (level : Nat) (node : Node) (outcome : Outcome Value) : Outcome Value :=
  match node, outcome with
  | .enclosing _, _ => .refused level
  | _, .ok value => if value.hashable then .ok value else .refused level
  | _, .error trouble => if level < trouble.level then .refused level else .error trouble

/-- The entries of built keys and values; of equal keys the last value wins. -/
def store (pairs : List (Value × Value)) : Entries := Entries.putAll [] pairs

/-- The value of a node at a level, down to a depth. -/
def build : Nat → Nat → Node → Outcome Value
  | 0, level, _ => .refused level
  | depth + 1, level, node =>
    let below := level + 1
    let pairOf (checked : Bool) (entry : Node × Node) : Outcome (Value × Value) :=
      let key := build depth below entry.1
      Outcome.both (if checked then keyOutcome below entry.1 key else key)
        (build depth below entry.2)
    let entriesOf (node : Node) : Outcome (List (Value × Value)) :=
      match node with
      | .mapping _ entries =>
        match flattened entries with
        | some (others, own) => Outcome.all ((others ++ own).map (pairOf true))
        | none => .refused below
      | _ => .refused below
    match node with
    | .enclosing _ => .ok .null
    | _ =>
      match node.tag with
      | .sequence =>
        match node with
        | .sequence _ items =>
          (Outcome.all (items.map (build depth below))).map .list
        | _ => .refused below
      | .mapping => (entriesOf node).map fun pairs => .map (store pairs)
      | .set => (entriesOf node).map fun pairs => .set ((store pairs).map Prod.fst)
      | .orderedPairs | .pairs =>
        match node with
        | .sequence _ items =>
          match onlyEntries items with
          | some entries =>
            (Outcome.all (entries.map (pairOf false))).map fun pairs =>
              .list (pairs.map fun (key, value) => .tuple [key, value])
          | none => .refused below
        | _ => .refused below
      | tag =>
        match node.text? with
        | some text =>
          let value := if tag = .timestamp && !node.isScalar then .error .notText
            else scalarValue tag text
          Outcome.ofAttempt level value
        | none => .refused level

end Node

/-- The fault of a refusal. -/
def Refusal.fault : Refusal → Fault
  | .malformed => .malformedDocument
  | .characterRange => .characterRange
  | .characterOverflow => .characterOverflow
  | .digitsToRead length => .digitsToRead length

/-- The value of a text: null if it holds no document. -/
def read (text : String) : Attempt Value :=
  match Node.ofText text with
  | .error refusal => .error refusal.fault
  | .ok none => .ok .null
  | .ok (some node) =>
    match node.build (node.depth + 1) 0 with
    | .ok value => .ok value
    | .error trouble => .error trouble.fault

end Conform.Yaml
