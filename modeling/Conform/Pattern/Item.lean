import Conform.Pattern.Basic

/-!
# Items of regular expressions

A regular expression as it is written: a list of items, whose meaning still depends on the settings
in force around them.  Alternatives are kept in their simplest form: what all of them begin with
stands in front of them, and single characters are one bracketed class.

The width of an expression is the least and greatest number of characters that it can match, counted
up to a fixed bound that stands for any greater number.
-/

namespace Conform.Regex

/-- A class of characters that patterns name. -/
inductive Category where
  | digit
  | blank
  | word
deriving DecidableEq

/-- A member of a bracketed class. -/
inductive Member where
  | literal (code : Nat)
  | range (first last : Nat)
  | category (category : Category) (negated : Bool)
deriving DecidableEq

/-- A condition on a place in the text, as it is written. -/
inductive Place where
  | start
  | finish
  | textStart
  | textEnd
  | boundary
  | inside
deriving DecidableEq

/-- What happens to the rounds of a repetition when the rest fails. -/
inductive Greed where
  | greedy
  | lazy
  | possessive
deriving DecidableEq

/-- Settings to turn on and off inside a group; `full` turns the ASCII setting off. -/
structure Change where
  on : Flags := {}
  full : Bool := false
  off : Flags := {}
deriving DecidableEq

/-- An item of a regular expression. -/
inductive Item where
  | literal (code : Nat) (negated : Bool)
  | any
  | set (members : List Member) (negated : Bool)
  | place (place : Place)
  | reference (index : Nat)
  | conditional (index : Nat) (present absent : List Item)
  | choice (branches : List (List Item))
  | group (index : Option Nat) (change : Change) (body : List Item)
  | repeated (least most : Nat) (greed : Greed) (body : List Item)
  | look (behind negated : Bool) (body : List Item)
  | atomic (body : List Item)

/-- The count of rounds that stands for any number of them. -/
def unlimited : Nat := 4294967295

namespace Change

/-- The settings after a change. -/
def apply (change : Change) (flags : Flags) : Flags where
  template := (flags.template || change.on.template) && !change.off.template
  ignoreCase := (flags.ignoreCase || change.on.ignoreCase) && !change.off.ignoreCase
  locale := flags.locale
  multiline := (flags.multiline || change.on.multiline) && !change.off.multiline
  dotAll := (flags.dotAll || change.on.dotAll) && !change.off.dotAll
  verbose := (flags.verbose || change.on.verbose) && !change.off.verbose
  ascii := (flags.ascii && !change.full) || change.on.ascii

end Change

/-- The least and greatest number of characters that an expression can match. -/
structure Width where
  least : Nat
  most : Nat

namespace Width

/-- One after the other. -/
def append (a b : Width) : Width := ⟨a.least + b.least, a.most + b.most⟩

/-- Either of the two. -/
def either (a b : Width) : Width := ⟨min a.least b.least, max a.most b.most⟩

/-- A number of rounds. -/
def times (a : Width) (least most : Nat) : Width := ⟨a.least * least, a.most * most⟩

/-- The width, counted up to the bound. -/
def bounded (a : Width) : Width := ⟨min a.least (unlimited - 1), min a.most unlimited⟩

end Width

mutual

/-- The width of an item, given those of the groups it refers to. -/
def Item.width (groups : List (Nat × Width)) : Item → Width
  | .literal .. | .any | .set .. => ⟨1, 1⟩
  | .place _ | .look .. => ⟨0, 0⟩
  | .reference index => ((groups.find? fun entry => entry.1 == index).map Prod.snd).getD ⟨0, 0⟩
  | .conditional _ present absent =>
    (Item.widthAll groups present).bounded.either (Item.widthAll groups absent).bounded
  | .choice branches => Item.widthSome groups branches
  | .group _ _ body => (Item.widthAll groups body).bounded
  | .repeated least most _ body => (Item.widthAll groups body).bounded.times least most
  | .atomic body => (Item.widthAll groups body).bounded
termination_by structural item => item

/-- The width of items one after another. -/
def Item.widthAll (groups : List (Nat × Width)) : List Item → Width
  | [] => ⟨0, 0⟩
  | item :: rest => (item.width groups).append (Item.widthAll groups rest)
termination_by structural items => items

/-- The width of any of several alternatives. -/
def Item.widthSome (groups : List (Nat × Width)) : List (List Item) → Width
  | [] => ⟨unlimited - 1, 0⟩
  | branch :: rest => (Item.widthAll groups branch).bounded.either (Item.widthSome groups rest)
termination_by structural branches => branches

end

/-- The width of an expression. -/
def width (groups : List (Nat × Width)) (items : List Item) : Width :=
  (Item.widthAll groups items).bounded

namespace Item

/-- Whether two items are the same test of a character or place.  Items with parts never are. -/
def sameTest (a b : Item) : Bool :=
  match a, b with
  | .literal x negated, .literal y negated' => x == y && negated == negated'
  | .any, .any => true
  | .set members negated, .set members' negated' => members == members' && negated == negated'
  | .place x, .place y => x == y
  | .reference x, .reference y => x == y
  | _, _ => false

/-- The items that all alternatives begin with, and what is left of the alternatives. -/
def shared : List Item → List (List Item) → List Item × List (List Item)
  | [], others => ([], [] :: others)
  | item :: rest, others =>
    if others.all fun branch => branch.head?.any fun first => first.sameTest item then
      let (leading, branches) := shared rest (others.map List.tail)
      (item :: leading, branches)
    else ([], (item :: rest) :: others)

/-- The members of a class that an alternative of one character is. -/
def members? : List Item → Option (List Member)
  | [.literal code false] => some [.literal code]
  | [.set members false] => some members
  | _ => none

/-- The items that stand for alternatives. -/
def ofBranches : List (List Item) → List Item
  | [] => []
  | [only] => only
  | first :: others =>
    let (leading, branches) := shared first others
    match branches.mapM members? with
    | some members => leading ++ [.set members.flatten.eraseDups false]
    | none => leading ++ [.choice branches]

/-- The items that an item contributes to the list it stands in: a group that neither captures nor
changes settings contributes its parts. -/
def spliced : Item → List Item
  | .group none change body => if change = {} then body else [.group none change body]
  | item => [item]

end Item

end Conform.Regex
