import Conform.Pattern.Expression

/-!
# Searching with regular expressions

A search tries starts from left to right and, at each, the alternatives in order; repetitions prefer
more rounds unless they are lazy.  The continuation of a step says what has to match after it.

Besides the place that is reached, a search has a memory that failed attempts leave traces in: a
cursor, where the latest attempt began or got to, and the bounds of groups.  A failed alternative
takes back the groups that it was the first to set; inside a repetition it takes back all changes to
groups.  The cursor matters in one case: a possessive repetition goes on from where its last, failed
round left it.

A round of a repetition that consumes nothing is the last one, which bounds the rounds.
-/

namespace Conform.Regex

/-- What a search remembers, also of attempts that failed. -/
structure Memory where
  /-- Where the latest attempt began or got to. -/
  cursor : Nat
  /-- The bounds of the groups, start and end of each in turn, up to the last one that was set. -/
  marks : List (Option Nat) := []

namespace Memory

/-- Set one of the bounds of the groups. -/
def mark (memory : Memory) (index place : Nat) : Memory :=
  { memory with marks :=
      if index < memory.marks.length then memory.marks.set index (some place)
      else memory.marks ++ List.replicate (index - memory.marks.length) none ++ [some place] }

/-- Move the cursor. -/
def moved (memory : Memory) (place : Nat) : Memory := { memory with cursor := place }

/-- The memory after a failed attempt: inside a repetition groups are as before, elsewhere those
that were set before keep what the attempt made of them. -/
def takenBack (after before : Memory) (looping : Bool) : Memory :=
  { after with marks := if looping then before.marks else after.marks.take before.marks.length }

/-- The bounds of a group that took part. -/
def bounds? (memory : Memory) (index : Nat) : Option (Nat × Nat) :=
  match memory.marks[2 * (index - 1)]?, memory.marks[2 * (index - 1) + 1]? with
  | some (some first), some (some last) => some (first, last)
  | _, _ => none

/-- The span of a group that took part and does not end before its start. -/
def span? (memory : Memory) (index : Nat) : Option (Nat × Nat) :=
  match memory.bounds? index with
  | some (first, last) => if first ≤ last then some (first, last) else none
  | none => none

/-- Whether a group ends before its start. -/
def isReversed (memory : Memory) : Bool :=
  (List.range memory.marks.length).any fun index =>
    match memory.bounds? (index + 1) with
    | some (first, last) => last < first
    | none => false

end Memory

/-- What came of an attempt. -/
structure Outcome where
  found : Bool
  memory : Memory

namespace Outcome

/-- A failed attempt. -/
def failed (memory : Memory) : Outcome := ⟨false, memory⟩

/-- The outcome, with the cursor moved if the attempt failed. -/
def leaving (outcome : Outcome) (place : Nat) : Outcome :=
  if outcome.found then outcome else ⟨false, outcome.memory.moved place⟩

/-- The outcome, or that of another attempt. -/
def orElse (outcome : Outcome) (other : Memory → Outcome) : Outcome :=
  if outcome.found then outcome else other outcome.memory

end Outcome

/-- What has to match after a step. -/
abbrev Continuation := Nat → Memory → Outcome

/-- Nothing has to match any more. -/
def accepted : Continuation := fun place memory => ⟨true, memory.moved place⟩

/-- Whether there is a word character at a place. -/
def wordAt (text : Array Char) (ascii : Bool) (place : Nat) : Bool :=
  match text[place]? with
  | some c => Category.word.contains ascii c
  | none => false

/-- Whether word and other characters meet at a place. -/
def isBoundary (text : Array Char) (ascii : Bool) (place : Nat) : Bool :=
  (place != 0 && wordAt text ascii (place - 1)) != wordAt text ascii place

namespace Anchor

/-- Whether the condition holds at a place. -/
def holds (anchor : Anchor) (text : Array Char) (place : Nat) : Bool :=
  match anchor with
  | .textStart => place == 0
  | .lineStart => place == 0 || text[place - 1]? == some '\n'
  | .textEnd => place == text.size
  | .beforeFinalBreak =>
    place == text.size || (place + 1 == text.size && text[place]? == some '\n')
  | .lineEnd => place == text.size || text[place]? == some '\n'
  | .boundary ascii => text.size != 0 && isBoundary text ascii place
  | .inside ascii => text.size != 0 && !isBoundary text ascii place

end Anchor

namespace Test

/-- Whether there is a character at a place and it passes the test. -/
def passesAt (test : Test) (text : Array Char) (place : Nat) : Bool :=
  match text[place]? with
  | some c => test.passes c
  | none => false

/-- The number of characters from a place on that pass the test, up to a bound. -/
def countFrom (test : Test) (text : Array Char) (place : Nat) : Nat → Nat
  | 0 => 0
  | bound + 1 => if test.passesAt text place then countFrom test text (place + 1) bound + 1 else 0

end Test

/-- Whether an expression cannot match at a place because of what it begins with. -/
def Node.isExcludedAt (node : Node) (text : Array Char) (place : Nat) : Bool :=
  match node.beginning with
  | .test (.literal code .none false) => !(Test.literal code .none false).passesAt text place
  | .test (.oneOf set) => set.folding == .none && !(Test.oneOf set).passesAt text place
  | _ => false

/-- Go on after a run, giving back one character after the other, as many as are spare. -/
def giveBack (text : Array Char) (follower : Option Nat) (looping : Bool) (before : Memory)
    (least : Nat) (next : Continuation) : Nat → Memory → Outcome
  | spare, memory =>
    let place := least + spare
    let outcome :=
      if follower.all fun code => (Test.literal code .none false).passesAt text place then
        let outcome := next place (memory.moved place)
        if outcome.found then outcome
        else .failed (outcome.memory.takenBack before looping)
      else .failed memory
    match spare with
    | 0 => outcome
    | spare + 1 => outcome.orElse (giveBack text follower looping before least next spare)

/-- Go on after a run, taking one more character after the other; `more` may still be taken. -/
def takeMore (text : Array Char) (test : Test) (looping : Bool) (before : Memory)
    (next : Continuation) : Nat → Nat → Memory → Outcome
  | more, place, memory =>
    (next place (memory.moved place)).orElse fun memory =>
      let memory := (memory.takenBack before looping).moved place
      if test.passesAt text place then
        let memory := memory.moved (if test.isFoldedClass then place + 1 else place)
        match more with
        | 0 => .failed memory
        | more + 1 => takeMore text test looping before next more (place + 1) memory
      else .failed memory

/-- Match a run of characters that pass a test. -/
def matchRun (text : Array Char) (looping : Bool) (least : Nat) (most : Option Nat) (greed : Greed)
    (test : Test) (follower : Option Nat) (place : Nat) (memory : Memory) (next : Continuation) :
    Outcome :=
  let left := text.size - place
  if left < least then .failed memory
  else
    let bound := min left (most.getD left)
    let count := test.countFrom text place (if greed = .lazy then least else bound)
    let memory := memory.moved (if test.isFoldedClass then place + count else place)
    if count < least then .failed memory
    else
      match greed with
      | .greedy =>
        giveBack text follower looping memory (place + least) next (count - least) memory
      | .lazy =>
        takeMore text test looping memory next (most.getD left - least) (place + count) memory
      | .possessive => next (place + count) memory

/-- The rounds of a greedy repetition: `least` are owed, and up to `most` may follow.  `last` is
where the latest round beyond those owed began. -/
def greedyRounds (body : Nat → Memory → Continuation → Outcome) (least : Nat) (most : Option Nat)
    (next : Continuation) : Nat → Nat → Option Nat → Nat → Memory → Outcome
  | 0, _, _, _, memory => .failed memory
  | fuel + 1, done, last, place, memory =>
    let memory := memory.moved place
    if done < least then
      (body place memory (greedyRounds body least most next fuel (done + 1) last)).leaving place
    else
      let finish := fun memory => (next place memory).leaving place
      if most.all (done < ·) && last != some place then
        (body place memory (greedyRounds body least most next fuel (done + 1) (some place))).orElse
          fun after => finish ((after.takenBack memory true).moved place)
      else finish memory

/-- The rounds of a lazy repetition. -/
def lazyRounds (looping : Bool) (body : Nat → Memory → Continuation → Outcome) (least : Nat)
    (most : Option Nat) (next : Continuation) : Nat → Nat → Option Nat → Nat → Memory → Outcome
  | 0, _, _, _, memory => .failed memory
  | fuel + 1, done, last, place, memory =>
    let memory := memory.moved place
    if done < least then
      (body place memory
        (lazyRounds looping body least most next fuel (done + 1) last)).leaving place
    else
      (next place memory).orElse fun after =>
        let memory := (after.takenBack memory looping).moved place
        if most.all (done < ·) && last != some place then
          (body place memory
            (lazyRounds looping body least most next fuel (done + 1) (some place))).leaving place
        else .failed memory

/-- The rounds of a possessive repetition that began at `start`: each is matched from the cursor,
and what comes after them too. -/
def possessiveRounds (body : Nat → Memory → Continuation → Outcome) (least : Nat)
    (most : Option Nat) (start : Nat) (next : Continuation) :
    Nat → Nat → Option Nat → Memory → Outcome
  | 0, _, _, memory => .failed memory
  | fuel + 1, done, last, memory =>
    let place := memory.cursor
    if done < least then
      let outcome := body place memory accepted
      if outcome.found then
        possessiveRounds body least most start next fuel (done + 1) last outcome.memory
      else .failed (outcome.memory.moved start)
    else if most.all (done < ·) && last != some place then
      let outcome := body place memory accepted
      if outcome.found then
        possessiveRounds body least most start next fuel (done + 1) (some place) outcome.memory
      else
        let memory := outcome.memory.takenBack memory true
        next memory.cursor memory
    else next place memory

/-- Match characters that count as the same as the given ones. -/
def matchSame (text : Array Char) (folding : Folding) (next : Continuation) :
    List Char → Nat → Memory → Outcome
  | [], place, memory => next place memory
  | c :: rest, place, memory =>
    match text[place]? with
    | some d =>
      if folding.lower d.toNat == folding.lower c.toNat then
        matchSame text folding next rest (place + 1) memory
      else .failed memory
    | none => .failed memory

mutual

/-- Match an expression from a place on, and go on with the continuation.  `looping` says whether it
is part of a repetition. -/
def Node.attempt (text : Array Char) (looping : Bool) :
    Node → Nat → Memory → Continuation → Outcome
  | .one test, place, memory, next =>
    if test.passesAt text place then next (place + 1) memory else .failed memory
  | .anchor condition, place, memory, next =>
    if condition.holds text place then next place memory else .failed memory
  | .sequence nodes, place, memory, next => Node.attemptAll text looping nodes place memory next
  | .choice branches, place, memory, next =>
    Node.attemptSome text looping memory branches place memory next
  | .group index node, place, memory, next =>
    node.attempt text looping place (memory.mark (2 * (index - 1)) place) fun place memory =>
      next place (memory.mark (2 * (index - 1) + 1) place)
  | .reference index folding, place, memory, next =>
    match memory.span? index with
    | some (first, last) =>
      matchSame text folding next (text.extract first last).toList place memory
    | none => .failed memory
  | .run least most greed test follower, place, memory, next =>
    matchRun text looping least most greed test follower place memory next
  | .repeated least most greed node, place, memory, next =>
    let fuel := least + (text.size + 2) * (text.size + 2)
    match greed with
    | .greedy =>
      greedyRounds (fun place memory next => node.attempt text true place memory next) least most
        next fuel 0 none place memory
    | .lazy =>
      lazyRounds looping (fun place memory next => node.attempt text true place memory next) least
        most next fuel 0 none place memory
    | .possessive =>
      possessiveRounds (fun place memory next => node.attempt text looping place memory next) least
        most place next fuel 0 none (memory.moved place)
  | .look negated width node, place, memory, next =>
    if place < width then if negated then next place memory else .failed memory
    else
      let outcome :=
        node.attempt text looping (place - width) (memory.moved (place - width)) accepted
      match outcome.found, negated with
      | true, false => next place outcome.memory
      | false, true => next place (outcome.memory.takenBack memory looping)
      | _, _ => .failed outcome.memory
  | .atomic node, place, memory, next =>
    let outcome := node.attempt text looping place (memory.moved place) accepted
    if outcome.found then next outcome.memory.cursor outcome.memory
    else .failed (outcome.memory.moved place)
  | .conditional index present absent, place, memory, next =>
    if (memory.span? index).isSome then present.attempt text looping place memory next
    else absent.attempt text looping place memory next
termination_by structural node => node

/-- Match expressions one after another. -/
def Node.attemptAll (text : Array Char) (looping : Bool) :
    List Node → Nat → Memory → Continuation → Outcome
  | [], place, memory, next => next place memory
  | node :: rest, place, memory, next =>
    node.attempt text looping place memory fun place memory =>
      Node.attemptAll text looping rest place memory next
termination_by structural nodes => nodes

/-- Match the first expression that lets the continuation succeed; those that cannot match are
passed over. -/
def Node.attemptSome (text : Array Char) (looping : Bool) (before : Memory) :
    List Node → Nat → Memory → Continuation → Outcome
  | [], _, memory, _ => .failed memory
  | node :: rest, place, memory, next =>
    if node.isExcludedAt text place then
      Node.attemptSome text looping before rest place memory next
    else
      (node.attempt text looping place (memory.moved place) next).orElse fun after =>
        Node.attemptSome text looping before rest place (after.takenBack before looping) next
termination_by structural nodes => nodes

end

mutual

/-- Whether an item begins with a character without case, if it does not match the empty text
only. -/
def Item.beginsPlain? (flags : Flags) : Item → Option Bool
  | .literal code false => some (!(foldingOf flags).hasCaseWithin code code)
  | .group _ change body => Item.beginPlain? (change.apply flags) body
  | _ => some false
termination_by structural item => item

/-- Whether items begin with a character without case, if they do not match the empty text only. -/
def Item.beginPlain? (flags : Flags) : List Item → Option Bool
  | [] => none
  | item :: rest => (item.beginsPlain? flags).or (Item.beginPlain? flags rest)
termination_by structural items => items

end

/-- The member that an alternative begins with, if it is a character without case. -/
def firstPlain? (flags : Flags) (branch : List Item) : Option Member :=
  match branch with
  | .literal code false :: _ =>
    if (foldingOf flags).hasCaseWithin code code then none else some (.literal code)
  | _ => none

/-- Whether case makes no difference to a class. -/
def isCaseless (flags : Flags) (members : List Member) : Bool :=
  !flags.ignoreCase || members.all fun member =>
    match member with
    | .literal code => !(foldingOf flags).hasCaseWithin code code
    | .range first last =>
      last ≤ firstPlaneEnd && !(foldingOf flags).hasCaseWithin first last
    | .category .. => true

/-- The class of the characters that an item can begin with, where it is known. -/
def Item.firstClass? (flags : Flags) : Item → Option (List Member × Bool)
  | .literal code false => (firstPlain? flags [.literal code false]).map fun member =>
    ([member], false)
  | .choice branches => (branches.mapM (firstPlain? flags)).map fun members => (members, false)
  | .set members negated => if isCaseless flags members then some (members, negated) else none
  | .group _ change (first :: _) => first.firstClass? (change.apply flags)
  | _ => none

/-- Which starts of a text are worth trying. -/
inductive Starts where
  /-- All from which enough of the text is left. -/
  | all
  /-- All but the end of the text. -/
  | inside
  /-- Those before a character of a class. -/
  | before (set : CharClass)

/-- A pattern that is ready to be searched for. -/
structure Program where
  node : Node
  least : Nat
  starts : Starts

namespace Program

/-- The starts worth trying for items of a certain least width.  Named classes are read under the
settings of the whole pattern. -/
def startsOf (flags : Flags) (least : Nat) (items : List Item) : Starts :=
  if least = 0 then .all
  else if Item.beginPlain? flags items == some true then .inside
  else
    match items.head?.bind fun item => item.firstClass? flags with
    | some (members, negated) => .before ⟨members, negated, flags.ascii, .none⟩
    | none => .all

/-- The program of what a pattern denotes. -/
def ofReading (reading : Reading) : Except Refusal Program := do
  let node ← Node.ofItems reading.widths reading.flags reading.items
  let least := (width reading.widths reading.items).least
  return ⟨node, least, startsOf reading.flags least reading.items⟩

/-- Whether a start is worth trying. -/
def mayStart (program : Program) (text : Array Char) (place : Nat) : Bool :=
  match program.starts with
  | .all => place + program.least ≤ text.size + 1 || program.least = 0
  | .inside => place < text.size
  | .before set => (Test.oneOf set).passesAt text place

/-- Whether the pattern occurs somewhere in a text. -/
def search (program : Program) (text : String) : Except Refusal Bool :=
  let chars := text.toList.toArray
  let found :=
    if chars.size < program.least then none
    else
      (List.range (chars.size + 1)).findSome? fun place =>
        if program.mayStart chars place then
          let outcome := program.node.attempt chars false place ⟨place, []⟩ accepted
          if outcome.found then some outcome.memory else none
        else none
  match found with
  | none => .ok false
  | some memory => if memory.isReversed then .error .reversedGroup else .ok true

end Program

end Conform.Regex

namespace Conform.Pattern

/-- The pattern of a text, with the settings that the text itself makes. -/
def compile (source : String) (flags : Flags) : Except Regex.Refusal Pattern := do
  let reading ← Regex.Reading.ofText source flags
  let _ ← Regex.Program.ofReading reading
  return ⟨.text source, reading.flags⟩

/-- Whether what a text describes, read under settings, occurs somewhere in another text. -/
def search (source : String) (flags : Flags) (text : String) : Except Regex.Refusal Bool := do
  (← Regex.Program.ofReading (← Regex.Reading.ofText source flags)).search text

end Conform.Pattern
