import PacketFeed.Pattern.Opening
import Std.Data.HashMap

/-!
# Room

The room that a pattern takes when it is turned into a machine that reads bytes.
Machines are made of states; a state may have several ways out, for which it
needs more room.  Two machines are made of each pattern, one that reads forwards
and one that reads backwards, and neither may take more than ten mebibytes.  A
pattern that is searched for as a choice between words needs no machine.

Parts of machines are joined by a way from the end of one to the start of the
next.  If the end is a fork, that way takes room.
-/

namespace PacketFeed.Pattern

/-- The number of bytes for a state. -/
def stateRoom : Nat := 32

/-- The number of bytes for a way out of a fork. -/
def forkRoom : Nat := 4

/-- The number of bytes for a way out that reads a range of bytes. -/
def rangeRoom : Nat := 8

/-- The number of bytes that a machine may take. -/
def roomLimit : Nat := 10485760

/-- What has been built of a machine. -/
structure Machine where
  /-- The number of states, which is also the number of the next one. -/
  states : Nat := 0
  /-- The number of bytes for ways out. -/
  ways : Nat := 0
deriving DecidableEq, Repr

/-- Whether the end of a part is a fork. -/
abbrev EndsInFork := Bool

namespace Machine

/-- The room that a machine takes. -/
def room (machine : Machine) : Nat :=
  machine.states * stateRoom + machine.ways

/-- Whether a machine takes more room than it may. -/
def isTooLarge (machine : Machine) : Bool :=
  roomLimit < machine.room

/-- Add states without ways that take room. -/
def addStates (machine : Machine) (count : Nat) : Machine :=
  { machine with states := machine.states + count }

/-- Add a state with ways out for some ranges of bytes. -/
def addRanges (machine : Machine) (count : Nat) : Machine :=
  { states := machine.states + 1, ways := machine.ways + count * rangeRoom }

/-- Add ways out of forks. -/
def addForkWays (machine : Machine) (count : Nat) : Machine :=
  { machine with ways := machine.ways + count * forkRoom }

/-- Add a way out of the end of a part. -/
def leave (machine : Machine) (endsInFork : EndsInFork) : Machine :=
  if endsInFork then machine.addForkWays 1 else machine

end Machine

/-! ## Sets of characters

States that lead on in the same way are used again, as far as they are found in
a table.  A table has a fixed number of slots; an entry goes to the slot that is
computed from it and displaces what was there.
-/

/-- The slot of an entry in a table of the given size. -/
def slot (size : UInt64) (entry : List UInt64) : UInt64 :=
  entry.foldl (fun hash word => (hash ^^^ word) * 1099511628211)
    14695981039346656037 % size

/-- Entries and the states for them, by their slots. -/
abbrev SlotTable := Std.HashMap UInt64 (List UInt64 × Nat)

/-- The state for an entry, if the table knows it. -/
def SlotTable.state? (table : SlotTable) (size : UInt64)
    (entry : List UInt64) : Option Nat :=
  match table[slot size entry]? with
  | some (known, state) => if known = entry then some state else none
  | none => none

/-- Enter a state. -/
def SlotTable.enter (table : SlotTable) (size : UInt64)
    (entry : List UInt64) (state : Nat) : SlotTable :=
  table.insert (slot size entry) (entry, state)

/-- A machine under construction with its table. -/
structure Workshop where
  machine : Machine
  table : SlotTable := {}

namespace Workshop

/-- The number of slots for a machine that reads forwards. -/
def forwardSlots : UInt64 := 10000

/-- The number of slots for a machine that reads backwards. -/
def backwardSlots : UInt64 := 1000

/-- Ways out that read a range of bytes, each with the state it leads to. -/
abbrev Ways := List (ByteRange × Nat)

/-- The entry for some ways. -/
def entryOf (ways : Ways) : List UInt64 :=
  ways.flatMap fun (range, state) =>
    [range.first.toUInt64, range.last.toUInt64, UInt64.ofNat state]

/-- The state with the given ways out, which is added if it is not known. -/
def stateFor (workshop : Workshop) (ways : Ways) : Nat × Workshop :=
  let entry := entryOf ways
  match workshop.table.state? forwardSlots entry with
  | some state => (state, workshop)
  | none =>
      let state := workshop.machine.states
      (state,
        { machine := workshop.machine.addRanges ways.length
          table := workshop.table.enter forwardSlots entry state })

/--
A state that is not finished: the ways out whose ends are known, and the range
of the way whose end is still being built.
-/
structure Unfinished where
  ways : Ways := []
  last : Option ByteRange := none

/-- The ways of a state whose last way leads to the given state. -/
def Unfinished.finish (unfinished : Unfinished) (state : Nat) : Ways :=
  match unfinished.last with
  | some range => unfinished.ways ++ [(range, state)]
  | none => unfinished.ways

/-- The number of ranges that a row shares with the ways being built. -/
def sharedLength : List Unfinished → List ByteRange → Nat
  | unfinished :: others, range :: row =>
      if unfinished.last = some range then sharedLength others row + 1 else 0
  | _, _ => 0

/--
Finish the states after the first ones, the last of them first, and give the
state to which the way out of the last of the first ones leads.
-/
def finishAll (target : Nat) (workshop : Workshop) :
    List Unfinished → Nat × Workshop
  | [] => (target, workshop)
  | unfinished :: others =>
      let (state, workshop) := finishAll target workshop others
      workshop.stateFor (unfinished.finish state)

/-- Finish what a row does not share, and start the rest of the row. -/
def addRow (target : Nat) (built : Workshop × List Unfinished)
    (row : List ByteRange) : Workshop × List Unfinished :=
  let (workshop, unfinished) := built
  let shared := sharedLength unfinished row
  let (state, workshop) :=
    finishAll target workshop (unfinished.drop (shared + 1))
  let kept := unfinished.take shared
  let started : Unfinished :=
    { ways := ((unfinished[shared]?).getD {}).finish state
      last := row[shared]? }
  let rest := (row.drop (shared + 1)).map fun range => { last := some range }
  (workshop, kept ++ started :: rest)

/-- Add the states that read a character of the rows forwards. -/
def addForwards (machine : Machine) (rows : List (List ByteRange)) : Machine :=
  let target := machine.states
  let (workshop, unfinished) :=
    rows.foldl (addRow target) ({ machine := machine.addStates 1 }, [{}])
  (finishAll target workshop unfinished).2.machine

/-- Add the states of a row that lead to the given state, first byte last. -/
def addRowBackwards (workshop : Workshop) (target : Nat) :
    List ByteRange → Workshop
  | [] => workshop
  | range :: row =>
      let entry :=
        [UInt64.ofNat target, range.first.toUInt64, range.last.toUInt64]
      match workshop.table.state? backwardSlots entry with
      | some state => addRowBackwards workshop state row
      | none =>
          let state := workshop.machine.states
          addRowBackwards
            { machine := workshop.machine.addStates 1
              table := workshop.table.enter backwardSlots entry state }
            state row

/-- Add the states that read a character of the rows backwards. -/
def addBackwards (machine : Machine) (rows : List (List ByteRange)) :
    Machine :=
  let target := machine.states + 1
  let workshop := rows.foldl
    (fun workshop row => addRowBackwards workshop target row)
    { machine := machine.addStates 2 }
  workshop.machine.addForkWays rows.length

end Workshop

/-- Add the states that read one character of a set. -/
def Machine.addSet (machine : Machine) (set : CharSet) (backwards : Bool) :
    Machine :=
  if set.ranges.all fun (_, last) => last < 0x80 then
    (machine.addStates 1).addRanges set.ranges.length
  else if backwards then
    Workshop.addBackwards machine set.byteRows
  else
    Workshop.addForwards machine set.byteRows

/-! ## Choices between texts

Texts to choose from share the states for their common starts.  A text that
ends where others go on divides these into those before it and those after it,
because the order of the choice is kept.
-/

/--
The texts that go on, divided by those that end.  Of texts that end before any
other has gone on only the first counts.
-/
def divide (hasEnded hasGoneOn : Bool) (group : List (List UInt8)) :
    List (List UInt8) → List (List (List UInt8))
  | [] => [group.reverse]
  | [] :: words =>
      if hasEnded && !hasGoneOn then
        divide hasEnded hasGoneOn group words
      else
        group.reverse :: divide true hasGoneOn [] words
  | word :: words => divide hasEnded true (word :: group) words

/-- The words after a first byte, for each first byte in the words. -/
def byFirst (words : List (List UInt8)) : List (List (List UInt8)) :=
  let firsts := (words.filterMap List.head?).eraseDups
  firsts.map fun byte =>
    words.filterMap fun word =>
      match word with
      | first :: rest => if first = byte then some rest else none
      | [] => none

/-- Add the states that read one of some words, of at most `length` bytes. -/
def Machine.addWords (machine : Machine) (words : List (List UInt8)) :
    (length : Nat) → Machine
  | 0 => machine
  | length + 1 =>
      let groups := divide false false [] words
      let machine := groups.foldl
        (fun machine group =>
          let followers := byFirst group
          let machine := followers.foldl
            (fun machine rests =>
              if rests.all List.isEmpty then machine
              else machine.addWords rests length)
            machine
          match followers.length with
          | 0 => machine
          | 1 => machine.addStates 1
          | count => machine.addRanges count)
        machine
      let filled := groups.filter fun group => !group.isEmpty
      (machine.addStates 1).addForkWays (filled.length + (groups.length - 1))

/-- The text that a pattern stands for, if it is one. -/
def text? : Pattern → Option (List Char)
  | .text characters => some characters
  | _ => none

/-! ## Patterns -/

/-- A step that adds a part to a machine. -/
abbrev Step := Machine → Machine × EndsInFork

/--
Add a part several times in a row after another one.  Nothing more is added to
a machine that is too large.
-/
def chain (step : Step) :
    (count : Nat) → Machine × EndsInFork → Machine × EndsInFork
  | 0, built => built
  | count + 1, (machine, endsInFork) =>
      if machine.isTooLarge then
        (machine, endsInFork)
      else
        let (machine, next) := step machine
        chain step count (machine.leave endsInFork, next)

/-- Add a part several times in a row. -/
def exactly (step : Step) (count : Nat) : Step := fun machine =>
  match count with
  | 0 => (machine.addStates 1, false)
  | count + 1 => chain step count (step machine)

/-- Add a part several times in a row, where each time may be the last. -/
def optional (step : Step) :
    (count : Nat) → Machine × EndsInFork → Machine × EndsInFork
  | 0, built => built
  | count + 1, (machine, endsInFork) =>
      if machine.isTooLarge then
        (machine, endsInFork)
      else
        let (machine, next) := step (machine.addStates 1)
        optional step count ((machine.leave endsInFork).addForkWays 2, next)

/-- Add a part that is repeated, where `neverEmpty` tells that it takes bytes. -/
def rounds (step : Step) (neverEmpty : Bool) (least : Nat)
    (most : Option Nat) : Step := fun machine =>
  match least, most with
  | 0, some 1 =>
      let (machine, last) := step (machine.addStates 1)
      (((machine.addStates 1).addForkWays 2).leave last, false)
  | 0, none =>
      if neverEmpty then
        let (machine, last) := step (machine.addStates 1)
        ((machine.addForkWays 1).leave last, true)
      else
        let (machine, last) := step machine
        (((machine.addStates 3).addForkWays 4).leave last, false)
  | 1, none =>
      let (machine, last) := step machine
      (((machine.addStates 1).addForkWays 1).leave last, true)
  | least, none =>
      let (machine, last) := exactly step least machine
      (((machine.addStates 1).addForkWays 1).leave last, true)
  | least, some most =>
      let (machine, last) := exactly step least machine
      if least = most then
        (machine, last)
      else
        let (machine, last) :=
          optional step (most - least) (machine.addStates 1, last)
        (machine.leave last, false)

mutual

/-- Add the states for a pattern. -/
def build (backwards : Bool) : Pattern → Step
  | .nothing => fun machine => (machine.addStates 1, false)
  | .text characters => fun machine =>
      (machine.addStates (bytesOf characters).length, false)
  | .one set _ => fun machine => (machine.addSet set backwards, false)
  | .placed _ => fun machine => (machine.addStates 1, false)
  | .repetition body least most _ =>
      rounds (build backwards body)
        ((shortest body).any (0 < ·)) least most
  | .group _ body => fun machine =>
      if backwards then
        build backwards body machine
      else
        let (machine, last) := build backwards body (machine.addStates 1)
        ((machine.addStates 1).leave last, false)
  | .sequence parts => buildRow backwards parts
  | .choice branches => fun machine =>
      match branches.mapM text? with
      | some texts =>
          let words := texts.map fun characters =>
            if backwards then (bytesOf characters).reverse
            else bytesOf characters
          let length := words.foldl (fun length word => max length word.length) 0
          ((machine.addStates 1).addWords words length, false)
      | none =>
          (buildBranches backwards 0 branches machine, false)

/-- Add the states for patterns in a row. -/
def buildRow (backwards : Bool) : List Pattern → Step
  | [] => fun machine => (machine, false)
  | [part] => build backwards part
  | part :: parts => fun machine =>
      if backwards then
        let (machine, last) := buildRow backwards parts machine
        let (machine, next) := build backwards part machine
        (machine.leave last, next)
      else
        let (machine, last) := build backwards part machine
        let (machine, next) := buildRow backwards parts machine
        (machine.leave last, next)

/--
Add the states for the branches of a choice, and the ways to and from them.
The fork in front of them and the state behind them are added after the second
one.
-/
def buildBranches (backwards : Bool) (index : Nat) :
    List Pattern → Machine → Machine
  | [], machine => machine
  | branch :: branches, machine =>
      let (machine, last) := build backwards branch machine
      let machine := if index = 1 then machine.addStates 2 else machine
      buildBranches backwards (index + 1) branches
        ((machine.addForkWays 1).leave last)

end

/--
The whole machine for a pattern.  Unless the pattern fits at the start only, the
machine begins with a loop that skips bytes.
-/
def machine (pattern : Pattern) (backwards : Bool) : Machine :=
  let isBound :=
    if backwards then pattern.isBoundBy .textEnd true
    else pattern.isBoundBy .textStart false
  let start : Machine :=
    if isBound then Machine.addStates {} 1
    else ((Machine.addStates {} 2).addRanges 1).addForkWays 2
  if backwards then
    let (machine, last) := build backwards pattern start
    (machine.addStates 1).leave last
  else
    let (machine, last) := build backwards pattern (start.addStates 1)
    (machine.addStates 2).leave last

/-- Whether a pattern takes no more room than it may. -/
def fits (pattern : Pattern) : Bool :=
  pattern.isWordChoice ||
    (!(pattern.machine false).isTooLarge && !(pattern.machine true).isTooLarge)

end PacketFeed.Pattern
