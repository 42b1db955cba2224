import PacketFeed.Pattern.Bracket
import PacketFeed.Pattern.Room
import PacketFeed.Text.Letter

/-!
# Reading patterns

A written pattern is a choice between rows of parts.  A part is a primitive, a
set in brackets or a group in parentheses, perhaps with a sign after it that
tells how often it is repeated.

Patterns that are nested too deeply, that would take too much room, or that
cannot be decided are refused.
-/

namespace PacketFeed.Pattern

/-- The number of levels that a pattern may have. -/
def depthLimit : Nat := 250

/-- A part that has been read. -/
structure Part where
  pattern : Pattern
  /-- The number of levels in it, as it is written. -/
  depth : Nat := 0
  /-- Whether it is something that can be repeated. -/
  isRepeatable : Bool := true
deriving Repr

namespace Part

/-- The part that is left out. -/
def nothing : Part :=
  { pattern := .nothing }

/-- The greatest depth of some parts. -/
def greatestDepth (parts : List Part) : Nat :=
  parts.foldl (fun depth part => max depth part.depth) 0

/-- A row of parts. -/
def row (parts : List Part) : Part :=
  match parts with
  | [] => nothing
  | [part] => { part with isRepeatable := true }
  | _ =>
      { pattern := .ofParts (parts.map Part.pattern)
        depth := greatestDepth parts + 1 }

/-- A choice between rows. -/
def oneOf (rows : List Part) : Part :=
  match rows with
  | [] => nothing
  | [row] => row
  | _ =>
      { pattern := .ofBranches (rows.map Part.pattern)
        depth := greatestDepth rows + 1 }

/-- A part in parentheses, perhaps remembered under a number. -/
def group (part : Part) (number : Option Nat) : Part :=
  { pattern :=
      match number with
      | some number => .group number part.pattern
      | none => part.pattern
    depth := part.depth + 1 }

/-- A part that is repeated. -/
def repeated (part : Part) (least : Nat) (most : Option Nat)
    (isGreedy : Bool) : Part :=
  { pattern := part.pattern.ofRounds least most isGreedy
    depth := part.depth + 1 }

end Part

/-- What stands outside of a group, and what has been read inside. -/
structure Level where
  /-- The parts of the current row, the last one first. -/
  parts : List Part := []
  /-- The rows before the current one, the last one first. -/
  rows : List Part := []
  /-- The number under which the group is remembered, if it is. -/
  number : Option Nat := none
  /-- The modes outside of the group. -/
  outerModes : Modes := {}
deriving Repr

namespace Level

/-- Add a part to the current row. -/
def add (level : Level) (part : Part) : Level :=
  { level with parts := part :: level.parts }

/-- Start another row. -/
def startRow (level : Level) : Level :=
  { level with parts := [], rows := Part.row level.parts.reverse :: level.rows }

/-- Everything that has been read. -/
def close (level : Level) : Part :=
  Part.oneOf (Part.row level.parts.reverse :: level.rows).reverse

end Level

namespace Reading

/-- Whether a character can stand in the name of a group. -/
def isNameCharacter (isFirst : Bool) (character : Char) : Bool :=
  character == '_' || Text.isLetter character ||
    (!isFirst &&
      (Text.isNumber character || ".[]".toList.contains character))

/-- Read the name of a group, which no other group may have. -/
def readName : Reading Unit := do
  let text ← rest
  let name := text.takeWhile (· != '>')
  match text.dropWhile (· != '>'), name with
  | '>' :: others, first :: following =>
      ensure (isNameCharacter true first &&
        following.all (isNameCharacter false))
      let scanner ← get
      ensure !(scanner.names.contains name)
      set { scanner with rest := others, names := name :: scanner.names }
  | _, _ => refuse

/--
Read letters for modes up to a colon or a closing parenthesis, and give the
modes and what ended them.  After a hyphen modes are switched off.  No letter
may come twice, and a hyphen stands once, in front of a letter.
-/
def readModes (modes : Modes) (seen : List Char) :
    (bound : List Char) → Reading (Modes × Char)
  | [] => refuse
  | _ :: bound => do
      let letter ← peek
      drop
      if letter = ':' || letter = ')' then
        ensure (seen.head? != some '-')
        ensure (letter = ':' || !seen.isEmpty)
        return (modes, letter)
      else
        ensure !(seen.contains letter)
        let modes ←
          if letter = '-' then
            pure modes
          else
            demand (modes.switch? letter !(seen.contains '-'))
        readModes modes (letter :: seen) bound

/-- What an opening parenthesis starts. -/
inductive Parenthesis where
  /-- A group, perhaps remembered under a number, with modes of its own. -/
  | group (number : Option Nat) (modes : Modes)
  /-- A change of modes for the rest of the group around it. -/
  | change (modes : Modes)
deriving DecidableEq, Repr

/-- Read an opening parenthesis and what belongs to it. -/
def readParenthesis : Reading Parenthesis := do
  dropAndSkip
  let modes ← modes
  for look in ["?=", "?!", "?<=", "?<!"] do
    ensure !(← dropText? look)
  if ← dropText? "?P<" then
    readName
    return .group (some (← nextGroup)) modes
  else if ← dropText? "?<" then
    readName
    return .group (some (← nextGroup)) modes
  else if ← dropText? "?" then
    let (changed, ending) ← readModes modes [] (← rest)
    return if ending = ')' then .change changed else .group none changed
  else
    return .group (some (← nextGroup)) modes

/-- Repeat the last part of a row; a question mark turns the order around. -/
def repeatLast (level : Level) (least : Nat) (most : Option Nat) :
    Reading Level := do
  let turned ← dropText? "?"
  let isGreedy := turned == (← modes).fewerFirst
  match level.parts with
  | part :: others =>
      ensure part.isRepeatable
      return { level with
        parts := part.repeated least most isGreedy :: others }
  | [] => refuse

/-- Read a sign of repetition. -/
def readSign (level : Level) (least : Nat) (most : Option Nat) :
    Reading Level := do
  drop
  repeatLast level least most

/-- Read a number, with blanks around it. -/
def readCount? : Reading (Option Nat) := do
  dropBlanks
  let digits ← collectAll Char.isDigit
  dropBlanks
  if digits.isEmpty then
    return none
  else
    let number := numberOf 10 digits
    ensure (number < UInt32.size)
    return some number

/-- Read a repetition whose bounds are given in braces. -/
def readBounds (level : Level) : Reading Level := do
  dropAndSkip
  let _ ← peek
  let least ← demand (← readCount?)
  let most ←
    if (← peek) = ',' then
      dropAndSkip
      if (← peek) = '\x7d' then
        pure none
      else
        pure (some (← demand (← readCount?)))
    else
      pure (some least)
  expect '\x7d'
  ensure (most.all (least ≤ ·))
  repeatLast level least most

/-- Read a primitive as a part. -/
def readPart : Reading Part := do
  return { pattern := ← pattern (← readPrimitive) }

/--
Read up to the end of the text, with what has been read on the current level
and on those around it.  Every round but the last moves past a character at
least.
-/
def readLevels (outer : List Level) (level : Level) :
    (rounds : Nat) → Reading Part
  | 0 => refuse
  | rounds + 1 => do
      skip
      match ← peek? with
      | none =>
          ensure outer.isEmpty
          return level.close
      | some '(' =>
          let modes ← modes
          match ← readParenthesis with
          | .change changed =>
              setModes changed
              let mark := { Part.nothing with isRepeatable := false }
              readLevels outer (level.add mark) rounds
          | .group number changed =>
              setModes changed
              readLevels (level :: outer)
                { number, outerModes := modes } rounds
      | some ')' =>
          match outer with
          | around :: outer =>
              drop
              setModes level.outerModes
              readLevels outer
                (around.add (level.close.group level.number)) rounds
          | [] => refuse
      | some '|' =>
          drop
          readLevels outer level.startRow rounds
      | some '[' =>
          let nested ← readBracket
          let pattern := Pattern.ofSet nested.set !(← modes).wide
          readLevels outer
            (level.add { pattern, depth := nested.depth }) rounds
      | some '?' => readLevels outer (← readSign level 0 (some 1)) rounds
      | some '*' => readLevels outer (← readSign level 0 none) rounds
      | some '+' => readLevels outer (← readSign level 1 none) rounds
      | some '\x7b' => readLevels outer (← readBounds level) rounds
      | some _ => readLevels outer (level.add (← readPart)) rounds

end Reading

/-- The pattern that a text describes, if it can be used. -/
def ofText? (text : String) : Option Pattern :=
  let characters := text.toList
  match (Reading.readLevels [] {} (characters.length + 1)).run
      { rest := characters } with
  | some (part, _) =>
      let pattern := part.pattern
      if part.depth ≤ depthLimit && pattern.isDecided && pattern.fits then
        some pattern
      else
        none
  | none => none

end PacketFeed.Pattern
