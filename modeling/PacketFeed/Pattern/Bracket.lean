import PacketFeed.Pattern.Primitive

/-!
# Brackets

Sets of characters are written in brackets, as characters, ranges, named sets
and further brackets.  Two sets can be intersected, subtracted or compared by
doubled signs between them; a caret in front takes what is not in the set.
-/

namespace PacketFeed.Pattern

/-- What is done with the sets on both sides of a doubled sign. -/
inductive SetOperation where
  | intersection
  | difference
  | symmetricDifference
deriving DecidableEq, Repr

/-- The set that an operation makes out of two. -/
def SetOperation.apply : SetOperation → CharSet → CharSet → CharSet
  | .intersection => CharSet.intersection
  | .difference => CharSet.difference
  | .symmetricDifference => CharSet.symmetricDifference

/-- A set that has been read, and how deeply it is nested. -/
structure NestedSet where
  set : CharSet := .empty
  depth : Nat := 0
deriving DecidableEq, Repr

/-- The items of a bracket that have been read. -/
structure SetItems where
  set : CharSet := .empty
  count : Nat := 0
  depth : Nat := 0
deriving DecidableEq, Repr

namespace SetItems

/-- Add an item. -/
def add (items : SetItems) (item : NestedSet) : SetItems :=
  { set := items.set.union item.set
    count := items.count + 1
    depth := max items.depth item.depth }

/-- Add a single character. -/
def addCharacter (items : SetItems) (character : Char) : SetItems :=
  items.add { set := .single character }

/-- The items as one set; two or more of them are nested one level deeper. -/
def close (items : SetItems) : NestedSet :=
  { set := items.set
    depth := if items.count < 2 then items.depth else items.depth + 1 }

end SetItems

/-- What waits for the end of the set that is being read. -/
inductive Pending where
  /-- A bracket was opened after some items of another one. -/
  | bracket (outer : SetItems) (negated : Bool)
  /-- A doubled sign stands after a set. -/
  | operation (operation : SetOperation) (left : NestedSet)
deriving DecidableEq, Repr

/-- Finish an operation that waits for its second set. -/
def finishOperation (pending : List Pending) (right : NestedSet) :
    NestedSet × List Pending :=
  match pending with
  | .operation operation left :: rest =>
      ({ set := CharSet.empty.union (operation.apply left.set right.set)
         depth := max left.depth right.depth + 1 }, rest)
  | _ => (right, pending)

/--
The character that comes after the next one, apart from blanks and the sign
that starts a comment where these are skipped.
-/
def afterNext (spaced : Bool) (rest : List Char) : Option Char :=
  if spaced then
    match rest.tail.dropWhile Text.isBlank with
    | '#' :: comment => (comment.dropWhile Text.isBlank).head?
    | others => others.head?
  else
    rest.tail.head?

/-- The set named between a bracket with a colon and its counterpart. -/
def namedSet? (rest : List Char) : Option (CharSet × Bool × List Char) :=
  match rest with
  | '[' :: ':' :: inner =>
      let negated := inner.head? == some '^'
      let inner := if negated then inner.tail else inner
      let name := inner.takeWhile (· != ':')
      match CharSet.named? (String.ofList name), inner.dropWhile (· != ':') with
      | some set, ':' :: ']' :: rest => some (set, negated, rest)
      | _, _ => none
  | _ => none

namespace Reading

/-- The set, or what is not in it. -/
def negate (negated : Bool) (set : CharSet) : Reading CharSet := do
  if negated then
    ensure (← modes).wide
    return set.complement
  else
    return set

/--
A set as the modes want it: with both cases of its letters, or negated.  Where
the cases of letters are not known, a set without characters is as good with
both cases, and so is what is not in it.
-/
def adapt (negated : Bool) (set : CharSet) : Reading CharSet := do
  let modes ← modes
  negate negated
    (if modes.ignoresCase && !modes.wide then set.ignoringCase else set)

/-- The items of a set as one set, with both cases of letters if need be. -/
def closeItems (items : SetItems) : Reading NestedSet := do
  return { items.close with set := ← adapt false items.set }

/-- Read hyphens, which mean themselves at the start of a bracket. -/
def readHyphens (items : SetItems) : (bound : List Char) → Reading SetItems
  | [] => return items
  | _ :: bound => do
      if (← peek) = '-' then
        dropAndSkip
        ensureKnownCases
        readHyphens (items.addCharacter '-') bound
      else
        return items

/-- Read the start of a bracket, up to where every character has its meaning. -/
def openBracket : Reading (Bool × SetItems) := do
  dropAndSkip
  let negated := (← peek) == '^'
  if negated then
    dropAndSkip
  let items ← readHyphens {} (← rest)
  if items.count = 0 && (← peek) = ']' then
    dropAndSkip
    let _ ← peek
    ensureKnownCases
    return (negated, items.addCharacter ']')
  else
    return (negated, items)

/-- Read a character of a set or an escape. -/
def readSetPrimitive : Reading Primitive := do
  let character ← peek
  if character = '\\' then
    readEscape
  else
    drop
    return .literal character

/-- A character that a set may hold. -/
def setCharacter (character : Char) : Reading Char := do
  ensure ((← modes).wide || character.toNat < 0x80)
  return character

/-- Read a character, a range or a set that an escape stands for. -/
def readItem : Reading NestedSet := do
  ensureKnownCases
  let first ← readSetPrimitive
  skip
  let hyphen := (← peek) == '-'
  let next := afterNext (← modes).spaced (← rest)
  if hyphen && next != some ']' && next != some '-' then
    dropAndSkip
    let _ ← peek
    match first, ← readSetPrimitive with
    | .literal low, .literal high =>
        ensure (decide (low ≤ high))
        return { set := .ofRange (← setCharacter low) (← setCharacter high) }
    | _, _ => refuse
  else
    match first with
    | .literal character =>
        return { set := .single (← setCharacter character) }
    | .set set => return { set }
    | .condition _ => refuse

/-- The operation that a character stands for if it is doubled. -/
def operation? (character : Char) : Option SetOperation :=
  match character with
  | '&' => some .intersection
  | '-' => some .difference
  | '~' => some .symmetricDifference
  | _ => none

/-- The operation that comes next, if one does. -/
def nextOperation? : Reading (Option SetOperation) := do
  match ← rest with
  | first :: second :: _ =>
      return if first = second then operation? first else none
  | _ => return none

/--
Read up to the end of the outermost bracket, with the items of the current one
and what waits for it.  Every round moves past a character at least.
-/
def readItems (pending : List Pending) (items : SetItems) :
    (bound : List Char) → Reading NestedSet
  | [] => refuse
  | _ :: bound => do
      skip
      match ← peek with
      | '[' =>
          match namedSet? (← rest) with
          | some (set, negated, rest) =>
              setRest rest
              ensureKnownCases
              let set ← adapt negated set
              readItems pending (items.add { set }) bound
          | none =>
              let (negated, inner) ← openBracket
              readItems (.bracket items negated :: pending) inner bound
      | ']' =>
          drop
          let (inner, pending) :=
            finishOperation pending (← closeItems items)
          match pending with
          | .bracket outer negated :: pending =>
              let closed : NestedSet :=
                { set := ← adapt negated inner.set
                  depth := inner.depth + 1 }
              if pending.isEmpty then
                return closed
              else
                readItems pending (outer.add closed) bound
          | _ => refuse
      | _ =>
          match ← nextOperation? with
          | some operation =>
              drop
              drop
              let (left, pending) :=
                finishOperation pending (← closeItems items)
              readItems (.operation operation left :: pending) {} bound
          | none =>
              readItems pending (items.add (← readItem)) bound

/-- Read a set in brackets. -/
def readBracket : Reading NestedSet := do
  let (negated, items) ← openBracket
  readItems [.bracket {} negated] items (← rest)

end Reading

end PacketFeed.Pattern
