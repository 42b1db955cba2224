import PacketFeed.Text.Blank

/-!
# Scanning patterns

A written pattern is read character by character.  Letters in a group such as
`(?x)` change how the characters after it are understood; the scanner keeps
these modes together with what is left to read.
-/

namespace PacketFeed.Pattern

/-- How the characters of a written pattern are understood. -/
structure Modes where
  /-- The two cases of a letter count as one. -/
  ignoresCase : Bool := false
  /-- Lines have starts and ends of their own. -/
  multiline : Bool := false
  /-- A dot stands for a line feed too. -/
  dotTakesAll : Bool := false
  /-- A return ends a line too. -/
  returnEndsLine : Bool := false
  /-- Characters are those of all alphabets, not only the first 128. -/
  wide : Bool := true
  /-- Blanks and comments between characters are skipped. -/
  spaced : Bool := false
  /-- Repetitions try fewer rounds first. -/
  fewerFirst : Bool := false
deriving DecidableEq, Repr

/-- Switch the mode that a letter names on or off, if there is one. -/
def Modes.switch? (modes : Modes) (letter : Char) (on : Bool) :
    Option Modes :=
  match letter with
  | 'i' => some { modes with ignoresCase := on }
  | 'm' => some { modes with multiline := on }
  | 's' => some { modes with dotTakesAll := on }
  | 'R' => some { modes with returnEndsLine := on }
  | 'u' => some { modes with wide := on }
  | 'x' => some { modes with spaced := on }
  | 'U' => some { modes with fewerFirst := on }
  | _ => none

/-- What is left to read, and what has to be known about the part before it. -/
structure Scanner where
  rest : List Char
  modes : Modes := {}
  /-- The number of groups that are remembered. -/
  groups : Nat := 0
  /-- The names of groups that have been given. -/
  names : List (List Char) := []
deriving DecidableEq, Repr

/-- A step of reading, which may find that the pattern is badly written. -/
abbrev Reading := StateT Scanner Option

/-- The text after the blanks and comments that it starts with. -/
def afterComments (inComment : Bool) : List Char → List Char
  | [] => []
  | character :: rest =>
      if inComment then
        afterComments (character != '\n') rest
      else if Text.isBlank character then
        afterComments false rest
      else if character = '#' then
        afterComments true rest
      else
        character :: rest

namespace Reading

variable {α : Type}

/-- Find that the pattern is badly written. -/
def refuse : Reading α :=
  fun _ => none

/-- Take a value that may be missing. -/
def demand (value : Option α) : Reading α :=
  match value with
  | some value => return value
  | none => refuse

/-- Refuse the pattern unless the condition holds. -/
def ensure (condition : Bool) : Reading Unit :=
  if condition then return () else refuse

/-- The modes in force. -/
def modes : Reading Modes :=
  return (← get).modes

/-- Put other modes in force. -/
def setModes (modes : Modes) : Reading Unit :=
  modify fun scanner => { scanner with modes }

/-- The text that is left. -/
def rest : Reading (List Char) :=
  return (← get).rest

/-- Go on with another text. -/
def setRest (rest : List Char) : Reading Unit :=
  modify fun scanner => { scanner with rest }

/-- The next character, if there is one. -/
def peek? : Reading (Option Char) :=
  return (← rest).head?

/-- The next character, which has to be there. -/
def peek : Reading Char := do
  demand (← peek?)

/-- Move past the next character. -/
def drop : Reading Unit := do
  setRest (← rest).tail

/-- Move past blanks and comments, if the modes say so. -/
def skip : Reading Unit := do
  if (← modes).spaced then
    setRest (afterComments false (← rest))

/-- Move past the next character and what is to be skipped after it. -/
def dropAndSkip : Reading Unit := do
  drop
  skip

/-- Move past a character that has to come next. -/
def expect (character : Char) : Reading Unit := do
  ensure (decide ((← peek) = character))
  dropAndSkip

/-- Move past a given text, if the rest starts with it. -/
def dropText? (text : String) : Reading Bool := do
  let left ← rest
  if text.toList.isPrefixOf left then
    setRest (left.drop text.length)
    return true
  else
    return false

/-- The number of the next group. -/
def nextGroup : Reading Nat := do
  let scanner ← get
  set { scanner with groups := scanner.groups + 1 }
  return scanner.groups + 1

/-- Move past blanks, whatever the modes. -/
def dropBlanks : Reading Unit := do
  setRest ((← rest).dropWhile Text.isBlank)

/--
The next characters of a kind, at most as many as `bound` has.  What is left to
read serves as a bound for reading on.
-/
def collect (accepts : Char → Bool) : (bound : List Char) → Reading (List Char)
  | [] => return []
  | _ :: bound => do
      match ← peek? with
      | some character =>
          if accepts character then
            dropAndSkip
            return character :: (← collect accepts bound)
          else
            return []
      | none => return []

/-- All next characters of a kind. -/
def collectAll (accepts : Char → Bool) : Reading (List Char) := do
  collect accepts (← rest)

end Reading

end PacketFeed.Pattern
