import PacketFeed.Pattern.Form
import PacketFeed.Pattern.Scanner

/-!
# Primitives

The smallest parts of a written pattern: characters, escapes, dots and
conditions on places.

Sets of digits, spaces and words, edges of words and the cases of letters are
known for the first 128 characters only.  Where all alphabets are in force,
such sets, properties, and letters without their case are refused; conditions on
words are taken, but cannot be decided.
-/

namespace PacketFeed.Pattern

/-- A smallest part of a written pattern. -/
inductive Primitive where
  | literal (character : Char)
  | set (set : CharSet)
  | condition (condition : Condition)
deriving DecidableEq, Repr

/-- The value of a hexadecimal digit. -/
def hexValue? (character : Char) : Option Nat :=
  let number := character.toNat
  if 0x30 ≤ number && number ≤ 0x39 then some (number - 0x30)
  else if 0x41 ≤ number && number ≤ 0x46 then some (number - 0x41 + 10)
  else if 0x61 ≤ number && number ≤ 0x66 then some (number - 0x61 + 10)
  else none

/-- The value of a row of digits in some base. -/
def numberOf (base : Nat) (digits : List Char) : Nat :=
  digits.foldl
    (fun value digit => value * base + (hexValue? digit).getD 0) 0

/-- The character with a given number. -/
def characterOf? (number : Nat) : Option Char :=
  if number.isValidChar then some (Char.ofNat number) else none

/-- The characters that mean themselves after a backslash. -/
def isEscapable (character : Char) : Bool :=
  character.toNat < 0x80 && !character.isAlphanum &&
    character != '<' && character != '>'

namespace Reading

/--
Read a character that is given by its number, in braces or with as many digits
as `width` says.  If only the first 128 characters are in force, two digits
stand for a byte, and a byte beyond them is no character.
-/
def readHexadecimal (width : Nat) : Reading Char := do
  dropAndSkip
  if (← peek) = '\x7b' then
    dropAndSkip
    let digits ← collectAll fun character => (hexValue? character).isSome
    expect '\x7d'
    ensure !digits.isEmpty
    demand (characterOf? (numberOf 16 digits))
  else
    let digits ←
      collect (fun character => (hexValue? character).isSome)
        ((← rest).take width)
    ensure (digits.length == width)
    let character ← demand (characterOf? (numberOf 16 digits))
    ensure ((← modes).wide || width != 2 || character.toNat < 0x80)
    return character

/-- A set of the first 128 characters, where only these are in force. -/
def narrowSet (set : CharSet) : Reading Primitive := do
  ensure !(← modes).wide
  return .set set

/-- A condition on words, which cannot be decided for all alphabets. -/
def narrowCondition (condition : Condition) : Reading Primitive := do
  return .condition (if (← modes).wide then .undecided else condition)

/-- The condition that a name in braces stands for. -/
def namedCondition? : String → Option Condition
  | "start" => some .wordStart
  | "end" => some .wordEnd
  | "start-half" => some .noWordBefore
  | "end-half" => some .noWordAfter
  | _ => none

/--
Read what follows the escape for an edge of a word: perhaps a name in braces.
Braces that do not start like a name belong to what comes next.
-/
def readWordEdge : Reading Primitive := do
  let start ← rest
  if start.head? != some '\x7b' then
    return ← narrowCondition .wordEdge
  let isNamePart (character : Char) : Bool :=
    character.isAlpha || character == '-'
  dropAndSkip
  if isNamePart (← peek) then
    let name ← collectAll isNamePart
    ensure (decide ((← peek) = '\x7d'))
    drop
    narrowCondition (← demand (namedCondition? (String.ofList name)))
  else
    setRest start
    narrowCondition .wordEdge

/-- Read the part that a backslash starts. -/
def readEscape : Reading Primitive := do
  drop
  let character ← peek
  match character with
  | 'x' => return .literal (← readHexadecimal 2)
  | 'u' => return .literal (← readHexadecimal 4)
  | 'U' => return .literal (← readHexadecimal 8)
  | _ =>
      drop
      match character with
      | 'd' => narrowSet .digits
      | 's' => narrowSet .spaces
      | 'w' => narrowSet .wordCharacters
      | 'a' => return .literal '\x07'
      | 'f' => return .literal '\x0c'
      | 't' => return .literal '\t'
      | 'n' => return .literal '\n'
      | 'r' => return .literal '\r'
      | 'v' => return .literal '\x0b'
      | 'A' => return .condition .textStart
      | 'z' => return .condition .textEnd
      | 'b' => readWordEdge
      | 'B' => narrowCondition .noWordEdge
      | '<' => narrowCondition .wordStart
      | '>' => narrowCondition .wordEnd
      | _ =>
          ensure (isEscapable character)
          return .literal character

/-- What a dot stands for. -/
def dot : Reading Primitive := do
  let modes ← modes
  ensure modes.wide
  return .set
    (if modes.dotTakesAll then CharSet.empty.complement
    else if modes.returnEndsLine then
      ((CharSet.single '\n').union (CharSet.single '\r')).complement
    else (CharSet.single '\n').complement)

/-- The condition that a caret stands for. -/
def caret (modes : Modes) : Condition :=
  if !modes.multiline then .textStart
  else if modes.returnEndsLine then .returnLineStart
  else .lineStart

/-- The condition that a dollar sign stands for. -/
def dollar (modes : Modes) : Condition :=
  if !modes.multiline then .textEnd
  else if modes.returnEndsLine then .returnLineEnd
  else .lineEnd

/-- Read a smallest part. -/
def readPrimitive : Reading Primitive := do
  match ← peek with
  | '\\' => readEscape
  | '.' => drop; dot
  | '^' => drop; return .condition (caret (← modes))
  | '$' => drop; return .condition (dollar (← modes))
  | character => drop; return .literal character

/-- Refuse what would need the cases of letters of all alphabets. -/
def ensureKnownCases : Reading Unit := do
  let modes ← modes
  ensure !(modes.ignoresCase && modes.wide)

/-- The pattern of a smallest part. -/
def pattern (primitive : Primitive) : Reading Pattern := do
  let modes ← modes
  match primitive with
  | .set set => return .ofSet set !modes.wide
  | .condition condition => return .placed condition
  | .literal character =>
      ensureKnownCases
      if modes.ignoresCase && character.isAlpha then
        return .ofSet (CharSet.single character).ignoringCase true
      else
        return .text [character]

end Reading

end PacketFeed.Pattern
