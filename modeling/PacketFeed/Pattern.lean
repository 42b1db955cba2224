import PacketFeed.Pattern.CharSet

/-!
# Patterns

Patterns describe texts.  A pattern is found in a text if some part of the text
fits it.

The places in a text are the gaps before, between and after its characters.
A search keeps one mark for each place, which tells whether the part of the
pattern that has been looked at can end there.
-/

namespace PacketFeed

/-- A place in a text, by the characters on both sides of it. -/
structure Pattern.Place where
  before : Option Char
  after : Option Char
deriving DecidableEq, Repr

/-- What can be asked of a place. -/
inductive Pattern.Condition where
  | textStart
  | textEnd
  | lineStart
  | lineEnd
  /-- As `lineStart`, where a return or a return and a line feed end lines too. -/
  | returnLineStart
  /-- As `lineEnd`, where a return or a return and a line feed end lines too. -/
  | returnLineEnd
  | wordEdge
  | noWordEdge
  | wordStart
  | wordEnd
  /-- No character of a word stands before the place. -/
  | noWordBefore
  /-- No character of a word stands after the place. -/
  | noWordAfter
  /-- Something about words of all alphabets, of which no table is at hand. -/
  | undecided
deriving DecidableEq, Repr

/-- A description of texts. -/
inductive Pattern where
  /-- The text without characters. -/
  | nothing
  /-- A text itself. -/
  | text (characters : List Char)
  /-- One character of a set; a narrow one was written for bytes. -/
  | one (set : Pattern.CharSet) (isNarrow : Bool)
  /-- The text without characters, at some places only. -/
  | placed (condition : Pattern.Condition)
  /--
  At least `least` and at most `most` texts that fit the pattern; a greedy one
  tries more of them first.
  -/
  | repetition (body : Pattern) (least : Nat) (most : Option Nat)
      (isGreedy : Bool)
  /-- A text that is remembered under a number. -/
  | group (number : Nat) (body : Pattern)
  /-- Texts that fit some patterns, one after the other. -/
  | sequence (parts : List Pattern)
  /-- A text that fits one of some patterns. -/
  | choice (branches : List Pattern)
deriving Repr

namespace Pattern

namespace Condition

/-- Whether a character is part of a word. -/
def isWordCharacter (character : Option Char) : Bool :=
  character.any CharSet.wordCharacters.contains

/-- Whether a place is as a condition wants it. -/
def holds (condition : Condition) (place : Place) : Bool :=
  let wordBefore := isWordCharacter place.before
  let wordAfter := isWordCharacter place.after
  match condition with
  | .textStart => place.before.isNone
  | .textEnd => place.after.isNone
  | .lineStart => place.before.all (· = '\n')
  | .lineEnd => place.after.all (· = '\n')
  | .returnLineStart =>
      place.before.all fun character =>
        character = '\n' || (character = '\r' && place.after != some '\n')
  | .returnLineEnd =>
      place.after.all fun character =>
        character = '\r' || (character = '\n' && place.before != some '\r')
  | .wordEdge => wordBefore != wordAfter
  | .noWordEdge => wordBefore == wordAfter
  | .wordStart => !wordBefore && wordAfter
  | .wordEnd => wordBefore && !wordAfter
  | .noWordBefore => !wordBefore
  | .noWordAfter => !wordAfter
  | .undecided => false

end Condition

/-! ## Searching -/

/-- The places of a text, where `before` is what stands in front of it. -/
def placesAfter (before : Option Char) : List Char → List Place
  | [] => [⟨before, none⟩]
  | character :: rest =>
      ⟨before, some character⟩ :: placesAfter (some character) rest

/-- The places of a text. -/
def places (text : List Char) : List Place :=
  placesAfter none text

/-- One mark for each place of a text. -/
abbrev Marks := List Bool

/-- The places that are marked in one of two ways. -/
def merge (left right : Marks) : Marks :=
  List.zipWith (· || ·) left right

/-- Move every mark past a character of some kind. -/
def pass (text : List Char) (accepts : Char → Bool) (marks : Marks) : Marks :=
  false :: List.zipWith (fun mark character => mark && accepts character)
    marks text

/-- Take a step `count` times, or until it changes nothing. -/
def iterate (step : Marks → Marks) : (count : Nat) → Marks → Marks
  | 0, marks => marks
  | count + 1, marks =>
      let next := step marks
      if next = marks then marks else iterate step count next

mutual

/--
The ends that a pattern has in a text, if it starts at one of the marked
places.

Of a repetition more rounds than the text has places need not be followed: in
such a run some round ends where it starts, and that round may be taken again
or left out.
-/
def ends (text : List Char) : Pattern → Marks → Marks
  | .nothing, marks => marks
  | .text characters, marks =>
      characters.foldl
        (fun marks character => pass text (· = character) marks) marks
  | .one set _, marks => pass text set.contains marks
  | .placed condition, marks =>
      List.zipWith (fun mark place => mark && condition.holds place)
        marks (places text)
  | .repetition body least most _, marks =>
      let limit := text.length + 1
      let needed := iterate (ends text body) (min least limit) marks
      let further := min ((most.getD (least + limit)) - least) limit
      iterate (fun marks => merge marks (ends text body marks)) further needed
  | .group _ body, marks => ends text body marks
  | .sequence parts, marks => endsOfAll text parts marks
  | .choice branches, marks => endsOfAny text branches marks

/-- The ends that patterns have if they follow one another. -/
def endsOfAll (text : List Char) : List Pattern → Marks → Marks
  | [], marks => marks
  | part :: parts, marks => endsOfAll text parts (ends text part marks)

/-- The ends that one of some patterns has. -/
def endsOfAny (text : List Char) : List Pattern → Marks → Marks
  | [], marks => marks.map fun _ => false
  | branch :: branches, marks =>
      merge (ends text branch marks) (endsOfAny text branches marks)

end

/-- Whether some part of a text fits the pattern. -/
def isFoundIn (pattern : Pattern) (text : String) : Bool :=
  let characters := text.toList
  (ends characters pattern
    (List.replicate (characters.length + 1) true)).any id

end Pattern

end PacketFeed
