/-!
# Visible text

What is left of a text when everything is taken out of it that only a terminal
understands: control characters that make no space, and control sequences.  A
sequence starts with the escape character and ends where its kind says, or
where the next sequence starts.

Characters that make space show even inside a sequence.  The text after such a
character shows as well, up to the next control character; there the sequence
goes on.
-/

namespace PacketFeed.Text

/-- How far a control sequence has been read. -/
inductive Sequence where
  /-- Outside of all sequences. -/
  | outside
  /-- Just after the escape character. -/
  | escape
  /-- After the escape character and characters between it and the last one. -/
  | escapeBody
  /-- In a sequence with parameters, which one final character ends. -/
  | control
  /-- At the start of a message to the device. -/
  | device
  /-- In the parameters of a message to the device. -/
  | deviceParameters
  /-- Between the parameters and the body of a message to the device. -/
  | deviceMiddle
  /-- In a command to the system, which the bell ends. -/
  | command
  /-- In a body that only a terminator ends. -/
  | body
deriving DecidableEq, Repr

/-- Whether a character is a tab, a line feed, a form feed or a return. -/
def isSpacing (character : Char) : Bool :=
  [0x09, 0x0a, 0x0c, 0x0d].contains character.toNat

/-- Whether a character shows outside of all sequences. -/
def showsOutside (character : Char) : Bool :=
  let number := character.toNat
  isSpacing character || (0x20 ≤ number && number != 0x7f)

/-- Whether a character of more than one byte holds the byte that ends a body. -/
def endsBody (character : Char) : Bool :=
  (String.utf8EncodeChar character).contains 0x9c

namespace Sequence

/-- Whether a character shows at this point of a sequence. -/
def shows (sequence : Sequence) (character : Char) : Bool :=
  match sequence with
  | .outside => showsOutside character
  | .escape | .escapeBody | .control => isSpacing character
  | _ => false

/-- The character after the escape character says what kind of sequence it is. -/
def afterEscape (number : Nat) : Sequence :=
  match number with
  | 0x5b => .control
  | 0x5d => .command
  | 0x50 => .device
  | 0x58 | 0x5e | 0x5f => .body
  | _ =>
      if number < 0x20 || 0x7f ≤ number then .escape
      else if number < 0x30 then .escapeBody
      else .outside

/-- How far a sequence has been read after one more character. -/
def next (sequence : Sequence) (character : Char) : Sequence :=
  let number := character.toNat
  let within (first last : Nat) : Bool := first ≤ number && number ≤ last
  if number = 0x18 || number = 0x1a then .outside
  else if number = 0x1b then .escape
  else
    match sequence with
    | .outside => .outside
    | .escape => afterEscape number
    | .escapeBody => if within 0x30 0x7e then .outside else .escapeBody
    | .control => if within 0x40 0x7e then .outside else .control
    | .device =>
        if within 0x20 0x2f then .deviceMiddle
        else if within 0x30 0x3f then .deviceParameters
        else if within 0x40 0x7e then .body
        else .device
    | .deviceParameters =>
        if within 0x20 0x2f then .deviceMiddle
        else if within 0x3c 0x7e then .body
        else .deviceParameters
    | .deviceMiddle => if within 0x30 0x7e then .body else .deviceMiddle
    | .command => if number = 0x07 then .outside else .command
    | .body => if endsBody character then .outside else .body

end Sequence

/--
The visible characters of a text that starts at the given point of a sequence.
`showing` tells whether the last character has been shown.
-/
def visibleFrom (showing : Bool) (sequence : Sequence) :
    List Char → List Char
  | [] => []
  | character :: rest =>
      if showing && showsOutside character then
        character ::
          visibleFrom true
            (if character.toNat < 0x80 then sequence else .outside) rest
      else if sequence.shows character then
        character :: visibleFrom true (sequence.next character) rest
      else
        visibleFrom false (sequence.next character) rest

/-- The visible part of a text. -/
def visible (text : String) : String :=
  String.ofList (visibleFrom false .outside text.toList)

end PacketFeed.Text
