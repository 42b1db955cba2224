import PacketFeed.Pattern.Encoding
import PacketFeed.Pattern.Form

/-!
# Openings

An opening of a pattern is a word with which texts that fit the pattern start.
The openings of a pattern are listed in the order in which the pattern prefers
them, as far as there are few of them and they are short.

A pattern whose openings are all whole texts is a choice between words.  Words
can be searched for as they are, so that no machine has to be made of such a
pattern, whatever room it would take.
-/

namespace PacketFeed.Pattern

/-- A word with which texts that fit a pattern start. -/
structure Opening where
  bytes : List UInt8
  /-- Whether nothing follows the word. -/
  isWhole : Bool := true
deriving DecidableEq, Repr

namespace Opening

/-- The opening without bytes. -/
def blank : Opening := { bytes := [] }

/-- The opening that a character makes. -/
def ofCharacter (character : Char) : Opening :=
  { bytes := String.utf8EncodeChar character }

/-- The opening as one that something follows. -/
def unfinished (opening : Opening) : Opening :=
  { opening with isWhole := false }

/-- The first bytes of an opening, which is not whole if some are left out. -/
def shorten (length : Nat) (opening : Opening) : Opening :=
  if length < opening.bytes.length then
    { bytes := opening.bytes.take length, isWhole := false }
  else
    opening

/-- The openings that others make after one. -/
def followedBy (opening : Opening) (others : List Opening) : List Opening :=
  if opening.isWhole then
    others.map fun other => { other with bytes := opening.bytes ++ other.bytes }
  else
    [opening]

/-- The same word one after another is listed once. -/
def merge : List Opening → List Opening
  | [] => []
  | first :: rest =>
      match merge rest with
      | [] => [first]
      | second :: others =>
          if first.bytes = second.bytes then
            { first with isWhole := first.isWhole && second.isWhole } :: others
          else
            first :: second :: others

/-- Whether every opening is a whole text. -/
def areWhole (openings : List Opening) : Bool :=
  openings.all Opening.isWhole

end Opening

/-- The openings of a pattern, if they can be listed. -/
abbrev Openings := Option (List Opening)

namespace Openings

/-- The number of openings that are listed. -/
def countLimit : Nat := 250

/-- The number of bytes of an opening that are listed. -/
def lengthLimit : Nat := 100

/-- The number of bytes to which openings are shortened if there are too many. -/
def crowdedLength : Nat := 4

/-- The number of characters of a set that are listed. -/
def setLimit : Nat := 10

/-- The number of rounds of a repetition that are listed. -/
def roundLimit : Nat := 10

/-- The openings of a pattern that only the empty text fits. -/
def blank : Openings := some [.blank]

/-- Whether none of the openings can be followed by another one. -/
def areClosed (openings : Openings) : Bool :=
  openings.all fun words => words.all fun word => !word.isWhole

/-- The openings as ones that something follows. -/
def unfinished (openings : Openings) : Openings :=
  openings.map fun words => words.map Opening.unfinished

/--
The openings of one pattern after another.  If those of the second cannot be
listed, or would be too many, the second is left out.
-/
def andThen (first second : Openings) : Openings :=
  first.bind fun firsts =>
    match second.filter (firsts.length * ·.length ≤ countLimit) with
    | some seconds =>
        some ((Opening.merge (firsts.flatMap (·.followedBy seconds))).map
          (Opening.shorten lengthLimit))
    | none =>
        if firsts.any (·.bytes.isEmpty) then none
        else Openings.unfinished (some firsts)

/-- The openings of a choice between two patterns, shortened if need be. -/
def orElse (first second : Openings) : Openings :=
  first.bind fun firsts =>
    second.bind fun seconds =>
      if firsts.length + seconds.length ≤ countLimit then
        some (Opening.merge (firsts ++ seconds))
      else
        let firsts := Opening.merge (firsts.map (Opening.shorten crowdedLength))
        let seconds :=
          Opening.merge (seconds.map (Opening.shorten crowdedLength))
        if firsts.length + seconds.length ≤ countLimit then
          some (Opening.merge (firsts ++ seconds))
        else
          none

/-- The openings of a pattern that follows others a number of times. -/
def andRounds (body : Openings) : (count : Nat) → Openings → Openings
  | 0, known => known
  | count + 1, known =>
      if known.areClosed then known
      else andRounds body count (known.andThen body)

/-- The openings of a repetition. -/
def repeated (body : Openings) (least : Nat) (most : Option Nat)
    (isGreedy : Bool) : Openings :=
  if least = 0 then
    let body := if most = some 1 then body else body.unfinished
    if isGreedy then body.orElse blank else Openings.orElse blank body
  else
    let openings := andRounds body (min least roundLimit) blank
    if most = some least && least ≤ roundLimit then openings
    else openings.unfinished

/-- The openings of a set, which are its characters. -/
def ofSet (set : CharSet) : Openings :=
  let count := set.ranges.foldl
    (fun count (first, last) => count + (last + 1 - first)) 0
  if count ≤ setLimit then
    some (set.ranges.flatMap fun (first, last) =>
      (List.range (last + 1 - first)).map fun index =>
        .ofCharacter (Char.ofNat (first + index)))
  else
    none

end Openings

mutual

/-- The openings of a pattern. -/
def openings : Pattern → Openings
  | .nothing | .placed _ => .blank
  | .text characters =>
      some [Opening.shorten Openings.lengthLimit
        { bytes := bytesOf characters }]
  | .one set _ => .ofSet set
  | .repetition body least most isGreedy =>
      (openings body).repeated least most isGreedy
  | .group _ body => openings body
  | .sequence parts => openingsOfAll .blank parts
  | .choice branches => openingsOfAny (some []) branches

/-- The openings of patterns in a row, after some openings. -/
def openingsOfAll : Openings → List Pattern → Openings
  | known, [] => known
  | known, part :: parts =>
      if known.areClosed then known
      else openingsOfAll (known.andThen (openings part)) parts

/-- The openings of one of some patterns, or some other openings. -/
def openingsOfAny : Openings → List Pattern → Openings
  | known, [] => known
  | known, branch :: branches =>
      if known.isNone then none
      else openingsOfAny (known.orElse (openings branch)) branches

end

/-! ## Searching for words -/

namespace Opening

/--
The openings that can be found.  Where an opening starts with an earlier one,
that one is found in its place.
-/
def reachable : List Opening → List Opening
  | [] => []
  | first :: rest =>
      first :: (reachable rest).filter fun other =>
        !first.bytes.isPrefixOf other.bytes

/-- The bytes with which two words start alike. -/
def sharedStart : List UInt8 → List UInt8 → List UInt8
  | left :: lefts, right :: rights =>
      if left = right then left :: sharedStart lefts rights else []
  | _, _ => []

/-- The bytes with which all openings start alike. -/
def commonStart : List Opening → List UInt8
  | [] => []
  | first :: rest =>
      rest.foldl (fun common other => sharedStart common other.bytes)
        first.bytes

/-- The characters of one byte that are frequent in texts. -/
def frequentCharacters : String :=
  "\n\r (),-./0129:_abcdefghilmnoprstuvxy|"

/--
Whether a byte that starts a character is rare in texts.  Bytes that start
characters of several bytes are not.
-/
def isRare (byte : UInt8) : Bool :=
  byte < 0x80 && !(bytesOf frequentCharacters.toList).contains byte

/--
The lengths to which openings are shortened as long as there are more of them
than the number beside the length.
-/
def trimmings : List (Nat × Nat) :=
  [(5, 10), (4, 10), (3, 64), (2, 64), (1, 10)]

/-- Shorten openings step by step until they are few. -/
def trim : List (Nat × Nat) → List Opening → List Opening
  | [], openings => openings
  | (length, count) :: steps, openings =>
      if openings.length ≤ count then openings
      else trim steps (reachable (openings.map (shorten length)))

/--
Whether openings, all of them whole, are searched for as they are.  They are
not if it is better to search for something shorter: for their first byte, if
all openings share it and it is rare; for a long common start; or for the first
bytes of many openings.  What is found then has to be looked at by a machine.
-/
def areSought (openings : List Opening) : Bool :=
  let found := reachable openings
  let common := commonStart found
  if found.isEmpty || found.any (·.bytes.isEmpty) || !areWhole found then
    false
  else if 1 < openings.length && common.length ≤ 3 &&
      common.head?.any isRare then
    areWhole (found.map (shorten 1))
  else if 4 < common.length || (1 < common.length && 16 < found.length) then
    areWhole (found.map (shorten common.length))
  else
    let trimmed := trim trimmings found
    trimmed.any (·.bytes.length ≤ 2) || 64 < trimmed.length ||
      areWhole trimmed

end Opening

mutual

/-- Whether a pattern has neither groups nor conditions. -/
def isPlain : Pattern → Bool
  | .nothing | .text _ | .one .. => true
  | .placed _ | .group .. => false
  | .repetition body .. => isPlain body
  | .sequence parts => arePlain parts
  | .choice branches => arePlain branches

/-- Whether patterns have neither groups nor conditions. -/
def arePlain : List Pattern → Bool
  | [] => true
  | pattern :: patterns => isPlain pattern && arePlain patterns

end

/-- Whether a pattern is searched for as a choice between words. -/
def isWordChoice (pattern : Pattern) : Bool :=
  isPlain pattern && (openings pattern).any Opening.areSought

end PacketFeed.Pattern
