/-!
# Sets of characters

A set of characters is kept as the ranges of their numbers, in order.  The
numbers from 0xd800 to 0xdfff belong to no character; a range may go over them,
but neither starts nor ends among them.  No two ranges of a set touch, except
that the gaps of a complement are kept as they are.
-/

namespace PacketFeed.Pattern

/-- A set of characters. -/
structure CharSet where
  /-- The first and the last number of each range. -/
  ranges : List (Nat × Nat)
deriving DecidableEq, Repr

namespace CharSet

/-- The largest number of a character. -/
def lastNumber : Nat := 0x10ffff

/-- Add a range to others, which are in order. -/
def insertRange (first last : Nat) :
    List (Nat × Nat) → List (Nat × Nat)
  | [] => [(first, last)]
  | (low, high) :: rest =>
      if last + 1 < low then
        (first, last) :: (low, high) :: rest
      else if high + 1 < first then
        (low, high) :: insertRange first last rest
      else
        insertRange (min first low) (max last high) rest

/-- The number of the character after the one with the given number. -/
def nextNumber (number : Nat) : Nat :=
  if number = 0xd7ff then 0xe000 else number + 1

/-- The number of the character before the one with the given number. -/
def previousNumber (number : Nat) : Nat :=
  if number = 0xe000 then 0xd7ff else number - 1

/--
The gap between a range that ends with `last` and one that starts with `first`.
It reaches from the character after the one to the character before the other.
Where only numbers that belong to no character lie between the two ranges,
these characters are out of order, and the gap holds both of them.
-/
def gap (last first : Nat) : Nat × Nat :=
  let low := nextNumber last
  let high := previousNumber first
  (min low high, max low high)

/-- The gaps after each of the ranges, which are in order. -/
def gapsAfter : List (Nat × Nat) → List (Nat × Nat)
  | [] => []
  | [(_, last)] =>
      if last < lastNumber then [(nextNumber last, lastNumber)] else []
  | (_, last) :: (first, last') :: rest =>
      gap last first :: gapsAfter ((first, last') :: rest)

/-- The ranges that the ranges of two lists share, both of which are in order. -/
def sharedRanges : List (Nat × Nat) → List (Nat × Nat) → List (Nat × Nat)
  | (low, high) :: lefts, (first, last) :: rights =>
      let shared :=
        if max low first ≤ min high last then [(max low first, min high last)]
        else []
      shared ++
        if high < last then sharedRanges lefts ((first, last) :: rights)
        else sharedRanges ((low, high) :: lefts) rights
  | _, _ => []
termination_by lefts rights => lefts.length + rights.length

/-- What the second ranges leave of the first; both are in order. -/
def remainingRanges : List (Nat × Nat) → List (Nat × Nat) → List (Nat × Nat)
  | (low, high) :: lefts, (first, last) :: rights =>
      if last < low then
        remainingRanges ((low, high) :: lefts) rights
      else if high < first then
        (low, high) :: remainingRanges lefts ((first, last) :: rights)
      else
        let below := if low < first then [(low, previousNumber first)] else []
        below ++
          if last < high then
            remainingRanges ((nextNumber last, high) :: lefts) rights
          else
            remainingRanges lefts ((first, last) :: rights)
  | lefts, _ => lefts
termination_by lefts rights => lefts.length + rights.length

/-- The set without members. -/
def empty : CharSet := ⟨[]⟩

/-- The characters from `first` to `last`. -/
def ofRange (first last : Char) : CharSet :=
  ⟨[(first.toNat, last.toNat)]⟩

/-- A single character. -/
def single (character : Char) : CharSet :=
  ofRange character character

/-- The characters in any of the given ranges. -/
def ofRanges (ranges : List (Nat × Nat)) : CharSet :=
  ⟨ranges.foldl (fun known (first, last) => insertRange first last known) []⟩

/-- The characters of both sets. -/
def union (left right : CharSet) : CharSet :=
  ofRanges (left.ranges ++ right.ranges)

/--
The characters that are not in the set, where each gap between its ranges is a
range of its own.
-/
def complement (set : CharSet) : CharSet :=
  match set.ranges with
  | [] => ⟨[(0, lastNumber)]⟩
  | (first, last) :: rest =>
      let before := if 0 < first then [(0, previousNumber first)] else []
      ⟨before ++ gapsAfter ((first, last) :: rest)⟩

/-- The characters that the sets share. -/
def intersection (left right : CharSet) : CharSet :=
  ⟨sharedRanges left.ranges right.ranges⟩

/-- The characters of the first set that are not in the second. -/
def difference (left right : CharSet) : CharSet :=
  ⟨remainingRanges left.ranges right.ranges⟩

/-- The characters that are in one of the sets only. -/
def symmetricDifference (left right : CharSet) : CharSet :=
  (left.union right).difference (left.intersection right)

/-- Whether a character is in the set. -/
def contains (set : CharSet) (character : Char) : Bool :=
  set.ranges.any fun (first, last) =>
    first ≤ character.toNat && character.toNat ≤ last

/-- Both cases of a letter, if one of them is in the set. -/
def bothCases (set : CharSet) (upper : Char) : CharSet :=
  let lower := upper.toLower
  if set.contains upper || set.contains lower then
    (single upper).union (single lower)
  else
    empty

/-- The set together with the other case of each of its Latin letters. -/
def ignoringCase (set : CharSet) : CharSet :=
  "ABCDEFGHIJKLMNOPQRSTUVWXYZ".toList.foldl
    (fun known upper => known.union (set.bothCases upper)) set

/-! ## Named sets -/

/-- The decimal digits. -/
def digits : CharSet := ofRange '0' '9'

/-- The letters, digits and the underscore that make up words. -/
def wordCharacters : CharSet :=
  ofRanges [(0x30, 0x39), (0x41, 0x5a), (0x5f, 0x5f), (0x61, 0x7a)]

/-- The blank and the five characters that make space. -/
def spaces : CharSet := ofRanges [(0x09, 0x0d), (0x20, 0x20)]

/-- The set that a name in brackets and colons stands for. -/
def named? : String → Option CharSet
  | "alnum" => some (ofRanges [(0x30, 0x39), (0x41, 0x5a), (0x61, 0x7a)])
  | "alpha" => some (ofRanges [(0x41, 0x5a), (0x61, 0x7a)])
  | "ascii" => some (ofRanges [(0x00, 0x7f)])
  | "blank" => some (ofRanges [(0x09, 0x09), (0x20, 0x20)])
  | "cntrl" => some (ofRanges [(0x00, 0x1f), (0x7f, 0x7f)])
  | "digit" => some digits
  | "graph" => some (ofRanges [(0x21, 0x7e)])
  | "lower" => some (ofRanges [(0x61, 0x7a)])
  | "print" => some (ofRanges [(0x20, 0x7e)])
  | "punct" =>
      some (ofRanges
        [(0x21, 0x2f), (0x3a, 0x40), (0x5b, 0x60), (0x7b, 0x7e)])
  | "space" => some spaces
  | "upper" => some (ofRanges [(0x41, 0x5a)])
  | "word" => some wordCharacters
  | "xdigit" => some (ofRanges [(0x30, 0x39), (0x41, 0x46), (0x61, 0x66)])
  | _ => none

end CharSet

end PacketFeed.Pattern
