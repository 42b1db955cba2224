import PacketFeed.Pattern.CharSet

/-!
# Encoded ranges

A character is encoded in one to four bytes.  The encodings of a range of
characters are described by rows of byte ranges: a row stands for all encodings
whose bytes lie in its ranges, one by one.
-/

namespace PacketFeed.Pattern

/-- The bytes of a text. -/
def bytesOf (characters : List Char) : List UInt8 :=
  characters.flatMap String.utf8EncodeChar

/-- The first and the last of some bytes. -/
structure ByteRange where
  first : UInt8
  last : UInt8
deriving DecidableEq, Repr

/--
The number after which a range of characters has to be divided so that its
encodings fit one row.  It is divided around the numbers that belong to no
character, then where encodings become longer, and then where a byte in front
changes while those after it do not take all their values.
-/
def cut? (first last : Nat) : Option Nat :=
  let after (number : Nat) : Option Nat :=
    if first ≤ number && number < last then some number else none
  let within (block : Nat) : Option Nat :=
    if first / block = last / block then none
    else if first % block != 0 then some (first / block * block + block - 1)
    else if last % block != block - 1 then some (last / block * block - 1)
    else none
  (after 0xd7ff).or <| (after 0xdfff).or <|
    (after 0x7f).or <| (after 0x7ff).or <| (after 0xffff).or <|
      if last < 0x80 then none
      else (within 0x40).or <| (within 0x1000).or (within 0x40000)

/-- The row for a range whose encodings fit one row. -/
def byteRow (first last : Nat) : List ByteRange :=
  List.zipWith ByteRange.mk
    (String.utf8EncodeChar (Char.ofNat first))
    (String.utf8EncodeChar (Char.ofNat last))

/-- The rows for a range of characters. -/
def byteRows (first last : Nat) : List (List ByteRange) :=
  if last < first || (0xd800 ≤ first && last ≤ 0xdfff) then
    []
  else
    match cut? first last with
    | some number =>
        if _inside : first ≤ number ∧ number < last then
          byteRows first number ++ byteRows (number + 1) last
        else
          [byteRow first last]
    | none => [byteRow first last]
termination_by last + 1 - first

/-- The rows for a set of characters. -/
def CharSet.byteRows (set : CharSet) : List (List ByteRange) :=
  set.ranges.flatMap fun (first, last) => Pattern.byteRows first last

end PacketFeed.Pattern
