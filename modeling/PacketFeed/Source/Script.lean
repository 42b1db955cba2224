import PacketFeed.Source

/-!
# Scripted sources

A script delivers a given list of words, once, and a given list of bytes over
and over.  It makes a generator fully predictable.
-/

namespace PacketFeed

/--
A finite list of words still to be delivered, the bytes that are repeated for
ever, and how many bytes have been delivered so far.
-/
structure Script where
  words : List UInt64
  bytes : Array UInt8
  cursor : Nat := 0
deriving DecidableEq

namespace Script

/-- Byte number `index` of the endless repetition; zero if there is no byte. -/
def byteAt (bytes : Array UInt8) (index : Nat) : UInt8 :=
  bytes.getD (index % bytes.size) 0

/-- The next word of the list. -/
def word? (script : Script) : Option (UInt64 × Script) :=
  match script.words with
  | [] => none
  | word :: rest => some (word, { script with words := rest })

/-- The next `count` bytes of the repetition. -/
def take (script : Script) (count : Nat) : Vector UInt8 count × Script :=
  (Vector.ofFn fun index => byteAt script.bytes (script.cursor + index.val),
    { script with cursor := script.cursor + count })

instance : Source Script where
  word? := word?
  bytes := take
  patience script := script.words.length + 1

end Script

end PacketFeed
