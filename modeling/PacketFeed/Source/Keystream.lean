import PacketFeed.Source
import PacketFeed.Source.Block

/-!
# Keystream sources

The blocks of a key, one after the other, form one stream of 32-bit words.
A keystream source reads that stream from a position on.  A 64-bit word takes
two stream words, low half first.  A byte string takes whole stream words, low
byte first, and drops the unused bytes of its last word.

Block numbers have 64 bits, so the stream repeats after `2 ^ 68` words.
-/

namespace PacketFeed

/-- A key and the number of stream words already used. -/
structure Keystream where
  key : Key
  position : Nat := 0
deriving DecidableEq

namespace Keystream

/-! ## The stream -/

/-- Word number `index` of the stream. -/
def word (key : Key) (index : Nat) : UInt32 :=
  (Block.words key (UInt64.ofNat (index / 16)))[index % 16]

/--
The words `first, first + 1, …` of the stream, `count` of them.  Each block
that they touch is computed once.
-/
def words (key : Key) (first count : Nat) : Vector UInt32 count :=
  let blocks : Vector Block.State ((first % 16 + count + 15) / 16) :=
    Vector.ofFn fun number =>
      Block.words key (UInt64.ofNat (first / 16 + number.val))
  Vector.ofFn fun index =>
    have inside :
        (first % 16 + index.val) / 16 < (first % 16 + count + 15) / 16 := by
      have := index.isLt
      omega
    blocks[(first % 16 + index.val) / 16][(first % 16 + index.val) % 16]

/-- Reading blockwise gives the words of the stream. -/
theorem getElem_words (key : Key) (first count index : Nat)
    (inside : index < count) :
    (words key first count)[index] = word key (first + index) := by
  have block :
      first / 16 + (first % 16 + index) / 16 = (first + index) / 16 := by
    omega
  have place : (first % 16 + index) % 16 = (first + index) % 16 := by
    omega
  simp only [words, word, Vector.getElem_ofFn, block, place]

/-- Byte `place` of a word, counted from the low end. -/
def byteOf (word : UInt32) (place : Nat) : UInt8 :=
  (word >>> UInt32.ofNat (8 * place)).toUInt8

/-- The 64-bit word with the given halves. -/
def join (low high : UInt32) : UInt64 :=
  high.toUInt64 <<< 32 ||| low.toUInt64

/-! ## Reading -/

/-- The next two stream words as one 64-bit word. -/
def next (stream : Keystream) : UInt64 × Keystream :=
  let pair := words stream.key stream.position 2
  (join pair[0] pair[1], { stream with position := stream.position + 2 })

/-- The next bytes, from as many stream words as they need. -/
def take (stream : Keystream) (count : Nat) : Vector UInt8 count × Keystream :=
  let needed := (count + 3) / 4
  let block := words stream.key stream.position needed
  (Vector.ofFn fun index =>
    have inside : index.val / 4 < (count + 3) / 4 := by
      have := index.isLt
      omega
    byteOf block[index.val / 4] (index.val % 4),
    { stream with position := stream.position + needed })

/--
A keystream never runs out.  A block gives eight words of 64 bits, so drawing
eight words for each block number goes once through the whole stream, and no
later word is new.
-/
instance : Source Keystream where
  word? stream := some stream.next
  bytes := take
  patience _ := 8 * UInt64.size

/-! ## Seeding -/

/-- One step of the linear generator that spreads a seed over a key. -/
def advance (seed : UInt64) : UInt64 :=
  seed * 6364136223846793005 + 11634580027462260723

/-- Rotate a word to the right by at most 31 bits. -/
def rotateRight (word count : UInt32) : UInt32 :=
  word >>> count ||| word <<< (32 - count)

/-- The key word that a state of the linear generator gives. -/
def condense (state : UInt64) : UInt32 :=
  rotateRight (((state >>> 18) ^^^ state) >>> 27).toUInt32
    (state >>> 59).toUInt32

/-- The key of a seed: eight steps, each giving one word. -/
def keyOfSeed (seed : UInt64) : Key :=
  Vector.ofFn fun index => condense (Nat.repeat advance (index.val + 1) seed)

/-- The keystream of a seed, read from its start. -/
def ofSeed (seed : UInt64) : Keystream where
  key := keyOfSeed seed

end Keystream

end PacketFeed
