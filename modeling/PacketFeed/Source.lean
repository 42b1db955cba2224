/-!
# Random sources

A source hands out 64-bit words and byte strings, and each request leaves a
new state of the source.  Words may run out; bytes never do.
-/

namespace PacketFeed

/-- A supply of random words and bytes with state `σ`. -/
class Source (σ : Type) where
  /-- The next word, or `none` when no word is left. -/
  word? : σ → Option (UInt64 × σ)
  /-- The next `count` bytes. -/
  bytes : σ → (count : Nat) → Vector UInt8 count × σ
  /--
  How many words are worth drawing in a row.  A search that has seen this
  many words has seen every word the source can still deliver.
  -/
  patience : σ → Nat

end PacketFeed
