import PacketFeed.Packet
import PacketFeed.Source

/-!
# Packet lengths

A length is drawn uniformly below the packet capacity.  A 64-bit word is
scaled to the range of lengths; the words that would favour some lengths are
rejected and the next word is tried, so every length has the same number of
accepted words.
-/

namespace PacketFeed

/-- A number of bytes that leaves room in the buffer of a packet. -/
abbrev Length := Fin packetCapacity

namespace Length

/-- The number of words that are accepted for each length, `2 ^ 53`. -/
def share : Nat := 0x20000000000000

/--
Whether a word may be turned into a length.  Scaling sends a word to a length
and a remainder; accepted are the remainders below `packetCapacity * share`.
-/
def accepts (word : UInt64) : Bool :=
  word.toNat * packetCapacity % UInt64.size < packetCapacity * share

/-- The length to which a word is scaled. -/
def ofWord (word : UInt64) : Length where
  val := word.toNat * packetCapacity / UInt64.size
  isLt := by
    have bound := word.toNat_lt_size
    exact Nat.div_lt_of_lt_mul
      (Nat.mul_lt_mul_of_pos_right bound (by decide))

/--
Draw words until one is accepted, at most `attempts` of them.  The words that
were looked at are used up also when none is accepted.
-/
def search {σ : Type} [Source σ] (source : σ) :
    (attempts : Nat) → Option Length × σ
  | 0 => (none, source)
  | attempts + 1 =>
      match Source.word? source with
      | none => (none, source)
      | some (word, rest) =>
          if accepts word then
            (some (ofWord word), rest)
          else
            search rest attempts

/-- Draw a length; `none` if the source has no acceptable word left. -/
def draw {σ : Type} [Source σ] (source : σ) : Option Length × σ :=
  search source (Source.patience source)

end Length

end PacketFeed
