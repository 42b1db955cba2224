/-!
# Keystream blocks

The ChaCha block function with eight rounds.  A block of sixteen 32-bit words
is computed from a key of eight words and a 64-bit block number.
-/

namespace PacketFeed

/-- The eight words that select a keystream. -/
abbrev Key := Vector UInt32 8

namespace Block

/-- The sixteen words on which the rounds work. -/
abbrev State := Vector UInt32 16

/-- Rotate a word to the left by `count` bits, for `count` from 1 to 31. -/
def rotateLeft (word count : UInt32) : UInt32 :=
  word <<< count ||| word >>> (32 - count)

/-- Mix four words of the state. -/
def quarterRound (a b c d : Fin 16) (state : State) : State :=
  let state := state.set a (state[a] + state[b])
  let state := state.set d (rotateLeft (state[d] ^^^ state[a]) 16)
  let state := state.set c (state[c] + state[d])
  let state := state.set b (rotateLeft (state[b] ^^^ state[c]) 12)
  let state := state.set a (state[a] + state[b])
  let state := state.set d (rotateLeft (state[d] ^^^ state[a]) 8)
  let state := state.set c (state[c] + state[d])
  state.set b (rotateLeft (state[b] ^^^ state[c]) 7)

/-- One round on the columns and one on the diagonals. -/
def doubleRound (state : State) : State :=
  state
    |> quarterRound 0 4 8 12
    |> quarterRound 1 5 9 13
    |> quarterRound 2 6 10 14
    |> quarterRound 3 7 11 15
    |> quarterRound 0 5 10 15
    |> quarterRound 1 6 11 12
    |> quarterRound 2 7 8 13
    |> quarterRound 3 4 9 14

/--
The state before the first round: the text `expand 32-byte k`, the key, the
block number with its low half first, and two zero words.
-/
def start (key : Key) (number : UInt64) : State :=
  #v[0x61707865, 0x3320646e, 0x79622d32, 0x6b206574,
    key[0], key[1], key[2], key[3], key[4], key[5], key[6], key[7],
    number.toUInt32, (number >>> 32).toUInt32, 0, 0]

/-- The state after eight rounds. -/
def rounds (state : State) : State :=
  doubleRound (doubleRound (doubleRound (doubleRound state)))

/-- The words of block `number`: the starting state is added to the mixed one. -/
def words (key : Key) (number : UInt64) : State :=
  let initial := start key number
  Vector.zipWith (· + ·) (rounds initial) initial

end Block

end PacketFeed
