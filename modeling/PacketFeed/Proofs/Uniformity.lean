import Mathlib.Algebra.Order.Floor.Div
import Mathlib.Data.Set.Card
import Mathlib.GroupTheory.GroupAction.Ring
import Mathlib.Order.Interval.Finset.Nat
import PacketFeed.Proofs.Scripted

/-!
# All lengths are equally likely

Scaling divides the words into as many intervals as there are lengths.  The
intervals differ in size, because the number of words is no multiple of the
number of lengths.  The words that are accepted for a length are the first
ones of its interval, the same number for every length, and no interval is
too short for them.

A word is taken for a packet if filling the packet from a script that starts
with the word succeeds and uses up that word only.
-/

namespace PacketFeed

/-! ## The words of one length -/

namespace Length

/-- The first word of the interval that is scaled to a length. -/
def firstWord (length : Nat) : Nat :=
  length * UInt64.size ⌈/⌉ packetCapacity

theorem firstWord_le_iff {length value : Nat} :
    firstWord length ≤ value ↔
      length * UInt64.size ≤ packetCapacity * value :=
  ceilDiv_le_iff_le_mul (by decide)

theorem lt_firstWord_add_share_iff {length value : Nat} :
    value < firstWord length + share ↔
      packetCapacity * value <
        length * UInt64.size + packetCapacity * share := by
  rcases Nat.lt_or_ge value share with early | late
  · have scaled : packetCapacity * value < packetCapacity * share :=
      Nat.mul_lt_mul_of_pos_left early (by decide)
    constructor
    · intro _
      exact Nat.lt_of_lt_of_le scaled (Nat.le_add_left _ _)
    · intro _
      exact Nat.lt_of_lt_of_le early (Nat.le_add_left _ _)
  · -- The interval has begun `share` words earlier.
    obtain ⟨distance, rfl⟩ := Nat.exists_eq_add_of_le late
    have begun := not_congr (@firstWord_le_iff length distance)
    rw [Nat.not_le, Nat.not_le] at begun
    rw [Nat.add_comm share, Nat.add_lt_add_iff_right, begun, Nat.mul_add,
      Nat.add_lt_add_iff_right]

/-- The interval of every length below the capacity has room for its share. -/
theorem firstWord_add_share_le {length : Nat}
    (below : length < packetCapacity) :
    firstWord length + share ≤ UInt64.size := by
  have next : firstWord length ≤ UInt64.size - share := by
    rw [firstWord_le_iff]
    simp only [packetCapacity, UInt64.size, share] at below ⊢
    omega
  exact Nat.add_le_of_le_sub (by decide) next

/-- Quotient and remainder of the scaled word, as bounds on the word. -/
theorem accepts_and_ofWord_iff {word : UInt64} {length : Nat} :
    (accepts word = true ∧ (ofWord word).val = length) ↔
      firstWord length ≤ word.toNat ∧
        word.toNat < firstWord length + share := by
  rw [firstWord_le_iff, lt_firstWord_add_share_iff, accepts,
    decide_eq_true_iff]
  simp only [ofWord, packetCapacity, UInt64.size, share]
  constructor
  · rintro ⟨remainder, rfl⟩
    omega
  · rintro ⟨atLeast, below⟩
    have quotient :
        word.toNat * 1500 / 18446744073709551616 = length :=
      Nat.div_eq_of_lt_le (by omega) (by omega)
    refine ⟨?_, quotient⟩
    omega

end Length

/-! ## Filling from a script that starts with a word -/

namespace Script

/-- The script that delivers one more word first. -/
def push (word : UInt64) (script : Script) : Script :=
  { script with words := word :: script.words }

theorem draw_push_of_rejects {word : UInt64}
    (rejected : Length.accepts word = false) (script : Script) :
    Filler.draw (script.push word) = Filler.draw script := by
  have lengths :
      Length.draw (script.push word) = Length.draw script := by
    rw [draw_eq, draw_eq]
    simp only [push, beyond_cons_of_rejects rejected, List.filter_cons,
      rejected, Bool.false_eq_true, if_false]
  simp only [Filler.draw, lengths]

theorem draw_push_of_accepts {word : UInt64}
    (accepted : Length.accepts word = true) (script : Script) :
    Filler.draw (script.push word) =
      (some ⟨Length.ofWord word, (script.take (Length.ofWord word)).1⟩,
        { script with cursor := script.cursor + Length.ofWord word }) := by
  have next :
      (script.push word).words.filter Length.accepts =
        word :: script.words.filter Length.accepts := by
    rw [push, List.filter_cons_of_pos accepted]
  rw [draw_filler_of_cons next]
  simp only [push, beyond_cons_of_accepts accepted]
  rfl

/-- Filler costs at least one word. -/
theorem length_words_lt_of_draw {script rest : Script} {filler : Filler}
    (drawn : Filler.draw script = (some filler, rest)) :
    rest.words.length < script.words.length := by
  cases acceptable : script.words.filter Length.accepts with
  | nil =>
      rw [draw_filler_of_nil acceptable] at drawn
      cases drawn
  | cons word later =>
      rw [draw_filler_of_cons acceptable] at drawn
      cases drawn
      have nonempty : 0 < script.words.length := by
        apply List.length_pos_of_mem
        exact (List.filter_sublist).mem
          (acceptable ▸ List.mem_cons_self : word ∈ script.words.filter _)
      have atMost :=
        (List.dropWhile_sublist (l := script.words)
          fun word => !Length.accepts word).length_le
      simp only [beyond, List.length_tail]
      omega

end Script

/--
Filling the packet from a source that delivers `word` first and then goes on
like `script` uses this word and no other, and gives the packet this length.
-/
def Packet.Takes (packet : Packet) (word : UInt64) (script : Script)
    (length : Nat) : Prop :=
  ∃ filled rest,
    packet.refill (script.push word) = (.ok filled, rest) ∧
      rest.words = script.words ∧
      filled.len.toNat = length

theorem Packet.takes_iff {packet : Packet} {word : UInt64} {script : Script}
    {length : Nat} :
    packet.Takes word script length ↔
      Length.accepts word = true ∧ (Length.ofWord word).val = length := by
  cases accepted : Length.accepts word with
  | true =>
      simp only [Takes, refill, Script.draw_push_of_accepts accepted,
        true_and]
      constructor
      · rintro ⟨filled, rest, same, -, length_eq⟩
        cases same
        rw [← length_eq, toNat_len_write]
      · intro length_eq
        exact ⟨_, _, rfl, rfl, by rw [toNat_len_write, ← length_eq]⟩
  | false =>
      simp only [Takes, refill, Script.draw_push_of_rejects accepted,
        Bool.false_eq_true, false_and, iff_false]
      rintro ⟨filled, rest, same, unused, -⟩
      rcases drawn : Filler.draw script with ⟨_ | filler, after⟩
      · rw [drawn] at same
        cases same
      · rw [drawn] at same
        cases same
        -- A later word was taken, so fewer words are left.
        have fewer := Script.length_words_lt_of_draw drawn
        rw [unused] at fewer
        exact Nat.lt_irrefl _ fewer

theorem Packet.refill_push_of_not_takes {packet : Packet} {word : UInt64}
    {script : Script}
    (passed : ∀ length, ¬ packet.Takes word script length) :
    packet.refill (script.push word) = packet.refill script := by
  have rejected : Length.accepts word = false := by
    rw [← Bool.not_eq_true]
    intro accepted
    exact passed _ (takes_iff.mpr ⟨accepted, rfl⟩)
  simp only [refill, Script.draw_push_of_rejects rejected]

/-! ## Equal shares -/

theorem Packet.image_takes (packet : Packet) (script : Script) {length : Nat}
    (below : length < packetCapacity) :
    Set.image UInt64.toNat {word | packet.Takes word script length} =
      Set.Ico (Length.firstWord length)
        (Length.firstWord length + Length.share) := by
  ext value
  simp only [Set.mem_image, Set.mem_ofPred_eq, takes_iff,
    Length.accepts_and_ofWord_iff, Set.mem_Ico]
  constructor
  · rintro ⟨word, inside, rfl⟩
    exact inside
  · intro inside
    have small : value < UInt64.size :=
      Nat.lt_of_lt_of_le inside.2 (Length.firstWord_add_share_le below)
    have same : (UInt64.ofNat value).toNat = value :=
      UInt64.toNat_ofNat_of_lt' small
    exact ⟨UInt64.ofNat value, by rwa [same], same⟩

theorem Packet.ncard_takes (packet : Packet) (script : Script) {length : Nat}
    (below : length < packetCapacity) :
    {word | packet.Takes word script length}.ncard = Length.share := by
  have injective : Function.Injective UInt64.toNat := fun _ _ same =>
    UInt64.toNat_inj.mp same
  rw [← Set.ncard_image_of_injective _ injective,
    packet.image_takes script below, ← Finset.coe_Ico, Set.ncard_coe_finset,
    Nat.card_Ico, Nat.add_sub_cancel_left]

/--
Lengths are exactly uniform.  A word is taken if its product with the packet
capacity leaves a remainder of at most `packetCapacity * 2 ^ 53 - 1` after
division by `2 ^ 64`, and the quotient is the length; any other word is passed
over.  For each length below the capacity the words that are taken are `2 ^ 53`
consecutive numbers, all of them below `2 ^ 64`, and no word gives any other
length.  Of two words that are taken the greater one gives no smaller length.
-/
theorem accepted_words_uniform (packet : Packet) (script : Script) :
    (∀ word length,
        packet.Takes word script length ↔
          word.toNat * packetCapacity % 2 ^ 64 ≤
              packetCapacity * 2 ^ 53 - 1 ∧
            length = word.toNat * packetCapacity / 2 ^ 64) ∧
      (∀ word,
        (∀ length, ¬ packet.Takes word script length) →
        packet.refill (script.push word) = packet.refill script) ∧
      (∀ length < packetCapacity,
        let first := length * 2 ^ 64 ⌈/⌉ packetCapacity
        Set.image UInt64.toNat {word | packet.Takes word script length} =
            Set.Ico first (first + 2 ^ 53) ∧
          first + 2 ^ 53 ≤ 2 ^ 64 ∧
          {word | packet.Takes word script length}.ncard = 2 ^ 53) ∧
      (∀ word length,
        packet.Takes word script length → length < packetCapacity) ∧
      ∀ word other length otherLength,
        packet.Takes word script length →
        packet.Takes other script otherLength →
        word ≤ other → length ≤ otherLength := by
  refine ⟨?_, ?_, ?_, ?_, ?_⟩
  · intro word length
    rw [Packet.takes_iff, Length.accepts, decide_eq_true_iff]
    exact and_congr (Nat.lt_iff_le_pred (by decide)) eq_comm
  · intro word passed
    exact Packet.refill_push_of_not_takes passed
  · intro length below first
    exact ⟨packet.image_takes script below,
      Length.firstWord_add_share_le below, packet.ncard_takes script below⟩
  · intro word length taken
    rw [Packet.takes_iff] at taken
    rw [← taken.2]
    exact (Length.ofWord word).isLt
  · intro word other length otherLength taken otherTaken atMost
    rw [Packet.takes_iff] at taken otherTaken
    rw [← taken.2, ← otherTaken.2]
    exact Nat.div_le_div_right (Nat.mul_le_mul_right _ atMost)

/--
The last length has the same share as all others: its first word and its last
word are taken, and the word after that is passed over.
-/
theorem accepted_words_uniform_last :
    let script : Script := { words := [0], bytes := #[] }
    Packet.zero.Takes 18434446244327078582 script 1499 ∧
      Packet.zero.Takes 18443453443581819573 script 1499 ∧
      {word | Packet.zero.Takes word script 1499}.ncard = 2 ^ 53 ∧
      Packet.zero.refill (script.push 18443453443581819574) =
        Packet.zero.refill script := by
  intro script
  rcases accepted_words_uniform Packet.zero script with
    ⟨formula, passed, shares, -, -⟩
  refine ⟨?_, ?_, (shares 1499 (by decide)).2.2, ?_⟩
  · rw [formula]
    decide
  · rw [formula]
    decide
  · apply passed
    intro length taken
    rw [formula] at taken
    exact absurd taken.1 (by decide)

end PacketFeed
