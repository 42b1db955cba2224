import PacketFeed.Proofs.Fetch

/-!
# Keystreams that never run out

Drawing a length from a keystream stops after as many words as the stream has
before it repeats.  That bound hides nothing: a length is found if and only if
an acceptable word stands anywhere ahead in the stream.

Words are drawn in steps of two stream words, so a keystream sees only the
words at positions of one parity until bytes are taken.  A key with an
acceptable word at each parity therefore always delivers.  The key of the
usual seed is such a key, hence a generator with that seed can fail on its
counter only.
-/

namespace PacketFeed

namespace Keystream

/-! ## Words of the stream -/

/-- The number of stream words after which the stream repeats. -/
def period : Nat := 16 * UInt64.size

theorem word_add_period (key : Key) (index rounds : Nat) :
    word key (index + period * rounds) = word key index := by
  have block :
      UInt64.ofNat ((index + period * rounds) / 16) =
        UInt64.ofNat (index / 16) := by
    have quotient :
        (index + period * rounds) / 16 =
          index / 16 + UInt64.size * rounds := by
      simp only [period, UInt64.size]
      omega
    apply UInt64.toNat_inj.mp
    rw [quotient, UInt64.toNat_ofNat', UInt64.toNat_ofNat']
    exact Nat.add_mul_mod_self_left _ _ _
  have place : (index + period * rounds) % 16 = index % 16 := by
    simp only [period, UInt64.size]
    omega
  simp only [word, block, place]

/-- The 64-bit word that starts at a position of the stream. -/
def pairAt (key : Key) (index : Nat) : UInt64 :=
  join (word key index) (word key (index + 1))

theorem pairAt_add_period (key : Key) (index rounds : Nat) :
    pairAt key (index + period * rounds) = pairAt key index := by
  rw [pairAt, Nat.add_right_comm, word_add_period, word_add_period]
  rfl

theorem next_eq_pairAt (stream : Keystream) :
    stream.next =
      (pairAt stream.key stream.position,
        { stream with position := stream.position + 2 }) := by
  simp only [next, getElem_words, pairAt, Nat.add_zero]

theorem word?_eq_pairAt (stream : Keystream) :
    Source.word? stream =
      some (pairAt stream.key stream.position,
        { stream with position := stream.position + 2 }) :=
  congrArg some stream.next_eq_pairAt

/-! ## Drawing lengths -/

/-- A search succeeds when one of the words that it looks at is accepted. -/
theorem search_isSome_iff (stream : Keystream) (attempts : Nat) :
    (Length.search stream attempts).1.isSome ↔
      ∃ index < attempts,
        Length.accepts (pairAt stream.key (stream.position + 2 * index)) := by
  induction attempts generalizing stream with
  | zero =>
      simp [Length.search]
  | succ attempts induction =>
      simp only [Length.search, word?_eq_pairAt]
      by_cases accepted :
          Length.accepts (pairAt stream.key stream.position)
      · simp only [accepted, if_true, Option.isSome_some, true_iff]
        exact ⟨0, Nat.succ_pos _, accepted⟩
      · simp only [accepted, Bool.false_eq_true, if_false]
        rw [induction]
        constructor
        · rintro ⟨index, inside, later⟩
          refine ⟨index + 1, Nat.succ_lt_succ inside, ?_⟩
          rwa [Nat.mul_succ, ← Nat.add_assoc, Nat.add_right_comm]
        · rintro ⟨index, inside, found⟩
          cases index with
          | zero => exact absurd found accepted
          | succ index =>
              refine ⟨index, Nat.lt_of_succ_lt_succ inside, ?_⟩
              rwa [Nat.mul_succ, ← Nat.add_assoc, Nat.add_right_comm] at found

/-- A length can be drawn if an acceptable word stands anywhere ahead. -/
theorem draw_isSome_iff (stream : Keystream) :
    (Length.draw stream).1.isSome ↔
      ∃ index,
        Length.accepts (pairAt stream.key (stream.position + 2 * index)) := by
  rw [Length.draw, search_isSome_iff]
  constructor
  · rintro ⟨index, -, found⟩
    exact ⟨index, found⟩
  · rintro ⟨index, found⟩
    -- The same word stands within the first round of the stream.
    refine ⟨index % (8 * UInt64.size), Nat.mod_lt _ (by decide), ?_⟩
    have place :
        stream.position + 2 * index =
          stream.position + 2 * (index % (8 * UInt64.size)) +
            period * (index / (8 * UInt64.size)) := by
      simp only [period, UInt64.size]
      omega
    rwa [place, pairAt_add_period] at found

@[simp]
theorem key_search (stream : Keystream) (attempts : Nat) :
    (Length.search stream attempts).2.key = stream.key := by
  induction attempts generalizing stream with
  | zero => rfl
  | succ attempts induction =>
      simp only [Length.search]
      split
      · rfl
      · rename_i word rest drawn
        cases drawn
        split
        · rfl
        · exact induction _

/-! ## Keys that always deliver -/

/-- Acceptable words stand at positions of both parities. -/
structure Fertile (key : Key) : Prop where
  even : ∃ index, Length.accepts (pairAt key (2 * index))
  odd : ∃ index, Length.accepts (pairAt key (2 * index + 1))

/-- Every position has an acceptable word of its parity ahead of it. -/
theorem Fertile.draw_isSome {stream : Keystream}
    (fertile : Fertile stream.key) :
    (Length.draw stream).1.isSome := by
  rw [draw_isSome_iff]
  -- As many rounds ahead as the position is large, the target is reached.
  rcases Nat.mod_two_eq_zero_or_one stream.position with even | odd
  · rcases fertile.even with ⟨target, accepted⟩
    refine ⟨(2 * target + period * stream.position - stream.position) / 2, ?_⟩
    have place :
        stream.position +
            2 * ((2 * target + period * stream.position -
              stream.position) / 2) =
          2 * target + period * stream.position := by
      simp only [period, UInt64.size]
      omega
    rwa [place, pairAt_add_period]
  · rcases fertile.odd with ⟨target, accepted⟩
    refine
      ⟨(2 * target + 1 + period * stream.position - stream.position) / 2, ?_⟩
    have place :
        stream.position +
            2 * ((2 * target + 1 + period * stream.position -
              stream.position) / 2) =
          2 * target + 1 + period * stream.position := by
      simp only [period, UInt64.size]
      omega
    rwa [place, pairAt_add_period]

/-- Filler can always be drawn, and the key stays. -/
theorem Fertile.draw_filler {stream : Keystream}
    (fertile : Fertile stream.key) :
    ∃ filler rest,
      Filler.draw stream = (some filler, rest) ∧ rest.key = stream.key := by
  have found := fertile.draw_isSome
  have sameKey : (Length.draw stream).2.key = stream.key :=
    key_search stream _
  rcases drawn : Length.draw stream with ⟨_ | length, rest⟩
  · rw [drawn] at found
    cases found
  · rw [drawn] at sameKey
    refine ⟨⟨length, (rest.take length).1⟩, (rest.take length).2, ?_, sameKey⟩
    simp only [Filler.draw, drawn]
    rfl

/-- Any number of fillers can be drawn, and the key stays. -/
theorem Fertile.drawMany {stream : Keystream}
    (fertile : Fertile stream.key) (count : Nat) :
    (Filler.drawMany count stream).1.length = count ∧
      (Filler.drawMany count stream).2.key = stream.key := by
  induction count generalizing stream with
  | zero => exact ⟨rfl, rfl⟩
  | succ count induction =>
      rcases fertile.draw_filler with ⟨filler, rest, drawn, sameKey⟩
      have restFertile : Fertile rest.key := by
        rwa [sameKey]
      have later := induction restFertile
      simp only [Filler.drawMany, drawn, List.length_cons]
      exact ⟨congrArg (· + 1) later.1, later.2.trans sameKey⟩

/-- The key of the usual seed has acceptable words right at its start. -/
theorem fertile_defaultSeed : Fertile (keyOfSeed defaultSeed) where
  even := ⟨0, by decide +kernel⟩
  odd := ⟨0, by decide +kernel⟩

end Keystream

/-! ## Generators with the usual seed -/

namespace Generator

/-- The generator draws from the keystream of the usual seed. -/
def Usual (generator : Generator Keystream) : Prop :=
  generator.source.key = Keystream.keyOfSeed defaultSeed

theorem usual_ofInitial (initial : UInt8) : (ofInitial initial).Usual :=
  rfl

theorem Usual.ready {generator : Generator Keystream}
    (usual : generator.Usual)
    (fits : generator.pending.toNat ≤ batchCapacity) :
    generator.Ready where
  fits := fits
  complete := by
    have fertile : Keystream.Fertile generator.source.key := by
      rw [usual]
      exact Keystream.fertile_defaultSeed
    exact (fertile.drawMany _).1

theorem Usual.fetch {generator : Generator Keystream}
    (usual : generator.Usual) (batch : Batch) :
    (generator.fetch batch).generator.Usual := by
  rcases Nat.lt_or_ge batchCapacity generator.pending.toNat with
    oversized | fits
  · rwa [fetch_of_oversized oversized]
  · have fertile : Keystream.Fertile generator.source.key := by
      rw [usual]
      exact Keystream.fertile_defaultSeed
    rw [fetch_of_ready (usual.ready fits)]
    exact (fertile.drawMany _).2.trans usual

/--
A counter that fits keeps the generator ready for ever, and is below the
capacity from the first fetch on.
-/
theorem Usual.ready_afterFetches {generator : Generator Keystream}
    (usual : generator.Usual)
    (fits : generator.pending.toNat ≤ batchCapacity) (count : Nat) :
    (generator.afterFetches count).Ready ∧
      (0 < count →
        (generator.afterFetches count).pending.toNat < batchCapacity) := by
  induction count generalizing generator with
  | zero => exact ⟨usual.ready fits, fun impossible => by cases impossible⟩
  | succ count induction =>
      have next := pending_fetch_lt (usual.ready fits) Batch.zero
      rcases induction (usual.fetch Batch.zero) (Nat.le_of_lt next) with
        ⟨ready, below⟩
      refine ⟨ready, fun _ => ?_⟩
      cases count with
      | zero => exact next
      | succ count => exact below (Nat.succ_pos count)

/--
What becomes of a new generator: one whose first counter is above the capacity
never changes, and any other one can always be fetched from.
-/
theorem afterFetches_ofInitial_cases (first : UInt8) (count : Nat) :
    (batchCapacity < first.toNat ∧
        (ofInitial first).afterFetches count = ofInitial first) ∨
      (first.toNat ≤ batchCapacity ∧
        ((ofInitial first).afterFetches count).Ready ∧
        (0 < count →
          ((ofInitial first).afterFetches count).pending.toNat <
            batchCapacity)) := by
  rcases Nat.lt_or_ge batchCapacity first.toNat with oversized | fits
  · exact Or.inl ⟨oversized, afterFetches_of_oversized oversized count⟩
  · exact Or.inr
      ⟨fits, (usual_ofInitial first).ready_afterFetches fits count⟩

end Generator

end PacketFeed
