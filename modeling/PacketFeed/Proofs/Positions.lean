import PacketFeed.Proofs.Endurance
import PacketFeed.Proofs.Stream

/-!
# Where packets stand in a keystream

A keystream is one endless row of 32-bit words, and the packets of a run
divide its beginning among them.  Each packet starts where the one before it
ended.  It takes two words for every length that is tried, then as many words
as its bytes need; what is left of its last word is lost.  Blocks and batches
leave no trace in this division.
-/

namespace PacketFeed

namespace Keystream

/-! ## Words as numbers -/

/-- The number with a word of the stream as its low half and the next as its high half. -/
def valueAt (key : Key) (index : Nat) : Nat :=
  (word key index).toNat + UInt32.size * (word key (index + 1)).toNat

theorem toNat_join (low high : UInt32) :
    (join low high).toNat = low.toNat + UInt32.size * high.toNat := by
  have lowBound := low.toNat_lt_size
  have highBound := high.toNat_lt_size
  have shifted :
      (high.toUInt64 <<< 32).toNat = high.toNat <<< 32 := by
    rw [UInt64.toNat_shiftLeft, UInt32.toNat_toUInt64]
    apply Nat.mod_eq_of_lt
    simp only [UInt32.size] at highBound
    rw [Nat.shiftLeft_eq]
    show high.toNat * 4294967296 < 18446744073709551616
    omega
  rw [join, UInt64.toNat_or, shifted, UInt32.toNat_toUInt64,
    ← Nat.shiftLeft_add_eq_or_of_lt lowBound, Nat.shiftLeft_eq]
  show high.toNat * 4294967296 + low.toNat = low.toNat + 4294967296 * high.toNat
  omega

theorem toNat_pairAt (key : Key) (index : Nat) :
    (pairAt key index).toNat = valueAt key index :=
  toNat_join _ _

theorem toNat_byteOf (word : UInt32) {place : Nat} (inside : place < 4) :
    (byteOf word place).toNat = word.toNat >>> (8 * place) % 256 := by
  have amount : (UInt32.ofNat (8 * place)).toNat % 32 = 8 * place := by
    rw [UInt32.toNat_ofNat']
    omega
  rw [byteOf, UInt32.toNat_toUInt8, UInt32.toNat_shiftRight, amount]

/-- The number that starts at a position may be turned into a length. -/
def AcceptedAt (key : Key) (index : Nat) : Prop :=
  valueAt key index * packetCapacity % UInt64.size <
    packetCapacity * Length.share

theorem accepts_pairAt_iff {key : Key} {index : Nat} :
    Length.accepts (pairAt key index) = true ↔ AcceptedAt key index := by
  rw [Length.accepts, toNat_pairAt, decide_eq_true_iff]
  rfl

/-! ## The place of a packet -/

/--
A packet with the given length and payload stands at `start` in the stream of
`key`: of the numbers that start there and after every second word, the first
one that is accepted is number `tries`; the length comes from it and the
payload from the words after it, low byte first.
-/
structure Placed (key : Key) (start tries length : Nat)
    (payload : List UInt8) : Prop where
  tried : 1 ≤ tries
  rejected :
    ∀ attempt, 1 ≤ attempt → attempt < tries →
      ¬ AcceptedAt key (start + 2 * (attempt - 1))
  accepted : AcceptedAt key (start + 2 * (tries - 1))
  length_eq :
    length =
      valueAt key (start + 2 * (tries - 1)) * packetCapacity / UInt64.size
  length_payload : payload.length = length
  byte :
    ∀ place < length,
      payload[place]?.map UInt8.toNat =
        some ((word key (start + 2 * tries + place / 4)).toNat >>>
          (8 * (place % 4)) % 256)

/-- What a search has passed over, and what it has found. -/
theorem of_search_eq_some {stream rest : Keystream} {attempts : Nat}
    {length : Length}
    (found : Length.search stream attempts = (some length, rest)) :
    ∃ passed,
      (∀ index < passed,
        ¬ AcceptedAt stream.key (stream.position + 2 * index)) ∧
        AcceptedAt stream.key (stream.position + 2 * passed) ∧
        length =
          Length.ofWord
            (pairAt stream.key (stream.position + 2 * passed)) ∧
        rest =
          { stream with position := stream.position + 2 * (passed + 1) } := by
  induction attempts generalizing stream with
  | zero => cases found
  | succ attempts induction =>
      simp only [Length.search, word?_eq_pairAt] at found
      split at found
      · rename_i accepted
        cases found
        refine ⟨0, ?_, accepts_pairAt_iff.mp accepted, rfl, rfl⟩
        intro index impossible
        cases impossible
      · rename_i refused
        rcases induction found with ⟨passed, before, accepted, rfl, rfl⟩
        have shift (index : Nat) :
            stream.position + 2 * (index + 1) =
              stream.position + 2 + 2 * index := by
          omega
        refine ⟨passed + 1, ?_, ?_, ?_, ?_⟩
        · intro index within
          cases index with
          | zero => exact fun first => refused (accepts_pairAt_iff.mpr first)
          | succ index =>
              rw [shift]
              exact before index (Nat.lt_of_succ_lt_succ within)
        · rw [shift]
          exact accepted
        · rw [shift]
        · rw [shift (passed + 1)]

/-- Filler stands at the position of the stream from which it is drawn. -/
theorem placed_of_draw {stream rest : Keystream} {filler : Filler}
    (drawn : Filler.draw stream = (some filler, rest)) :
    ∃ tries,
      Placed stream.key stream.position tries filler.length
          filler.bytes.toList ∧
        rest =
          { stream with
            position :=
              stream.position + 2 * tries + (filler.length + 3) / 4 } := by
  rcases searched : Length.draw stream with ⟨_ | length, after⟩
  · simp only [Filler.draw, searched] at drawn
    cases drawn
  · rcases of_search_eq_some searched with
      ⟨passed, before, accepted, rfl, rfl⟩
    simp only [Filler.draw, searched] at drawn
    cases drawn
    refine ⟨passed + 1, ⟨Nat.succ_pos passed, ?_, accepted, ?_, ?_, ?_⟩, rfl⟩
    · intro attempt _ within
      exact before (attempt - 1) (by omega)
    · rw [Nat.add_sub_cancel, ← toNat_pairAt]
      rfl
    · exact Vector.length_toList
    · intro place inside
      have quarter : place % 4 < 4 := Nat.mod_lt place (by decide)
      rw [Vector.getElem?_toList, Vector.getElem?_eq_getElem inside,
        Option.map_some]
      congr 1
      simp only [Source.bytes, take, Vector.getElem_ofFn, getElem_words]
      exact toNat_byteOf _ quarter

/-- Fillers in a row stand one behind the other. -/
theorem placed_of_drawMany (stream : Keystream) {count : Nat}
    (complete : (Filler.drawMany count stream).1.length = count) :
    ∃ start tries : Nat → Nat,
      start 0 = stream.position ∧
        (∀ index filler,
          (Filler.drawMany count stream).1[index]? = some filler →
          Placed stream.key (start index) (tries index) filler.length
              filler.bytes.toList ∧
            start (index + 1) =
              start index + 2 * tries index + (filler.length + 3) / 4) ∧
        (Filler.drawMany count stream).2 =
          { stream with position := start count } := by
  induction count generalizing stream with
  | zero =>
      refine ⟨fun _ => stream.position, fun _ => 0, rfl, ?_, rfl⟩
      intro index filler found
      cases found
  | succ count induction =>
      rcases drawn : Filler.draw stream with ⟨_ | filler, rest⟩
      · simp only [Filler.drawMany, drawn] at complete
        cases complete
      · simp only [Filler.drawMany, drawn, List.length_cons,
          Nat.add_right_cancel_iff] at complete ⊢
        rcases placed_of_draw drawn with ⟨firstTries, placed, rfl⟩
        rcases induction _ complete with ⟨start, tries, first, each, last⟩
        -- The later fillers keep their places, counted one further.
        refine
          ⟨fun index => Nat.casesOn index stream.position start,
            fun index => Nat.casesOn index firstTries tries, rfl, ?_, last⟩
        intro index found foundAt
        cases index with
        | zero =>
            cases foundAt
            exact ⟨placed, first⟩
        | succ index => exact each index found foundAt

end Keystream

/-! ## Packets of a run -/

namespace Generator

theorem Fetches.exists_filler {σ : Type} [Source σ]
    {generator last : Generator σ} {batches : List Batch}
    (run : generator.Fetches batches last)
    {index : Nat} {packet : Packet}
    (found : (batches.flatMap Batch.packets)[index]? = some packet) :
    ∃ filler,
      (Filler.drawMany (produced batches).length
          generator.source).1[index]? = some filler ∧
        filler.contents = packet.contents := by
  have shown :
      (batches.flatMap Batch.packets).map Packet.contents =
        (Filler.drawMany (produced batches).length
          generator.source).1.map Filler.contents := by
    rw [run.drawMany_produced.1, produced_eq_map_contents]
  have entry := congrArg (fun list => list[index]?) shown
  simp only [List.getElem?_map, found, Option.map_some] at entry
  exact Option.map_eq_some_iff.mp entry.symm

/--
The division of a keystream among the packets of a run.  Number the packets
of all batches in order.  The first one stands at the start of the stream of
the seed, and each later one right behind the words that the one before it has
taken: two for every length tried, and one for every four bytes or part of
four.  The run leaves the source behind its last packet.
-/
theorem packet_positions
    {seed : UInt64} {initial : UInt8}
    {batches : List Batch} {last : Generator Keystream}
    (run : (ofConfig { initial, seed }).Fetches batches last) :
    let key := Keystream.keyOfSeed seed
    let packets := batches.flatMap Batch.packets
    ∃ start tries : Nat → Nat,
      start 0 = 0 ∧
        (∀ index packet, packets[index]? = some packet →
          Keystream.Placed key (start index) (tries index) packet.len.toNat
              packet.payload ∧
            start (index + 1) =
              start index + 2 * tries index +
                (packet.len.toNat + 3) / 4) ∧
        last.source = ⟨key, start packets.length⟩ := by
  intro key packets
  have drawn := run.drawMany_produced
  have complete := congrArg List.length drawn.1
  rw [List.length_map] at complete
  rcases Keystream.placed_of_drawMany _ complete with
    ⟨start, tries, first, each, rest⟩
  refine ⟨start, tries, first, ?_, ?_⟩
  · intro index packet found
    rcases run.exists_filler found with ⟨filler, foundFiller, same⟩
    rcases Packet.eq_of_contents_eq same with ⟨len, payload⟩
    rw [len, payload]
    exact each index filler foundFiller
  · have count : packets.length = (produced batches).length := by
      rw [produced_eq_map_contents, List.length_map]
    rw [count, ← drawn.2]
    exact rest

/--
With the usual seed the first number is accepted and gives 1358 bytes, so the
second packet stands at word 342.
-/
theorem packet_positions_second :
    let batch := ((ofInitial 2).fetch Batch.zero).batch
    ∃ tries,
      Keystream.Placed (Keystream.keyOfSeed defaultSeed) 342 tries
        batch.slots[1].len.toNat batch.slots[1].payload := by
  intro batch
  have ready : (ofInitial 2).Ready :=
    (usual_ofInitial 2).ready (by decide)
  have succeeds :
      ((ofInitial 2).fetch Batch.zero).outcome = .ok .success := by
    rw [fetch_of_ready ready]
  have count : batch.count = 2 := count_fetch ready Batch.zero
  have entry (slot : Fin 2) :
      ([batch].flatMap Batch.packets)[slot.val]? =
        some batch.slots[slot.val] := by
    have inside := slot.isLt
    simp [Batch.packets, count, inside]
  rcases packet_positions (.step Batch.zero succeeds .done) with
    ⟨start, tries, first, each, -⟩
  rcases each 0 _ (entry 0) with ⟨placed, next⟩
  have value :
      Keystream.valueAt (Keystream.keyOfSeed defaultSeed) 0 =
        16706751087386148979 := by
    decide +kernel
  have accepted :
      Keystream.AcceptedAt (Keystream.keyOfSeed defaultSeed) (start 0) := by
    rw [first, Keystream.AcceptedAt, value]
    decide
  have once : tries 0 = 1 := by
    rcases Nat.eq_or_lt_of_le placed.tried with equal | more
    · exact equal.symm
    · exact absurd accepted (placed.rejected 1 (Nat.le_refl 1) more)
  have length : batch.slots[0].len.toNat = 1358 := by
    have scaled := placed.length_eq
    rw [first, once, Nat.sub_self, Nat.mul_zero, Nat.add_zero, value] at scaled
    exact scaled
  have second : start 1 = 342 := by
    refine next.trans ?_
    show start 0 + 2 * tries 0 + (batch.slots[0].len.toNat + 3) / 4 = 342
    rw [first, once, length]
  refine ⟨tries 1, ?_⟩
  have later := (each 1 _ (entry 1)).1
  rwa [second] at later

end Generator

end PacketFeed
