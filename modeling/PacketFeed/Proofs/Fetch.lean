import PacketFeed.Generator

/-!
# What a fetch does

A fetch has three endings: the counter is above the capacity, the source has
too few acceptable words, or the batch is filled.  Which one it is, what the
generator becomes and what a caller can read off the batch afterwards depend
on the generator alone.  The buffer only decides what stands in the parts that
are not in use.

Successive successful fetches, each into a buffer of any contents, form a
run.  Runs are a relation, so that nothing is said about where the buffers
come from; `fetchMany`, which uses one buffer throughout, is an instance.
-/

namespace PacketFeed

/-! ## Contents -/

/-- What can be read off a packet: its length and its used bytes. -/
def Packet.contents (packet : Packet) : UInt16 × List UInt8 :=
  (packet.len, packet.payload)

/-- What can be read off a batch: the contents of the packets in use. -/
def Batch.contents (batch : Batch) : List (UInt16 × List UInt8) :=
  batch.packets.map Packet.contents

@[simp]
theorem Batch.length_contents (batch : Batch) :
    batch.contents.length = min batch.count.toNat batchCapacity := by
  rw [contents, List.length_map, length_packets]

/-- The contents that filler gives to a packet. -/
def Filler.contents (filler : Filler) : UInt16 × List UInt8 :=
  (UInt16.ofNat filler.length, filler.bytes.toList)

theorem Filler.toNat_fst_contents (filler : Filler) :
    filler.contents.1.toNat = filler.length.val :=
  Nat.mod_eq_of_lt (Nat.lt_trans filler.length.isLt (by decide))

theorem Filler.map_toNat_contents (fillers : List Filler) :
    (fillers.map contents).map (fun shown => shown.1.toNat) =
      fillers.map fun filler => filler.length.val := by
  rw [List.map_map]
  apply List.map_congr_left
  intro filler _
  exact filler.toNat_fst_contents

/-- A packet that shows filler has its length and its bytes. -/
theorem Packet.eq_of_contents_eq {packet : Packet} {filler : Filler}
    (same : filler.contents = packet.contents) :
    packet.len.toNat = filler.length.val ∧
      packet.payload = filler.bytes.toList := by
  constructor
  · rw [← filler.toNat_fst_contents, same]
    rfl
  · exact congrArg Prod.snd same.symm

@[simp]
theorem Packet.contents_write (filler : Filler) (packet : Packet) :
    (packet.write filler).contents = filler.contents := by
  rw [contents, payload_write]
  rfl

/-- A batch that counts its fillers shows them, whatever its slots held. -/
theorem Batch.contents_write
    (fillers : List Filler) (batch : Batch) (size : UInt8)
    (fits : size.toNat ≤ batchCapacity)
    (complete : fillers.length = size.toNat) :
    ({ batch.write fillers with count := size } : Batch).contents =
      fillers.map Filler.contents := by
  apply List.ext_getElem
  · simp only [length_contents, List.length_map]
    omega
  · intro slot inContents inFillers
    have inside : slot < fillers.length := by
      simpa using inFillers
    have written :
        (batch.write fillers).slots[slot] =
          batch.slots[slot].write fillers[slot] := by
      rw [getElem_slots_write, List.getElem?_eq_getElem inside]
    simp only [contents, packets, List.getElem_map, List.getElem_take,
      Vector.getElem_toList, written, Packet.contents_write]

namespace Generator

variable {σ : Type} [Source σ]

/-! ## The endings of a fetch -/

/-- The fillers of the next batch and the source after they are drawn. -/
def upcoming (generator : Generator σ) : List Filler × σ :=
  Filler.drawMany generator.pending.toNat generator.source

/-- The next batch fits and the source can fill it. -/
structure Ready (generator : Generator σ) : Prop where
  fits : generator.pending.toNat ≤ batchCapacity
  complete : generator.upcoming.1.length = generator.pending.toNat

theorem fetch_of_ready {generator : Generator σ}
    (ready : generator.Ready) (batch : Batch) :
    generator.fetch batch =
      { outcome := .ok .success
        generator := ⟨advance generator.pending, generator.upcoming.2⟩
        batch :=
          { batch.write generator.upcoming.1 with
            count := generator.pending }
        events :=
          [.fetched generator.pending (advance generator.pending)] } := by
  have complete := ready.complete
  rw [upcoming] at complete
  rw [fetch, if_pos ready.fits]
  simp only [complete, if_true, upcoming]

theorem fetch_of_oversized {generator : Generator σ}
    (oversized : batchCapacity < generator.pending.toNat) (batch : Batch) :
    generator.fetch batch =
      { outcome := .error (.overCapacity generator.pending)
        generator
        batch
        events := [] } := by
  rw [fetch, if_neg (Nat.not_le.mpr oversized)]

theorem fetch_of_short {generator : Generator σ}
    (fits : generator.pending.toNat ≤ batchCapacity)
    (short : generator.upcoming.1.length ≠ generator.pending.toNat)
    (batch : Batch) :
    generator.fetch batch =
      { outcome := .error .exhausted
        generator := ⟨generator.pending, generator.upcoming.2⟩
        batch := batch.write generator.upcoming.1
        events := [] } := by
  rw [upcoming] at short
  rw [fetch, if_pos fits]
  simp only [short, if_false, upcoming]

/-- One of the three endings comes about. -/
theorem ready_or_oversized_or_short (generator : Generator σ) :
    generator.Ready ∨
      batchCapacity < generator.pending.toNat ∨
      (generator.pending.toNat ≤ batchCapacity ∧
        generator.upcoming.1.length ≠ generator.pending.toNat) := by
  rcases Nat.lt_or_ge batchCapacity generator.pending.toNat with above | fits
  · exact Or.inr (Or.inl above)
  · by_cases complete :
        generator.upcoming.1.length = generator.pending.toNat
    · exact Or.inl ⟨fits, complete⟩
    · exact Or.inr (Or.inr ⟨fits, complete⟩)

/-- A fetch succeeds exactly when the generator is ready. -/
theorem outcome_fetch_eq_ok_iff
    (generator : Generator σ) (batch : Batch) (status : Status) :
    (generator.fetch batch).outcome = .ok status ↔
      status = .success ∧ generator.Ready := by
  constructor
  · intro succeeds
    rcases generator.ready_or_oversized_or_short with
      ready | oversized | ⟨fits, short⟩
    · rw [fetch_of_ready ready] at succeeds
      cases succeeds
      exact ⟨rfl, ready⟩
    · rw [fetch_of_oversized oversized] at succeeds
      cases succeeds
    · rw [fetch_of_short fits short] at succeeds
      cases succeeds
  · rintro ⟨rfl, ready⟩
    rw [fetch_of_ready ready]

theorem ready_of_outcome {generator : Generator σ} {batch : Batch}
    {status : Status}
    (succeeds : (generator.fetch batch).outcome = .ok status) :
    generator.Ready :=
  ((generator.outcome_fetch_eq_ok_iff batch status).mp succeeds).2

/-- What a batch shows after a successful fetch. -/
theorem contents_fetch {generator : Generator σ}
    (ready : generator.Ready) (batch : Batch) :
    (generator.fetch batch).batch.contents =
      generator.upcoming.1.map Filler.contents := by
  rw [fetch_of_ready ready]
  exact Batch.contents_write _ _ _ ready.fits ready.complete

theorem count_fetch {generator : Generator σ}
    (ready : generator.Ready) (batch : Batch) :
    (generator.fetch batch).batch.count = generator.pending := by
  rw [fetch_of_ready ready]

/-! ## The next counter -/

theorem toNat_advance (size : UInt8) :
    (advance size).toNat = (size.toNat + stride) % batchCapacity := by
  have below : (size.toNat + stride) % batchCapacity < batchCapacity :=
    Nat.mod_lt _ (by decide)
  rw [advance, UInt8.toNat_ofNat_of_lt' (Nat.lt_trans below (by decide))]

theorem toNat_advance_lt (size : UInt8) :
    (advance size).toNat < batchCapacity := by
  rw [toNat_advance]
  exact Nat.mod_lt _ (by decide)

theorem pending_fetch_lt {generator : Generator σ}
    (ready : generator.Ready) (batch : Batch) :
    (generator.fetch batch).generator.pending.toNat < batchCapacity := by
  rw [fetch_of_ready ready]
  exact toNat_advance_lt generator.pending

/-! ## The buffer does not matter -/

theorem generator_fetch_eq
    (generator : Generator σ) (batch other : Batch) :
    (generator.fetch batch).generator = (generator.fetch other).generator := by
  rcases generator.ready_or_oversized_or_short with
    ready | oversized | ⟨fits, short⟩
  · rw [fetch_of_ready ready, fetch_of_ready ready]
  · rw [fetch_of_oversized oversized, fetch_of_oversized oversized]
  · rw [fetch_of_short fits short, fetch_of_short fits short]

/-- The generator after `count` fetches, each into a fresh buffer. -/
def afterFetches (generator : Generator σ) : (count : Nat) → Generator σ
  | 0 => generator
  | count + 1 => (generator.fetch Batch.zero).generator.afterFetches count

/-- A counter above the capacity stays as it is, and so does the source. -/
theorem afterFetches_of_oversized {generator : Generator σ}
    (oversized : batchCapacity < generator.pending.toNat) (count : Nat) :
    generator.afterFetches count = generator := by
  induction count with
  | zero => rfl
  | succ count induction =>
      rw [afterFetches, fetch_of_oversized oversized]
      exact induction

theorem afterFetches_add (generator : Generator σ) (first second : Nat) :
    generator.afterFetches (first + second) =
      (generator.afterFetches first).afterFetches second := by
  induction first generalizing generator with
  | zero => rw [Nat.zero_add]; rfl
  | succ first induction =>
      rw [Nat.add_right_comm, afterFetches, induction]
      rfl

/-! ## Runs -/

/--
`generator.Fetches batches last`: successive fetches from `generator`, each
into a buffer of any contents, all succeed and leave the buffers as `batches`
and the generator as `last`.
-/
inductive Fetches : Generator σ → List Batch → Generator σ → Prop where
  | done {generator : Generator σ} : Fetches generator [] generator
  | step {generator last : Generator σ} {batches : List Batch}
      (buffer : Batch)
      (succeeds : (generator.fetch buffer).outcome = .ok .success)
      (rest : Fetches (generator.fetch buffer).generator batches last) :
      Fetches generator ((generator.fetch buffer).batch :: batches) last

/-- The packets of a run, batch after batch, as they can be read. -/
def produced (batches : List Batch) : List (UInt16 × List UInt8) :=
  batches.flatMap Batch.contents

@[simp]
theorem produced_cons (batch : Batch) (batches : List Batch) :
    produced (batch :: batches) = batch.contents ++ produced batches :=
  List.flatMap_cons

theorem produced_eq_map_contents (batches : List Batch) :
    produced batches =
      (batches.flatMap Batch.packets).map Packet.contents := by
  rw [produced, List.map_flatMap]
  rfl

/-- Fetching repeatedly into one buffer is a run unless a fault stops it. -/
theorem fetches_fetchMany
    (generator : Generator σ) (batch : Batch) (times : Nat)
    (faultless : (generator.fetchMany batch times).fault = none) :
    generator.Fetches (generator.fetchMany batch times).batches
      (generator.fetchMany batch times).generator := by
  induction times generalizing generator batch with
  | zero => exact .done
  | succ times induction =>
      simp only [fetchMany] at faultless ⊢
      cases outcome : (generator.fetch batch).outcome with
      | error fault =>
          simp [outcome] at faultless
      | ok status =>
          rcases (generator.outcome_fetch_eq_ok_iff batch status).mp outcome with
            ⟨rfl, -⟩
          simp only [outcome] at faultless ⊢
          exact .step batch outcome (induction _ _ faultless)

end Generator

end PacketFeed
