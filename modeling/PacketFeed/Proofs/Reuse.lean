import PacketFeed.Proofs.Fetch
import PacketFeed.Source.Script

/-!
# Reused buffers

One buffer may serve any number of generators, one fetch after the other.  A
fetch overwrites as many slots as it has packets, and of each of these only as
many bytes as the packet has.  Everything else keeps what an earlier fetch, or
the caller, has left there.  So each part of a reused buffer tells of the last
fetch that reached it.

The fetches need not come from one generator, nor the generators have one kind
of source.  A history is therefore a list of what was drawn, with the buffer
after each fetch.
-/

namespace PacketFeed

/-- What a successful fetch drew, and the buffer right after it. -/
structure Refill where
  drawn : List Filler
  after : Batch

namespace Refill

/-- The number of packets of a fetch. -/
def size (refill : Refill) : Nat :=
  refill.drawn.length

/-- The length that a fetch gave to a slot, if it reached the slot. -/
def lengthAt (slot : Nat) (refill : Refill) : Option Nat :=
  refill.drawn[slot]?.map fun filler => filler.length.val

/-- The byte that a fetch wrote to a place in a slot, if it reached the place. -/
def byteAt (slot place : Nat) (refill : Refill) : Option UInt8 :=
  refill.drawn[slot]?.bind fun filler => filler.bytes[place]?

end Refill

/--
Successive successful fetches into `buffer`, each by a generator of its own
or by one that has been used before, with any kinds of sources.
-/
inductive Refills : Batch → List Refill → Prop where
  | done {buffer : Batch} : Refills buffer []
  | step {buffer : Batch} {later : List Refill}
      {σ : Type} [Source σ] (generator : Generator σ)
      (succeeds : (generator.fetch buffer).outcome = .ok .success)
      (rest : Refills (generator.fetch buffer).batch later) :
      Refills buffer
        (⟨generator.upcoming.1, (generator.fetch buffer).batch⟩ :: later)

/-- The buffer at the end of a history. -/
def Batch.afterRefills (buffer : Batch) (history : List Refill) : Batch :=
  (history.map Refill.after).getLastD buffer

/-! ## One fetch into a used buffer -/

namespace Generator

variable {σ : Type} [Source σ] {generator : Generator σ}

/-- A slot is written to if there is a filler for it, and is kept otherwise. -/
theorem getElem_slots_fetch (ready : generator.Ready) (buffer : Batch)
    {slot : Nat} (bound : slot < batchCapacity) :
    (generator.fetch buffer).batch.slots[slot] =
      match generator.upcoming.1[slot]? with
      | some filler => buffer.slots[slot].write filler
      | none => buffer.slots[slot] := by
  rw [fetch_of_ready ready]
  exact Batch.getElem_slots_write _ _ _ bound

theorem toNat_len_fetch (ready : generator.Ready) (buffer : Batch)
    {slot : Nat} (bound : slot < batchCapacity) :
    (generator.fetch buffer).batch.slots[slot].len.toNat =
      (generator.upcoming.1[slot]?.map
        fun filler => filler.length.val).getD
          buffer.slots[slot].len.toNat := by
  rw [getElem_slots_fetch ready buffer bound]
  cases generator.upcoming.1[slot]? with
  | none => rfl
  | some filler => exact Packet.toNat_len_write filler _

theorem getElem_data_fetch (ready : generator.Ready) (buffer : Batch)
    {slot place : Nat} (bound : slot < batchCapacity)
    (inside : place < packetCapacity) :
    (generator.fetch buffer).batch.slots[slot].data[place] =
      (generator.upcoming.1[slot]?.bind
        fun filler => filler.bytes[place]?).getD
          buffer.slots[slot].data[place] := by
  rw [getElem_slots_fetch ready buffer bound]
  cases generator.upcoming.1[slot]? with
  | none => rfl
  | some filler =>
      simp only [Packet.write, Packet.getElem_overlay, Option.bind_some]
      by_cases reached : place < filler.length.val
      · rw [dif_pos reached, Vector.getElem?_eq_getElem reached]
        rfl
      · rw [dif_neg reached,
          Vector.getElem?_eq_none (Nat.le_of_not_lt reached)]
        rfl

/-- What the packets in use are, whatever the buffer was left with. -/
theorem packets_fetch (ready : generator.Ready) (buffer : Batch) :
    let packets := (generator.fetch buffer).batch.packets
    (packets.map fun packet => packet.len.toNat) =
        (generator.upcoming.1.map fun filler => filler.length.val) ∧
      ∀ packet ∈ packets,
        packet.len.toNat < packetCapacity ∧
          packet.payload.length = packet.len.toNat := by
  intro packets
  have shown : packets.map Packet.contents =
      generator.upcoming.1.map Filler.contents :=
    contents_fetch ready buffer
  constructor
  · rw [← Filler.map_toNat_contents, ← shown, List.map_map]
    rfl
  · intro packet member
    have origin : packet.contents ∈
        generator.upcoming.1.map Filler.contents := by
      rw [← shown]
      exact List.mem_map_of_mem member
    rcases List.mem_map.mp origin with ⟨filler, -, same⟩
    rcases Packet.eq_of_contents_eq same with ⟨len, payload⟩
    rw [len, payload, Vector.length_toList]
    exact ⟨filler.length.isLt, rfl⟩

end Generator

/-! ## Histories -/

/--
The law behind all parts of a buffer.  If a fetch replaces what is seen of a
buffer by what it has given, and keeps it when it has given nothing, then what
is seen at the end of a history is what was given last.
-/
theorem Refills.view_eq_getLastD {α : Type}
    (view : Batch → α) (given : Refill → Option α)
    (each : ∀ {σ : Type} [Source σ] {generator : Generator σ},
      generator.Ready → ∀ buffer : Batch,
      view (generator.fetch buffer).batch =
        (given ⟨generator.upcoming.1,
          (generator.fetch buffer).batch⟩).getD (view buffer))
    {buffer : Batch} {history : List Refill}
    (refills : Refills buffer history) :
    view (buffer.afterRefills history) =
      (history.filterMap given).getLastD (view buffer) := by
  induction refills with
  | done => rfl
  | @step buffer later σ _ generator succeeds rest induction =>
      have first := each (Generator.ready_of_outcome succeeds) buffer
      rw [Batch.afterRefills, List.map_cons, List.getLastD_cons]
      rw [Batch.afterRefills] at induction
      rw [induction, first]
      cases wrote :
          given ⟨generator.upcoming.1, (generator.fetch buffer).batch⟩ with
      | none => rw [List.filterMap_cons_none wrote]; rfl
      | some value =>
          rw [List.filterMap_cons_some wrote, List.getLastD_cons]
          rfl

/-- What holds of the buffer after every single fetch of a history. -/
theorem Refills.forall_mem {motive : Refill → Prop}
    (each : ∀ {σ : Type} [Source σ] {generator : Generator σ},
      generator.Ready → ∀ buffer : Batch,
      motive ⟨generator.upcoming.1, (generator.fetch buffer).batch⟩)
    {buffer : Batch} {history : List Refill}
    (refills : Refills buffer history) :
    ∀ refill ∈ history, motive refill := by
  induction refills with
  | done =>
      intro refill member
      cases member
  | @step buffer later σ _ generator succeeds rest induction =>
      intro refill member
      rcases List.mem_cons.mp member with rfl | earlier
      · exact each (Generator.ready_of_outcome succeeds) buffer
      · exact induction refill earlier

/--
The last writer decides.  After any fetches into one buffer, by any
generators, the count is the size of the last fetch.  The length of a slot is
the one given to it by the last fetch that had a packet for the slot, and a
byte of a slot is the one written by the last fetch whose packet for the slot
was long enough; where there is no such fetch, length and byte are those that
the buffer had at first.  Right after each of the fetches the packets in use
are as many as the buffer counts, have the lengths that were drawn, all below
the capacity, and show as many bytes as their lengths say.
-/
theorem reused_buffer_last_writer
    {buffer : Batch} {history : List Refill}
    (refills : Refills buffer history) :
    let last := buffer.afterRefills history
    last.count.toNat =
        (history.map Refill.size).getLastD buffer.count.toNat ∧
      (∀ (slot : Nat) (bound : slot < batchCapacity),
        last.slots[slot].len.toNat =
            (history.filterMap (Refill.lengthAt slot)).getLastD
              buffer.slots[slot].len.toNat ∧
          ∀ (place : Nat) (inside : place < packetCapacity),
            last.slots[slot].data[place] =
              (history.filterMap (Refill.byteAt slot place)).getLastD
                buffer.slots[slot].data[place]) ∧
      ∀ refill ∈ history,
        refill.after.count.toNat = refill.size ∧
          refill.after.packets.length = refill.after.count.toNat ∧
          (refill.after.packets.map fun packet => packet.len.toNat) =
            (refill.drawn.map fun filler => filler.length.val) ∧
          ∀ packet ∈ refill.after.packets,
            packet.len.toNat < packetCapacity ∧
              packet.payload.length = packet.len.toNat := by
  intro last
  refine ⟨?_, ?_, ?_⟩
  · have counts :=
      refills.view_eq_getLastD (fun batch => batch.count.toNat)
        (some ∘ Refill.size) fun ready buffer => by
          rw [Generator.count_fetch ready]
          exact ready.complete.symm
    rwa [List.filterMap_eq_map] at counts
  · intro slot bound
    constructor
    · exact refills.view_eq_getLastD
        (fun batch => batch.slots[slot].len.toNat) (Refill.lengthAt slot)
        fun ready buffer => Generator.toNat_len_fetch ready buffer bound
    · intro place inside
      exact refills.view_eq_getLastD
        (fun batch => batch.slots[slot].data[place])
        (Refill.byteAt slot place)
        fun ready buffer =>
          Generator.getElem_data_fetch ready buffer bound inside
  · refine refills.forall_mem ?_
    intro σ _ generator ready buffer
    have count := Generator.count_fetch ready buffer
    rcases Generator.packets_fetch ready buffer with ⟨lengths, each⟩
    have total := congrArg List.length lengths
    rw [List.length_map, List.length_map, ready.complete, ← count] at total
    exact ⟨by rw [count]; exact ready.complete.symm, total, lengths, each⟩

/--
A packet of 375 bytes, then two short ones, then an empty batch of a
generator with another kind of source, all into one buffer that was left with
a wrong count and wrong lengths.
-/
theorem reused_buffer_last_writer_three :
    let dirty : Batch :=
      ⟨255, Vector.replicate 8 ⟨0xbeef, Vector.replicate 1500 0x5a⟩⟩
    let long : Generator Script :=
      ⟨1, { words := [0x4000000000000000], bytes := #[7, 9] }⟩
    let short : Generator Script :=
      ⟨2, { words := [12297829382473035, 24595658764946070], bytes := #[5] }⟩
    let empty : Generator Keystream := Generator.ofInitial 0
    let first := (long.fetch dirty).batch
    let second := (short.fetch first).batch
    let third := (empty.fetch second).batch
    let history : List Refill :=
      [⟨long.upcoming.1, first⟩, ⟨short.upcoming.1, second⟩,
        ⟨empty.upcoming.1, third⟩]
    let last := dirty.afterRefills history
    Refills dirty history ∧
      last.count.toNat = 0 ∧
      last.slots[0].len.toNat = 1 ∧
      last.slots[0].data[0] = 5 ∧
      last.slots[0].data[1] = 9 ∧
      last.slots[0].data[375] = 0x5a ∧
      last.slots[1].len.toNat = 2 ∧
      last.slots[2].len.toNat = 0xbeef := by
  intro dirty long short empty first second third history last
  have longReady : long.Ready := ⟨by decide, by decide +kernel⟩
  have shortReady : short.Ready := ⟨by decide, by decide +kernel⟩
  have emptyReady : empty.Ready := ⟨by decide, rfl⟩
  have refills : Refills dirty history :=
    .step long (by rw [Generator.fetch_of_ready longReady])
      (.step short (by rw [Generator.fetch_of_ready shortReady])
        (.step empty (by rw [Generator.fetch_of_ready emptyReady]) .done))
  rcases reused_buffer_last_writer refills with ⟨count, slots, -⟩
  rcases slots 0 (by decide) with ⟨firstLength, firstBytes⟩
  refine ⟨refills, count, ?_, ?_, ?_, ?_, ?_, ?_⟩
  · exact firstLength.trans (by decide +kernel)
  · exact (firstBytes 0 (by decide)).trans (by decide +kernel)
  · exact (firstBytes 1 (by decide)).trans (by decide +kernel)
  · exact (firstBytes 375 (by decide)).trans (by decide +kernel)
  · exact (slots 1 (by decide)).1.trans (by decide +kernel)
  · exact (slots 2 (by decide)).1.trans (by decide +kernel)

end PacketFeed
