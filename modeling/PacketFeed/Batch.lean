import PacketFeed.Packet
import PacketFeed.Text.Record

/-!
# Batches

A batch has a fixed number of slots and a count of those in use.  The count is
plain data like the length of a packet: the view `packets` never reaches past
the last slot, and slots past the count keep whatever they held.
-/

namespace PacketFeed

/-- The number of slots of a batch. -/
abbrev batchCapacity : Nat := 8

/-- A caller-owned group of packets, the first `count` of them in use. -/
structure Batch where
  count : UInt8
  slots : Vector Packet batchCapacity
deriving DecidableEq

namespace Batch

/-- The batch that counts nothing and has zero packets in all slots. -/
def zero : Batch where
  count := 0
  slots := Vector.replicate batchCapacity Packet.zero

instance : Inhabited Batch := ⟨zero⟩

/-- The packets in use. -/
def packets (batch : Batch) : List Packet :=
  batch.slots.toList.take batch.count.toNat

theorem length_packets (batch : Batch) :
    batch.packets.length = min batch.count.toNat batchCapacity := by
  simp [packets]

/-- Reset the count and wipe every slot, in use or not. -/
def clear (batch : Batch) : Batch where
  count := 0
  slots := batch.slots.map Packet.wipe

@[simp]
theorem clear_eq_zero (batch : Batch) : batch.clear = zero := by
  simp only [clear, zero, mk.injEq, true_and]
  apply Vector.ext
  intro index inside
  simp

/-- The number of payload bytes in use. -/
def payloadBytes (batch : Batch) : Nat :=
  batch.packets.foldr (fun packet total => packet.payload.length + total) 0

end Batch

/-! ## Shown text

The text of a packet shows its length and hides its bytes.  The text of a
batch shows the count and all slots, in use or not.
-/

namespace Packet

/-- The text of a packet on one line. -/
def inspect (packet : Packet) : String :=
  Text.record "Packet" [Text.labelled "len" (toString packet.len), ".."]

/-- The lines of the text of a packet. -/
def inspectLines (packet : Packet) : List String :=
  Text.openRecordLines "Packet"
    [Text.labelledLines "len" [toString packet.len]]

/-- The text of a packet spread over lines. -/
def inspectSpread (packet : Packet) : String :=
  Text.stacked packet.inspectLines

end Packet

namespace Batch

/-- The text of a batch on one line. -/
def inspect (batch : Batch) : String :=
  Text.record "Batch"
    [Text.labelled "count" (toString batch.count),
      Text.labelled "packets"
        (Text.bracketed (batch.slots.toList.map Packet.inspect))]

/-- The lines of the text of a batch. -/
def inspectLines (batch : Batch) : List String :=
  Text.recordLines "Batch"
    [Text.labelledLines "count" [toString batch.count],
      Text.labelledLines "packets"
        (Text.bracketedLines (batch.slots.toList.map Packet.inspectLines))]

/-- The text of a batch spread over lines. -/
def inspectSpread (batch : Batch) : String :=
  Text.stacked batch.inspectLines

end Batch

end PacketFeed
