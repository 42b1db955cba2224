import PacketFeed.Fault
import PacketFeed.Length

/-!
# Filler

The random content of one packet: a length and that many bytes.  Drawing
filler from a source and writing it into a slot are separate steps, so what is
drawn cannot depend on what the slot held.
-/

namespace PacketFeed

/-- A length and as many bytes. -/
structure Filler where
  length : Length
  bytes : Vector UInt8 length

namespace Filler

variable {σ : Type} [Source σ]

/-- Draw a length, then its bytes; `none` if no length can be drawn. -/
def draw (source : σ) : Option Filler × σ :=
  match Length.draw source with
  | (none, rest) => (none, rest)
  | (some length, rest) =>
      let (bytes, rest) := Source.bytes rest length
      (some ⟨length, bytes⟩, rest)

/-- Draw up to `count` fillers and stop early when one cannot be drawn. -/
def drawMany : (count : Nat) → σ → List Filler × σ
  | 0, source => ([], source)
  | count + 1, source =>
      match draw source with
      | (none, rest) => ([], rest)
      | (some filler, rest) =>
          let (fillers, rest) := drawMany count rest
          (filler :: fillers, rest)

end Filler

/-- Put filler into a packet.  Bytes past the new length stay as they were. -/
def Packet.write (filler : Filler) (packet : Packet) : Packet where
  len := UInt16.ofNat filler.length
  data := Packet.overlay filler.bytes packet.data

/-- The length of a filler survives in the 16 bits of the packet's length. -/
@[simp]
theorem Packet.toNat_len_write (filler : Filler) (packet : Packet) :
    (packet.write filler).len.toNat = filler.length.val := by
  have bound := filler.length.isLt
  simp only [write]
  exact Nat.mod_eq_of_lt (Nat.lt_trans bound (by decide))

/-- A packet that was written to carries the filler, whatever it held before. -/
@[simp]
theorem Packet.payload_write (filler : Filler) (packet : Packet) :
    (packet.write filler).payload = filler.bytes.toList := by
  have bound := filler.length.isLt
  apply List.ext_getElem
  · simp only [length_payload, toNat_len_write, Vector.length_toList]
    omega
  · intro index left right
    have inside : index < filler.length.val := by
      simpa using right
    simp [payload, write, inside]

/-- Put fillers into the first slots, one each, and keep all else. -/
def Batch.write (fillers : List Filler) (batch : Batch) : Batch :=
  { batch with
    slots := Vector.ofFn fun slot =>
      match fillers[slot.val]? with
      | some filler => batch.slots[slot].write filler
      | none => batch.slots[slot] }

/-- A slot with a filler is overwritten and every other slot is kept. -/
theorem Batch.getElem_slots_write (fillers : List Filler) (batch : Batch)
    (slot : Nat) (bound : slot < batchCapacity) :
    (batch.write fillers).slots[slot] =
      match fillers[slot]? with
      | some filler => batch.slots[slot].write filler
      | none => batch.slots[slot] := by
  simp [write]

/-- Fill a packet from a source, unless no length can be drawn. -/
def Packet.refill {σ : Type} [Source σ] (packet : Packet) (source : σ) :
    Except Fault Packet × σ :=
  match Filler.draw source with
  | (none, rest) => (.error .exhausted, rest)
  | (some filler, rest) => (.ok (packet.write filler), rest)

end PacketFeed
