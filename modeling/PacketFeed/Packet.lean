/-!
# Packets

A packet is a fixed-size byte buffer tagged with the number of bytes in use.
The tag is plain data: a caller may set it to any 16-bit value, so the payload
is the part of the buffer that the tag covers, never more than the buffer.
-/

namespace PacketFeed

/-- The number of bytes in the buffer of a packet. -/
abbrev packetCapacity : Nat := 1500

/-- A byte buffer together with the length of its used part. -/
structure Packet where
  len : UInt16
  data : Vector UInt8 packetCapacity
deriving DecidableEq

namespace Packet

/-- The packet with length zero and a buffer of zeros. -/
def zero : Packet where
  len := 0
  data := Vector.replicate packetCapacity 0

instance : Inhabited Packet := ⟨zero⟩

/-- The used bytes: as many as `len` says, and at most the whole buffer. -/
def payload (packet : Packet) : List UInt8 :=
  packet.data.toList.take packet.len.toNat

theorem length_payload (packet : Packet) :
    packet.payload.length = min packet.len.toNat packetCapacity := by
  simp [payload]

/-- Write `bytes` over the buffer from its start and keep the rest. -/
def overlay {count : Nat} (bytes : Vector UInt8 count)
    (data : Vector UInt8 packetCapacity) :
    Vector UInt8 packetCapacity :=
  Vector.ofFn fun index =>
    if inside : index.val < count then bytes[index.val] else data[index.val]

@[simp]
theorem getElem_overlay {count : Nat} (bytes : Vector UInt8 count)
    (data : Vector UInt8 packetCapacity)
    (index : Nat) (bound : index < packetCapacity) :
    (overlay bytes data)[index] =
      if inside : index < count then bytes[index] else data[index] := by
  simp [overlay]

/-- Reset the length and every byte of the buffer to zero. -/
def wipe (packet : Packet) : Packet where
  len := 0
  data := packet.data.map fun _ => 0

@[simp]
theorem wipe_eq_zero (packet : Packet) : packet.wipe = zero := by
  simp only [wipe, zero, mk.injEq, true_and]
  apply Vector.ext
  intro index inside
  simp

end Packet

end PacketFeed
