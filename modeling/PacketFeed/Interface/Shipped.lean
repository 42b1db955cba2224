import PacketFeed.Batch
import PacketFeed.Interface.Basic

/-!
# The shipped tables

The description of the packet boundary as it stands.  Rows of the function
table are only ever added at its end.
-/

namespace PacketFeed.Interface

/-- The tables of the packet boundary. -/
def shipped : Tables where
  constants :=
    [("PKTGEN_BATCH_CAPACITY", UInt64.ofNat batchCapacity),
      ("PKTGEN_PACKET_CAPACITY", UInt64.ofNat packetCapacity)]
  statuses :=
    [("PKTGEN_SUCCESS", .success), ("PKTGEN_INVALID_HANDLE", .invalidHandle)]
  handles := ["pktgen_ctx"]
  records :=
    [{ name := "pktgen_packet"
       fields :=
        [{ name := "len", type := .u16 },
          { name := "data", type := .u8
            length := some "PKTGEN_PACKET_CAPACITY" }] },
      { name := "pktgen_batch"
        fields :=
          [{ name := "count", type := .u8 },
            { name := "packets", type := .record "pktgen_packet"
              length := some "PKTGEN_BATCH_CAPACITY" }] }]
  functions :=
    [{ name := "pktgen_new", version := 1
       result := .pointer "pktgen_ctx"
       arguments := [] },
      { name := "pktgen_new", version := 2
        result := .pointer "pktgen_ctx"
        arguments := [{ name := "n", type := .u8 }] },
      { name := "pktgen_fetch_batch", version := 1
        result := .u64
        arguments :=
          [{ name := "ctx", type := .pointer "pktgen_ctx" },
            { name := "batch", type := .pointer "pktgen_batch" }] },
      { name := "pktgen_delete", version := 1
        result := .void
        arguments := [{ name := "ctx", type := .pointer "pktgen_ctx" }] }]

end PacketFeed.Interface
