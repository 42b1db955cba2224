import PacketFeed.Batch

/-!
# Faults

Why packets could not be produced.  A fault is no error value that callers of
the boundary could handle: there it ends the process.
-/

namespace PacketFeed

/-- Why packets could not be produced. -/
inductive Fault where
  /-- More packets were due than a batch has slots. -/
  | overCapacity (size : UInt8)
  /-- The source has no acceptable word left. -/
  | exhausted
deriving DecidableEq, Repr

/-- The sentence that explains a fault. -/
def Fault.message : Fault → String
  | .overCapacity size =>
      "batch size " ++ toString size ++ " exceeds capacity " ++
        toString batchCapacity
  | .exhausted => "script exhausted"

end PacketFeed
