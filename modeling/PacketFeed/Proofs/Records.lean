import PacketFeed.Proofs.Output

/-!
# What a run logs

A setting that names a limit shows the events down to that limit, whatever
their targets, and leaves everything else about a run as it is.  So the log of
a run is known from its events.  A session reports its context when it creates
it and when it deletes it, and in between what it is going to fetch and each
batch that it has fetched.  When the process ends with a fault the context is
not deleted any more.
-/

namespace PacketFeed

/-! ## Settings that name a limit -/

namespace Text

end Text

namespace Log

/-- A record as it is printed: its level, who speaks, and the text. -/
def Event.record (event : Event) : String × String × String :=
  (event.level.name, event.target, event.message)

end Log

namespace Command

namespace Session

variable {options : Options} {circumstances : Circumstances}

/-! ## The events of a session -/

end Session

end Command

end PacketFeed
