/-!
# Log

Everything the program can report while it runs, as events, and the records
that events become: a level, the part of the program that speaks, and a
message.  Addresses differ from run to run, so records show a placeholder in
their place.
-/

namespace PacketFeed.Log

/-- Severity, from the most to the least urgent. -/
inductive Level where
  | error
  | warn
  | info
  | debug
  | trace
deriving DecidableEq, Repr

namespace Level

/-- The position in the order of urgency, the most urgent first. -/
def rank : Level → Nat
  | .error => 1
  | .warn => 2
  | .info => 3
  | .debug => 4
  | .trace => 5

/-- The name in a record. -/
def name : Level → String
  | .error => "ERROR"
  | .warn => "WARN"
  | .info => "INFO"
  | .debug => "DEBUG"
  | .trace => "TRACE"

end Level

/-- The identity of a context, as far as the log is concerned. -/
abbrev ContextId := Nat

/-- What can be reported. -/
inductive Event where
  /-- A batch of `size` packets was fetched and `next` is the next size. -/
  | fetched (size next : UInt8)
  /-- A context was created. -/
  | created (context : ContextId) (initial : UInt8)
  /-- A context is about to be deleted. -/
  | deleting (context : ContextId)
  /-- There was no memory for a context. -/
  | allocationFailed
  /-- A fetch was given no context or no batch. -/
  | fetchRejected
  /-- A session was asked for a first batch that no batch can hold. -/
  | initialTooLarge (initial : UInt8) (capacity : Nat)
  /-- A session starts to fetch a number of batches. -/
  | fetchingBatches (batches : UInt64)
  /-- A session starts to fetch for as long as it is not interrupted. -/
  | fetchingEndlessly
  /-- A session was interrupted. -/
  | interrupted
deriving DecidableEq, Repr

/-- What records show in the place of an address. -/
def placeholder : String := "0xPTR"

namespace Event

/-- How urgent an event is. -/
def level : Event → Level
  | .fetched .. => .trace
  | .created .. | .deleting _ => .debug
  | .fetchingBatches _ | .fetchingEndlessly => .info
  | .allocationFailed | .fetchRejected => .warn
  | .initialTooLarge .. | .interrupted => .warn

/-- The part of the program that reports an event. -/
def target : Event → String
  | .fetched .. => "pktgen_gen"
  | .created .. | .deleting _ | .allocationFailed | .fetchRejected => "pktgen"
  | .initialTooLarge .. | .fetchingBatches _ | .fetchingEndlessly
  | .interrupted => "pktgen_driver"

/-- The text of an event, where `address` stands for that of its context. -/
def messageWith (address : String) : Event → String
  | .fetched size next =>
      "fetched " ++ toString size ++ " packets, next batch " ++ toString next
  | .created _ initial =>
      "created context " ++ address ++
        " (initial " ++ toString initial ++ ")"
  | .deleting _ => "deleting context " ++ address
  | .allocationFailed => "context allocation failed"
  | .fetchRejected => "fetch_batch called with null context or batch"
  | .initialTooLarge initial capacity =>
      "initial " ++ toString initial ++ " exceeds batch capacity " ++
        toString capacity ++ "; the first fetch will abort"
  | .fetchingBatches batches => "Fetching " ++ toString batches ++ " batches"
  | .fetchingEndlessly => "Fetching batches until interrupted"
  | .interrupted => "Signal received. Stopping..."

/-- The text of an event with the placeholder for addresses. -/
def message (event : Event) : String :=
  event.messageWith placeholder

end Event

end PacketFeed.Log
