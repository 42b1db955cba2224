import PacketFeed.Boundary
import PacketFeed.Command.Options
import PacketFeed.Interface.Bindings
import PacketFeed.Interface.Shipped

/-!
# Sessions

A session creates one context, fetches batches into one buffer, prints a line
for each batch, and deletes the context.  What it prints and logs, and how it
ends, is one value, its transcript.
-/

namespace PacketFeed.Command

/-- What a session was doing when a call failed. -/
inductive Attempt where
  /-- It was creating its context. -/
  | creation
  /-- It was fetching the batch with the given number. -/
  | fetch (index : UInt64)
deriving DecidableEq, Repr

/-- The sentence that tells which attempt failed. -/
def Attempt.failure : Attempt → String
  | .creation => "failed to create context"
  | .fetch index => "fetch of batch " ++ toString index ++ " failed"

/-- How a run ends. -/
inductive Ending where
  /-- All was done, or an interrupt was obeyed. -/
  | finished
  /-- The arguments made no sense. -/
  | misused (error : UsageError)
  /-- The boundary answered an attempt with an error. -/
  | failed (attempt : Attempt) (error : CallError)
  /-- A fault ended the process. -/
  | aborted (fault : Fault)
  /-- The run goes on. -/
  | unfinished
deriving DecidableEq, Repr

namespace Ending

/-- The code with which the process exits, unless a signal ends it. -/
def exitCode? : Ending → Option Nat
  | .finished => some 0
  | .misused _ => some 2
  | .failed .. => some 1
  | .aborted _ | .unfinished => none

/-- The signal that ends the process, if one does. -/
def signal? : Ending → Option Nat
  | .aborted _ => some 6
  | _ => none

end Ending

/-- Everything that can be seen of a run. -/
structure Transcript where
  /-- The printed lines, each with its end. -/
  output : List String
  events : List Log.Event
  ending : Ending
deriving DecidableEq, Repr

/-- What a run depends on besides its options. -/
structure Circumstances where
  /-- Whether what is printed is styled for a terminal. -/
  coloured : Bool := false
  /-- The setting that says what the log shows. -/
  log : Option String := none
  /-- The number of batches after which an interrupt is noticed. -/
  interrupt : Option Nat := none
  /-- Whether there is memory for a context. -/
  allocates : Bool := true
  /-- The address of the context, as the log spells it. -/
  address : String := Log.placeholder
deriving DecidableEq, Repr

/-! ## Lines -/

/-- The word that starts the line of a batch, green if coloured. -/
def batchWord (coloured : Bool) : String :=
  Text.styledIf coloured [32] "batch"

/-- The word that starts the line of a packet, cyan if coloured. -/
def packetWord (coloured : Bool) : String :=
  Text.styledIf coloured [36] "pkt"

/-- The line of a batch. -/
def batchLine (coloured : Bool) (index : UInt64) (batch : Batch) : String :=
  batchWord coloured ++ " " ++ toString index ++ ": " ++
    toString batch.count ++ " packets, " ++
    toString batch.payloadBytes ++ " bytes\n"

/-- The line of a packet. -/
def packetLine (coloured : Bool) (index : Nat) (packet : Packet) : String :=
  "  " ++ packetWord coloured ++ " " ++ toString index ++ ": len " ++
    toString packet.len ++ "\n"

/-- The lines of the packets of a batch. -/
def packetLines (coloured : Bool) (batch : Batch) : List String :=
  batch.packets.mapIdx (packetLine coloured)

/-- The lines of a batch and, if wanted, of its packets. -/
def batchLines (options : Options) (coloured : Bool) (index : UInt64)
    (batch : Batch) : List String :=
  batchLine coloured index batch ::
    if options.dump then packetLines coloured batch else []

/-! ## Steps of a session -/

/-- An open session: the boundary that it uses and its handle there. -/
structure Session where
  boundary : Boundary
  handle : Handle

namespace Session

/-- The only buffer of a session. -/
def buffer : BufferName := 0

/-- What the session holds in its buffer. -/
def batch (session : Session) : Batch :=
  session.boundary.buffers.get buffer

/-- The call that creates the context which the options ask for. -/
def opening (options : Options) (allocates : Bool) : Call :=
  match options.initial with
  | some initial => .create initial allocates
  | none => .createLegacy allocates

/-- Create the context. -/
def create (options : Options) (allocates : Bool) :
    List Log.Event × Except CallError Session :=
  let (reply, boundary) := Boundary.initial.step (opening options allocates)
  match reply.answer with
  | .handle (some handle) => (reply.events, .ok ⟨boundary, handle⟩)
  | _ => (reply.events, .error .allocFailure)

/-- Why a fetch gave no batch. -/
inductive Setback where
  /-- The boundary answered with an error. -/
  | rejected (error : CallError)
  /-- A fault ended the process. -/
  | fatal (fault : Fault)
deriving DecidableEq, Repr

/-- Fetch the next batch into the buffer. -/
def fetch (session : Session) :
    List Log.Event × Except Setback Session :=
  let (reply, boundary) :=
    session.boundary.step (.fetch (some session.handle) (some buffer))
  match reply.answer with
  | .aborted fault => (reply.events, .error (.fatal fault))
  | .status status =>
      match Status.check status.code with
      | .ok () => (reply.events, .ok { session with boundary })
      | .error error => (reply.events, .error (.rejected error))
  | _ => (reply.events, .ok { session with boundary })

/-- Delete the context. -/
def close (session : Session) : List Log.Event :=
  (session.boundary.step (.delete (some session.handle))).1.events

/--
What is still logged after a setback at batch number `index`, and how the run
ends.  A process that goes on deletes the context first.
-/
def abandon (session : Session) (index : UInt64) :
    Setback → List Log.Event × Ending
  | .rejected error => (session.close, .failed (.fetch index) error)
  | .fatal fault => ([], .aborted fault)

/-- What a number of rounds printed and logged, and where they led. -/
structure Rounds where
  output : List String
  events : List Log.Event
  result : Except Ending Session

/-- Fetch and print up to `count` batches, the first of them number `index`. -/
def rounds (options : Options) (coloured : Bool) (session : Session)
    (index : UInt64) : (count : Nat) → Rounds
  | 0 => ⟨[], [], .ok session⟩
  | count + 1 =>
      match session.fetch with
      | (events, .error setback) =>
          let (parting, ending) := session.abandon index setback
          ⟨[], events ++ parting, .error ending⟩
      | (events, .ok session) =>
          let rest := rounds options coloured session (index + 1) count
          { rest with
            output :=
              batchLines options coloured index session.batch ++ rest.output
            events := events ++ rest.events }

/-- The warning that the first fetch will fail. -/
def warning (options : Options) : List Log.Event :=
  match options.initial with
  | some initial =>
      if initial.toNat > batchCapacity then
        [.initialTooLarge initial batchCapacity]
      else
        []
  | none => []

/-- The announcement of what is going to be fetched. -/
def announcement (options : Options) : Log.Event :=
  if options.batches = 0 then .fetchingEndlessly
  else .fetchingBatches options.batches

/--
How many rounds to follow.  An endless session that nobody interrupts is
followed through its first round: a context that has passed one fetch passes
all later ones.
-/
def roundCount (options : Options) (interrupt : Option Nat) : Nat :=
  let batches := options.batches.toNat
  if batches = 0 then interrupt.getD 1
  else min batches (interrupt.getD batches)

/-- Whether an interrupt comes before the last batch. -/
def isInterrupted (options : Options) (interrupt : Option Nat) : Bool :=
  match interrupt with
  | some rounds =>
      options.batches = 0 || rounds < options.batches.toNat
  | none => false

/-- What is logged, and how the run ends, after the last round. -/
def conclusion (options : Options) (interrupt : Option Nat)
    (session : Session) : List Log.Event × Ending :=
  if isInterrupted options interrupt then
    (.interrupted :: session.close, .finished)
  else if options.batches = 0 then
    ([], .unfinished)
  else
    (session.close, .finished)

/-- A whole session. -/
def transcript (options : Options) (circumstances : Circumstances) :
    Transcript :=
  let before := warning options
  match create options circumstances.allocates with
  | (created, .error error) =>
      ⟨[], before ++ created, .failed .creation error⟩
  | (created, .ok session) =>
      let opened := before ++ created ++ [announcement options]
      let fetched := rounds options circumstances.coloured session 0
        (roundCount options circumstances.interrupt)
      match fetched.result with
      | .error ending =>
          ⟨fetched.output, opened ++ fetched.events, ending⟩
      | .ok session =>
          let (closed, ending) :=
            conclusion options circumstances.interrupt session
          ⟨fetched.output, opened ++ fetched.events ++ closed, ending⟩

end Session

end PacketFeed.Command
