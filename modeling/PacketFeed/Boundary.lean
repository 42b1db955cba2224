import PacketFeed.Generator

/-!
# The process boundary

Callers reach generators through four calls.  They hold handles to contexts,
each context being one generator, and own the batches that fetches fill.  A
process is the state on both sides: the contexts by handle and the callers'
buffers by name.  Between calls, callers may store anything in their buffers.

A fetch with a null handle is rejected, and the null handle is `none`.  A handle
that was never given out, or whose context has been deleted, must not be used:
nothing checks for one, and what a call with it does is undefined.  Here such a
handle finds no generator and is answered like the null handle, so that every
call has an answer; this is a choice of the model and no promise to callers.
A generator fault ends the process.
-/

namespace PacketFeed

/-- A handle is the number of contexts created before it. -/
abbrev Handle := Log.ContextId

/-- The name by which a caller refers to one of its batches. -/
abbrev BufferName := Nat

/-- The contents of the buffers that have been written to. -/
structure Buffers where
  entries : List (BufferName × Batch)

namespace Buffers

/-- All buffers are zero. -/
def zero : Buffers where
  entries := []

/-- The contents of a buffer; one that was never written to is zero. -/
def get (buffers : Buffers) (name : BufferName) : Batch :=
  (buffers.entries.lookup name).getD Batch.zero

/-- Replace the contents of a buffer. -/
def set (buffers : Buffers) (name : BufferName) (batch : Batch) : Buffers where
  entries :=
    (name, batch) :: buffers.entries.filter fun entry => entry.1 != name

private theorem lookup_filter_ne (name other : BufferName)
    (entries : List (BufferName × Batch)) (different : other ≠ name) :
    (entries.filter fun entry => entry.1 != name).lookup other =
      entries.lookup other := by
  induction entries with
  | nil => rfl
  | cons entry rest inductionHypothesis =>
      obtain ⟨key, batch⟩ := entry
      by_cases removed : key = name
      · have absent : (other == name) = false := by
          simp [different]
        simp [removed, List.lookup_cons, absent, inductionHypothesis]
      · simp only [List.filter_cons, bne_iff_ne, ne_eq, removed,
          not_false_eq_true, if_true, List.lookup_cons,
          inductionHypothesis]

/-- A buffer holds what was last written to it. -/
theorem get_set (buffers : Buffers) (name other : BufferName) (batch : Batch) :
    (buffers.set name batch).get other =
      if other = name then batch else buffers.get other := by
  by_cases same : other = name
  · simp [get, set, same]
  · have absent : (other == name) = false := by
      simp [same]
    simp [get, set, same, List.lookup_cons, absent,
      lookup_filter_ne name other buffers.entries same]

end Buffers

/-- The contexts and the buffers of a running process. -/
structure Boundary where
  /-- The generator behind each handle ever given out, while it lives. -/
  contexts : List (Option (Generator Keystream))
  /-- The contents of each buffer. -/
  buffers : Buffers

namespace Boundary

/-- No context has been created and all buffers are zero. -/
def initial : Boundary where
  contexts := []
  buffers := Buffers.zero

/-- The generator of a live context; no other handle has one. -/
def context? (boundary : Boundary) (handle : Option Handle) :
    Option (Generator Keystream) := do
  let handle ← handle
  let entry ← boundary.contexts[handle]?
  entry

/-- Replace the entry of a handle. -/
def setContext (boundary : Boundary) (handle : Handle)
    (entry : Option (Generator Keystream)) : Boundary :=
  { boundary with contexts := boundary.contexts.set handle entry }

/-- Store `batch` in a buffer. -/
def setBuffer (boundary : Boundary) (name : BufferName) (batch : Batch) :
    Boundary :=
  { boundary with buffers := boundary.buffers.set name batch }

end Boundary

/-! ## Calls and replies -/

/-- What callers can do. -/
inductive Call where
  /-- Create a context with the usual first counter. -/
  | createLegacy (allocates : Bool)
  /-- Create a context with a given first counter. -/
  | create (initial : UInt8) (allocates : Bool)
  /-- Fetch a batch into a buffer. -/
  | fetch (context : Option Handle) (buffer : Option BufferName)
  /-- Delete a context. -/
  | delete (context : Option Handle)
  /-- Write to a buffer without calling anything. -/
  | store (buffer : BufferName) (contents : Batch)

/-- What callers observe. -/
inductive Answer where
  /-- A new handle, or the null handle. -/
  | handle (context : Option Handle)
  /-- The status of a fetch. -/
  | status (status : Status)
  /-- The call has no result. -/
  | done
  /-- The process has ended. -/
  | aborted (fault : Fault)
deriving DecidableEq, Repr

/-- An answer and what was logged on the way to it. -/
structure Reply where
  answer : Answer
  events : List Log.Event
deriving DecidableEq, Repr

/-- Whether the process ended with this reply. -/
def Reply.isAbort (reply : Reply) : Bool :=
  match reply.answer with
  | .aborted _ => true
  | _ => false

namespace Boundary

/-- Create a context.  Whether there is memory for it is up to the system. -/
def create (boundary : Boundary) (initial : UInt8) (allocates : Bool) :
    Reply × Boundary :=
  if allocates then
    let handle := boundary.contexts.length
    (⟨.handle (some handle), [.created handle initial]⟩,
      { boundary with
        contexts :=
          boundary.contexts ++ [some (Generator.ofInitial initial)] })
  else
    (⟨.handle none, [.allocationFailed]⟩, boundary)

/--
Fetch a batch, or reject the call when the context or the batch is null.  The
use of a handle without a live context is undefined; that it is rejected like
the null handle is this model's choice.
-/
def fetch (boundary : Boundary) (context : Option Handle)
    (buffer : Option BufferName) : Reply × Boundary :=
  match context, boundary.context? context, buffer with
  | some handle, some generator, some name =>
      let result := generator.fetch (boundary.buffers.get name)
      match result.outcome with
      | .ok status =>
          (⟨.status status, result.events⟩,
            (boundary.setContext handle (some result.generator)).setBuffer
              name result.batch)
      | .error fault => (⟨.aborted fault, result.events⟩, boundary)
  | _, _, _ => (⟨.status .invalidHandle, [.fetchRejected]⟩, boundary)

/--
Delete a context; nothing happens when the handle is null.  To delete a context
twice, or one that was never created, is undefined; that nothing happens then
either is this model's choice.
-/
def delete (boundary : Boundary) (context : Option Handle) : Reply × Boundary :=
  match context, boundary.context? context with
  | some handle, some _ =>
      (⟨.done, [.deleting handle]⟩, boundary.setContext handle none)
  | _, _ => (⟨.done, []⟩, boundary)

/-- Perform one call. -/
def step (boundary : Boundary) : Call → Reply × Boundary
  | .createLegacy allocates => boundary.create legacyInitial allocates
  | .create initial allocates => boundary.create initial allocates
  | .fetch context buffer => boundary.fetch context buffer
  | .delete context => boundary.delete context
  | .store buffer contents => (⟨.done, []⟩, boundary.setBuffer buffer contents)

/-- Perform calls in order until the process ends. -/
def run (boundary : Boundary) : List Call → List Reply × Boundary
  | [] => ([], boundary)
  | call :: calls =>
      let (reply, next) := boundary.step call
      if reply.isAbort then
        ([reply], next)
      else
        let (replies, last) := next.run calls
        (reply :: replies, last)

end Boundary

end PacketFeed
