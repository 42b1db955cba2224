import PacketFeed.Proofs.Calls

/-!
# Rejected calls

A fetch without a live context or without a batch is rejected, and a deletion
without a live context does nothing.  Neither touches a context or a buffer,
so such calls can be left out of any run: all other calls are performed in the
same states, with the same replies, and leave the same states behind.  This
holds also of the call that ends the process.

For callers that keep to the rules, the only handle without a live context is
the null handle.  That a handle which was deleted, or never given out, is
treated alike is a choice of the model, and what is proved of such handles is
proved of that choice.
-/

namespace PacketFeed

namespace Boundary

/-! ## What is rejected -/

/-- Whether a call lacks a context or a batch that it would need. -/
def rejects (boundary : Boundary) : Call → Bool
  | .fetch context buffer =>
      (boundary.context? context).isNone || buffer.isNone
  | .delete context => (boundary.context? context).isNone
  | _ => false

theorem step_fetch_of_null (boundary : Boundary) {context : Option Handle}
    {buffer : Option BufferName}
    (null : boundary.context? context = none ∨ buffer = none) :
    boundary.step (.fetch context buffer) =
      (⟨.status .invalidHandle, [.fetchRejected]⟩, boundary) :=
  boundary.fetch_of_null null

theorem step_delete_of_null (boundary : Boundary) {context : Option Handle}
    (null : boundary.context? context = none) :
    boundary.step (.delete context) = (⟨.done, []⟩, boundary) := by
  cases context with
  | none => rfl
  | some handle => simp only [step, delete, null]

/-- A rejected call returns and changes nothing. -/
theorem step_of_rejects {boundary : Boundary} {call : Call}
    (rejected : boundary.rejects call = true) :
    (boundary.step call).1.isAbort = false ∧
      (boundary.step call).2 = boundary := by
  cases call with
  | createLegacy allocates => cases rejected
  | create initial allocates => cases rejected
  | fetch context buffer =>
      have null : boundary.context? context = none ∨ buffer = none := by
        simpa [rejects] using rejected
      rw [step_fetch_of_null boundary null]
      exact ⟨rfl, rfl⟩
  | delete context =>
      have null : boundary.context? context = none := by
        simpa [rejects] using rejected
      rw [step_delete_of_null boundary null]
      exact ⟨rfl, rfl⟩
  | store buffer contents => cases rejected

/-! ## Calls as they are performed -/

/-- A call with its reply and the states around it. -/
structure Performed where
  before : Boundary
  call : Call
  reply : Reply
  after : Boundary

/-- Whether a performed call was rejected. -/
def Performed.rejected (entry : Performed) : Bool :=
  entry.before.rejects entry.call

/-- The calls of a run as they are performed, up to the end of the process. -/
def performed (boundary : Boundary) : List Call → List Performed
  | [] => []
  | call :: calls =>
      let (reply, next) := boundary.step call
      ⟨boundary, call, reply, next⟩ ::
        if reply.isAbort then [] else next.performed calls

theorem performed_cons_of_abort {boundary : Boundary} {call : Call}
    (abort : (boundary.step call).1.isAbort = true) (calls : List Call) :
    boundary.performed (call :: calls) =
      [⟨boundary, call, (boundary.step call).1, (boundary.step call).2⟩] := by
  simp only [performed, abort, if_true]

theorem performed_cons_of_answer {boundary : Boundary} {call : Call}
    (answer : (boundary.step call).1.isAbort = false) (calls : List Call) :
    boundary.performed (call :: calls) =
      ⟨boundary, call, (boundary.step call).1, (boundary.step call).2⟩ ::
        (boundary.step call).2.performed calls := by
  simp only [performed, answer, Bool.false_eq_true, if_false]

/-- The calls that are performed have the replies of the run. -/
theorem map_reply_performed (boundary : Boundary) (calls : List Call) :
    (boundary.performed calls).map Performed.reply =
      (boundary.run calls).1 := by
  induction calls generalizing boundary with
  | nil => rfl
  | cons call calls induction =>
      cases abort : (boundary.step call).1.isAbort with
      | true =>
          rw [performed_cons_of_abort abort, run_cons_of_abort abort]
          rfl
      | false =>
          rw [performed_cons_of_answer abort, run_cons_of_answer abort,
            List.map_cons, induction]

/-! ## Leaving them out -/

/-- The calls of a run without those that are rejected when it is their turn. -/
def withoutRejected (boundary : Boundary) : List Call → List Call
  | [] => []
  | call :: calls =>
      if boundary.rejects call then
        boundary.withoutRejected calls
      else
        call :: (boundary.step call).2.withoutRejected calls

/-- All other calls are performed as before, and the run ends in the same state. -/
theorem performed_withoutRejected (boundary : Boundary) (calls : List Call) :
    boundary.performed (boundary.withoutRejected calls) =
        ((boundary.performed calls).filter fun entry => !entry.rejected) ∧
      (boundary.run (boundary.withoutRejected calls)).2 =
        (boundary.run calls).2 := by
  induction calls generalizing boundary with
  | nil => exact ⟨rfl, rfl⟩
  | cons call calls induction =>
      cases rejected : boundary.rejects call with
      | true =>
          -- The state is the same, so the remaining calls start from it.
          rcases step_of_rejects rejected with ⟨answer, unchanged⟩
          rw [withoutRejected, if_pos rejected,
            performed_cons_of_answer answer, run_cons_of_answer answer,
            unchanged,
            List.filter_cons_of_neg (by simp [Performed.rejected, rejected])]
          exact induction boundary
      | false =>
          have kept : ¬ boundary.rejects call = true := by
            simp [rejected]
          rw [withoutRejected, if_neg kept]
          cases abort : (boundary.step call).1.isAbort with
          | true =>
              rw [performed_cons_of_abort abort,
                performed_cons_of_abort abort, run_cons_of_abort abort,
                run_cons_of_abort abort,
                List.filter_cons_of_pos
                  (by simp [Performed.rejected, rejected])]
              exact ⟨rfl, rfl⟩
          | false =>
              rcases induction (boundary.step call).2 with ⟨later, last⟩
              rw [performed_cons_of_answer abort,
                performed_cons_of_answer abort, run_cons_of_answer abort,
                run_cons_of_answer abort,
                List.filter_cons_of_pos
                  (by simp [Performed.rejected, rejected])]
              exact ⟨congrArg (_ :: ·) later, last⟩

/-- The null batch does not use up a context with too large a counter. -/
theorem run_null_then_fetch {boundary : Boundary} {handle : Handle}
    {generator : Generator Keystream}
    (live : boundary.context? (some handle) = some generator)
    (oversized : batchCapacity < generator.pending.toNat)
    (name : BufferName) :
    boundary.run
        [.fetch (some handle) none, .fetch (some handle) (some name)] =
      ([⟨.status .invalidHandle, [.fetchRejected]⟩,
          ⟨.aborted (.overCapacity generator.pending), []⟩],
        boundary) := by
  have rejection :
      boundary.step (.fetch (some handle) none) =
        (⟨.status .invalidHandle, [.fetchRejected]⟩, boundary) :=
    step_fetch_of_null boundary (Or.inr rfl)
  have failure :=
    Generator.fetch_of_oversized oversized (boundary.buffers.get name)
  have abort :
      boundary.step (.fetch (some handle) (some name)) =
        (⟨.aborted (.overCapacity generator.pending), []⟩, boundary) := by
    rw [step, fetch_of_fault live (congrArg Generator.Fetch.outcome failure),
      failure]
  rw [run_cons_of_answer (by rw [rejection]; rfl), rejection,
    run_cons_of_abort (by rw [abort]; rfl), abort]

/--
Rejected calls can be erased.  In every state a fetch without a live context
or without a batch returns the code 1, a deletion without a live context has
no effect at all, and neither changes a context or a buffer.  Left out of a
sequence of calls, they are not missed: the remaining calls are performed in
the same states, with the same answers and log events, and leave the same
states, up to and with the call that ends the process.  A fetch without a
batch from a context with too large a counter returns, and the context ends
the process at its next fetch all the same.
-/
theorem rejected_calls_erasable (boundary : Boundary) (calls : List Call) :
    (∀ context buffer,
        boundary.context? context = none ∨ buffer = none →
        boundary.step (.fetch context buffer) =
            (⟨.status .invalidHandle, [.fetchRejected]⟩, boundary) ∧
          Status.invalidHandle.code = 1) ∧
      (∀ context, boundary.context? context = none →
        boundary.step (.delete context) = (⟨.done, []⟩, boundary)) ∧
      boundary.performed (boundary.withoutRejected calls) =
        ((boundary.performed calls).filter fun entry => !entry.rejected) ∧
      (boundary.run (boundary.withoutRejected calls)).1 =
        ((boundary.performed calls).filter
          fun entry => !entry.rejected).map Performed.reply ∧
      (boundary.run (boundary.withoutRejected calls)).2 =
        (boundary.run calls).2 ∧
      ∀ handle generator name,
        boundary.context? (some handle) = some generator →
        batchCapacity < generator.pending.toNat →
        boundary.run
            [.fetch (some handle) none, .fetch (some handle) (some name)] =
          ([⟨.status .invalidHandle, [.fetchRejected]⟩,
              ⟨.aborted (.overCapacity generator.pending), []⟩],
            boundary) := by
  rcases performed_withoutRejected boundary calls with ⟨same, last⟩
  refine ⟨?_, ?_, same, ?_, last, ?_⟩
  · intro context buffer null
    exact ⟨step_fetch_of_null boundary null, rfl⟩
  · intro context null
    exact step_delete_of_null boundary null
  · rw [← map_reply_performed, same]
  · intro handle generator name live oversized
    exact run_null_then_fetch live oversized name

/--
Null handles and null batches around a context with nine packets due, which
ends the process all the same.
-/
theorem rejected_calls_erasable_nine :
    let calls : List Call :=
      [.createLegacy true, .fetch (some 0) none, .delete (some 0),
        .create 9 true, .fetch none (some 5), .fetch (some 1) none,
        .delete none, .fetch (some 1) (some 5), .fetch none none]
    let remaining : List Call :=
      [.createLegacy true, .delete (some 0), .create 9 true,
        .fetch (some 1) (some 5)]
    (Boundary.initial.performed calls).length = 8 ∧
      (Boundary.initial.run remaining).1 =
        ((Boundary.initial.performed calls).filter
          fun entry => !entry.rejected).map Performed.reply ∧
      (Boundary.initial.run remaining).2 =
        (Boundary.initial.run calls).2 ∧
      ((Boundary.initial.run [.create 9 true]).2.run
          [.fetch (some 0) none, .fetch (some 0) (some 5)]).1 =
        [⟨.status .invalidHandle, [.fetchRejected]⟩,
          ⟨.aborted (.overCapacity 9), []⟩] := by
  intro calls remaining
  have erased : Boundary.initial.withoutRejected calls = remaining := rfl
  rcases rejected_calls_erasable Boundary.initial calls with
    ⟨-, -, -, replies, last, -⟩
  rw [erased] at replies last
  rcases rejected_calls_erasable
      (Boundary.initial.run [.create 9 true]).2 [] with
    ⟨-, -, -, -, -, spared⟩
  refine ⟨rfl, replies, last, ?_⟩
  rw [spared 0 (Generator.ofInitial 9) 5 rfl (by decide)]
  rfl

end Boundary

end PacketFeed
