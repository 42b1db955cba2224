import PacketFeed.Boundary
import PacketFeed.Proofs.Fetch

/-!
# Calls across the boundary

What one call does, said once for each call, and how runs of calls are put
together.  A fetch has three endings: it is rejected and changes nothing, it
fills a buffer and replaces one context, or it ends the process and changes
nothing.  A run goes on for as long as no reply ends the process.
-/

namespace PacketFeed

/-- The first counter of the context that a call creates, if it creates one. -/
def Call.initial? : Call → Option UInt8
  | .createLegacy true => some legacyInitial
  | .create initial true => some initial
  | _ => none

/-- Only the call that takes a counter creates a context with a large one. -/
theorem Call.eq_create_of_oversized {call : Call} {first : UInt8}
    (created : call.initial? = some first)
    (oversized : batchCapacity < first.toNat) :
    call = .create first true := by
  unfold initial? at created
  split at created
  · cases created
    exact absurd oversized (by decide)
  · cases created
    rfl
  · cases created

/-- Whether a call fetches, into some buffer, from the context of a handle. -/
def Call.fetchesFrom (handle : Handle) : Call → Bool
  | .fetch (some context) (some _) => context == handle
  | _ => false

theorem Call.fetchesFrom_iff {handle : Handle} {call : Call} :
    call.fetchesFrom handle = true ↔
      ∃ name, call = .fetch (some handle) (some name) := by
  constructor
  · intro fetches
    unfold fetchesFrom at fetches
    split at fetches
    · rename_i context name
      exact ⟨name, by rw [beq_iff_eq.mp fetches]⟩
    · cases fetches
  · rintro ⟨name, rfl⟩
    exact beq_self_eq_true handle

namespace Boundary

/-! ## Contexts and buffers -/

theorem context?_some (boundary : Boundary) (handle : Handle) :
    boundary.context? (some handle) = boundary.contexts[handle]?.join := by
  show boundary.contexts[handle]?.bind (fun entry => entry) = _
  cases boundary.contexts[handle]? <;> rfl

theorem lt_of_context? {boundary : Boundary} {handle : Handle}
    {generator : Generator Keystream}
    (live : boundary.context? (some handle) = some generator) :
    handle < boundary.contexts.length := by
  rcases Nat.lt_or_ge handle boundary.contexts.length with known | beyond
  · exact known
  · rw [context?_some, List.getElem?_eq_none beyond] at live
    cases live

theorem context?_setContext (boundary : Boundary) (handle other : Handle)
    (entry : Option (Generator Keystream))
    (known : handle < boundary.contexts.length) :
    (boundary.setContext handle entry).context? (some other) =
      if other = handle then entry else boundary.context? (some other) := by
  rw [context?_some, context?_some, setContext, List.getElem?_set]
  by_cases same : handle = other
  · subst same
    simp [known]
  · rw [if_neg same, if_neg (Ne.symm same)]

@[simp]
theorem context?_setBuffer (boundary : Boundary) (name : BufferName)
    (batch : Batch) (context : Option Handle) :
    (boundary.setBuffer name batch).context? context =
      boundary.context? context :=
  rfl

theorem context?_create (boundary : Boundary) (initial : UInt8)
    (allocates : Bool) (handle : Handle) :
    (boundary.create initial allocates).2.context? (some handle) =
      if allocates = true ∧ handle = boundary.contexts.length then
        some (Generator.ofInitial initial)
      else
        boundary.context? (some handle) := by
  cases allocates with
  | false => rfl
  | true =>
      rw [context?_some, context?_some]
      simp only [create, if_true, true_and]
      by_cases fresh : handle = boundary.contexts.length
      · rw [if_pos fresh, fresh, List.getElem?_concat_length]
        rfl
      · rw [if_neg fresh]
        rcases Nat.lt_or_ge handle boundary.contexts.length with
          known | beyond
        · rw [List.getElem?_append_left known]
        · have outside : boundary.contexts.length + 1 ≤ handle :=
            Nat.lt_of_le_of_ne beyond (Ne.symm fresh)
          rw [List.getElem?_eq_none beyond,
            List.getElem?_eq_none (by simpa using outside)]

/-! ## The endings of a fetch -/

theorem fetch_of_null (boundary : Boundary) {context : Option Handle}
    {buffer : Option BufferName}
    (null : boundary.context? context = none ∨ buffer = none) :
    boundary.fetch context buffer =
      (⟨.status .invalidHandle, [.fetchRejected]⟩, boundary) := by
  rcases null with dead | rfl
  · simp only [fetch, dead]
  · cases context with
    | none => rfl
    | some handle =>
        simp only [fetch]
        cases boundary.context? (some handle) <;> rfl

theorem fetch_of_ready {boundary : Boundary} {handle : Handle}
    {generator : Generator Keystream}
    (live : boundary.context? (some handle) = some generator)
    (ready : generator.Ready) (name : BufferName) :
    boundary.fetch (some handle) (some name) =
      (⟨.status .success,
          [.fetched generator.pending
            (Generator.advance generator.pending)]⟩,
        (boundary.setContext handle
            (some
              (generator.fetch (boundary.buffers.get name)).generator)).setBuffer
          name (generator.fetch (boundary.buffers.get name)).batch) := by
  simp only [fetch, live, Generator.fetch_of_ready ready]

theorem fetch_of_fault {boundary : Boundary} {handle : Handle}
    {generator : Generator Keystream}
    (live : boundary.context? (some handle) = some generator)
    {name : BufferName} {fault : Fault}
    (fails :
      (generator.fetch (boundary.buffers.get name)).outcome = .error fault) :
    boundary.fetch (some handle) (some name) =
      (⟨.aborted fault,
          (generator.fetch (boundary.buffers.get name)).events⟩,
        boundary) := by
  simp only [fetch, live, fails]

/-- A fetch is rejected, or it reaches a generator, which succeeds or fails. -/
theorem fetch_cases (boundary : Boundary) (context : Option Handle)
    (buffer : Option BufferName) :
    (boundary.context? context = none ∨ buffer = none) ∨
      ∃ handle name generator,
        context = some handle ∧ buffer = some name ∧
          boundary.context? (some handle) = some generator ∧
          (generator.Ready ∨
            ∃ fault,
              (generator.fetch (boundary.buffers.get name)).outcome =
                .error fault) := by
  cases buffer with
  | none => exact Or.inl (Or.inr rfl)
  | some name =>
      cases live : boundary.context? context with
      | none => exact Or.inl (Or.inl rfl)
      | some generator =>
          cases context with
          | none => cases live
          | some handle =>
              refine Or.inr ⟨handle, name, generator, rfl, rfl, live, ?_⟩
              cases outcome :
                  (generator.fetch (boundary.buffers.get name)).outcome with
              | error fault => exact Or.inr ⟨fault, rfl⟩
              | ok status => exact Or.inl (Generator.ready_of_outcome outcome)

/-- A fetch that succeeds replaces its own context and no other. -/
theorem context?_fetch_of_ready {boundary : Boundary} {handle : Handle}
    {generator : Generator Keystream}
    (live : boundary.context? (some handle) = some generator)
    (ready : generator.Ready) (name : BufferName) (other : Handle) :
    (boundary.fetch (some handle) (some name)).2.context? (some other) =
      if other = handle then
        some (generator.fetch (boundary.buffers.get name)).generator
      else
        boundary.context? (some other) := by
  rw [fetch_of_ready live ready, context?_setBuffer,
    context?_setContext _ _ _ _ (lt_of_context? live)]

/-! ## Deletions -/

theorem answer_delete (boundary : Boundary) (context : Option Handle) :
    (boundary.delete context).1.answer = .done := by
  simp only [delete]
  split <;> rfl

/-- After a deletion the context is gone, whether it lived before or not. -/
theorem context?_delete (boundary : Boundary) (context : Option Handle)
    (handle : Handle) :
    (boundary.delete context).2.context? (some handle) =
      if context = some handle then none
      else boundary.context? (some handle) := by
  simp only [delete]
  split
  · rename_i deleted generator live
    rw [context?_setContext _ _ _ _ (lt_of_context? live)]
    simp only [Option.some.injEq, eq_comm]
  · rename_i absent
    split
    · rename_i same
      cases live : boundary.context? (some handle) with
      | none => rfl
      | some generator =>
          rw [← same] at live
          exact absurd live (absent handle generator same)
    · rfl

/-! ## Runs -/

/-- No reply to `calls` ends the process. -/
def Survives (boundary : Boundary) (calls : List Call) : Prop :=
  ∀ reply ∈ (boundary.run calls).1, reply.isAbort = false

@[simp]
theorem survives_nil (boundary : Boundary) : boundary.Survives [] := by
  intro reply member
  cases member

theorem run_cons_of_abort {boundary : Boundary} {call : Call}
    (abort : (boundary.step call).1.isAbort = true) (calls : List Call) :
    boundary.run (call :: calls) =
      ([(boundary.step call).1], (boundary.step call).2) := by
  simp only [run, abort, if_true]

theorem run_cons_of_answer {boundary : Boundary} {call : Call}
    (answer : (boundary.step call).1.isAbort = false) (calls : List Call) :
    boundary.run (call :: calls) =
      ((boundary.step call).1 :: ((boundary.step call).2.run calls).1,
        ((boundary.step call).2.run calls).2) := by
  simp only [run, answer, Bool.false_eq_true, if_false]

theorem survives_cons_iff {boundary : Boundary} {call : Call}
    {calls : List Call} :
    boundary.Survives (call :: calls) ↔
      (boundary.step call).1.isAbort = false ∧
        (boundary.step call).2.Survives calls := by
  cases abort : (boundary.step call).1.isAbort with
  | true =>
      constructor
      · intro survives
        rw [Survives, run_cons_of_abort abort] at survives
        exact absurd (survives _ (List.mem_singleton.mpr rfl)) (by simp [abort])
      · rintro ⟨impossible, -⟩
        cases impossible
  | false =>
      rw [Survives, run_cons_of_answer abort]
      simp only [List.mem_cons, forall_eq_or_imp, abort, true_and]
      rfl

theorem run_append {boundary : Boundary} {calls : List Call}
    (survives : boundary.Survives calls) (others : List Call) :
    boundary.run (calls ++ others) =
      ((boundary.run calls).1 ++ ((boundary.run calls).2.run others).1,
        ((boundary.run calls).2.run others).2) := by
  induction calls generalizing boundary with
  | nil => rfl
  | cons call calls induction =>
      rcases survives_cons_iff.mp survives with ⟨answer, later⟩
      rw [List.cons_append, run_cons_of_answer answer,
        run_cons_of_answer answer, induction later, List.cons_append]

theorem survives_append_iff {boundary : Boundary} {calls others : List Call} :
    boundary.Survives (calls ++ others) ↔
      boundary.Survives calls ∧ (boundary.run calls).2.Survives others := by
  induction calls generalizing boundary with
  | nil => simp [run]
  | cons call calls induction =>
      rw [List.cons_append, survives_cons_iff, survives_cons_iff]
      constructor
      · rintro ⟨answer, later⟩
        rw [run_cons_of_answer answer]
        exact ⟨⟨answer, (induction.mp later).1⟩, (induction.mp later).2⟩
      · rintro ⟨⟨answer, later⟩, rest⟩
        rw [run_cons_of_answer answer] at rest
        exact ⟨answer, induction.mpr ⟨later, rest⟩⟩

theorem survives_singleton_iff {boundary : Boundary} {call : Call} :
    boundary.Survives [call] ↔ (boundary.step call).1.isAbort = false := by
  rw [survives_cons_iff]
  exact and_iff_left (survives_nil _)

theorem run_concat_of_survives {boundary : Boundary} {calls : List Call}
    {call : Call} (survives : boundary.Survives (calls ++ [call])) :
    boundary.run (calls ++ [call]) =
      ((boundary.run calls).1 ++ [((boundary.run calls).2.step call).1],
        ((boundary.run calls).2.step call).2) := by
  rcases survives_append_iff.mp survives with ⟨earlier, last⟩
  rw [run_append earlier, run_cons_of_answer (survives_singleton_iff.mp last)]
  rfl

/--
The reply at a position is that of the call there, made after all calls before
it; there is none if the process ended before.
-/
theorem getElem?_run_eq_some_iff {boundary : Boundary} {calls : List Call}
    {position : Nat} {reply : Reply} :
    (boundary.run calls).1[position]? = some reply ↔
      boundary.Survives (calls.take position) ∧
        ∃ call, calls[position]? = some call ∧
          ((boundary.run (calls.take position)).2.step call).1 = reply := by
  induction calls generalizing boundary position with
  | nil => simp [run]
  | cons call calls induction =>
      cases position with
      | zero =>
          have head :
              (boundary.run (call :: calls)).1[0]? =
                some (boundary.step call).1 := by
            cases abort : (boundary.step call).1.isAbort with
            | true => rw [run_cons_of_abort abort]; rfl
            | false => rw [run_cons_of_answer abort]; rfl
          rw [head]
          simp [run]
      | succ position =>
          rw [List.take_succ_cons, List.getElem?_cons_succ, survives_cons_iff]
          cases abort : (boundary.step call).1.isAbort with
          | true =>
              rw [run_cons_of_abort abort]
              simp
          | false =>
              rw [run_cons_of_answer abort, run_cons_of_answer abort,
                List.getElem?_cons_succ, induction]
              simp

end Boundary

end PacketFeed
