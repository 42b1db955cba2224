import Mathlib.Data.List.Induction
import PacketFeed.Proofs.Calls

/-!
# Lifetimes of contexts

A context lives from the call that returns its handle to the call that deletes
it.  While it lives, its own fetches advance it and nothing else does: not the
calls on other contexts, not rejected calls or failed creations, not what
callers write to their buffers.  So the generator behind a handle is known
from the counter with which it was created and the number of fetches since.
-/

namespace PacketFeed

namespace Boundary

/-! ## One call, seen from one context -/

theorem create_of_issued {boundary : Boundary} {first : UInt8}
    {allocates : Bool} {handle : Handle}
    (issued :
      (boundary.create first allocates).1.answer = .handle (some handle)) :
    allocates = true ∧
      (boundary.create first allocates).2.context? (some handle) =
        some (Generator.ofInitial first) := by
  cases allocates with
  | false => cases issued
  | true =>
      cases issued
      rw [context?_create, if_pos ⟨rfl, rfl⟩]
      exact ⟨rfl, rfl⟩

theorem fetch_not_issued (boundary : Boundary) (context : Option Handle)
    (buffer : Option BufferName) (handle : Option Handle) :
    (boundary.fetch context buffer).1.answer ≠ .handle handle := by
  rcases boundary.fetch_cases context buffer with
    null | ⟨other, name, generator, rfl, rfl, live, ready | ⟨fault, fails⟩⟩
  · rw [boundary.fetch_of_null null]
    simp
  · rw [fetch_of_ready live ready]
    simp
  · rw [fetch_of_fault live fails]
    simp

/-- A call that returns a handle has created the context behind it. -/
theorem step_of_issued {boundary : Boundary} {call : Call} {handle : Handle}
    (issued : (boundary.step call).1.answer = .handle (some handle)) :
    ∃ first,
      call.initial? = some first ∧
        (boundary.step call).2.context? (some handle) =
          some (Generator.ofInitial first) := by
  cases call with
  | createLegacy allocates =>
      rcases create_of_issued issued with ⟨rfl, context⟩
      exact ⟨legacyInitial, rfl, context⟩
  | create first allocates =>
      rcases create_of_issued issued with ⟨rfl, context⟩
      exact ⟨first, rfl, context⟩
  | fetch context buffer =>
      exact absurd issued (boundary.fetch_not_issued context buffer _)
  | delete context =>
      rw [step, answer_delete] at issued
      cases issued
  | store buffer contents => cases issued

/-- A creation leaves the contexts that live already alone. -/
theorem context?_create_of_live {boundary : Boundary} {handle : Handle}
    {generator : Generator Keystream}
    (live : boundary.context? (some handle) = some generator)
    (first : UInt8) (allocates : Bool) :
    (boundary.create first allocates).2.context? (some handle) =
      some generator := by
  have known : handle ≠ boundary.contexts.length :=
    Nat.ne_of_lt (lt_of_context? live)
  rw [context?_create, if_neg (fun fresh => known fresh.2), live]

/-- A fetch that returns advances its own context by one and no other. -/
theorem context?_fetch_of_live {boundary : Boundary} {handle : Handle}
    {generator : Generator Keystream}
    (live : boundary.context? (some handle) = some generator)
    (context : Option Handle) (buffer : Option BufferName)
    (answered : (boundary.fetch context buffer).1.isAbort = false) :
    (boundary.fetch context buffer).2.context? (some handle) =
      some (generator.afterFetches
        (if (Call.fetch context buffer).fetchesFrom handle then 1 else 0)) := by
  rcases boundary.fetch_cases context buffer with
    null | ⟨other, name, found, rfl, rfl, foundLive, ready | ⟨fault, fails⟩⟩
  · have notThis :
        ¬ (Call.fetch context buffer).fetchesFrom handle = true := by
      intro fetches
      rcases Call.fetchesFrom_iff.mp fetches with ⟨name, same⟩
      cases same
      rw [live] at null
      simp at null
    rw [boundary.fetch_of_null null, if_neg notThis]
    exact live
  · rw [context?_fetch_of_ready foundLive ready]
    by_cases same : handle = other
    · subst same
      rw [live] at foundLive
      cases foundLive
      rw [if_pos rfl, if_pos (Call.fetchesFrom_iff.mpr ⟨name, rfl⟩),
        generator.generator_fetch_eq _ Batch.zero]
      rfl
    · have notThis :
          ¬ (Call.fetch (some other) (some name)).fetchesFrom handle =
            true := by
        intro fetches
        rcases Call.fetchesFrom_iff.mp fetches with ⟨_, equal⟩
        cases equal
        exact same rfl
      rw [if_neg same, if_neg notThis]
      exact live
  · rw [fetch_of_fault foundLive fails] at answered
    cases answered

/--
A call that returns and does not delete a context advances it by one fetch if
the call is a fetch from it, and otherwise leaves it as it is.
-/
theorem context?_step_of_live {boundary : Boundary} {handle : Handle}
    {generator : Generator Keystream}
    (live : boundary.context? (some handle) = some generator)
    {call : Call} (kept : call ≠ .delete (some handle))
    (answered : (boundary.step call).1.isAbort = false) :
    (boundary.step call).2.context? (some handle) =
      some (generator.afterFetches
        (if call.fetchesFrom handle then 1 else 0)) := by
  cases call with
  | createLegacy allocates => exact context?_create_of_live live _ _
  | create first allocates => exact context?_create_of_live live _ _
  | fetch context buffer =>
      exact context?_fetch_of_live live context buffer answered
  | delete context =>
      have other : context ≠ some handle := fun same => kept (congrArg _ same)
      rw [step, context?_delete, if_neg other]
      exact live
  | store buffer contents => exact live

/-- A context that lives through calls has counted its own fetches. -/
theorem context?_run_of_live {boundary : Boundary} {handle : Handle}
    {generator : Generator Keystream}
    (live : boundary.context? (some handle) = some generator)
    {calls : List Call} (kept : Call.delete (some handle) ∉ calls)
    (survives : boundary.Survives calls) :
    (boundary.run calls).2.context? (some handle) =
      some (generator.afterFetches
        (calls.countP (Call.fetchesFrom handle))) := by
  induction calls generalizing boundary generator with
  | nil => exact live
  | cons call calls induction =>
      rcases survives_cons_iff.mp survives with ⟨answered, later⟩
      have notThis : call ≠ .delete (some handle) := by
        rintro rfl
        exact kept List.mem_cons_self
      have next := context?_step_of_live live notThis answered
      rw [run_cons_of_answer answered,
        induction next (fun member => kept (List.mem_cons_of_mem _ member))
          later,
        ← Generator.afterFetches_add, List.countP_cons, Nat.add_comm]

/-! ## Lifetimes -/

/--
After the calls `before`, the call `creation` returned `handle`; then came the
calls of `life`, none of which deletes it.
-/
structure Lifetime (before : List Call) (creation : Call) (life : List Call)
    (handle : Handle) : Prop where
  issued :
    ((Boundary.initial.run before).2.step creation).1.answer =
      .handle (some handle)
  kept : Call.delete (some handle) ∉ life

/-- What a context has become is known from its creation and its fetches. -/
theorem Lifetime.context? {before life : List Call} {creation : Call}
    {handle : Handle} {first : UInt8}
    (lifetime : Lifetime before creation life handle)
    (created : creation.initial? = some first)
    (survives : Boundary.initial.Survives (before ++ creation :: life)) :
    (Boundary.initial.run (before ++ creation :: life)).2.context?
        (some handle) =
      some ((Generator.ofInitial first).afterFetches
        (life.countP (Call.fetchesFrom handle))) := by
  rcases survives_append_iff.mp survives with ⟨earlier, later⟩
  rcases survives_cons_iff.mp later with ⟨answered, rest⟩
  rcases step_of_issued lifetime.issued with ⟨other, createdOther, context⟩
  rw [created] at createdOther
  cases createdOther
  rw [run_append earlier, run_cons_of_answer answered]
  exact context?_run_of_live context lifetime.kept rest

theorem context?_create_inv {boundary : Boundary} {first : UInt8}
    {allocates : Bool} {handle : Handle} {generator : Generator Keystream}
    (live :
      (boundary.create first allocates).2.context? (some handle) =
        some generator) :
    (boundary.create first allocates).1.answer = .handle (some handle) ∨
      ∃ earlier, boundary.context? (some handle) = some earlier := by
  rw [context?_create] at live
  split at live
  · rename_i fresh
    rcases fresh with ⟨rfl, rfl⟩
    exact Or.inl rfl
  · exact Or.inr ⟨generator, live⟩

theorem context?_fetch_inv {boundary : Boundary} {context : Option Handle}
    {buffer : Option BufferName} {handle : Handle}
    {generator : Generator Keystream}
    (live :
      (boundary.fetch context buffer).2.context? (some handle) =
        some generator) :
    ∃ earlier, boundary.context? (some handle) = some earlier := by
  rcases boundary.fetch_cases context buffer with
    null | ⟨other, name, found, rfl, rfl, foundLive, ready | ⟨fault, fails⟩⟩
  · rw [boundary.fetch_of_null null] at live
    exact ⟨generator, live⟩
  · rw [context?_fetch_of_ready foundLive ready] at live
    split at live
    · rename_i same
      rw [same]
      exact ⟨found, foundLive⟩
    · exact ⟨generator, live⟩
  · rw [fetch_of_fault foundLive fails] at live
    exact ⟨generator, live⟩

/-- A context that lives after a call was created by it or lived before. -/
theorem context?_step_inv {boundary : Boundary} {call : Call}
    {handle : Handle} {generator : Generator Keystream}
    (live : (boundary.step call).2.context? (some handle) = some generator) :
    (boundary.step call).1.answer = .handle (some handle) ∨
      (call ≠ .delete (some handle) ∧
        ∃ earlier, boundary.context? (some handle) = some earlier) := by
  cases call with
  | createLegacy allocates =>
      rcases context?_create_inv live with issued | earlier
      · exact Or.inl issued
      · exact Or.inr ⟨by simp, earlier⟩
  | create first allocates =>
      rcases context?_create_inv live with issued | earlier
      · exact Or.inl issued
      · exact Or.inr ⟨by simp, earlier⟩
  | fetch context buffer => exact Or.inr ⟨by simp, context?_fetch_inv live⟩
  | delete context =>
      rw [step, context?_delete] at live
      split at live
      · cases live
      · rename_i other
        refine Or.inr ⟨?_, generator, live⟩
        rintro ⟨⟩
        exact other rfl
  | store buffer contents => exact Or.inr ⟨by simp, generator, live⟩

/-- Every context that lives after a run has a lifetime in it. -/
theorem exists_lifetime {calls : List Call} {handle : Handle}
    {generator : Generator Keystream}
    (survives : Boundary.initial.Survives calls)
    (live :
      (Boundary.initial.run calls).2.context? (some handle) =
        some generator) :
    ∃ before creation life first,
      calls = before ++ creation :: life ∧
        creation.initial? = some first ∧
        Lifetime before creation life handle := by
  induction calls using List.reverseRecOn generalizing generator with
  | nil => cases live
  | append_singleton calls call induction =>
      rcases survives_append_iff.mp survives with ⟨earlier, -⟩
      rw [run_concat_of_survives survives] at live
      rcases context?_step_inv live with issued | ⟨kept, old, oldLive⟩
      · rcases step_of_issued issued with ⟨first, created, -⟩
        exact ⟨calls, call, [], first, rfl, created, issued, by simp⟩
      · rcases induction earlier oldLive with
          ⟨before, creation, life, first, rfl, created, lifetime⟩
        refine ⟨before, creation, life ++ [call], first, ?_, created,
          lifetime.issued, ?_⟩
        · rw [List.append_assoc, List.cons_append]
        · intro member
          rcases List.mem_append.mp member with old | new
          · exact lifetime.kept old
          · exact kept (List.mem_singleton.mp new).symm

end Boundary

end PacketFeed
