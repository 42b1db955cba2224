import PacketFeed.Proofs.Endurance
import PacketFeed.Proofs.Lifetime

/-!
# When the process ends

Creating a context never checks the counter, so a counter need not be below
the batch capacity.  What holds of every live context is that its counter is
below the capacity, or is still the one it was created with because nothing
was fetched from the context yet.  Hence the process ends at the first fetch
from a context that was created with a counter above the capacity, and at no
other call.
-/

namespace PacketFeed

theorem Fault.message_overCapacity (size : UInt8) :
    (overCapacity size).message =
      "batch size " ++ toString size ++ " exceeds capacity 8" := by
  have ending :
      " exceeds capacity " ++ toString batchCapacity =
        " exceeds capacity 8" := by
    decide
  rw [message, String.append_assoc, ending]

theorem Reply.isAbort_iff {reply : Reply} :
    reply.isAbort = true ↔ ∃ fault, reply.answer = .aborted fault := by
  rcases reply with ⟨_ | _ | _ | fault, events⟩ <;> simp [isAbort]

namespace Boundary

/-! ## The call that ends the process -/

/--
After `calls`, the call `call` fetches into some buffer from a live context
that was created with the counter `first`, which is above the capacity.
-/
def Overreaches (calls : List Call) (call : Call) (first : UInt8) : Prop :=
  ∃ before life handle name,
    calls = before ++ .create first true :: life ∧
      Lifetime before (.create first true) life handle ∧
      call = .fetch (some handle) (some name) ∧
      batchCapacity < first.toNat

/-- A call that ends the process is a fetch on which a generator failed. -/
theorem fails_of_aborted {boundary : Boundary} {call : Call} {fault : Fault}
    (aborted : (boundary.step call).1.answer = .aborted fault) :
    ∃ handle name generator,
      call = .fetch (some handle) (some name) ∧
        boundary.context? (some handle) = some generator ∧
        (generator.fetch (boundary.buffers.get name)).outcome =
          .error fault := by
  cases call with
  | createLegacy allocates => cases allocates <;> cases aborted
  | create first allocates => cases allocates <;> cases aborted
  | fetch context buffer =>
      simp only [step] at aborted
      rcases boundary.fetch_cases context buffer with
        null | ⟨handle, name, generator, rfl, rfl, live,
          ready | ⟨found, fails⟩⟩
      · rw [boundary.fetch_of_null null] at aborted
        cases aborted
      · rw [fetch_of_ready live ready] at aborted
        cases aborted
      · rw [fetch_of_fault live fails] at aborted
        cases aborted
        exact ⟨handle, name, generator, rfl, live, fails⟩
  | delete context =>
      rw [step, answer_delete] at aborted
      cases aborted
  | store buffer contents => cases aborted

/-- After a run, a call ends the process exactly when it overreaches. -/
theorem step_aborted_iff {calls : List Call} {call : Call} {fault : Fault}
    (survives : Boundary.initial.Survives calls) :
    ((Boundary.initial.run calls).2.step call).1.answer = .aborted fault ↔
      ∃ first,
        Overreaches calls call first ∧ fault = .overCapacity first := by
  constructor
  · intro aborted
    rcases fails_of_aborted aborted with
      ⟨handle, name, generator, rfl, live, fails⟩
    rcases exists_lifetime survives live with
      ⟨before, creation, life, first, rfl, created, lifetime⟩
    rw [lifetime.context? created survives] at live
    cases live
    rcases Generator.afterFetches_ofInitial_cases first
        (life.countP (Call.fetchesFrom handle)) with
      ⟨oversized, same⟩ | ⟨-, ready, -⟩
    · rw [same, Generator.fetch_of_oversized oversized] at fails
      cases fails
      have named := Call.eq_create_of_oversized created oversized
      subst named
      exact
        ⟨first, ⟨before, life, handle, name, rfl, lifetime, rfl, oversized⟩,
          rfl⟩
    · rw [Generator.fetch_of_ready ready] at fails
      cases fails
  · rintro ⟨first, ⟨before, life, handle, name, rfl, lifetime, rfl,
      oversized⟩, rfl⟩
    have live := lifetime.context? rfl survives
    rw [Generator.afterFetches_of_oversized oversized] at live
    have above :
        batchCapacity < (Generator.ofInitial first).pending.toNat :=
      oversized
    have fails := congrArg Generator.Fetch.outcome
      (Generator.fetch_of_oversized above
        ((Boundary.initial.run
          (before ++ .create first true :: life)).2.buffers.get name))
    simp only [step, fetch_of_fault live fails]
    rfl

theorem survives_concat_iff {calls : List Call} {call : Call} :
    Boundary.initial.Survives (calls ++ [call]) ↔
      Boundary.initial.Survives calls ∧
        ∀ first, ¬ Overreaches calls call first := by
  rw [survives_append_iff, survives_singleton_iff]
  refine and_congr_right fun survives => ?_
  rw [← Bool.not_eq_true, Reply.isAbort_iff]
  constructor
  · intro answered first overreaches
    exact answered
      ⟨_, (step_aborted_iff survives).mpr ⟨first, overreaches, rfl⟩⟩
  · rintro within ⟨fault, aborted⟩
    rcases (step_aborted_iff survives).mp aborted with ⟨first, overreaches, -⟩
    exact within first overreaches

/-- Counters that fit cannot end the process, whatever is called. -/
theorem survives_of_fits {calls : List Call}
    (fits :
      ∀ call ∈ calls, ∀ first, call.initial? = some first →
        first.toNat ≤ batchCapacity) :
    Boundary.initial.Survives calls := by
  induction calls using List.reverseRecOn with
  | nil => exact survives_nil _
  | append_singleton calls call induction =>
      rw [survives_concat_iff]
      constructor
      · exact induction fun earlier member =>
          fits earlier (List.mem_append_left _ member)
      · rintro first ⟨before, life, handle, name, rfl, -, -, oversized⟩
        have atMost :=
          fits (.create first true) (by simp) first rfl
        exact Nat.not_lt.mpr atMost oversized

/-! ## Positions -/

/-- The reply at a position ends the process. -/
def AbortsAt (calls : List Call) (position : Nat) (fault : Fault) : Prop :=
  ∃ events,
    (Boundary.initial.run calls).1[position]? =
      some ⟨.aborted fault, events⟩

/-- The call at a position overreaches. -/
def OverreachesAt (calls : List Call) (position : Nat) (first : UInt8) :
    Prop :=
  ∃ call,
    calls[position]? = some call ∧
      Overreaches (calls.take position) call first

theorem abortsAt_iff {calls : List Call} {position : Nat} {fault : Fault} :
    AbortsAt calls position fault ↔
      Boundary.initial.Survives (calls.take position) ∧
        ∃ first,
          OverreachesAt calls position first ∧
            fault = .overCapacity first := by
  constructor
  · rintro ⟨events, replied⟩
    rcases getElem?_run_eq_some_iff.mp replied with
      ⟨survives, call, found, reply⟩
    have aborted :
        ((Boundary.initial.run (calls.take position)).2.step call).1.answer =
          .aborted fault := by
      rw [reply]
    rcases (step_aborted_iff survives).mp aborted with
      ⟨first, overreaches, named⟩
    exact ⟨survives, first, ⟨call, found, overreaches⟩, named⟩
  · rintro ⟨survives, first, ⟨call, found, overreaches⟩, rfl⟩
    have aborted :=
      (step_aborted_iff survives).mpr ⟨first, overreaches, rfl⟩
    refine ⟨((Boundary.initial.run (calls.take position)).2.step
      call).1.events, ?_⟩
    rw [getElem?_run_eq_some_iff]
    refine ⟨survives, call, found, ?_⟩
    rw [← aborted]

/-- A run survives up to a position if no call before it overreaches. -/
theorem survives_take_iff {calls : List Call} {position : Nat} :
    Boundary.initial.Survives (calls.take position) ↔
      ∀ earlier < position, ∀ first,
        ¬ OverreachesAt calls earlier first := by
  induction position with
  | zero => simp
  | succ position induction =>
      rw [Nat.forall_lt_succ_right, ← induction, List.take_add_one]
      cases found : calls[position]? with
      | none =>
          rw [Option.toList_none, List.append_nil]
          refine (and_iff_left ?_).symm
          rintro first ⟨call, present, -⟩
          rw [found] at present
          cases present
      | some call =>
          rw [Option.toList_some, survives_concat_iff]
          refine and_congr_right fun _ => forall_congr' fun first => ?_
          refine not_congr ⟨fun overreaches => ⟨call, found, overreaches⟩, ?_⟩
          rintro ⟨other, present, overreaches⟩
          rw [found] at present
          cases present
          exact overreaches

/-! ## Counters and the end of the process -/

/-- A context that has been fetched from was created with a counter that fits. -/
theorem Lifetime.fits_of_fetched {before life : List Call} {creation : Call}
    {handle : Handle} {first : UInt8} {name : BufferName}
    (lifetime : Lifetime before creation life handle)
    (created : creation.initial? = some first)
    (survives : Boundary.initial.Survives (before ++ creation :: life))
    (fetched : Call.fetch (some handle) (some name) ∈ life) :
    first.toNat ≤ batchCapacity := by
  rcases Nat.lt_or_ge batchCapacity first.toNat with oversized | fits
  · -- That fetch would have ended the process.
    rcases List.append_of_mem fetched with ⟨earlier, later, rfl⟩
    have upToFetch :
        Boundary.initial.Survives
          (before ++ creation :: earlier ++
            [.fetch (some handle) (some name)]) := by
      have split :
          before ++ creation ::
              (earlier ++ .fetch (some handle) (some name) :: later) =
            (before ++ creation :: earlier ++
              [.fetch (some handle) (some name)]) ++ later := by
        simp
      rw [split] at survives
      exact (survives_append_iff.mp survives).1
    have named := Call.eq_create_of_oversized created oversized
    subst named
    have kept : Call.delete (some handle) ∉ earlier := fun member =>
      lifetime.kept (List.mem_append_left _ member)
    exact absurd
      ⟨before, earlier, handle, name, rfl, ⟨lifetime.issued, kept⟩, rfl,
        oversized⟩
      ((survives_concat_iff.mp upToFetch).2 first)
  · exact fits

/-- A context that was created with a counter that fits is always served. -/
theorem Lifetime.survives_fetch {before life : List Call} {creation : Call}
    {handle : Handle} {first : UInt8}
    (lifetime : Lifetime before creation life handle)
    (created : creation.initial? = some first)
    (survives : Boundary.initial.Survives (before ++ creation :: life))
    (fits : first.toNat ≤ batchCapacity) (buffer : Option BufferName) :
    Boundary.initial.Survives
      (before ++ creation :: life ++ [.fetch (some handle) buffer]) := by
  rw [survives_append_iff, survives_singleton_iff]
  refine ⟨survives, ?_⟩
  simp only [step]
  cases buffer with
  | none => rw [fetch_of_null _ (Or.inr rfl)]; rfl
  | some name =>
      have ready :=
        ((Generator.usual_ofInitial first).ready_afterFetches fits
          (life.countP (Call.fetchesFrom handle))).1
      rw [fetch_of_ready (lifetime.context? created survives) ready]
      rfl

/-- The counter of a live context. -/
theorem Lifetime.pending_cases {before life : List Call} {creation : Call}
    {handle : Handle} {first : UInt8} {generator : Generator Keystream}
    (lifetime : Lifetime before creation life handle)
    (created : creation.initial? = some first)
    (survives : Boundary.initial.Survives (before ++ creation :: life))
    (live :
      (Boundary.initial.run (before ++ creation :: life)).2.context?
        (some handle) = some generator) :
    generator.pending.toNat < batchCapacity ∨
      ((∀ name, Call.fetch (some handle) (some name) ∉ life) ∧
        generator.pending = first) := by
  rw [lifetime.context? created survives] at live
  cases live
  by_cases fetched : ∃ name, Call.fetch (some handle) (some name) ∈ life
  · rcases fetched with ⟨name, member⟩
    have fits := lifetime.fits_of_fetched created survives member
    have counted : 0 < life.countP (Call.fetchesFrom handle) :=
      List.countP_pos_iff.mpr
        ⟨_, member, Call.fetchesFrom_iff.mpr ⟨name, rfl⟩⟩
    exact Or.inl
      (((Generator.usual_ofInitial first).ready_afterFetches fits _).2 counted)
  · have none : life.countP (Call.fetchesFrom handle) = 0 := by
      rw [List.countP_eq_zero]
      intro call member fetches
      rcases Call.fetchesFrom_iff.mp fetches with ⟨name, rfl⟩
      exact fetched ⟨name, member⟩
    rw [none]
    exact Or.inr ⟨fun name member => fetched ⟨name, member⟩, rfl⟩

/--
In every run, each live context has a counter below the capacity, or still the
counter it was created with and no fetch into a buffer since then.  The
process ends at a position exactly when the call there is the first to fetch,
into some buffer, from a live context that was created with a counter above
the capacity, and the message names that counter.  So neither a context that
has been fetched from nor one with the usual first counter ends the process.
-/
theorem counters_and_aborts :
    (∀ (calls : List Call) (handle : Handle)
        (generator : Generator Keystream),
      Boundary.initial.Survives calls →
      (Boundary.initial.run calls).2.context? (some handle) =
        some generator →
      ∃ before creation life first,
        calls = before ++ creation :: life ∧
          creation.initial? = some first ∧
          Lifetime before creation life handle ∧
          (generator.pending.toNat < batchCapacity ∨
            ((∀ name, Call.fetch (some handle) (some name) ∉ life) ∧
              generator.pending = first))) ∧
      (∀ (calls : List Call) (position : Nat) (fault : Fault),
        AbortsAt calls position fault ↔
          ∃ first,
            OverreachesAt calls position first ∧
              (∀ earlier < position, ∀ other,
                ¬ OverreachesAt calls earlier other) ∧
              fault = .overCapacity first ∧
              fault.message =
                "batch size " ++ toString first ++ " exceeds capacity 8") ∧
      ∀ (before : List Call) (creation : Call) (life : List Call)
          (handle : Handle) (buffer : Option BufferName),
        Boundary.initial.Survives (before ++ creation :: life) →
        Lifetime before creation life handle →
        (creation = .createLegacy true ∨
          ∃ name, Call.fetch (some handle) (some name) ∈ life) →
        Boundary.initial.Survives
          (before ++ creation :: life ++ [.fetch (some handle) buffer]) := by
  refine ⟨?_, ?_, ?_⟩
  · intro calls handle generator survives live
    rcases exists_lifetime survives live with
      ⟨before, creation, life, first, rfl, created, lifetime⟩
    exact ⟨before, creation, life, first, rfl, created, lifetime,
      lifetime.pending_cases created survives live⟩
  · intro calls position fault
    rw [abortsAt_iff, survives_take_iff]
    constructor
    · rintro ⟨within, first, here, rfl⟩
      exact ⟨first, here, within, rfl, Fault.message_overCapacity first⟩
    · rintro ⟨first, here, within, rfl, -⟩
      exact ⟨within, first, here, rfl⟩
  · intro before creation life handle buffer survives lifetime harmless
    rcases step_of_issued lifetime.issued with ⟨first, created, -⟩
    refine lifetime.survives_fetch created survives ?_ buffer
    rcases harmless with rfl | ⟨name, fetched⟩
    · cases created
      decide
    · exact lifetime.fits_of_fetched created survives fetched

/-- The null batch spares a context with nine packets due, a buffer does not. -/
theorem counters_and_aborts_nine :
    AbortsAt
      [.create 9 true, .fetch (some 0) none, .fetch (some 0) (some 0)]
      2 (.overCapacity 9) := by
  refine (counters_and_aborts.2.1 _ _ _).mpr
    ⟨9, ?_, ?_, rfl, Fault.message_overCapacity 9⟩
  · exact ⟨_, rfl, [], [.fetch (some 0) none], 0, 0, rfl, ⟨rfl, by simp⟩, rfl,
      by decide⟩
  · rintro earlier before other
      ⟨call, present, first, life, handle, name, -, -, rfl, -⟩
    match earlier, before with
    | 0, _ => simp at present
    | 1, _ => simp at present

end Boundary

end PacketFeed
