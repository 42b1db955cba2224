import PacketFeed.Proofs.Abort

/-!
# Isolation of contexts

A context behaves like a generator that somebody keeps to themselves and
fetches from into fresh buffers.  What the other contexts do, which buffers
are passed and what these held before never shows in what is fetched.
-/

namespace PacketFeed.Boundary

/--
Contexts are isolated.  Let a context be created with the counter `first` and
live through `life`, among any other calls, and let it be fetched from into
some buffer.  Unless the process has ended, the reply is the code of success,
and the buffer then shows the count, the lengths and the bytes that a
generator of its own, made with `first`, leaves in a fresh buffer at its fetch
of the same number.
-/
theorem fetch_eq_standalone
    {before life : List Call} {creation : Call} {first : UInt8}
    {handle : Handle} {buffer : BufferName}
    (created : creation.initial? = some first)
    (lifetime : Lifetime before creation life handle)
    (survives :
      Boundary.initial.Survives
        (before ++ creation :: life ++
          [.fetch (some handle) (some buffer)])) :
    let process :=
      Boundary.initial.run
        (before ++ creation :: life ++ [.fetch (some handle) (some buffer)])
    let standalone :=
      ((Generator.ofInitial first).afterFetches
        (life.countP (Call.fetchesFrom handle))).fetch Batch.zero
    (∃ status events,
        process.1.getLast? = some ⟨.status status, events⟩ ∧
          status.code = 0) ∧
      standalone.outcome = .ok .success ∧
      (process.2.buffers.get buffer).count = standalone.batch.count ∧
      (process.2.buffers.get buffer).contents =
        standalone.batch.contents := by
  intro process standalone
  rcases survives_append_iff.mp survives with ⟨earlier, last⟩
  have live := lifetime.context? created earlier
  have answered := survives_singleton_iff.mp last
  have shape : process = _ := run_concat_of_survives survives
  simp only [step] at answered shape
  rcases fetch_cases (Boundary.initial.run (before ++ creation :: life)).2
      (some handle) (some buffer) with
    null | ⟨_, _, generator, same, sameBuffer, found, ready | ⟨fault, fails⟩⟩
  · rw [live] at null
    simp at null
  · cases same
    cases sameBuffer
    rw [live] at found
    cases found
    rw [fetch_of_ready live ready] at shape
    rw [shape]
    refine ⟨⟨.success, _, List.getLast?_concat, rfl⟩, ?_, ?_, ?_⟩
    · exact (Generator.outcome_fetch_eq_ok_iff _ _ _).mpr ⟨rfl, ready⟩
    · simp only [setBuffer, Buffers.get_set, if_true]
      rw [Generator.count_fetch ready, Generator.count_fetch ready]
    · simp only [setBuffer, Buffers.get_set, if_true]
      rw [Generator.contents_fetch ready, Generator.contents_fetch ready]
  · cases same
    cases sameBuffer
    rw [fetch_of_fault found fails] at answered
    cases answered

/--
The second fetch from the middle one of three contexts, after a failed
creation, rejected calls, fetches of others into the same buffer and a buffer
that was left with a wrong count.
-/
theorem fetch_eq_standalone_among_others :
    let before : List Call := [.createLegacy false, .create 3 true]
    let life : List Call :=
      [.create 8 true, .fetch (some 0) (some 7), .fetch (some 2) none,
        .fetch (some 1) (some 7), .delete (some 0),
        .store 7 ⟨255, Batch.zero.slots⟩, .fetch none (some 7)]
    life.countP (Call.fetchesFrom 1) = 1 ∧
      let process :=
        Boundary.initial.run
          (before ++ .createLegacy true :: life ++ [.fetch (some 1) (some 7)])
      let standalone :=
        ((Generator.ofInitial 1).afterFetches
          (life.countP (Call.fetchesFrom 1))).fetch Batch.zero
      (∃ status events,
          process.1.getLast? = some ⟨.status status, events⟩ ∧
            status.code = 0) ∧
        standalone.outcome = .ok .success ∧
        (process.2.buffers.get 7).count = standalone.batch.count ∧
        (process.2.buffers.get 7).contents = standalone.batch.contents := by
  intro before life
  have created : (Call.createLegacy true).initial? = some 1 := rfl
  have lifetime : Lifetime before (.createLegacy true) life 1 :=
    ⟨rfl, by simp [life]⟩
  have survives :
      Boundary.initial.Survives
        (before ++ .createLegacy true :: life ++
          [.fetch (some 1) (some 7)]) := by
    apply survives_of_fits
    simp [before, life, Call.initial?, legacyInitial, batchCapacity]
  exact ⟨rfl, fetch_eq_standalone created lifetime survives⟩

end PacketFeed.Boundary
