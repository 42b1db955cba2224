import PacketFeed.Proofs.Fetch
import PacketFeed.Source.Script

/-!
# One stream of packets

Filling packets one after the other from a source gives a stream of packets.
The counter of a generator only decides where that stream is cut into
batches.  The source of a generator is always where it would be after filling
as many single packets as the run has produced, so two runs from one state of
a source show the same packets, as far as both of them go.
-/

namespace PacketFeed

variable {σ : Type} [Source σ]

/-! ## Fillers in a row -/

namespace Filler

/-- Drawing fewer fillers gives the first of them. -/
theorem drawMany_eq_take (source : σ) {fewer more : Nat}
    (atMost : fewer ≤ more) :
    (drawMany fewer source).1 = (drawMany more source).1.take fewer := by
  induction fewer generalizing source more with
  | zero => rfl
  | succ fewer induction =>
      cases more with
      | zero => exact absurd atMost (Nat.not_succ_le_zero fewer)
      | succ more =>
          simp only [drawMany]
          split
          · rfl
          · rw [List.take_succ_cons]
            exact congrArg (_ :: ·)
              (induction _ (Nat.le_of_succ_le_succ atMost))

theorem drawMany_isPrefix_of_le (source : σ) {fewer more : Nat}
    (atMost : fewer ≤ more) :
    (drawMany fewer source).1 <+: (drawMany more source).1 := by
  rw [drawMany_eq_take source atMost]
  exact List.take_prefix _ _

/-- A row of fillers that could all be drawn is continued by the next row. -/
theorem drawMany_add (source : σ) (first second : Nat)
    (complete : (drawMany first source).1.length = first) :
    drawMany (first + second) source =
      ((drawMany first source).1 ++
          (drawMany second (drawMany first source).2).1,
        (drawMany second (drawMany first source).2).2) := by
  induction first generalizing source with
  | zero => simp [drawMany]
  | succ first induction =>
      rw [Nat.add_right_comm]
      simp only [drawMany] at complete ⊢
      split at complete
      · simp at complete
      · rename_i filler rest drawn
        simp only [List.length_cons, Nat.add_right_cancel_iff] at complete
        simp only [induction rest complete, List.cons_append]

end Filler

/-! ## Packets in a row -/

/--
Fill packets one after the other from a source, until one of them cannot be
filled.  The result has the packets that were filled.
-/
def Packet.refillEach (source : σ) : List Packet → List Packet × σ
  | [] => ([], source)
  | packet :: packets =>
      match packet.refill source with
      | (.error _, rest) => ([], rest)
      | (.ok filled, rest) =>
          let (others, rest) := refillEach rest packets
          (filled :: others, rest)

/-- What single packets are filled with are the fillers of the source. -/
theorem Packet.refillEach_drawMany (source : σ) (packets : List Packet) :
    (refillEach source packets).1.map contents =
        (Filler.drawMany packets.length source).1.map Filler.contents ∧
      (refillEach source packets).2 =
        (Filler.drawMany packets.length source).2 := by
  induction packets generalizing source with
  | nil => exact ⟨rfl, rfl⟩
  | cons packet packets induction =>
      simp only [refillEach, refill, List.length_cons, Filler.drawMany]
      rcases drawn : Filler.draw source with ⟨_ | filler, rest⟩
      · exact ⟨rfl, rfl⟩
      · rcases induction rest with ⟨sameContents, sameSource⟩
        simp only [List.map_cons, contents_write, sameContents, sameSource,
          and_self]

/-! ## Runs of a generator -/

namespace Generator

/--
The invariant of runs: the source has handed out exactly the fillers of the
packets that were produced so far.
-/
theorem Fetches.drawMany_produced
    {generator last : Generator σ} {batches : List Batch}
    (run : generator.Fetches batches last) :
    (Filler.drawMany (produced batches).length generator.source).1.map
        Filler.contents = produced batches ∧
      (Filler.drawMany (produced batches).length generator.source).2 =
        last.source := by
  induction run with
  | done => exact ⟨rfl, rfl⟩
  | @step generator last batches buffer succeeds rest induction =>
      have ready := ready_of_outcome succeeds
      have head := contents_fetch ready buffer
      have headLength :
          (generator.fetch buffer).batch.contents.length =
            generator.pending.toNat := by
        rw [head, List.length_map, ready.complete]
      have source :
          (generator.fetch buffer).generator.source =
            generator.upcoming.2 := by
        rw [fetch_of_ready ready]
      rw [source] at induction
      rw [produced_cons, List.length_append, headLength,
        Filler.drawMany_add _ _ _ ready.complete]
      -- The first row fills this batch, the second row all later ones.
      constructor
      · rw [List.map_append, head]
        exact congrArg (_ ++ ·) induction.1
      · exact induction.2

/-- What a run produced, as the first of the fillers of its source. -/
theorem Fetches.produced_isPrefix_drawMany
    {generator last : Generator σ} {batches : List Batch}
    (run : generator.Fetches batches last) {count : Nat}
    (atMost : (produced batches).length ≤ count) :
    produced batches <+:
      (Filler.drawMany count generator.source).1.map Filler.contents := by
  rw [← run.drawMany_produced.1]
  exact (Filler.drawMany_isPrefix_of_le generator.source atMost).map Filler.contents

/-- What a run produced are the first packets that are filled one by one. -/
theorem Fetches.produced_prefix_refillEach
    {generator last : Generator σ} {batches : List Batch}
    (run : generator.Fetches batches last) {packets : List Packet}
    (enough : (produced batches).length ≤ packets.length) :
    produced batches <+:
      (Packet.refillEach generator.source packets).1.map
        Packet.contents := by
  rw [(Packet.refillEach_drawMany generator.source packets).1]
  exact run.produced_isPrefix_drawMany enough

/-- The source after a run, as it is after filling as many single packets. -/
theorem Fetches.source_refillEach
    {generator last : Generator σ} {batches : List Batch}
    (run : generator.Fetches batches last) {packets : List Packet}
    (asMany : packets.length = (produced batches).length) :
    (Packet.refillEach generator.source packets).2 = last.source := by
  rw [(Packet.refillEach_drawMany generator.source packets).2, asMany]
  exact run.drawMany_produced.2

/-- The longer of two runs from one source begins with the shorter one. -/
theorem Fetches.produced_prefix_of_le
    {source : σ} {initial other : UInt8}
    {batches others : List Batch} {last final : Generator σ}
    (run : (⟨initial, source⟩ : Generator σ).Fetches batches last)
    (otherRun : (⟨other, source⟩ : Generator σ).Fetches others final)
    (shorter : (produced batches).length ≤ (produced others).length) :
    produced batches <+: produced others := by
  have inside := run.produced_isPrefix_drawMany shorter
  rwa [otherRun.drawMany_produced.1] at inside

theorem ready_of_pending_zero (source : σ) :
    (⟨0, source⟩ : Generator σ).Ready where
  fits := Nat.zero_le _
  complete := rfl

/--
Two runs from one state of a source, with any counters and any buffers, show
one stream of packets: one of them begins with the other, each begins the
stream of packets that are filled one by one, and each leaves the source
where filling single packets would leave it.  An empty batch takes nothing
from the source.
-/
theorem produced_independent_of_batching
    {source : σ} {initial other : UInt8}
    {batches others : List Batch} {last final : Generator σ}
    (run : (⟨initial, source⟩ : Generator σ).Fetches batches last)
    (otherRun : (⟨other, source⟩ : Generator σ).Fetches others final) :
    (produced batches <+: produced others ∨
        produced others <+: produced batches) ∧
      (∀ packets : List Packet,
        ((produced batches).length ≤ packets.length →
          produced batches <+:
            (Packet.refillEach source packets).1.map Packet.contents) ∧
        ((produced others).length ≤ packets.length →
          produced others <+:
            (Packet.refillEach source packets).1.map Packet.contents) ∧
        (packets.length = (produced batches).length →
          (Packet.refillEach source packets).2 = last.source) ∧
        (packets.length = (produced others).length →
          (Packet.refillEach source packets).2 = final.source)) ∧
      ∀ (state : σ) (buffer : Batch),
        let result := (⟨0, state⟩ : Generator σ).fetch buffer
        result.outcome = .ok .success ∧
          result.batch.contents = [] ∧
          result.generator.source = state := by
  refine ⟨?_, ?_, ?_⟩
  · rcases Nat.le_total (produced batches).length
        (produced others).length with shorter | longer
    · exact Or.inl (run.produced_prefix_of_le otherRun shorter)
    · exact Or.inr (otherRun.produced_prefix_of_le run longer)
  · intro packets
    exact
      ⟨run.produced_prefix_refillEach, otherRun.produced_prefix_refillEach,
        run.source_refillEach, otherRun.source_refillEach⟩
  · intro state buffer
    have ready := ready_of_pending_zero state
    refine ⟨?_, contents_fetch ready buffer, ?_⟩
    · rw [fetch_of_ready ready]
    · rw [fetch_of_ready ready]
      rfl

/-- Seven packets cut as three and none, and as five and two. -/
theorem produced_independent_of_batching_seven :
    let script : Script :=
      { words := [0, 12297829382473035, 0xffffffffffffffff,
          0x4000000000000000, 24595658764946070, 0, 0, 12297829382473035]
        bytes := #[7, 9, 11] }
    let short := (⟨3, script⟩ : Generator Script).fetchMany Batch.zero 2
    let long := (⟨5, script⟩ : Generator Script).fetchMany Batch.zero 2
    short.fault = none ∧ long.fault = none ∧
      (produced short.batches <+: produced long.batches ∨
        produced long.batches <+: produced short.batches) := by
  intro script short long
  have shortSucceeds : short.fault = none := by decide +kernel
  have longSucceeds : long.fault = none := by decide +kernel
  refine ⟨shortSucceeds, longSucceeds, ?_⟩
  exact
    (produced_independent_of_batching
      (fetches_fetchMany _ _ _ shortSucceeds)
      (fetches_fetchMany _ _ _ longSucceeds)).1

end Generator

end PacketFeed
