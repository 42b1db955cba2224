import PacketFeed.Proofs.Abort
import PacketFeed.Proofs.Scripted

/-!
# Scripts that run out

A fetch from a script fails in two ways.  A counter above the capacity is
noticed before anything is touched, so nothing changes and the generator
fails in the same way for ever.  A script with too few acceptable words is
noticed only when the words have been used up; the packets that were filled
until then stay filled, while the count of the batch and the counter of the
generator stay as they were.

What a failed fetch has written does not depend on what is missing: with any
words added at its end, the script would have filled these slots with the same
packets.
-/

namespace PacketFeed

namespace Script

/-! ## Words that are used up -/

theorem beyond_eq_nil {words : List UInt64}
    (exhausted : words.filter Length.accepts = []) :
    beyond words = [] := by
  induction words with
  | nil => rfl
  | cons word words induction =>
      cases accepted : Length.accepts word with
      | true =>
          rw [List.filter_cons_of_pos accepted] at exhausted
          cases exhausted
      | false =>
          rw [List.filter_cons_of_neg (by simp [accepted])] at exhausted
          rw [beyond_cons_of_rejects accepted, induction exhausted]

/-- The words up to the first acceptable one, and those after it. -/
theorem exists_eq_append_beyond {words : List UInt64} {word : UInt64}
    {later : List UInt64}
    (next : words.filter Length.accepts = word :: later) :
    ∃ passed,
      words = passed ++ word :: beyond words ∧
        passed.filter Length.accepts = [] := by
  induction words with
  | nil => cases next
  | cons first words induction =>
      cases accepted : Length.accepts first with
      | true =>
          rw [List.filter_cons_of_pos accepted] at next
          cases next
          rw [beyond_cons_of_accepts accepted]
          exact ⟨[], rfl, rfl⟩
      | false =>
          have rejected : ¬ Length.accepts first = true := by
            simp [accepted]
          rw [List.filter_cons_of_neg rejected] at next
          rcases induction next with ⟨passed, split, none⟩
          refine ⟨first :: passed, ?_, ?_⟩
          · rw [beyond_cons_of_rejects accepted, List.cons_append, ← split]
          · rw [List.filter_cons_of_neg rejected, none]

/-- Words at the end are not reached while there is an acceptable one. -/
theorem beyond_append {words : List UInt64} {word : UInt64}
    {later : List UInt64}
    (next : words.filter Length.accepts = word :: later)
    (extra : List UInt64) :
    beyond (words ++ extra) = beyond words ++ extra := by
  induction words with
  | nil => cases next
  | cons first words induction =>
      rw [List.cons_append]
      cases accepted : Length.accepts first with
      | true =>
          rw [beyond_cons_of_accepts accepted,
            beyond_cons_of_accepts accepted]
      | false =>
          rw [List.filter_cons_of_neg (by simp [accepted])] at next
          rw [beyond_cons_of_rejects accepted,
            beyond_cons_of_rejects accepted, induction next]

/--
The words end with acceptable word number `count`; if that number is zero,
there are no words.
-/
structure EndsAt (words : List UInt64) (count : Nat) : Prop where
  acceptable : (words.filter Length.accepts).length = count
  last : ∀ word, words.getLast? = some word → Length.accepts word = true

theorem EndsAt.cons {passed words : List UInt64} {word : UInt64}
    {count : Nat} (ends : EndsAt words count)
    (none : passed.filter Length.accepts = [])
    (accepted : Length.accepts word = true) :
    EndsAt (passed ++ word :: words) (count + 1) where
  acceptable := by
    rw [List.filter_append, none, List.nil_append,
      List.filter_cons_of_pos accepted, List.length_cons, ends.acceptable]
  last := by
    intro final isLast
    rw [List.getLast?_append_of_ne_nil _ (List.cons_ne_nil _ _)] at isLast
    cases words with
    | nil =>
        cases isLast
        exact accepted
    | cons second words =>
        rw [List.getLast?_cons_cons] at isLast
        exact ends.last final isLast

/-! ## Successive fillers -/

theorem length_drawMany (script : Script) (count : Nat) :
    (Filler.drawMany count script).1.length =
      min count (script.words.filter Length.accepts).length := by
  have lengths := congrArg List.length (map_length_drawMany script count)
  rwa [List.length_map, List.length_map, List.length_take] at lengths

/-- Fillers that can all be drawn use the words up to the last one they need. -/
theorem exists_used_drawMany (script : Script) {count : Nat}
    (enough : count ≤ (script.words.filter Length.accepts).length) :
    ∃ used,
      script.words = used ++ (Filler.drawMany count script).2.words ∧
        EndsAt used count := by
  induction count generalizing script with
  | zero => exact ⟨[], rfl, rfl, by simp⟩
  | succ count induction =>
      cases acceptable : script.words.filter Length.accepts with
      | nil =>
          rw [acceptable] at enough
          cases enough
      | cons word later =>
          have accepted : Length.accepts word = true :=
            List.of_mem_filter (acceptable ▸ List.mem_cons_self)
          rcases exists_eq_append_beyond acceptable with
            ⟨passed, split, none⟩
          simp only [Filler.drawMany, draw_filler_of_cons acceptable]
          have remaining :
              count ≤ ((beyond script.words).filter
                Length.accepts).length := by
            rw [acceptable, List.length_cons] at enough
            rw [filter_beyond, acceptable, List.tail_cons]
            exact Nat.le_of_succ_le_succ enough
          rcases induction
              { script with
                words := beyond script.words
                cursor := script.cursor + Length.ofWord word }
              remaining with
            ⟨used, rest, ends⟩
          refine ⟨passed ++ word :: used, ?_, ends.cons none accepted⟩
          rw [List.append_assoc, List.cons_append, ← rest]
          exact split

/--
A row of fillers that breaks off has used up all words, and as many bytes as
its fillers have.
-/
theorem source_drawMany_of_short (script : Script) {count : Nat}
    (short : (script.words.filter Length.accepts).length < count) :
    (Filler.drawMany count script).2 =
      { script with
        words := []
        cursor :=
          script.cursor +
            ((Filler.drawMany count script).1.map
              fun filler => filler.length.val).sum } := by
  induction count generalizing script with
  | zero => cases short
  | succ count induction =>
      cases acceptable : script.words.filter Length.accepts with
      | nil =>
          simp only [Filler.drawMany, draw_filler_of_nil acceptable,
            beyond_eq_nil acceptable, List.map_nil, List.sum_nil,
            Nat.add_zero]
      | cons word later =>
          have remaining :
              ((beyond script.words).filter Length.accepts).length <
                count := by
            rw [acceptable, List.length_cons] at short
            rw [filter_beyond, acceptable, List.tail_cons]
            exact Nat.lt_of_succ_lt_succ short
          simp only [Filler.drawMany, draw_filler_of_cons acceptable,
            List.map_cons, List.sum_cons, ← Nat.add_assoc]
          exact induction _ remaining

/-- The script with more words at its end. -/
def extend (extra : List UInt64) (script : Script) : Script :=
  { script with words := script.words ++ extra }

/-- More words at the end continue the row of fillers. -/
theorem drawMany_extend (script : Script) (extra : List UInt64)
    (count : Nat) :
    (Filler.drawMany count script).1 <+:
      (Filler.drawMany count (script.extend extra)).1 := by
  induction count generalizing script with
  | zero => exact List.nil_prefix
  | succ count induction =>
      cases acceptable : script.words.filter Length.accepts with
      | nil =>
          simp only [Filler.drawMany, draw_filler_of_nil acceptable]
          exact List.nil_prefix
      | cons word later =>
          have extended :
              (script.extend extra).words.filter Length.accepts =
                word :: (later ++ extra.filter Length.accepts) := by
            rw [extend, List.filter_append, acceptable, List.cons_append]
          -- Both scripts take the same word and then the same bytes.
          simp only [Filler.drawMany, draw_filler_of_cons acceptable,
            draw_filler_of_cons extended]
          rw [List.cons_prefix_cons]
          refine ⟨rfl, ?_⟩
          simp only [extend, beyond_append acceptable]
          exact induction
            { script with
              words := beyond script.words
              cursor := script.cursor + Length.ofWord word }

end Script

/-! ## Slots that are filled -/

namespace Batch

theorem getElem_slots_write_of_prefix {fillers others : List Filler}
    (begins : fillers <+: others) (batch : Batch) {slot : Nat}
    (bound : slot < batchCapacity) (filled : slot < fillers.length) :
    (batch.write fillers).slots[slot] = (batch.write others).slots[slot] := by
  rw [getElem_slots_write, getElem_slots_write,
    List.prefix_iff_getElem?.mp begins slot filled,
    List.getElem?_eq_getElem filled]

theorem getElem_slots_write_of_le {fillers : List Filler} (batch : Batch)
    {slot : Nat} (bound : slot < batchCapacity)
    (kept : fillers.length ≤ slot) :
    (batch.write fillers).slots[slot] = batch.slots[slot] := by
  rw [getElem_slots_write, List.getElem?_eq_none kept]

theorem map_len_write (fillers : List Filler) (batch : Batch)
    (fits : fillers.length ≤ batchCapacity) :
    (((batch.write fillers).slots.toList.take fillers.length).map
        fun packet => packet.len.toNat) =
      fillers.map fun filler => filler.length.val := by
  apply List.ext_getElem
  · simpa using fits
  · intro slot left right
    have filled : slot < fillers.length := by
      simpa using right
    simp only [List.getElem_map, List.getElem_take, Vector.getElem_toList,
      getElem_slots_write, List.getElem?_eq_getElem filled,
      Packet.toNat_len_write]

end Batch

/-! ## Failed fetches -/

namespace Generator

theorem fetchEach_of_oversized {σ : Type} [Source σ]
    {generator : Generator σ}
    (oversized : batchCapacity < generator.pending.toNat)
    (buffers : List Batch) :
    generator.fetchEach buffers =
      buffers.map fun buffer =>
        { outcome := .error (.overCapacity generator.pending)
          generator
          batch := buffer
          events := [] } := by
  induction buffers with
  | nil => rfl
  | cons buffer buffers induction =>
      rw [fetchEach, fetch_of_oversized oversized, List.map_cons, induction]

/-- A fetch from a script is ready if the acceptable words suffice. -/
theorem ready_script_iff {generator : Generator Script}
    (fits : generator.pending.toNat ≤ batchCapacity) :
    generator.Ready ↔
      generator.pending.toNat ≤
        (generator.source.words.filter Length.accepts).length := by
  have drawn :=
    generator.source.length_drawMany generator.pending.toNat
  constructor
  · intro ready
    rw [← ready.complete, upcoming, drawn]
    exact Nat.min_le_right _ _
  · intro enough
    refine ⟨fits, ?_⟩
    rw [upcoming, drawn, Nat.min_eq_left enough]

/-- Whether a fetch fails or not, it fills a slot for each filler. -/
theorem slots_fetch_of_fits {σ : Type} [Source σ] {generator : Generator σ}
    (fits : generator.pending.toNat ≤ batchCapacity) (batch : Batch) :
    (generator.fetch batch).batch.slots =
      (batch.write generator.upcoming.1).slots := by
  by_cases complete :
      generator.upcoming.1.length = generator.pending.toNat
  · rw [fetch_of_ready ⟨fits, complete⟩]
  · rw [fetch_of_short fits complete]

/-- The generator whose script has more words at its end. -/
def extend (extra : List UInt64) (generator : Generator Script) :
    Generator Script :=
  { generator with source := generator.source.extend extra }

theorem outcome_extend_eq_ok_iff {generator : Generator Script}
    (fits : generator.pending.toNat ≤ batchCapacity)
    (extra : List UInt64) (batch : Batch) :
    ((generator.extend extra).fetch batch).outcome = .ok .success ↔
      generator.pending.toNat ≤
        (generator.source.words.filter Length.accepts).length +
          (extra.filter Length.accepts).length := by
  have longer : (generator.extend extra).pending.toNat ≤ batchCapacity :=
    fits
  rw [outcome_fetch_eq_ok_iff, ready_script_iff longer]
  simp only [extend, Script.extend, List.filter_append, List.length_append,
    true_and]

/-- The slots that were filled are filled alike from any longer script. -/
theorem getElem_slots_extend {generator : Generator Script}
    (fits : generator.pending.toNat ≤ batchCapacity)
    (extra : List UInt64) (batch : Batch) {slot : Nat}
    (bound : slot < batchCapacity)
    (filled : slot < generator.upcoming.1.length) :
    (generator.fetch batch).batch.slots[slot] =
      ((generator.extend extra).fetch batch).batch.slots[slot] := by
  have longer : (generator.extend extra).pending.toNat ≤ batchCapacity :=
    fits
  simp only [slots_fetch_of_fits fits, slots_fetch_of_fits longer]
  exact Batch.getElem_slots_write_of_prefix
    (generator.source.drawMany_extend extra _) batch bound filled

/--
What a fetch from a script leaves behind.  A counter above the capacity makes
this fetch and all later ones fail without any change.  A counter that fits
succeeds if there are enough acceptable words, and then the words are used up
to the last one that was needed.  Otherwise the fetch fails with no word left:
as many slots are filled as there were acceptable words, with the packets that
any longer script would have put there, the bytes of these packets have been
delivered, and all else is as it was.
-/
theorem fetch_from_script (generator : Generator Script) (batch : Batch) :
    let due := generator.pending.toNat
    let acceptable := (generator.source.words.filter Length.accepts).length
    let result := generator.fetch batch
    (batchCapacity < due →
        (Fault.overCapacity generator.pending).message =
            "batch size " ++ toString generator.pending ++
              " exceeds capacity 8" ∧
          ∀ later : List Batch,
            generator.fetchEach (batch :: later) =
              (batch :: later).map fun buffer =>
                { outcome := .error (.overCapacity generator.pending)
                  generator
                  batch := buffer
                  events := [] }) ∧
      (due ≤ batchCapacity → due ≤ acceptable →
        result.outcome = .ok .success ∧
          (∃ used,
            generator.source.words =
                used ++ result.generator.source.words ∧
              Script.EndsAt used due) ∧
          (due = 0 → result.generator.source = generator.source)) ∧
      (due ≤ batchCapacity → acceptable < due →
        result.outcome = .error .exhausted ∧
          Fault.exhausted.message = "script exhausted" ∧
          (∀ extra : List UInt64,
            let longer := (generator.extend extra).fetch batch
            (longer.outcome = .ok .success ↔
                due ≤
                  acceptable + (extra.filter Length.accepts).length) ∧
              ∀ (slot : Nat) (bound : slot < batchCapacity),
                slot < acceptable →
                result.batch.slots[slot] = longer.batch.slots[slot]) ∧
          (∀ (slot : Nat) (bound : slot < batchCapacity),
            acceptable ≤ slot →
            result.batch.slots[slot] = batch.slots[slot]) ∧
          result.batch.count = batch.count ∧
          result.generator =
            ⟨generator.pending,
              { generator.source with
                words := []
                cursor :=
                  generator.source.cursor +
                    ((result.batch.slots.toList.take acceptable).map
                      fun packet => packet.len.toNat).sum }⟩) := by
  intro due acceptable result
  have drawn : generator.upcoming.1.length = min due acceptable :=
    generator.source.length_drawMany due
  refine ⟨?_, ?_, ?_⟩
  · intro oversized
    exact ⟨Fault.message_overCapacity _,
      fun later => fetchEach_of_oversized oversized _⟩
  · intro fits enough
    have shape : result = _ :=
      fetch_of_ready ((ready_script_iff fits).mpr enough) batch
    rw [shape]
    refine ⟨rfl, generator.source.exists_used_drawMany enough, ?_⟩
    intro none
    show (Filler.drawMany due generator.source).2 = _
    rw [none]
    rfl
  · intro fits short
    rw [Nat.min_eq_right (Nat.le_of_lt short)] at drawn
    have incomplete :
        generator.upcoming.1.length ≠ generator.pending.toNat := by
      rw [drawn]
      exact Nat.ne_of_lt short
    have shape : result = _ := fetch_of_short fits incomplete batch
    have lengths :=
      batch.map_len_write generator.upcoming.1 (by rw [drawn]; omega)
    refine ⟨by rw [shape], rfl, ?_, ?_, by rw [shape]; rfl, ?_⟩
    · intro extra longer
      refine ⟨outcome_extend_eq_ok_iff fits extra batch, ?_⟩
      intro slot bound filled
      exact getElem_slots_extend fits extra batch bound (by rwa [drawn])
    · intro slot bound kept
      rw [shape]
      exact batch.getElem_slots_write_of_le bound (by rwa [drawn])
    · rw [drawn] at lengths
      rw [shape, lengths]
      exact congrArg (Generator.mk generator.pending)
        (generator.source.source_drawMany_of_short short)

/--
Two acceptable words among four: two packets can be filled, three cannot, and
nine are not tried.  An empty batch needs no words.
-/
theorem fetch_from_script_two :
    let script : Script :=
      { words :=
          [12297829382473035, 0xffffffffffffffff, 24595658764946070,
            12297829382473034]
        bytes := #[7, 9, 11] }
    let fetched (size : UInt8) (source : Script) : Fetch Script :=
      (⟨size, source⟩ : Generator Script).fetch Batch.zero
    (fetched 3 script).outcome = .error .exhausted ∧
      (fetched 3 script).generator.pending = 3 ∧
      (fetched 3 script).generator.source.words = [] ∧
      (fetched 3 script).batch.slots[1] =
        (fetched 3 (script.extend [0])).batch.slots[1] ∧
      (fetched 2 script).outcome = .ok .success ∧
      (fetched 9 script).generator.source = script ∧
      (fetched 0 { script with words := [] }).outcome = .ok .success := by
  intro script fetched
  have atMost : (script.words.filter Length.accepts).length < 3 := by
    decide
  have atLeast : 2 ≤ (script.words.filter Length.accepts).length := by
    decide
  rcases (fetch_from_script ⟨3, script⟩ Batch.zero).2.2 (by decide)
      atMost with ⟨fails, -, longer, -, -, left⟩
  rcases (fetch_from_script ⟨2, script⟩ Batch.zero).2.1 (by decide)
      atLeast with ⟨succeeds, -, -⟩
  rcases (fetch_from_script ⟨9, script⟩ Batch.zero).1 (by decide) with
    ⟨-, later⟩
  rcases (fetch_from_script ⟨0, { script with words := [] }⟩ Batch.zero).2.1
      (by decide) (by decide) with ⟨empty, -, -⟩
  refine ⟨fails, ?_, ?_, ?_, succeeds, ?_, empty⟩
  · exact congrArg Generator.pending left
  · exact congrArg (fun generator => generator.source.words) left
  · exact (longer [0]).2 1 (by decide) atLeast
  · have unchanged := congrArg (List.map Fetch.generator) (later [])
    exact congrArg Generator.source (List.cons.inj unchanged).1

end Generator

end PacketFeed
