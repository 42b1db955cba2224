import PacketFeed.Proofs.Sizes
import PacketFeed.Proofs.Stream

/-!
# Runs from a script

A script holds two supplies, a list of words that is used up and a list of
bytes that is repeated.  A run takes one acceptable word for each packet, in
order, and passes over all other words on the way; its packets share out the
repeated bytes without a gap.  So a run of fetches succeeds exactly when the
acceptable words last for all packets that its sizes ask for, and then the
script alone says what all packets are.
-/

namespace PacketFeed

/-! ## Fillers of a script -/

namespace Script

/-- The words after the first acceptable one; none if no word is acceptable. -/
def beyond (words : List UInt64) : List UInt64 :=
  (words.dropWhile fun word => !Length.accepts word).tail

theorem beyond_cons_of_accepts {word : UInt64}
    (accepted : Length.accepts word = true) (words : List UInt64) :
    beyond (word :: words) = words := by
  simp [beyond, accepted]

theorem beyond_cons_of_rejects {word : UInt64}
    (rejected : Length.accepts word = false) (words : List UInt64) :
    beyond (word :: words) = beyond words := by
  simp [beyond, rejected]

theorem filter_beyond (words : List UInt64) :
    (beyond words).filter Length.accepts =
      (words.filter Length.accepts).tail := by
  induction words with
  | nil => rfl
  | cons word words induction =>
      cases accepted : Length.accepts word with
      | true =>
          rw [beyond_cons_of_accepts accepted,
            List.filter_cons_of_pos accepted, List.tail_cons]
      | false =>
          rw [beyond_cons_of_rejects accepted,
            List.filter_cons_of_neg (by simp [accepted])]
          exact induction

/-- A search that may look at all words stops at the first acceptable one. -/
theorem search_eq (script : Script) {attempts : Nat}
    (enough : script.words.length < attempts) :
    Length.search script attempts =
      ((script.words.find? Length.accepts).map Length.ofWord,
        { script with words := beyond script.words }) := by
  rcases script with ⟨words, bytes, cursor⟩
  induction words generalizing attempts with
  | nil =>
      cases attempts with
      | zero => rfl
      | succ attempts => rfl
  | cons word words induction =>
      cases attempts with
      | zero => cases enough
      | succ attempts =>
          have next :
              Source.word? (⟨word :: words, bytes, cursor⟩ : Script) =
                some (word, ⟨words, bytes, cursor⟩) :=
            rfl
          simp only [Length.search, next]
          cases accepted : Length.accepts word with
          | true =>
              simp only [if_true, beyond_cons_of_accepts accepted,
                List.find?_cons_of_pos accepted, Option.map_some]
          | false =>
              have later : words.length < attempts :=
                Nat.lt_of_succ_lt_succ enough
              simp only [Bool.false_eq_true, if_false, induction later,
                beyond_cons_of_rejects accepted, List.find?_cons, accepted]

theorem draw_eq (script : Script) :
    Length.draw script =
      (((script.words.filter Length.accepts).head?).map Length.ofWord,
        { script with words := beyond script.words }) := by
  rw [List.head?_filter]
  exact search_eq script (Nat.lt_succ_self _)

theorem draw_filler_of_nil {script : Script}
    (exhausted : script.words.filter Length.accepts = []) :
    Filler.draw script =
      (none, { script with words := beyond script.words }) := by
  simp only [Filler.draw, draw_eq, exhausted]
  rfl

theorem draw_filler_of_cons {script : Script} {word : UInt64}
    {later : List UInt64}
    (next : script.words.filter Length.accepts = word :: later) :
    Filler.draw script =
      (some ⟨Length.ofWord word, (script.take (Length.ofWord word)).1⟩,
        { script with
          words := beyond script.words
          cursor := script.cursor + Length.ofWord word }) := by
  simp only [Filler.draw, draw_eq, next]
  rfl

/-- The lengths of successive fillers come from the acceptable words. -/
theorem map_length_drawMany (script : Script) (count : Nat) :
    (Filler.drawMany count script).1.map Filler.length =
      ((script.words.filter Length.accepts).take count).map
        Length.ofWord := by
  induction count generalizing script with
  | zero => rfl
  | succ count induction =>
      cases acceptable : script.words.filter Length.accepts with
      | nil =>
          simp only [Filler.drawMany, draw_filler_of_nil acceptable]
          rfl
      | cons word later =>
          simp only [Filler.drawMany, draw_filler_of_cons acceptable,
            List.map_cons, List.take_succ_cons, induction, filter_beyond,
            acceptable, List.tail_cons]

/-- Successive fillers share out the repeated bytes without a gap. -/
theorem flatMap_bytes_drawMany (script : Script) (count : Nat) :
    ((Filler.drawMany count script).1.flatMap
        fun filler => filler.bytes.toList) =
      (List.range' script.cursor
        ((Filler.drawMany count script).1.map
          fun filler => filler.length.val).sum).map
        (byteAt script.bytes) := by
  induction count generalizing script with
  | zero => rfl
  | succ count induction =>
      cases acceptable : script.words.filter Length.accepts with
      | nil =>
          simp only [Filler.drawMany, draw_filler_of_nil acceptable]
          rfl
      | cons word later =>
          have first :
              (script.take (Length.ofWord word)).1.toList =
                (List.range' script.cursor
                  (Length.ofWord word).val).map (byteAt script.bytes) := by
            apply List.ext_getElem
            · simp
            · intro index left right
              simp [take]
          simp only [Filler.drawMany, draw_filler_of_cons acceptable,
            List.flatMap_cons, List.map_cons, List.sum_cons, induction, first]
          -- The second row starts at the byte where the first one stopped.
          rw [← List.range'_append_1, List.map_append]

end Script

/-! ## Repetition -/

/--
The first `count` bytes of the endless repetition of `bytes`, which is zeros
if there are no bytes.
-/
def cycled (bytes : List UInt8) (count : Nat) : List UInt8 :=
  if bytes = [] then
    List.replicate count 0
  else
    (List.replicate count bytes).flatten.take count

theorem getElem?_flatten_replicate {α : Type} (items : List α)
    {copies index : Nat} (inside : index < copies * items.length) :
    (List.replicate copies items).flatten[index]? =
      items[index % items.length]? := by
  induction copies generalizing index with
  | zero => simp at inside
  | succ copies induction =>
      rw [List.replicate_succ, List.flatten_cons, List.getElem?_append]
      split
      · rename_i first
        rw [Nat.mod_eq_of_lt first]
      · rename_i beyond
        have later : items.length ≤ index := Nat.le_of_not_lt beyond
        rw [Nat.succ_mul] at inside
        rw [induction (by omega), ← Nat.mod_eq_sub_mod later]

theorem cycled_eq_map_byteAt (bytes : Array UInt8) (count : Nat) :
    cycled bytes.toList count =
      (List.range count).map (Script.byteAt bytes) := by
  by_cases empty : bytes.toList = []
  · have size : bytes = #[] := Array.toList_eq_nil_iff.mp empty
    apply List.ext_getElem
    · simp [cycled, empty]
    · intro index left right
      simp [cycled, Script.byteAt, size]
  · have positive : 0 < bytes.toList.length :=
      List.length_pos_iff.mpr empty
    rw [cycled, if_neg empty]
    apply List.ext_getElem?
    intro index
    rw [List.getElem?_take]
    split
    · rename_i inside
      have within : index < count * bytes.toList.length :=
        Nat.lt_of_lt_of_le inside (Nat.le_mul_of_pos_right count positive)
      have place : index % bytes.size < bytes.size :=
        Nat.mod_lt index positive
      rw [getElem?_flatten_replicate _ within]
      simp [Script.byteAt, inside, place]
    · rename_i outside
      simp [outside]

namespace Generator

variable {σ : Type} [Source σ]

/-! ## Fetching into given buffers -/

/-- Fetch once into each of the buffers, one after the other. -/
def fetchEach (generator : Generator σ) : List Batch → List (Fetch σ)
  | [] => []
  | buffer :: buffers =>
      let result := generator.fetch buffer
      result :: result.generator.fetchEach buffers

/-- Every one of these fetches has succeeded. -/
def AllSucceed (results : List (Fetch σ)) : Prop :=
  ∀ result ∈ results, result.outcome = .ok .success

theorem allSucceed_fetchEach_cons (generator : Generator σ) (buffer : Batch)
    (buffers : List Batch) :
    AllSucceed (generator.fetchEach (buffer :: buffers)) ↔
      (generator.fetch buffer).outcome = .ok .success ∧
        AllSucceed
          ((generator.fetch buffer).generator.fetchEach buffers) := by
  simp only [AllSucceed, fetchEach, List.mem_cons, forall_eq_or_imp]

theorem length_fetchEach (generator : Generator σ) (buffers : List Batch) :
    (generator.fetchEach buffers).length = buffers.length := by
  induction buffers generalizing generator with
  | nil => rfl
  | cons buffer buffers induction =>
      rw [fetchEach, List.length_cons, induction, List.length_cons]

/-- Fetches that all succeed are a run. -/
theorem fetches_fetchEach {generator : Generator σ} {buffers : List Batch}
    (succeed : AllSucceed (generator.fetchEach buffers)) :
    ∃ last,
      generator.Fetches ((generator.fetchEach buffers).map Fetch.batch)
        last := by
  induction buffers generalizing generator with
  | nil => exact ⟨generator, .done⟩
  | cons buffer buffers induction =>
      rcases (allSucceed_fetchEach_cons _ _ _).mp succeed with ⟨first, later⟩
      rcases induction later with ⟨last, run⟩
      exact ⟨last, .step buffer first run⟩

/--
Fetches from a counter that fits succeed exactly when the source can fill as
many packets as their sizes ask for.
-/
theorem allSucceed_fetchEach_iff {generator : Generator σ}
    (fits : generator.pending.toNat ≤ batchCapacity) (buffers : List Batch) :
    AllSucceed (generator.fetchEach buffers) ↔
      (Filler.drawMany (sizes generator.pending buffers.length).sum
          generator.source).1.length =
        (sizes generator.pending buffers.length).sum := by
  induction buffers generalizing generator with
  | nil =>
      simp [AllSucceed, fetchEach, sizes, Filler.drawMany]
  | cons buffer buffers induction =>
      have total :
          (sizes generator.pending (buffer :: buffers).length).sum =
            generator.pending.toNat +
              (sizes (advance generator.pending) buffers.length).sum := by
        simp [sizes, List.iterate]
      rw [allSucceed_fetchEach_cons, total]
      by_cases complete :
          generator.upcoming.1.length = generator.pending.toNat
      · have ready : generator.Ready := ⟨fits, complete⟩
        rw [fetch_of_ready ready,
          induction (Nat.le_of_lt (toNat_advance_lt generator.pending)),
          Filler.drawMany_add _ _ _ complete, List.length_append]
        rw [upcoming] at complete
        simp only [true_and, complete, Nat.add_left_cancel_iff, upcoming]
      · -- A source that cannot fill the first batch cannot fill them all.
        constructor
        · rintro ⟨first, -⟩
          exact absurd (ready_of_outcome first).complete complete
        · intro enough
          rw [upcoming, Filler.drawMany_eq_take _ (Nat.le_add_right _ _),
            List.length_take, enough] at complete
          omega

/-! ## Runs from a script -/

/-- What fetches into given buffers show are fillers of the source. -/
theorem contents_fetchEach {generator : Generator σ} {buffers : List Batch}
    (succeed : AllSucceed (generator.fetchEach buffers)) :
    ((generator.fetchEach buffers).flatMap
        fun result => result.batch.packets).map Packet.contents =
      (Filler.drawMany (sizes generator.pending buffers.length).sum
        generator.source).1.map Filler.contents := by
  rcases fetches_fetchEach succeed with ⟨last, run⟩
  have total := run.length_produced
  rw [List.length_map, length_fetchEach] at total
  rw [← total, run.drawMany_produced.1, produced_eq_map_contents,
    List.flatMap_map]

theorem flatMap_bytes_contents (fillers : List Filler) :
    (fillers.map Filler.contents).flatMap Prod.snd =
      fillers.flatMap fun filler => filler.bytes.toList := by
  rw [List.flatMap_map]
  rfl

/--
The accounts of a run from a script.  Fetches into any buffers all succeed if
and only if there are at least as many acceptable words as their sizes add up
to.  If they do, the counts are these sizes, the lengths of all packets are
the first acceptable words, scaled to a length, and the payloads make up
one uninterrupted stretch of the repeated bytes.
-/
theorem scripted_run_accounts
    (words : List UInt64) (bytes : Array UInt8) {initial : UInt8}
    (fits : initial.toNat ≤ batchCapacity) (buffers : List Batch) :
    let acceptable := words.filter Length.accepts
    let due := (sizes initial buffers.length).sum
    let results :=
      (⟨initial, { words, bytes }⟩ : Generator Script).fetchEach buffers
    let packets := results.flatMap fun result => result.batch.packets
    (AllSucceed results ↔ due ≤ acceptable.length) ∧
      (AllSucceed results →
        (results.map fun result => result.batch.count.toNat) =
            sizes initial buffers.length ∧
          (packets.map fun packet => packet.len.toNat) =
            ((acceptable.take due).map fun word =>
              word.toNat * packetCapacity / UInt64.size) ∧
          packets.flatMap Packet.payload =
            cycled bytes.toList
              (packets.map fun packet => packet.len.toNat).sum) := by
  intro acceptable due results packets
  have lengths :
      (Filler.drawMany due ({ words, bytes } : Script)).1.map Filler.length =
        (acceptable.take due).map Length.ofWord :=
    Script.map_length_drawMany _ due
  constructor
  · have count := congrArg List.length lengths
    rw [List.length_map, List.length_map, List.length_take] at count
    rw [allSucceed_fetchEach_iff fits buffers]
    show (Filler.drawMany due ({ words, bytes } : Script)).1.length = due ↔ _
    omega
  · intro succeed
    have shown := contents_fetchEach succeed
    have packetLengths :
        (packets.map fun packet => packet.len.toNat) =
          (Filler.drawMany due ({ words, bytes } : Script)).1.map
            fun filler => filler.length.val := by
      rw [← Filler.map_toNat_contents, ← shown, List.map_map]
      rfl
    refine ⟨?_, ?_, ?_⟩
    · rcases fetches_fetchEach succeed with ⟨last, run⟩
      have counts := run.map_toNat_count
      rw [List.map_map, List.length_map, length_fetchEach] at counts
      exact counts
    · have values := congrArg (List.map Fin.val) lengths
      rw [List.map_map, List.map_map] at values
      rw [packetLengths]
      exact values
    · have payloads :
          packets.flatMap Packet.payload =
            (Filler.drawMany due ({ words, bytes } : Script)).1.flatMap
              fun filler => filler.bytes.toList := by
        rw [← flatMap_bytes_contents, ← shown, List.flatMap_map]
        rfl
      rw [payloads, packetLengths, cycled_eq_map_byteAt,
        List.range_eq_range']
      exact Script.flatMap_bytes_drawMany _ due

/--
Batches of three, none and five packets use up ten words, two of which are
passed over, and the next two packets cannot be filled.
-/
theorem scripted_run_accounts_eight :
    let words : List UInt64 :=
      [0, 12297829382473035, 0xffffffffffffffff, 0x4000000000000000,
        24595658764946070, 12297829382473034, 0, 0, 12297829382473035,
        12297829382473035]
    let generator : Generator Script := ⟨3, { words, bytes := #[7, 9, 11] }⟩
    let results := generator.fetchEach (List.replicate 3 Batch.zero)
    let packets := results.flatMap fun result => result.batch.packets
    AllSucceed results ∧
      ¬ AllSucceed (generator.fetchEach (List.replicate 4 Batch.zero)) ∧
      (packets.map fun packet => packet.len.toNat) =
        [0, 1, 375, 2, 0, 0, 1, 1] ∧
      packets.flatMap Packet.payload = cycled [7, 9, 11] 380 := by
  intro words generator results packets
  have fits : (3 : UInt8).toNat ≤ batchCapacity := by decide
  rcases scripted_run_accounts words #[7, 9, 11] fits
      (List.replicate 3 Batch.zero) with ⟨enough, accounts⟩
  have succeed : AllSucceed results := enough.mpr (by decide +kernel)
  rcases accounts succeed with ⟨-, lengths, payloads⟩
  have values :
      (packets.map fun packet => packet.len.toNat) =
        [0, 1, 375, 2, 0, 0, 1, 1] :=
    lengths.trans (by decide +kernel)
  refine ⟨succeed, ?_, values, ?_⟩
  · rw [(scripted_run_accounts words #[7, 9, 11] fits
      (List.replicate 4 Batch.zero)).1]
    decide +kernel
  · rw [values] at payloads
    exact payloads

end Generator

end PacketFeed
