import Mathlib.Data.List.Iterate
import Mathlib.Data.List.Nodup
import Mathlib.Data.List.Perm.Subperm
import Mathlib.Data.Nat.ModEq
import PacketFeed.Proofs.Fetch
import PacketFeed.Source.Script

/-!
# The sizes of batches

The counter decides the sizes of all batches of a run, whatever the source
delivers and whatever the buffers held.  The first size is the first counter;
after that the sizes go round the residues of the batch capacity in steps of
the stride.  Since the two have no common divisor, each round meets every size
below the capacity once.
-/

namespace PacketFeed.Generator

variable {σ : Type} [Source σ]

/-! ## Going round -/

/-- From the second size on, the sizes are residues of the capacity. -/
theorem toNat_iterate_advance (initial : UInt8) (count : Nat) :
    (advance^[count + 1] initial).toNat =
      (initial.toNat + stride * (count + 1)) % batchCapacity := by
  induction count with
  | zero =>
      rw [Nat.zero_add, Function.iterate_one, toNat_advance, Nat.mul_one]
  | succ count induction =>
      rw [Function.iterate_succ_apply', toNat_advance, induction,
        Nat.mod_add_mod, Nat.add_assoc, ← Nat.mul_succ]

/-- A first size below the capacity is a residue like all later ones. -/
theorem toNat_iterate_advance_of_lt {initial : UInt8}
    (below : initial.toNat < batchCapacity) (count : Nat) :
    (advance^[count] initial).toNat =
      (initial.toNat + stride * count) % batchCapacity := by
  cases count with
  | zero =>
      rw [Nat.mul_zero, Nat.add_zero, Nat.mod_eq_of_lt below]
      rfl
  | succ count => exact toNat_iterate_advance initial count

/--
Steps without a common divisor with the number of places visit every place
once per round, wherever the round starts.
-/
theorem residues_perm {places step : Nat} (coprime : Nat.gcd places step = 1)
    (positive : 0 < places) (start : Nat) :
    ((List.range places).map fun index => (start + step * index) % places).Perm
      (List.range places) := by
  have distinct :
      ((List.range places).map
        fun index => (start + step * index) % places).Nodup := by
    refine List.Nodup.map_on ?_ List.nodup_range
    intro left leftInside right rightInside equal
    have congruent : start + step * left ≡ start + step * right [MOD places] :=
      equal
    exact Nat.ModEq.eq_of_lt_of_lt
      (Nat.ModEq.cancel_left_of_coprime coprime
        (Nat.ModEq.add_left_cancel' start congruent))
      (List.mem_range.mp leftInside) (List.mem_range.mp rightInside)
  have inside :
      ((List.range places).map fun index => (start + step * index) % places) ⊆
        List.range places := by
    intro place member
    rcases List.mem_map.mp member with ⟨index, -, rfl⟩
    exact List.mem_range.mpr (Nat.mod_lt _ positive)
  refine (List.subperm_of_subset distinct inside).perm_of_length_le ?_
  rw [List.length_map]

/-- The sizes from `initial` on, `count` of them, as numbers. -/
def sizes (initial : UInt8) (count : Nat) : List Nat :=
  (List.iterate advance initial count).map UInt8.toNat

theorem sizes_eq_residues {initial : UInt8}
    (below : initial.toNat < batchCapacity) (count : Nat) :
    sizes initial count =
      (List.range count).map fun index =>
        (initial.toNat + stride * index) % batchCapacity := by
  rw [sizes, ← List.range_map_iterate, List.map_map]
  apply List.map_congr_left
  intro index _
  exact toNat_iterate_advance_of_lt below index

/-- One round meets every size below the capacity once. -/
theorem sizes_round_perm {initial : UInt8}
    (below : initial.toNat < batchCapacity) :
    (sizes initial batchCapacity).Perm (List.range batchCapacity) := by
  rw [sizes_eq_residues below]
  exact residues_perm (by decide) (by decide) initial.toNat

/-- The total of whole rounds. -/
theorem sum_sizes_rounds {initial : UInt8}
    (below : initial.toNat < batchCapacity) (rounds : Nat) :
    (sizes initial (batchCapacity * rounds)).sum = 28 * rounds := by
  induction rounds generalizing initial with
  | zero => rfl
  | succ rounds induction =>
      have round : (sizes initial batchCapacity).sum = 28 :=
        (sizes_round_perm below).sum_nat
      have later :
          (advance^[batchCapacity] initial).toNat < batchCapacity := by
        rw [toNat_iterate_advance_of_lt below]
        exact Nat.mod_lt _ (by decide)
      have split :
          sizes initial (batchCapacity * (rounds + 1)) =
            sizes initial batchCapacity ++
              sizes (advance^[batchCapacity] initial)
                (batchCapacity * rounds) := by
        rw [Nat.mul_succ, Nat.add_comm, sizes, List.iterate_add,
          List.map_append]
        rfl
      rw [split, List.sum_append, round, induction later]
      omega

/-- A full first batch takes the place of an empty one. -/
theorem sum_sizes_rounds_of_full {initial : UInt8}
    (full : initial.toNat = batchCapacity) {rounds : Nat}
    (positive : 1 ≤ rounds) :
    (sizes initial (batchCapacity * rounds)).sum = 28 * rounds + 8 := by
  obtain ⟨count, length⟩ :
      ∃ count, batchCapacity * rounds = count + 1 :=
    Nat.exists_eq_succ_of_ne_zero
      (Nat.mul_ne_zero (by decide) (Nat.one_le_iff_ne_zero.mp positive))
  have start : initial = 8 := UInt8.toNat_inj.mp full
  have next : advance initial = advance 0 := by
    rw [start]
    decide
  have fromEmpty : (sizes 0 (batchCapacity * rounds)).sum = 28 * rounds :=
    sum_sizes_rounds (by decide) rounds
  rw [length] at fromEmpty ⊢
  simp only [sizes, List.iterate, List.map_cons, List.sum_cons, next, full,
    UInt8.toNat_zero, Nat.zero_add] at fromEmpty ⊢
  rw [fromEmpty, Nat.add_comm]

/-! ## Sizes along a run -/

/-- The counts of a run are the counters of its generators. -/
theorem Fetches.map_count
    {generator last : Generator σ} {batches : List Batch}
    (run : generator.Fetches batches last) :
    batches.map Batch.count =
        List.iterate advance generator.pending batches.length ∧
      last.pending = advance^[batches.length] generator.pending := by
  induction run with
  | done => exact ⟨rfl, rfl⟩
  | @step generator last batches buffer succeeds rest induction =>
      have ready := ready_of_outcome succeeds
      have next :
          (generator.fetch buffer).generator.pending =
            advance generator.pending := by
        rw [fetch_of_ready ready]
      rw [next] at induction
      rw [List.map_cons, count_fetch ready, List.length_cons, List.iterate,
        Function.iterate_succ_apply]
      exact ⟨congrArg (_ :: ·) induction.1, induction.2⟩

theorem Fetches.map_toNat_count
    {generator last : Generator σ} {batches : List Batch}
    (run : generator.Fetches batches last) :
    (batches.map fun batch => batch.count.toNat) =
      sizes generator.pending batches.length := by
  rw [sizes, ← run.map_count.1, List.map_map]
  rfl

/-- Every batch of a run counts at most its slots. -/
theorem Fetches.count_le
    {generator last : Generator σ} {batches : List Batch}
    (run : generator.Fetches batches last)
    {batch : Batch} (member : batch ∈ batches) :
    batch.count.toNat ≤ batchCapacity := by
  induction run with
  | done => cases member
  | @step generator last batches buffer succeeds rest induction =>
      have ready := ready_of_outcome succeeds
      rcases List.mem_cons.mp member with rfl | later
      · rw [count_fetch ready]
        exact ready.fits
      · exact induction later

/-- The number of packets of a run is the total of its sizes. -/
theorem Fetches.length_produced
    {generator last : Generator σ} {batches : List Batch}
    (run : generator.Fetches batches last) :
    (produced batches).length =
      (sizes generator.pending batches.length).sum := by
  rw [← run.map_toNat_count, produced, List.length_flatMap]
  congr 1
  apply List.map_congr_left
  intro batch member
  rw [Batch.length_contents, Nat.min_eq_left (run.count_le member)]

/-- The size of each batch of a run, counted from its start. -/
theorem Fetches.count_getElem?
    {generator last : Generator σ} {batches : List Batch}
    (run : generator.Fetches batches last)
    {index : Nat} {batch : Batch} (found : batches[index]? = some batch) :
    batch.count = advance^[index] generator.pending := by
  rcases List.getElem?_eq_some_iff.mp found with ⟨inside, -⟩
  have counted : (batches.map Batch.count)[index]? = some batch.count := by
    rw [List.getElem?_map, found]
    rfl
  rw [run.map_count.1, List.getElem?_iterate _ _ _ _ inside] at counted
  exact (Option.some.inj counted).symm

/--
The law of sizes.  The first batch has the size of the first counter and batch
`index` the residue of that plus `index` strides; so has the counter after the
run.  Any successive fetches, as many as there are slots, from a counter below
the capacity have each of the sizes below the capacity once.  Whole rounds of
fetches therefore give a fixed number of packets.
-/
theorem sizes_of_fetches
    {initial : UInt8} {source : σ}
    {batches : List Batch} {last : Generator σ}
    (run : (⟨initial, source⟩ : Generator σ).Fetches batches last) :
    (∀ (index : Nat) (batch : Batch), batches[index]? = some batch →
        batch.count.toNat =
          if index = 0 then initial.toNat
          else (initial.toNat + stride * index) % batchCapacity) ∧
      (batches ≠ [] →
        last.pending.toNat =
          (initial.toNat + stride * batches.length) % batchCapacity) ∧
      (∀ (generator final : Generator σ) (round : List Batch),
        generator.Fetches round final →
        round.length = batchCapacity →
        generator.pending.toNat < batchCapacity →
        (round.map fun batch => batch.count.toNat).Perm
          (List.range batchCapacity)) ∧
      ∀ rounds : Nat, batches.length = batchCapacity * rounds →
        (initial.toNat < batchCapacity →
          (produced batches).length = 28 * rounds) ∧
        (initial.toNat = batchCapacity → 1 ≤ rounds →
          (produced batches).length = 28 * rounds + 8) := by
  refine ⟨?_, ?_, ?_, ?_⟩
  · intro index batch found
    rw [run.count_getElem? found]
    cases index with
    | zero => rfl
    | succ index => exact toNat_iterate_advance initial index
  · intro nonempty
    obtain ⟨count, length⟩ : ∃ count, batches.length = count + 1 :=
      Nat.exists_eq_succ_of_ne_zero (by simpa using nonempty)
    rw [run.map_count.2, length]
    exact toNat_iterate_advance initial count
  · intro generator final round roundRun length below
    rw [roundRun.map_toNat_count, length]
    exact sizes_round_perm below
  · intro rounds length
    rw [run.length_produced, length]
    exact ⟨fun below => sum_sizes_rounds below rounds,
      fun full positive => sum_sizes_rounds_of_full full positive⟩

/-- A round that starts with a full batch. -/
theorem sizes_of_fetches_from_full :
    let script : Script := { words := List.replicate 36 0, bytes := #[1] }
    let series := (⟨8, script⟩ : Generator Script).fetchMany Batch.zero 8
    series.fault = none ∧ series.batches.length = 8 ∧
      (∀ batch, series.batches[5]? = some batch → batch.count.toNat = 1) ∧
      series.generator.pending.toNat = 0 ∧
      (produced series.batches).length = 36 := by
  intro script series
  have faultless : series.fault = none := by decide +kernel
  have length : series.batches.length = 8 := by decide +kernel
  have nonempty : series.batches ≠ [] :=
    List.ne_nil_of_length_pos (by rw [length]; decide)
  rcases sizes_of_fetches (fetches_fetchMany _ _ _ faultless) with
    ⟨counts, pending, -, total⟩
  refine ⟨faultless, length, counts 5, ?_, ?_⟩
  · rw [pending nonempty, length]
    rfl
  · exact (total 1 length).2 rfl (Nat.le_refl 1)

end PacketFeed.Generator
