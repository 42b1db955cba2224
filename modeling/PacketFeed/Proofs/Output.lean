import PacketFeed.Command.Run
import PacketFeed.Proofs.Abort
import PacketFeed.Proofs.Rounds

/-!
# What a run prints

A run that fetches prints one block of lines for each batch, and the blocks
are those of a generator that somebody fetches from directly.  A first size
above the capacity ends the process before anything is printed.
-/

namespace PacketFeed

/-- The size of batch number `index` of a run that starts with `first`. -/
def Generator.sizeAt (first : UInt8) (index : Nat) : Nat :=
  if index = 0 then first.toNat
  else (first.toNat + 13 * index) % 8

theorem Generator.toNat_pending_afterFetches {first : UInt8}
    (fits : first.toNat ≤ batchCapacity) (index : Nat) :
    ((ofInitial first).afterFetches index).pending.toNat =
      sizeAt first index := by
  rw [(unfailing_ofInitial fits).pending_afterFetches]
  cases index with
  | zero => rfl
  | succ index => exact toNat_iterate_advance first index

namespace Command

/-- The arguments are understood, and ask for a session. -/
structure AsksForSession (arguments : List String) (options : Options) :
    Prop where
  parsed : read arguments = .ok (.run options)
  fetches : options.emit = none

theorem AsksForSession.appearance_eq {arguments : List String}
    {options : Options} {circumstances : Circumstances}
    (asks : AsksForSession arguments options) :
    appearance arguments circumstances =
      (Session.transcript options circumstances).appearance circumstances := by
  simp only [appearance, run, asks.parsed, execute, asks.fetches]

/-- Nobody interrupts the run and there is memory for its context. -/
structure Circumstances.Undisturbed (circumstances : Circumstances) :
    Prop where
  uninterrupted : circumstances.interrupt = none
  allocates : circumstances.allocates = true

namespace Session

theorem roundCount_of_uninterrupted {options : Options}
    (bounded : options.batches ≠ 0) :
    roundCount options none = options.batches.toNat := by
  have positive : options.batches.toNat ≠ 0 := by
    intro zero
    exact bounded (UInt64.toNat_inj.mp zero)
  simp only [roundCount, if_neg positive, Option.getD_none, Nat.min_self]

theorem roundCount_ne_zero (options : Options) :
    roundCount options none ≠ 0 := by
  by_cases bounded : options.batches = 0
  · simp [roundCount, bounded]
  · rw [roundCount_of_uninterrupted bounded]
    intro zero
    exact bounded (UInt64.toNat_inj.mp zero)

theorem conclusion_of_uninterrupted {options : Options}
    (bounded : options.batches ≠ 0) (session : Session) :
    conclusion options none session = (session.close, .finished) := by
  simp only [conclusion, isInterrupted, Bool.false_eq_true, if_false,
    if_neg bounded]

theorem announcement_of_bounded {options : Options}
    (bounded : options.batches ≠ 0) :
    announcement options = .fetchingBatches options.batches :=
  if_neg bounded

/-- An undisturbed session over a number of batches has that many rounds. -/
theorem transcript_of_bounded {options : Options}
    {circumstances : Circumstances} (undisturbed : circumstances.Undisturbed)
    (bounded : options.batches ≠ 0)
    (fits : options.first.toNat ≤ batchCapacity) :
    let fetched :=
      rounds options circumstances.coloured (start options.first) 0
        options.batches.toNat
    transcript options circumstances =
      ⟨fetched.output,
        [.created 0 options.first, .fetchingBatches options.batches] ++
          fetched.events ++ [.deleting 0],
        .finished⟩ := by
  rcases transcript_of_fits undisturbed.allocates fits with
    ⟨last, -, closed, transcript⟩
  rw [undisturbed.uninterrupted, conclusion_of_uninterrupted bounded,
    roundCount_of_uninterrupted bounded, closed,
    announcement_of_bounded bounded] at transcript
  exact transcript

theorem output_rounds_of_fits {first : UInt8}
    (fits : first.toNat ≤ batchCapacity) (options : Options)
    (coloured : Bool) (count : UInt64) :
    (rounds options coloured (start first) 0 count.toNat).output =
      (List.range count.toNat).flatMap fun index =>
        block coloured options.dump index (Generator.sizeAt first index)
          ((Generator.ofInitial first).afterFetches index).lengths := by
  have room : (0 : UInt64).toNat + count.toNat ≤ UInt64.size := by
    rw [UInt64.toNat_zero, Nat.zero_add]
    exact Nat.le_of_lt count.toNat_lt_size
  rw [output_rounds_of_ready (generator?_start first)
    (Generator.unfailing_ofInitial fits) options coloured room]
  simp only [UInt64.toNat_zero, Nat.zero_add,
    Generator.toNat_pending_afterFetches fits]

/--
Round number `index` of `total` rounds: so far nothing has failed, the counter
of the loop stands at `index`, the fetch succeeds, and the counter moves on
without wrapping round.
-/
def Proceeds (options : Options) (coloured : Bool) (opened : Session)
    (total index : Nat) : Prop :=
  ∃ session counter events next,
    (rounds options coloured opened 0 index).result = .ok session ∧
      rounds options coloured opened 0 total =
        (rounds options coloured opened 0 index).followedBy
          (rounds options coloured session counter (total - index)) ∧
      counter.toNat = index ∧
      session.fetch = (events, .ok next) ∧
      (counter + 1).toNat = index + 1

theorem proceeds_of_fits {first : UInt8}
    (fits : first.toNat ≤ batchCapacity) (options : Options)
    (coloured : Bool) {total index : Nat} (bound : total < UInt64.size)
    (inside : index < total) :
    Proceeds options coloured (start first) total index := by
  have unfailing := Generator.unfailing_ofInitial fits
  rcases rounds_of_ready (generator?_start first) unfailing options coloured
      0 index with
    ⟨session, passed, -, -, serves, -⟩
  rcases fetch_of_ready serves (unfailing index) with ⟨next, fetched, -⟩
  have small : index < UInt64.size := Nat.lt_trans inside bound
  have counter : (0 + UInt64.ofNat index).toNat = index := by
    rw [UInt64.zero_add]
    exact Nat.mod_eq_of_lt small
  refine ⟨session, 0 + UInt64.ofNat index, _, next, passed, ?_, counter,
    fetched, ?_⟩
  · rw [← rounds_add passed, Nat.add_sub_of_le (Nat.le_of_lt inside)]
  · rw [UInt64.toNat_add, counter, UInt64.toNat_one]
    exact Nat.mod_eq_of_lt (Nat.lt_of_le_of_lt inside bound)

end Session

/--
The law of the output.  Let the arguments ask for a session, let there be
memory for its context and let nobody interrupt it.  A first size within the
capacity and a number of batches lead to the exit code 0 and to one block for
each batch, in order: the line of the batch with its number, its size and the
total of its lengths, and if wanted a line for each packet.  Sizes follow the
first one in steps of 13 modulo 8, and lengths are those of a generator that
is fetched from directly.  No round fails and the counter of the loop stays
within its 64 bits.  A first size above the capacity ends the process with
signal 6 and a message, and nothing is printed.
-/
theorem output_of_run {arguments : List String} {options : Options}
    {circumstances : Circumstances}
    (asks : AsksForSession arguments options)
    (undisturbed : circumstances.Undisturbed) :
    let seen := appearance arguments circumstances
    let generator := Generator.ofInitial options.first
    (options.first.toNat ≤ 8 → options.batches ≠ 0 →
        seen.ending.exitCode? = some 0 ∧ seen.ending.signal? = none ∧
          seen.text =
            String.join
              ((List.range options.batches.toNat).flatMap fun index =>
                block circumstances.coloured options.dump index
                  (Generator.sizeAt options.first index)
                  (generator.afterFetches index).lengths) ∧
          (∀ index,
            (generator.afterFetches index).lengths.length =
              Generator.sizeAt options.first index) ∧
          ∃ created opened,
            Session.create options circumstances.allocates =
                (created, .ok opened) ∧
              ∀ index < options.batches.toNat,
                Session.Proceeds options circumstances.coloured opened
                  options.batches.toNat index) ∧
      (8 < options.first.toNat →
        seen.text = "" ∧ seen.ending.exitCode? = none ∧
          seen.ending.signal? = some 6 ∧
          seen.complaints.getLast? =
            some ("batch size " ++ toString options.first ++
              " exceeds capacity 8")) := by
  intro seen generator
  have shape : seen = _ := asks.appearance_eq
  constructor
  · intro fits bounded
    rw [shape, Session.transcript_of_bounded undisturbed bounded fits,
      Session.output_rounds_of_fits fits]
    refine ⟨rfl, rfl, rfl, ?_, ?_⟩
    · intro index
      rw [Generator.length_lengths (Generator.unfailing_ofInitial fits index),
        Generator.toNat_pending_afterFetches fits]
    · refine
        ⟨[.created 0 options.first], Session.start options.first, ?_, ?_⟩
      · rw [undisturbed.allocates]
        exact Session.create_eq_start options
      · intro index inside
        exact Session.proceeds_of_fits fits options circumstances.coloured
          (UInt64.toNat_lt_size _) inside
  · intro oversized
    have fetches :
        Session.roundCount options circumstances.interrupt ≠ 0 := by
      rw [undisturbed.uninterrupted]
      exact Session.roundCount_ne_zero options
    rw [shape, Session.transcript_of_oversized undisturbed.allocates oversized
      fetches]
    refine ⟨rfl, rfl, rfl, ?_⟩
    rw [← Fault.message_overCapacity]
    exact List.getLast?_concat

/--
A batch of three with the lines of its packets and an empty batch after it,
and a first size of nine.
-/
theorem output_of_run_three :
    let seen := appearance ["--initial=3", "--dump", "--batches", "2"] {}
    let aborted := appearance ["--batches=0", "--initial", "9"] {}
    (seen.ending.exitCode? = some 0 ∧
        seen.text =
          "batch 0: 3 packets, 3482 bytes\n  pkt 0: len 1358\n" ++
            "  pkt 1: len 1451\n  pkt 2: len 673\n" ++
            "batch 1: 0 packets, 0 bytes\n") ∧
      aborted.text = "" ∧ aborted.ending.signal? = some 6 ∧
      aborted.complaints.getLast? =
        some "batch size 9 exceeds capacity 8" := by
  intro seen aborted
  have three :
      AsksForSession ["--initial=3", "--dump", "--batches", "2"]
        { initial := some 3, batches := 2, dump := true } :=
    ⟨rfl, rfl⟩
  have nine :
      AsksForSession ["--batches=0", "--initial", "9"]
        { initial := some 9, batches := 0 } :=
    ⟨rfl, rfl⟩
  have first :
      ((Generator.ofInitial 3).afterFetches 0).lengths = [1358, 1451, 673] := by
    decide +kernel
  have second :
      ((Generator.ofInitial 3).afterFetches 1).lengths = [] := by
    have size := Generator.length_lengths
      (@Generator.unfailing_ofInitial 3 (by decide) 1)
    rw [Generator.toNat_pending_afterFetches (by decide)] at size
    exact List.eq_nil_of_length_eq_zero size
  rcases @output_of_run _ _ {} three ⟨rfl, rfl⟩ with ⟨printed, -⟩
  rcases printed (by decide) (by decide) with ⟨exit, -, text, -⟩
  rcases @output_of_run _ _ {} nine ⟨rfl, rfl⟩ with ⟨-, ended⟩
  rcases ended (by decide) with ⟨nothing, -, signal, message⟩
  have numbers : List.range (2 : UInt64).toNat = [0, 1] := by
    decide
  refine ⟨⟨exit, text.trans ?_⟩, nothing, signal, message.trans ?_⟩
  · show String.join
        ((List.range (2 : UInt64).toNat).flatMap fun index =>
          block false true index (Generator.sizeAt 3 index)
            ((Generator.ofInitial 3).afterFetches index).lengths) = _
    rw [numbers, List.flatMap_cons, List.flatMap_cons, List.flatMap_nil,
      first, second]
    decide +kernel
  · decide +kernel

end Command

end PacketFeed
