import PacketFeed.Command.Session
import PacketFeed.Proofs.Calls
import PacketFeed.Proofs.Endurance
import PacketFeed.Proofs.Reuse
import PacketFeed.Proofs.Sizes

/-!
# The rounds of a session

A session owns one context and one buffer.  As long as the generator behind
its handle is ready, a round prints the lines of one batch, logs one event and
leaves the session with the generator's successor; a counter above the
capacity ends the process in the first round.  What a number of rounds prints
and logs is put together from that, batch by batch.

The lines of a batch are given here by the lengths of its packets alone.  That
the program takes the total from the payloads and the single lengths from the
packets makes no difference, since a fetched packet is never longer than its
buffer.
-/

namespace PacketFeed

/-! ## Lengths of a batch -/

theorem Batch.payloadBytes_eq_sum (batch : Batch) :
    batch.payloadBytes =
      (batch.packets.map fun packet => packet.payload.length).sum := by
  rw [payloadBytes, List.sum_eq_foldr, List.foldr_map]

namespace Generator

/-- The lengths of the packets that a fetch into a fresh buffer gives. -/
def lengths (generator : Generator Keystream) : List Nat :=
  (generator.fetch Batch.zero).batch.packets.map
    fun packet => packet.len.toNat

variable {generator : Generator Keystream}

theorem lengths_fetch (ready : generator.Ready) (buffer : Batch) :
    ((generator.fetch buffer).batch.packets.map
      fun packet => packet.len.toNat) = generator.lengths := by
  rw [lengths, (packets_fetch ready buffer).1,
    (packets_fetch ready Batch.zero).1]

theorem length_lengths (ready : generator.Ready) :
    generator.lengths.length = generator.pending.toNat := by
  rw [lengths, (packets_fetch ready Batch.zero).1, List.length_map,
    ready.complete]

/-- The payloads of fetched packets are as long as their lengths say. -/
theorem payloadBytes_fetch (ready : generator.Ready) (buffer : Batch) :
    (generator.fetch buffer).batch.payloadBytes = generator.lengths.sum := by
  rw [Batch.payloadBytes_eq_sum, ← lengths_fetch ready buffer]
  congr 1
  apply List.map_congr_left
  intro packet member
  exact ((packets_fetch ready buffer).2 packet member).2

/-- Every fetch succeeds, however many have gone before. -/
def Unfailing (generator : Generator Keystream) : Prop :=
  ∀ count, (generator.afterFetches count).Ready

theorem unfailing_ofInitial {first : UInt8}
    (fits : first.toNat ≤ batchCapacity) : (ofInitial first).Unfailing := by
  intro count
  exact ((usual_ofInitial first).ready_afterFetches fits count).1

theorem Unfailing.ready (unfailing : generator.Unfailing) : generator.Ready :=
  unfailing 0

theorem Unfailing.next (unfailing : generator.Unfailing) :
    (generator.fetch Batch.zero).generator.Unfailing := by
  intro count
  exact unfailing (count + 1)

theorem Unfailing.pending_next (unfailing : generator.Unfailing) :
    (generator.fetch Batch.zero).generator.pending =
      advance generator.pending := by
  rw [fetch_of_ready unfailing.ready]

theorem Unfailing.pending_afterFetches (unfailing : generator.Unfailing)
    (count : Nat) :
    (generator.afterFetches count).pending =
      advance^[count] generator.pending := by
  induction count generalizing generator with
  | zero => rfl
  | succ count induction =>
      rw [afterFetches, induction unfailing.next, unfailing.pending_next,
        Function.iterate_succ_apply]

end Generator

namespace Command

/-- The size of the first batch, given or not. -/
def Options.first (options : Options) : UInt8 :=
  options.initial.getD legacyInitial

/--
The lines about batch number `index` with `size` packets of the given lengths,
character by character.
-/
def block (coloured dump : Bool) (index size : Nat) (lengths : List Nat) :
    List String :=
  ((if coloured then "\x1b[32mbatch\x1b[0m" else "batch") ++ " " ++
      toString index ++ ": " ++ toString size ++ " packets, " ++
      toString lengths.sum ++ " bytes\n") ::
    if dump then
      lengths.mapIdx fun position length =>
        "  " ++ (if coloured then "\x1b[36mpkt\x1b[0m" else "pkt") ++ " " ++
          toString position ++ ": len " ++ toString length ++ "\n"
    else
      []

theorem batchWord_eq (coloured : Bool) :
    batchWord coloured =
      if coloured then "\x1b[32mbatch\x1b[0m" else "batch" := by
  cases coloured <;> rfl

theorem packetWord_eq (coloured : Bool) :
    packetWord coloured =
      if coloured then "\x1b[36mpkt\x1b[0m" else "pkt" := by
  cases coloured <;> rfl

/-- What is printed about a fetched batch depends on its lengths alone. -/
theorem batchLines_fetch {generator : Generator Keystream}
    (ready : generator.Ready) (buffer : Batch) (options : Options)
    (coloured : Bool) (index : UInt64) :
    batchLines options coloured index (generator.fetch buffer).batch =
      block coloured options.dump index.toNat generator.pending.toNat
        generator.lengths := by
  have lines :
      packetLines coloured (generator.fetch buffer).batch =
        generator.lengths.mapIdx fun position length =>
          "  " ++ (if coloured then "\x1b[36mpkt\x1b[0m" else "pkt") ++ " " ++
            toString position ++ ": len " ++ toString length ++ "\n" := by
    rw [packetLines, ← Generator.lengths_fetch ready buffer]
    apply List.ext_getElem
    · simp only [List.length_mapIdx, List.length_map]
    · intro position _ _
      simp only [List.getElem_mapIdx, List.getElem_map, packetLine,
        packetWord_eq]
      rfl
  rw [batchLines, block, lines, batchLine, batchWord_eq,
    Generator.count_fetch ready, Generator.payloadBytes_fetch ready]
  rfl

namespace Session

/-! ## One fetch -/

/-- The generator behind the handle of a session. -/
def generator? (session : Session) : Option (Generator Keystream) :=
  session.boundary.context? (some session.handle)

variable {session : Session} {generator : Generator Keystream}

theorem fetch_of_ready (serving : session.generator? = some generator)
    (ready : generator.Ready) :
    ∃ next,
      session.fetch =
          ([.fetched generator.pending (Generator.advance generator.pending)],
            .ok next) ∧
        next.handle = session.handle ∧
        next.boundary.contexts.length = session.boundary.contexts.length ∧
        next.generator? = some (generator.fetch Batch.zero).generator ∧
        next.batch = (generator.fetch session.batch).batch := by
  have reply := Boundary.fetch_of_ready serving ready buffer
  have context :=
    Boundary.context?_fetch_of_ready serving ready buffer session.handle
  rw [if_pos rfl, generator.generator_fetch_eq _ Batch.zero] at context
  refine
    ⟨⟨(session.boundary.fetch (some session.handle) (some buffer)).2,
        session.handle⟩, ?_, rfl, ?_, context, ?_⟩
  · simp only [fetch, Boundary.step, reply]
    rfl
  · rw [reply]
    exact List.length_set
  · rw [reply]
    show (Buffers.set _ _ _).get buffer = _
    rw [Buffers.get_set, if_pos rfl]
    rfl

theorem fetch_of_oversized (serving : session.generator? = some generator)
    (oversized : batchCapacity < generator.pending.toNat) :
    session.fetch =
      ([], .error (.fatal (.overCapacity generator.pending))) := by
  have failure :=
    Generator.fetch_of_oversized oversized
      (session.boundary.buffers.get buffer)
  have reply :=
    Boundary.fetch_of_fault serving
      (congrArg Generator.Fetch.outcome failure)
  simp only [fetch, Boundary.step, reply, failure]

/-- A session deletes the context that it has been using. -/
theorem close_of_serving (serving : session.generator? = some generator) :
    session.close = [.deleting session.handle] := by
  rw [generator?] at serving
  simp only [close, Boundary.step, Boundary.delete, serving]

/-! ## Rounds -/

/-- Rounds with more rounds after them. -/
def Rounds.followedBy (earlier later : Rounds) : Rounds where
  output := earlier.output ++ later.output
  events := earlier.events ++ later.events
  result := later.result

theorem Rounds.followedBy_assoc (first second third : Rounds) :
    (first.followedBy second).followedBy third =
      first.followedBy (second.followedBy third) := by
  simp only [followedBy, List.append_assoc]

theorem rounds_succ_of_ok {next : Session} {events : List Log.Event}
    (fetched : session.fetch = (events, .ok next)) (options : Options)
    (coloured : Bool) (index : UInt64) (count : Nat) :
    rounds options coloured session index (count + 1) =
      Rounds.followedBy
        ⟨batchLines options coloured index next.batch, events, .ok next⟩
        (rounds options coloured next (index + 1) count) := by
  simp only [rounds, fetched]
  rfl

theorem rounds_succ_of_error {setback : Setback} {events : List Log.Event}
    (fetched : session.fetch = (events, .error setback)) (options : Options)
    (coloured : Bool) (index : UInt64) (count : Nat) :
    rounds options coloured session index (count + 1) =
      ⟨[], events ++ (session.abandon index setback).1,
        .error (session.abandon index setback).2⟩ := by
  simp only [rounds, fetched]

/-- Rounds do not fail and log the sizes, one event each. -/
theorem rounds_of_ready (serving : session.generator? = some generator)
    (unfailing : generator.Unfailing)
    (options : Options) (coloured : Bool) (index : UInt64) (count : Nat) :
    ∃ later,
      (rounds options coloured session index count).result = .ok later ∧
        later.handle = session.handle ∧
        later.boundary.contexts.length = session.boundary.contexts.length ∧
        later.generator? = some (generator.afterFetches count) ∧
        (rounds options coloured session index count).events =
          (List.range count).map fun round =>
            .fetched (generator.afterFetches round).pending
              (generator.afterFetches (round + 1)).pending := by
  induction count generalizing session generator index with
  | zero => exact ⟨session, rfl, rfl, rfl, serving, rfl⟩
  | succ count induction =>
      rcases fetch_of_ready serving unfailing.ready with
        ⟨next, fetched, sameHandle, sameNumber, serves, -⟩
      rcases induction serves unfailing.next (index + 1) with
        ⟨later, result, handle, number, reached, events⟩
      rw [rounds_succ_of_ok fetched]
      refine ⟨later, result, handle.trans sameHandle,
        number.trans sameNumber, reached, ?_⟩
      rw [Rounds.followedBy, events, ← unfailing.pending_next,
        List.range_succ_eq_map, List.map_cons, List.map_map]
      rfl

/-- Rounds print the blocks of their batches, numbered from `index` on. -/
theorem output_rounds_of_ready
    (serving : session.generator? = some generator)
    (unfailing : generator.Unfailing)
    (options : Options) (coloured : Bool) {index : UInt64} {count : Nat}
    (room : index.toNat + count ≤ UInt64.size) :
    (rounds options coloured session index count).output =
      (List.range count).flatMap fun round =>
        block coloured options.dump (index.toNat + round)
          (generator.afterFetches round).pending.toNat
          (generator.afterFetches round).lengths := by
  induction count generalizing session generator index with
  | zero => rfl
  | succ count induction =>
      rcases fetch_of_ready serving unfailing.ready with
        ⟨next, fetched, -, -, serves, batch⟩
      have later :
          (rounds options coloured next (index + 1) count).output =
            (List.range count).flatMap fun round =>
              block coloured options.dump (index.toNat + (round + 1))
                (generator.afterFetches (round + 1)).pending.toNat
                (generator.afterFetches (round + 1)).lengths := by
        cases count with
        | zero => rfl
        | succ count =>
            -- The counter wraps only where nothing more is printed.
            have step : (index + 1).toNat = index.toNat + 1 := by
              rw [UInt64.toNat_add, UInt64.toNat_one]
              exact Nat.mod_eq_of_lt (by rw [UInt64.size] at room; omega)
            rw [induction serves unfailing.next (by omega)]
            apply List.flatMap_congr
            intro round _
            rw [step, Nat.add_right_comm, Nat.add_assoc,
              Generator.afterFetches]
      rw [rounds_succ_of_ok fetched, Rounds.followedBy, later, batch,
        batchLines_fetch unfailing.ready, List.range_succ_eq_map,
        List.flatMap_cons, List.flatMap_map]
      rfl

/-- Every round that succeeds prints a line, if only that of an empty batch. -/
theorem le_length_output_rounds {later : Session} {options : Options}
    {coloured : Bool} {index : UInt64} {count : Nat}
    (passed :
      (rounds options coloured session index count).result = .ok later) :
    count ≤ (rounds options coloured session index count).output.length := by
  induction count generalizing session index with
  | zero => exact Nat.zero_le _
  | succ count induction =>
      rcases fetched : session.fetch with ⟨events, setback | next⟩
      · rw [rounds_succ_of_error fetched] at passed
        cases passed
      · rw [rounds_succ_of_ok fetched] at passed ⊢
        have rest := induction passed
        simp only [Rounds.followedBy, batchLines, List.cons_append,
          List.length_cons, List.length_append]
        omega

/-- After some rounds the loop goes on with the number of the next round. -/
theorem rounds_add {later : Session} {options : Options} {coloured : Bool}
    {index : UInt64} {first : Nat}
    (passed :
      (rounds options coloured session index first).result = .ok later)
    (second : Nat) :
    rounds options coloured session index (first + second) =
      (rounds options coloured session index first).followedBy
        (rounds options coloured later (index + UInt64.ofNat first)
          second) := by
  induction first generalizing session index with
  | zero =>
      cases passed
      have place : index + UInt64.ofNat 0 = index := UInt64.add_zero index
      rw [Nat.zero_add, place]
      rfl
  | succ first induction =>
      rcases fetched : session.fetch with ⟨events, setback | next⟩
      · rw [rounds_succ_of_error fetched] at passed
        cases passed
      · have place :
            index + UInt64.ofNat (first + 1) =
              index + 1 + UInt64.ofNat first := by
          rw [UInt64.ofNat_add, UInt64.ofNat_one, UInt64.add_assoc,
            UInt64.add_comm 1]
        rw [rounds_succ_of_ok fetched] at passed
        rw [Nat.add_right_comm, rounds_succ_of_ok fetched,
          rounds_succ_of_ok fetched, induction passed, place,
          Rounds.followedBy_assoc]

/-- Of the options only the wish for packet lines matters to the rounds. -/
theorem rounds_congr {options others : Options}
    (same : options.dump = others.dump) (coloured : Bool)
    (session : Session) (index : UInt64) (count : Nat) :
    rounds options coloured session index count =
      rounds others coloured session index count := by
  induction count generalizing session index with
  | zero => rfl
  | succ count induction =>
      have lines : ∀ batch,
          batchLines options coloured index batch =
            batchLines others coloured index batch := by
        intro batch
        rw [batchLines, batchLines, same]
      rcases fetched : session.fetch with ⟨events, setback | next⟩
      · rw [rounds_succ_of_error fetched, rounds_succ_of_error fetched]
      · rw [rounds_succ_of_ok fetched, rounds_succ_of_ok fetched, lines,
          induction]

/-! ## Whole sessions -/

/-- The session right after its context was created. -/
def start (first : UInt8) : Session where
  boundary :=
    { contexts := [some (Generator.ofInitial first)]
      buffers := Buffers.zero }
  handle := 0

theorem generator?_start (first : UInt8) :
    (start first).generator? = some (Generator.ofInitial first) :=
  rfl

theorem create_eq_start (options : Options) :
    create options true =
      ([.created 0 options.first], .ok (start options.first)) := by
  rcases options with ⟨_ | initial, batches, dump, emit⟩ <;> rfl

theorem warning_of_fits {options : Options}
    (fits : options.first.toNat ≤ batchCapacity) : warning options = [] := by
  rcases options with ⟨_ | initial, batches, dump, emit⟩
  · rfl
  · exact if_neg (Nat.not_lt.mpr fits)

theorem warning_of_oversized {options : Options}
    (oversized : batchCapacity < options.first.toNat) :
    warning options = [.initialTooLarge options.first batchCapacity] := by
  rcases options with ⟨_ | initial, batches, dump, emit⟩
  · have small : ¬ batchCapacity < legacyInitial.toNat := by decide
    exact absurd oversized small
  · exact if_pos oversized

variable {options : Options} {circumstances : Circumstances}

/-- A session whose first size fits goes through all its rounds. -/
theorem transcript_of_fits
    (allocates : circumstances.allocates = true)
    (fits : options.first.toNat ≤ batchCapacity) :
    let fetched :=
      rounds options circumstances.coloured (start options.first) 0
        (roundCount options circumstances.interrupt)
    ∃ last,
      fetched.result = .ok last ∧ last.close = [.deleting 0] ∧
        transcript options circumstances =
          ⟨fetched.output,
            [.created 0 options.first, announcement options] ++
              fetched.events ++
              (conclusion options circumstances.interrupt last).1,
            (conclusion options circumstances.interrupt last).2⟩ := by
  intro fetched
  rcases rounds_of_ready (generator?_start options.first)
      (Generator.unfailing_ofInitial fits) options circumstances.coloured 0
      (roundCount options circumstances.interrupt) with
    ⟨last, result, handle, -, serves, -⟩
  refine ⟨last, result, ?_, ?_⟩
  · rw [close_of_serving serves, handle]
    rfl
  · simp only [transcript, allocates, create_eq_start, result,
      warning_of_fits fits]
    rfl

/-- A session whose first size is too large ends with its first fetch. -/
theorem transcript_of_oversized
    (allocates : circumstances.allocates = true)
    (oversized : batchCapacity < options.first.toNat)
    (fetches : roundCount options circumstances.interrupt ≠ 0) :
    transcript options circumstances =
      ⟨[],
        [.initialTooLarge options.first batchCapacity,
          .created 0 options.first, announcement options],
        .aborted (.overCapacity options.first)⟩ := by
  obtain ⟨count, more⟩ := Nat.exists_eq_succ_of_ne_zero fetches
  have failure :
      (start options.first).fetch =
        ([], .error (.fatal (.overCapacity options.first))) :=
    fetch_of_oversized (generator?_start options.first) oversized
  simp only [transcript, allocates, create_eq_start, more,
    rounds_succ_of_error failure, warning_of_oversized oversized]
  rfl

end Session

end Command

end PacketFeed
