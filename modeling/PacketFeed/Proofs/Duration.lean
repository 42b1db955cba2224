import PacketFeed.Proofs.Output

/-!
# How long a run goes on

What a run has printed so far does not depend on when it is going to stop.
Runs that differ in the number of their batches print the same until the
shorter one ends, and a run that only an interrupt ends prints what a bounded
run prints, line by line, wherever the reader stops reading.

An interrupt is noticed between two rounds.  Which ones is up to the system:
a reader who interrupts after some lines knows only that these lines have been
printed by then.
-/

namespace PacketFeed

/-! ## Lines -/

/-- The text ends a line and has no other line end in it. -/
def Text.IsLine (text : String) : Prop :=
  ∃ body : List Char, '\n' ∉ body ∧ text.toList = body ++ ['\n']

theorem Text.newline_not_mem_toDigits (number : Nat) :
    '\n' ∉ Nat.toDigits 10 number := by
  intro member
  have digit := Nat.isDigit_of_mem_toDigits (by decide) (by decide) member
  exact absurd digit (by decide)

namespace Command

theorem newline_not_mem_batchWord (coloured : Bool) :
    '\n' ∉ (batchWord coloured).toList := by
  rw [batchWord_eq]
  cases coloured <;> decide

theorem newline_not_mem_packetWord (coloured : Bool) :
    '\n' ∉ (packetWord coloured).toList := by
  rw [packetWord_eq]
  cases coloured <;> decide

theorem isLine_batchLine (coloured : Bool) (index : UInt64) (batch : Batch) :
    Text.IsLine (batchLine coloured index batch) := by
  refine
    ⟨(batchWord coloured ++ " " ++ toString index.toNat ++ ": " ++
        toString batch.count.toNat ++ " packets, " ++
        toString batch.payloadBytes ++ " bytes").toList, ?_, ?_⟩
  · simp [newline_not_mem_batchWord, Text.newline_not_mem_toDigits]
  · show (batchWord coloured ++ " " ++ toString index.toNat ++ ": " ++
        toString batch.count.toNat ++ " packets, " ++
        toString batch.payloadBytes ++ " bytes\n").toList = _
    simp

theorem isLine_packetLine (coloured : Bool) (index : Nat) (packet : Packet) :
    Text.IsLine (packetLine coloured index packet) := by
  refine
    ⟨("  " ++ packetWord coloured ++ " " ++ toString index ++ ": len " ++
        toString packet.len.toNat).toList, ?_, ?_⟩
  · simp [newline_not_mem_packetWord, Text.newline_not_mem_toDigits]
  · show ("  " ++ packetWord coloured ++ " " ++ toString index ++ ": len " ++
        toString packet.len.toNat ++ "\n").toList = _
    simp

theorem isLine_of_mem_batchLines {options : Options} {coloured : Bool}
    {index : UInt64} {batch : Batch} {line : String}
    (member : line ∈ batchLines options coloured index batch) :
    Text.IsLine line := by
  rw [batchLines, List.mem_cons] at member
  rcases member with rfl | member
  · exact isLine_batchLine coloured index batch
  · split at member
    · rcases List.mem_mapIdx.mp member with ⟨position, _, rfl⟩
      exact isLine_packetLine coloured position _
    · cases member

namespace Session

theorem isLine_of_mem_rounds {options : Options} {coloured : Bool}
    {session : Session} {index : UInt64} {count : Nat} {line : String}
    (member : line ∈ (rounds options coloured session index count).output) :
    Text.IsLine line := by
  induction count generalizing session index with
  | zero => cases member
  | succ count induction =>
      rcases fetched : session.fetch with ⟨events, setback | next⟩
      · rw [rounds_succ_of_error fetched] at member
        cases member
      · rw [rounds_succ_of_ok fetched] at member
        rcases List.mem_append.mp member with now | later
        · exact isLine_of_mem_batchLines now
        · exact induction later

/-! ## More rounds -/

/-- More rounds add to what fewer rounds have printed. -/
theorem output_rounds_prefix {first : UInt8}
    (fits : first.toNat ≤ batchCapacity) (options : Options)
    (coloured : Bool) {fewer more : Nat} (fewer_le_more : fewer ≤ more) :
    (rounds options coloured (start first) 0 fewer).output <+:
      (rounds options coloured (start first) 0 more).output := by
  rcases rounds_of_ready (generator?_start first)
      (Generator.unfailing_ofInitial fits) options coloured 0 fewer with
    ⟨session, passed, -⟩
  rw [← Nat.add_sub_of_le fewer_le_more, rounds_add passed]
  exact List.prefix_append _ _

theorem le_length_output_of_fits {first : UInt8}
    (fits : first.toNat ≤ batchCapacity) (options : Options)
    (coloured : Bool) (count : Nat) :
    count ≤ (rounds options coloured (start first) 0 count).output.length := by
  rcases rounds_of_ready (generator?_start first)
      (Generator.unfailing_ofInitial fits) options coloured 0 count with
    ⟨session, passed, -⟩
  exact le_length_output_rounds passed

/-- However many rounds two runs go through, the lines of both agree. -/
theorem take_output_rounds {first : UInt8}
    (fits : first.toNat ≤ batchCapacity) (options : Options)
    (coloured : Bool) {left right lines : Nat}
    (inLeft :
      lines ≤ (rounds options coloured (start first) 0 left).output.length)
    (inRight :
      lines ≤ (rounds options coloured (start first) 0 right).output.length) :
    (rounds options coloured (start first) 0 left).output.take lines =
      (rounds options coloured (start first) 0 right).output.take lines := by
  rcases Nat.le_total left right with fewer | more
  · rcases output_rounds_prefix fits options coloured fewer with ⟨rest, same⟩
    rw [← same, List.take_append_of_le_length inLeft]
  · rcases output_rounds_prefix fits options coloured more with ⟨rest, same⟩
    rw [← same, List.take_append_of_le_length inRight]

/-! ## Interrupted and bounded runs -/

theorem roundCount_of_endless {options : Options}
    (endless : options.batches = 0) (noticed : Nat) :
    roundCount options (some noticed) = noticed := by
  simp only [roundCount, endless, UInt64.toNat_zero, if_true,
    Option.getD_some]

theorem conclusion_of_endless {options : Options}
    (endless : options.batches = 0) (noticed : Nat) (session : Session) :
    conclusion options (some noticed) session =
      (.interrupted :: session.close, .finished) := by
  simp [conclusion, isInterrupted, endless]

end Session

theorem AsksForSession.output_of_bounded {arguments : List String}
    {options : Options} {circumstances : Circumstances}
    (asks : AsksForSession arguments options)
    (undisturbed : circumstances.Undisturbed)
    (bounded : options.batches ≠ 0)
    (fits : options.first.toNat ≤ batchCapacity) :
    (appearance arguments circumstances).output =
      (Session.rounds options circumstances.coloured
        (Session.start options.first) 0 options.batches.toNat).output := by
  rw [asks.appearance_eq,
    Session.transcript_of_bounded undisturbed bounded fits]
  rfl

theorem AsksForSession.output_of_interrupted {arguments : List String}
    {options : Options} {circumstances : Circumstances}
    (asks : AsksForSession arguments options)
    (allocates : circumstances.allocates = true)
    (endless : options.batches = 0)
    (fits : options.first.toNat ≤ batchCapacity) (noticed : Nat) :
    let cut :=
      appearance arguments { circumstances with interrupt := some noticed }
    cut.ending = .finished ∧
      cut.output =
        (Session.rounds options circumstances.coloured
          (Session.start options.first) 0 noticed).output := by
  intro cut
  have allocated :
      ({ circumstances with interrupt := some noticed } :
        Circumstances).allocates = true :=
    allocates
  rcases Session.transcript_of_fits allocated fits with
    ⟨last, -, -, transcript⟩
  rw [Session.roundCount_of_endless endless,
    Session.conclusion_of_endless endless] at transcript
  have shape : cut = _ := asks.appearance_eq
  rw [shape, transcript]
  exact ⟨rfl, rfl⟩

/--
Runs agree as far as they go.  Take an undisturbed run over a number of
batches whose first size is within the capacity.  A run with the same first
size and the same wish for packet lines that only an interrupt ends shows the
same first lines, as many as there are batches in the bounded run or fewer,
no matter between which rounds the interrupt is noticed after these lines were
printed; when as many rounds have passed they have been printed.  And what a
run over fewer batches prints is the beginning of what the run over more of
them prints.
-/
theorem runs_agree_line_by_line {arguments : List String} {options : Options}
    {circumstances : Circumstances}
    (asks : AsksForSession arguments options)
    (undisturbed : circumstances.Undisturbed)
    (bounded : options.batches ≠ 0)
    (fits : options.first.toNat ≤ 8) :
    let whole := appearance arguments circumstances
    (∀ line ∈ whole.output, Text.IsLine line) ∧
      (∀ (others : List String) (endless : Options),
        AsksForSession others endless →
        endless.batches = 0 → endless.first = options.first →
        endless.dump = options.dump →
        ∀ lines ≤ options.batches.toNat, ∀ noticed,
          let cut :=
            appearance others { circumstances with interrupt := some noticed }
          cut.ending.exitCode? = some 0 ∧
            (∀ line ∈ cut.output, Text.IsLine line) ∧
            lines ≤ whole.output.length ∧
            (lines ≤ noticed → lines ≤ cut.output.length) ∧
            (lines ≤ cut.output.length →
              cut.firstLines lines = whole.firstLines lines)) ∧
      ∀ (others : List String) (shorter : Options),
        AsksForSession others shorter →
        shorter.batches ≠ 0 →
        shorter.batches.toNat ≤ options.batches.toNat →
        shorter.first = options.first → shorter.dump = options.dump →
        ∃ rest,
          whole.text = (appearance others circumstances).text ++ rest := by
  intro whole
  have output : whole.output = _ :=
    asks.output_of_bounded undisturbed bounded fits
  refine ⟨?_, ?_, ?_⟩
  · intro line member
    rw [output] at member
    exact Session.isLine_of_mem_rounds member
  · intro others endless asksOthers unbounded sameFirst sameDump lines atMost
      noticed cut
    rcases asksOthers.output_of_interrupted undisturbed.allocates unbounded
        (by rwa [sameFirst]) noticed with
      ⟨ending, cutOutput⟩
    rw [Session.rounds_congr sameDump, sameFirst] at cutOutput
    have printed : lines ≤ whole.output.length := by
      rw [output]
      exact Nat.le_trans atMost
        (Session.le_length_output_of_fits fits options _ _)
    refine ⟨?_, ?_, printed, ?_, ?_⟩
    · rw [ending]
      rfl
    · intro line member
      rw [cutOutput] at member
      exact Session.isLine_of_mem_rounds member
    · intro passed
      rw [cutOutput]
      exact Nat.le_trans passed
        (Session.le_length_output_of_fits fits options _ _)
    · intro seen
      rw [cutOutput] at seen
      rw [output] at printed
      rw [Appearance.firstLines, Appearance.firstLines, cutOutput, output,
        Session.take_output_rounds fits options _ seen printed]
  · intro others shorter asksOthers positive fewer sameFirst sameDump
    have shorterOutput :=
      asksOthers.output_of_bounded undisturbed positive (by rwa [sameFirst])
    rw [Session.rounds_congr sameDump, sameFirst] at shorterOutput
    rcases Session.output_rounds_prefix fits options circumstances.coloured
        fewer with
      ⟨rest, same⟩
    refine ⟨String.join rest, ?_⟩
    rw [Appearance.text, Appearance.text, output, shorterOutput, ← same,
      String.join_append]

/--
Three lines of a coloured run that is interrupted, the third of them the first
of seven about one batch, and a run over two batches of three.
-/
theorem runs_agree_line_by_line_three :
    let circumstances : Circumstances := { coloured := true }
    let whole := appearance ["--dump", "--batches=3"] circumstances
    let cut :=
      appearance ["--batches", "0", "--dump", "--initial=1"]
        { circumstances with interrupt := some 3 }
    let shorter :=
      appearance ["--initial", "+01", "--batches=2", "--dump"] circumstances
    (3 ≤ cut.output.length ∧ cut.firstLines 3 = whole.firstLines 3) ∧
      ∃ rest, whole.text = shorter.text ++ rest := by
  intro circumstances whole cut shorter
  have asks :
      AsksForSession ["--dump", "--batches=3"] { batches := 3, dump := true } :=
    ⟨rfl, rfl⟩
  have asksEndlessly :
      AsksForSession ["--batches", "0", "--dump", "--initial=1"]
        { initial := some 1, batches := 0, dump := true } :=
    ⟨rfl, rfl⟩
  have asksForLess :
      AsksForSession ["--initial", "+01", "--batches=2", "--dump"]
        { initial := some 1, batches := 2, dump := true } :=
    ⟨rfl, rfl⟩
  rcases @runs_agree_line_by_line _ _ circumstances asks ⟨rfl, rfl⟩
      (by decide) (by decide) with
    ⟨-, interrupted, bounded⟩
  rcases interrupted _ _ asksEndlessly rfl rfl rfl 3 (by decide) 3 with
    ⟨-, -, -, printed, agree⟩
  have enough := printed (Nat.le_refl 3)
  exact ⟨⟨enough, agree enough⟩,
    bounded _ _ asksForLess (by decide) (by decide) rfl rfl⟩

end Command

end PacketFeed
