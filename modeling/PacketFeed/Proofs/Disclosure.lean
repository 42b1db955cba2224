import PacketFeed.Batch
import PacketFeed.Proofs.Separators

/-!
# What shown text discloses

The numbers in a text are its longest runs of digits.  Numbers with other
characters between them can be read off one after the other.  So if names are
without digits, the numbers in the text of a record, compact or spread over
lines, are those in its fields in order.

The numbers in the text of a batch are its count and the lengths in all its
slots.  Both forms of the text therefore determine the count and the lengths,
and since nothing else enters either form, they disclose nothing else.
-/

namespace PacketFeed.Text

/-! ## Numbers in a text -/

/-- Neighbouring digits, as long as possible, in order. -/
def digitRuns (text : List Char) : List (List Char) :=
  (text.splitOnP fun character => !character.isDigit).filter
    fun run => !run.isEmpty

/-- The numbers that stand in a text. -/
def numbers (text : String) : List Nat :=
  (digitRuns text.toList).map fun run => Nat.ofDigitChars 10 run 0

theorem digitRuns_append_cons {mark : Char} (other : mark.isDigit = false)
    (first second : List Char) :
    digitRuns (first ++ mark :: second) =
      digitRuns first ++ digitRuns second := by
  rw [digitRuns, List.splitOnP_append_cons first second (by simp [other]),
    List.filter_append]
  rfl

theorem digitRuns_append_of_plain {gap : List Char}
    (plain : ∀ character ∈ gap, character.isDigit = false)
    (rest : List Char) : digitRuns (gap ++ rest) = digitRuns rest := by
  induction gap with
  | nil => rfl
  | cons mark gap induction =>
      rw [List.forall_mem_cons] at plain
      have apart := digitRuns_append_cons plain.1 [] (gap ++ rest)
      rw [List.nil_append] at apart
      rw [List.cons_append, apart, induction plain.2]
      rfl

/-- Whether a text keeps the numbers on its sides apart and adds none. -/
def isGap (text : String) : Bool :=
  !text.toList.isEmpty && text.toList.all fun character => !character.isDigit

section Gaps

variable {gap : String} (apart : isGap gap = true)
include apart

theorem numbers_append_gap (first second : String) :
    numbers (first ++ gap ++ second) = numbers first ++ numbers second := by
  rw [isGap, Bool.and_eq_true] at apart
  cases spelled : gap.toList with
  | nil => simp [spelled] at apart
  | cons mark rest =>
      have plain : mark.isDigit = false ∧
          ∀ character ∈ rest, character.isDigit = false := by
        simpa [spelled] using apart.2
      rw [numbers, String.toList_append, String.toList_append, spelled,
        List.append_assoc, List.cons_append, digitRuns_append_cons plain.1,
        digitRuns_append_of_plain plain.2, List.map_append]
      rfl

theorem numbers_gap_append (text : String) :
    numbers (gap ++ text) = numbers text := by
  have leading := numbers_append_gap apart "" text
  rwa [String.empty_append] at leading

theorem numbers_append_of_gap (text : String) :
    numbers (text ++ gap) = numbers text := by
  have trailing := numbers_append_gap apart text ""
  rw [String.append_empty] at trailing
  rw [trailing]
  exact List.append_nil _

theorem numbers_gap : numbers gap = [] := by
  have alone := numbers_append_of_gap apart ""
  rw [String.empty_append] at alone
  exact alone

theorem numbers_intercalate (texts : List String) :
    numbers (gap.intercalate texts) = texts.flatMap numbers := by
  induction texts with
  | nil =>
      rw [String.intercalate_nil]
      rfl
  | cons text rest induction =>
      rw [List.flatMap_cons, ← induction]
      cases rest with
      | nil =>
          rw [String.intercalate_singleton, String.intercalate_nil]
          exact (List.append_nil _).symm
      | cons next rest =>
          rw [String.intercalate_cons_cons, numbers_append_gap apart]

end Gaps

theorem numbers_toString (number : Nat) :
    numbers (toString number) = [number] := by
  have digits : ∀ character ∈ (toString number).toList,
      (!character.isDigit) = false := by
    intro character member
    rw [isDigit_of_mem_toString member]
    rfl
  have nonempty : (toString number).toList.isEmpty = false := by
    rw [toList_toString, List.isEmpty_eq_false_iff]
    exact Nat.toDigits_ne_nil
  rw [numbers, digitRuns, List.splitOnP_eq_singleton digits,
    List.filter_singleton, nonempty]
  exact congrArg (fun value => [value]) (ofDigitChars_toString number)

/-! ## Compact form -/

theorem numbers_bracketed (items : List String) :
    numbers (bracketed items) = items.flatMap numbers := by
  rw [bracketed, numbers_append_of_gap rfl, numbers_gap_append rfl]
  exact numbers_intercalate rfl items

theorem numbers_labelled {name : String} (plain : isGap name = true)
    (value : String) : numbers (labelled name value) = numbers value := by
  rw [labelled, numbers_append_gap rfl, numbers_gap plain, List.nil_append]

theorem numbers_record {name : String} (plain : isGap name = true)
    (parts : List String) :
    numbers (record name parts) = parts.flatMap numbers := by
  rw [record, numbers_append_of_gap rfl, numbers_append_gap rfl,
    numbers_gap plain, List.nil_append]
  exact numbers_intercalate rfl parts

/-! ## Spread form -/

/-- The numbers that stand in lines. -/
def lineNumbers (lines : List String) : List Nat :=
  lines.flatMap numbers

theorem numbers_stacked (lines : List String) :
    numbers (stacked lines) = lineNumbers lines :=
  numbers_intercalate rfl lines

theorem lineNumbers_singleton (line : String) :
    lineNumbers [line] = numbers line :=
  List.append_nil _

theorem lineNumbers_append (first second : List String) :
    lineNumbers (first ++ second) = lineNumbers first ++ lineNumbers second :=
  List.flatMap_append

theorem lineNumbers_labelledLines {name : String}
    (plain : isGap name = true) (value : List String) :
    lineNumbers (labelledLines name value) = lineNumbers value := by
  cases value with
  | nil =>
      rw [labelledLines, onFirst, lineNumbers_singleton,
        numbers_append_of_gap rfl, numbers_gap plain]
      rfl
  | cons line rest =>
      rw [lineNumbers, labelledLines, onFirst, List.flatMap_cons,
        numbers_append_gap rfl, numbers_gap plain]
      rfl

theorem lineNumbers_closed (lines : List String) :
    lineNumbers (closed lines) = lineNumbers lines := by
  fun_induction closed lines with
  | case1 => rfl
  | case2 line =>
      rw [lineNumbers_singleton, lineNumbers_singleton,
        numbers_append_of_gap rfl]
  | case3 line rest several induction =>
      exact congrArg (numbers line ++ ·) induction

theorem lineNumbers_indented (lines : List String) :
    lineNumbers (lines.map indent) = lineNumbers lines := by
  rw [lineNumbers, List.flatMap_map]
  congr 1
  funext line
  exact numbers_gap_append rfl line

theorem lineNumbers_enclosed {first last : String}
    (plain : numbers first = []) (plain' : numbers last = [])
    (lines : List String) :
    lineNumbers (enclosed first last lines) = lineNumbers lines := by
  rw [enclosed, lineNumbers_append, lineNumbers_singleton, plain',
    List.append_nil, ← List.singleton_append, lineNumbers_append,
    lineNumbers_singleton, plain, lineNumbers_indented, List.nil_append]

theorem lineNumbers_flatMap_closed (items : List (List String)) :
    lineNumbers (items.flatMap closed) = items.flatMap lineNumbers := by
  rw [lineNumbers, List.flatMap_assoc]
  congr 1
  funext lines
  exact lineNumbers_closed lines

theorem lineNumbers_bracketedLines (items : List (List String)) :
    lineNumbers (bracketedLines items) = items.flatMap lineNumbers := by
  rw [bracketedLines, lineNumbers_enclosed (numbers_gap rfl) (numbers_gap rfl),
    lineNumbers_flatMap_closed]

theorem numbers_opening {name : String} (plain : isGap name = true) :
    numbers (name ++ " \x7b") = [] := by
  rw [numbers_append_of_gap rfl, numbers_gap plain]

theorem lineNumbers_recordLines {name : String} (plain : isGap name = true)
    (fields : List (List String)) :
    lineNumbers (recordLines name fields) = fields.flatMap lineNumbers := by
  rw [recordLines,
    lineNumbers_enclosed (numbers_opening plain) (numbers_gap rfl),
    lineNumbers_flatMap_closed]

theorem lineNumbers_openRecordLines {name : String}
    (plain : isGap name = true) (fields : List (List String)) :
    lineNumbers (openRecordLines name fields) =
      fields.flatMap lineNumbers := by
  rw [openRecordLines,
    lineNumbers_enclosed (numbers_opening plain) (numbers_gap rfl),
    lineNumbers_append, lineNumbers_flatMap_closed, lineNumbers_singleton,
    numbers_gap rfl, List.append_nil]

end PacketFeed.Text

namespace PacketFeed

open PacketFeed.Text

/-! ## Packets and batches -/

theorem Packet.numbers_inspect (packet : Packet) :
    numbers packet.inspect = [packet.len.toNat] := by
  have hidden : numbers ".." = [] := numbers_gap rfl
  rw [inspect, numbers_record rfl, List.flatMap_cons, numbers_labelled rfl,
    List.flatMap_singleton, hidden, List.append_nil]
  exact numbers_toString packet.len.toNat

theorem Packet.lineNumbers_inspectLines (packet : Packet) :
    lineNumbers packet.inspectLines = [packet.len.toNat] := by
  rw [inspectLines, lineNumbers_openRecordLines rfl, List.flatMap_singleton,
    lineNumbers_labelledLines rfl, lineNumbers_singleton]
  exact numbers_toString packet.len.toNat

namespace Batch

/-- The count of a batch and the lengths in all its slots. -/
def tally (batch : Batch) : List Nat :=
  batch.count.toNat :: batch.slots.toList.map fun packet => packet.len.toNat

theorem numbers_inspect (batch : Batch) :
    numbers batch.inspect = batch.tally := by
  have count : numbers (toString batch.count) = [batch.count.toNat] :=
    numbers_toString batch.count.toNat
  rw [inspect, numbers_record rfl, List.flatMap_cons, numbers_labelled rfl,
    count, List.flatMap_singleton, numbers_labelled rfl, numbers_bracketed,
    List.flatMap_map, tally, List.map_eq_flatMap]
  simp only [Packet.numbers_inspect, List.singleton_append]

theorem numbers_inspectSpread (batch : Batch) :
    numbers batch.inspectSpread = batch.tally := by
  have count : numbers (toString batch.count) = [batch.count.toNat] :=
    numbers_toString batch.count.toNat
  rw [inspectSpread, numbers_stacked, inspectLines,
    lineNumbers_recordLines rfl, List.flatMap_cons,
    lineNumbers_labelledLines rfl, lineNumbers_singleton, count,
    List.flatMap_singleton, lineNumbers_labelledLines rfl,
    lineNumbers_bracketedLines, List.flatMap_map, tally, List.map_eq_flatMap]
  simp only [Packet.lineNumbers_inspectLines, List.singleton_append]

/-- The same count, and the same length in every slot, in use or not. -/
def SameLengths (first second : Batch) : Prop :=
  first.count = second.count ∧
    ∀ (index : Nat) (inside : index < batchCapacity),
      first.slots[index].len = second.slots[index].len

variable {first second : Batch}

/-- What sees no more of packets than their lengths sees no difference. -/
theorem SameLengths.map_slots (same : first.SameLengths second) {α : Type}
    {view : Packet → α}
    (blind : ∀ packet other : Packet,
      packet.len = other.len → view packet = view other) :
    first.slots.toList.map view = second.slots.toList.map view := by
  apply List.ext_getElem
  · simp
  · intro index inside _
    have slot : index < batchCapacity := by simpa using inside
    simpa using blind _ _ (same.2 index slot)

theorem SameLengths.inspect_eq (same : first.SameLengths second) :
    first.inspect = second.inspect := by
  rw [inspect, inspect, same.1, same.map_slots]
  intro packet other lengths
  rw [Packet.inspect, Packet.inspect, lengths]

theorem SameLengths.inspectSpread_eq (same : first.SameLengths second) :
    first.inspectSpread = second.inspectSpread := by
  rw [inspectSpread, inspectSpread, inspectLines, inspectLines, same.1,
    same.map_slots]
  intro packet other lengths
  rw [Packet.inspectLines, Packet.inspectLines, lengths]

theorem sameLengths_of_tally (same : first.tally = second.tally) :
    first.SameLengths second := by
  rw [tally, tally, List.cons.injEq] at same
  refine ⟨UInt8.toNat_inj.mp same.1, ?_⟩
  intro index inside
  have lengths := congrArg (·[index]?) same.2
  apply UInt16.toNat_inj.mp
  simpa [inside] using lengths

/-- The batch with other bytes in its buffers. -/
def withBuffers (batch : Batch)
    (buffers : Vector (Vector UInt8 packetCapacity) batchCapacity) : Batch :=
  { batch with
    slots := batch.slots.zipWith
      (fun packet data => { packet with data := data }) buffers }

theorem sameLengths_withBuffers (batch : Batch)
    (buffers : Vector (Vector UInt8 packetCapacity) batchCapacity) :
    (batch.withBuffers buffers).SameLengths batch := by
  refine ⟨rfl, ?_⟩
  intro index inside
  simp [withBuffers]

/--
Both texts of a batch show its count and all its lengths and nothing else.  Two
batches have the same text on one line exactly if they have the same text
spread over lines, and exactly if they have the same count and the same length
in every slot.  No byte of a buffer enters a text, and the numbers in either
text are the count and the lengths.
-/
theorem texts_show_lengths (first second : Batch) :
    (first.inspect = second.inspect ↔
        first.inspectSpread = second.inspectSpread) ∧
      (first.inspectSpread = second.inspectSpread ↔
        first.SameLengths second) ∧
      (∀ buffers,
        (first.withBuffers buffers).inspect = first.inspect ∧
          (first.withBuffers buffers).inspectSpread = first.inspectSpread) ∧
      numbers first.inspect = first.tally ∧
      numbers first.inspectSpread = first.tally := by
  -- Equal texts have equal numbers in them, and these are all that is shown.
  have compact : first.inspect = second.inspect ↔ first.SameLengths second := by
    constructor
    · intro same
      apply sameLengths_of_tally
      rw [← numbers_inspect, same, numbers_inspect]
    · exact SameLengths.inspect_eq
  have spread :
      first.inspectSpread = second.inspectSpread ↔
        first.SameLengths second := by
    constructor
    · intro same
      apply sameLengths_of_tally
      rw [← numbers_inspectSpread, same, numbers_inspectSpread]
    · exact SameLengths.inspectSpread_eq
  refine ⟨compact.trans spread.symm, spread, ?_, numbers_inspect first,
    numbers_inspectSpread first⟩
  intro buffers
  have same := sameLengths_withBuffers first buffers
  exact ⟨same.inspect_eq, same.inspectSpread_eq⟩

end Batch

end PacketFeed
