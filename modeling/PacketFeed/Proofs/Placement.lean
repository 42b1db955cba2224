import Mathlib.Order.Bounds.Basic
import PacketFeed.Interface.Layout

/-!
# Placing fields

How a record is laid out when the extents of its fields are known.  A layout
is natural if every field stands at the first place after the field before it
that suits its alignment, and if the record ends at the first place after the
last field that suits the alignment of the record.  The layout that is
computed is natural, and in a natural layout the fields follow one another
without overlap.

Alignments are powers of two, so of two alignments one divides the other, and
what suits the alignment of a record suits those of all its fields.
-/

namespace PacketFeed.Interface

/-! ## Rounding -/

/-- Rounding up finds the first multiple that is not below the position. -/
theorem roundUp_isLeast (position : Nat) {alignment : Nat}
    (positive : 0 < alignment) :
    IsLeast {place | alignment ∣ place ∧ position ≤ place}
      (roundUp position alignment) := by
  constructor
  · refine ⟨Nat.dvd_mul_left _ _, ?_⟩
    have remainder :=
      Nat.div_add_mod' (position + (alignment - 1)) alignment
    have below := Nat.mod_lt (position + (alignment - 1)) positive
    rw [roundUp]
    omega
  · rintro place ⟨⟨factor, rfl⟩, atLeast⟩
    rw [roundUp, Nat.mul_comm alignment]
    apply Nat.mul_le_mul_right
    apply Nat.le_of_lt_succ
    apply Nat.div_lt_of_lt_mul
    rw [Nat.mul_succ]
    omega

/-! ## Alignments -/

/-- The alignment is a power of two and the size a multiple of it. -/
structure Extent.Padded (extent : Extent) : Prop where
  power : extent.alignment.isPowerOfTwo
  whole : extent.alignment ∣ extent.size

/-- The lower one of two powers of two divides the higher one. -/
theorem dvd_of_isPowerOfTwo_of_le {lower higher : Nat}
    (lowerPower : lower.isPowerOfTwo) (higherPower : higher.isPowerOfTwo)
    (atMost : lower ≤ higher) :
    lower ∣ higher := by
  obtain ⟨small, rfl⟩ := lowerPower
  obtain ⟨large, rfl⟩ := higherPower
  exact Nat.pow_dvd_pow 2 ((Nat.pow_le_pow_iff_right (by decide)).mp atMost)

theorem foldl_max_isGreatest (values : List Nat) (start : Nat) :
    IsGreatest {value | value = start ∨ value ∈ values}
      (values.foldl max start) := by
  induction values generalizing start with
  | nil =>
      refine ⟨Or.inl rfl, ?_⟩
      rintro value (rfl | member)
      · exact Nat.le_refl _
      · cases member
  | cons first values induction =>
      rw [List.foldl_cons]
      rcases induction (max start first) with ⟨attained, bound⟩
      constructor
      · rcases attained with isStart | member
        · rw [isStart]
          rcases Nat.le_total start first with atMost | atLeast
          · rw [Nat.max_eq_right atMost]
            exact Or.inr List.mem_cons_self
          · rw [Nat.max_eq_left atLeast]
            exact Or.inl rfl
        · exact Or.inr (List.mem_cons_of_mem _ member)
      · have highest := bound (Or.inl rfl)
        rintro value (rfl | member)
        · exact Nat.le_trans (Nat.le_max_left _ _) highest
        · rcases List.mem_cons.mp member with rfl | later
          · exact Nat.le_trans (Nat.le_max_right _ _) highest
          · exact bound (Or.inr later)

/-! ## Natural layouts -/

namespace Layout

/--
Where the field before a place ends, for fields of the given extents; zero
before the first field.
-/
def endBefore (layout : Layout) (fields : List Extent) : (place : Nat) → Nat
  | 0 => 0
  | place + 1 =>
      match layout.offsets[place]?, fields[place]? with
      | some offset, some field => offset + field.size
      | _, _ => 0

/--
The layout has an offset for each field.  Its alignment is a power of two and
the highest alignment of the fields, at least one.  Each field starts at the
first multiple of its alignment that is not below the end of the field before
it, and the size is the first multiple of the alignment that is not below the
end of the last field.
-/
structure Natural (fields : List Extent) (layout : Layout) : Prop where
  length_offsets : layout.offsets.length = fields.length
  power : layout.alignment.isPowerOfTwo
  alignment :
    IsGreatest
      {alignment |
        alignment = 1 ∨ ∃ field ∈ fields, field.alignment = alignment}
      layout.alignment
  offset :
    ∀ place field offset,
      fields[place]? = some field →
      layout.offsets[place]? = some offset →
      IsLeast
        {start |
          field.alignment ∣ start ∧ layout.endBefore fields place ≤ start}
        offset
  size :
    IsLeast
      {size |
        layout.alignment ∣ size ∧
          layout.endBefore fields fields.length ≤ size}
      layout.size

/-! ## The computed layout is natural -/

theorem endFrom_concat (position : Nat) (fields : List Extent)
    (last : Extent) :
    endFrom position (fields ++ [last]) =
      roundUp (endFrom position fields) last.alignment + last.size := by
  induction fields generalizing position with
  | nil => rfl
  | cons field fields induction =>
      rw [List.cons_append, endFrom, induction]
      rfl

theorem getElem?_offsetsFrom (position : Nat) (fields : List Extent)
    (place : Nat) :
    (offsetsFrom position fields)[place]? =
      fields[place]?.map fun field =>
        roundUp (endFrom position (fields.take place)) field.alignment := by
  induction fields generalizing position place with
  | nil => rfl
  | cons field fields induction =>
      cases place with
      | zero => rfl
      | succ place =>
          rw [offsetsFrom, List.getElem?_cons_succ, induction,
            List.getElem?_cons_succ, List.take_succ_cons]
          rfl

theorem length_offsetsFrom (position : Nat) (fields : List Extent) :
    (offsetsFrom position fields).length = fields.length := by
  induction fields generalizing position with
  | nil => rfl
  | cons field fields induction =>
      rw [offsetsFrom, List.length_cons, List.length_cons, induction]

theorem endBefore_ofExtents {fields : List Extent} {place : Nat}
    (inside : place ≤ fields.length) :
    (ofExtents fields).endBefore fields place =
      endFrom 0 (fields.take place) := by
  cases place with
  | zero => rfl
  | succ place =>
      have present : fields[place]? = some fields[place] :=
        List.getElem?_eq_getElem inside
      have start := getElem?_offsetsFrom 0 fields place
      rw [present, Option.map_some] at start
      rw [List.take_add_one, present, Option.toList_some, endFrom_concat]
      simp only [endBefore, ofExtents, start, present]

theorem alignmentOf_isGreatest (fields : List Extent) :
    IsGreatest
      {alignment |
        alignment = 1 ∨ ∃ field ∈ fields, field.alignment = alignment}
      (alignmentOf fields) := by
  have greatest :=
    foldl_max_isGreatest (fields.map Extent.alignment) 1
  simpa only [alignmentOf, List.mem_map] using greatest

/-- The highest of powers of two is one of them. -/
theorem isPowerOfTwo_alignmentOf {fields : List Extent}
    (powers : ∀ field ∈ fields, field.alignment.isPowerOfTwo) :
    (alignmentOf fields).isPowerOfTwo := by
  rcases (alignmentOf_isGreatest fields).1 with one | ⟨field, member, same⟩
  · rw [one]
    exact Nat.isPowerOfTwo_one
  · rw [← same]
    exact powers field member

theorem natural_ofExtents {fields : List Extent}
    (powers : ∀ field ∈ fields, field.alignment.isPowerOfTwo) :
    (ofExtents fields).Natural fields where
  length_offsets := length_offsetsFrom 0 fields
  power := isPowerOfTwo_alignmentOf powers
  alignment := alignmentOf_isGreatest fields
  offset := by
    intro place field offset present starts
    have inside : place < fields.length :=
      (List.getElem?_eq_some_iff.mp present).1
    have positive : 0 < field.alignment :=
      Nat.pos_of_isPowerOfTwo (powers field (List.mem_of_getElem? present))
    have computed := getElem?_offsetsFrom 0 fields place
    rw [present, Option.map_some] at computed
    have same : offset = _ := Option.some.inj (starts.symm.trans computed)
    rw [endBefore_ofExtents (Nat.le_of_lt inside), same]
    exact roundUp_isLeast _ positive
  size := by
    rw [endBefore_ofExtents (Nat.le_refl _), List.take_length]
    exact roundUp_isLeast _
      (Nat.pos_of_isPowerOfTwo (isPowerOfTwo_alignmentOf powers))

/-! ## Fields of a natural layout -/

namespace Natural

variable {fields : List Extent} {layout : Layout}

theorem padded (natural : layout.Natural fields) : layout.extent.Padded where
  power := natural.power
  whole := natural.size.1.1

theorem exists_offset (natural : layout.Natural fields) {place : Nat}
    (inside : place < fields.length) :
    ∃ field offset,
      fields[place]? = some field ∧ layout.offsets[place]? = some offset := by
  have start : place < layout.offsets.length := by
    rwa [natural.length_offsets]
  exact ⟨_, _, List.getElem?_eq_getElem inside,
    List.getElem?_eq_getElem start⟩

theorem endBefore_succ {place : Nat} {field : Extent} {offset : Nat}
    (present : fields[place]? = some field)
    (starts : layout.offsets[place]? = some offset) :
    layout.endBefore fields (place + 1) = offset + field.size := by
  simp only [endBefore, present, starts]

/-- A field does not start before any earlier field has ended. -/
theorem endBefore_le (natural : layout.Natural fields) {earlier later : Nat}
    (order : earlier ≤ later) (inside : later ≤ fields.length) :
    layout.endBefore fields earlier ≤ layout.endBefore fields later := by
  induction later, order using Nat.le_induction with
  | base => exact Nat.le_refl _
  | succ later order induction =>
      rcases natural.exists_offset inside with
        ⟨field, offset, present, starts⟩
      have after := (natural.offset later field offset present starts).1.2
      have before := induction (Nat.le_of_succ_le inside)
      rw [endBefore_succ present starts]
      omega

theorem offset_add_size_le (natural : layout.Natural fields)
    {earlier later : Nat} {field other : Extent} {offset start : Nat}
    (present : fields[earlier]? = some field)
    (starts : layout.offsets[earlier]? = some offset)
    (otherPresent : fields[later]? = some other)
    (otherStarts : layout.offsets[later]? = some start)
    (order : earlier < later) :
    offset + field.size ≤ start := by
  have inside : later < fields.length :=
    (List.getElem?_eq_some_iff.mp otherPresent).1
  rw [← endBefore_succ present starts]
  exact Nat.le_trans (natural.endBefore_le order (Nat.le_of_lt inside))
    (natural.offset later other start otherPresent otherStarts).1.2

theorem offset_add_size_le_size (natural : layout.Natural fields)
    {place : Nat} {field : Extent} {offset : Nat}
    (present : fields[place]? = some field)
    (starts : layout.offsets[place]? = some offset) :
    offset + field.size ≤ layout.size := by
  have inside : place < fields.length :=
    (List.getElem?_eq_some_iff.mp present).1
  rw [← endBefore_succ present starts]
  exact Nat.le_trans (natural.endBefore_le inside (Nat.le_refl _))
    natural.size.1.2

theorem dvd_alignment (natural : layout.Natural fields) {field : Extent}
    (member : field ∈ fields) (power : field.alignment.isPowerOfTwo) :
    field.alignment ∣ layout.alignment :=
  dvd_of_isPowerOfTwo_of_le power natural.power
    (natural.alignment.2 (Or.inr ⟨field, member, rfl⟩))

end Natural

end Layout

end PacketFeed.Interface
