import PacketFeed.Interface.Shipped
import PacketFeed.Proofs.Layouts

/-!
# Leaves of records

Taken apart down to its scalars, a record with a layout is a set of leaves.
Each leaf is reached by a path of fields and array elements, lies inside the
record and suits its own alignment, and no two leaves overlap.

An element of an array starts a multiple of the size of its type after the
array.  It suits its alignment because every extent is padded, and what it
contains suits theirs because alignments inside an extent divide its own.
-/

namespace PacketFeed.Interface

/-! ## Parts of an extent -/

/--
A part that starts at the given place of a whole is aligned there, is aligned
wherever the whole is, and ends inside the whole.
-/
structure Extent.FitsAt (start : Nat) (part whole : Extent) : Prop where
  aligned : part.alignment ∣ start
  coarser : part.alignment ∣ whole.alignment
  bounded : start + part.size ≤ whole.size

theorem Extent.FitsAt.trans {base start : Nat} {part middle whole : Extent}
    (outer : middle.FitsAt base whole) (inner : part.FitsAt start middle) :
    part.FitsAt (base + start) whole where
  aligned :=
    Nat.dvd_add (Nat.dvd_trans inner.coarser outer.aligned) inner.aligned
  coarser := Nat.dvd_trans inner.coarser outer.coarser
  bounded := by
    have inside := inner.bounded
    have outside := outer.bounded
    omega

/-- An element of an array ends before any later one starts. -/
theorem mul_add_le_of_lt {index later : Nat} (size : Nat)
    (before : index < later) :
    index * size + size ≤ size * later := by
  rw [← Nat.add_one_mul, Nat.mul_comm size]
  exact Nat.mul_le_mul_right size before

namespace Tables

theorem Occupies.unique {tables : Tables} {type : ValueType}
    {extent other : Extent} (occupies : tables.Occupies type extent)
    (otherwise : tables.Occupies type other) :
    extent = other := by
  rw [← typeExtent?_eq_some_iff] at occupies otherwise
  exact Option.some.inj (occupies.symm.trans otherwise)

/-! ## Elements of records -/

/-- A step from a record to one of the values of one of its fields. -/
structure Step where
  field : Nat
  element : Nat
deriving DecidableEq, Repr

/-- The step leads to a value of the given type at the given start. -/
inductive Element (tables : Tables) (name : String) :
    Step → ValueType → Nat → Prop where
  | intro {record : Record} {layout : Layout} {field : Field} {unit : Extent}
      {step : Step} {offset count : Nat}
      (found : tables.record? name = some record)
      (laid : tables.layout? name = some layout)
      (present : record.fields[step.field]? = some field)
      (starts : layout.offsets[step.field]? = some offset)
      (occupies : tables.Occupies field.type unit)
      (counts : tables.multiplicity? field = some count)
      (within : step.element < count) :
      Element tables name step field.type (offset + step.element * unit.size)

/-- The extent that a layout gives to a field is the one that it holds. -/
theorem getElem?_of_holds {tables : Tables} {fields : List Field}
    {extents : List Extent} (holds : List.Forall₂ tables.Holds fields extents)
    {place count : Nat} {field : Field} {unit : Extent}
    (present : fields[place]? = some field)
    (occupies : tables.Occupies field.type unit)
    (counts : tables.multiplicity? field = some count) :
    extents[place]? = some ⟨unit.size * count, unit.alignment⟩ := by
  induction holds generalizing place with
  | nil => cases present
  | cons holds _ induction =>
      cases place with
      | succ place => exact induction present
      | zero =>
          cases present
          rcases holds with ⟨other, total, otherwise, totals, rfl⟩
          cases occupies.unique otherwise
          cases counts.symm.trans totals
          rfl

namespace Element

variable {tables : Tables} {name : String}

theorem exists_occupies {step : Step} {type : ValueType} {base : Nat}
    (element : tables.Element name step type base) :
    ∃ unit, tables.Occupies type unit := by
  cases element with
  | intro _ _ _ _ occupies => exact ⟨_, occupies⟩

theorem unique {step : Step} {type other : ValueType} {base start : Nat}
    (element : tables.Element name step type base)
    (otherwise : tables.Element name step other start) :
    type = other ∧ base = start := by
  cases element with
  | intro found laid present starts occupies _ _ =>
      cases otherwise with
      | intro otherFound otherLaid otherPresent otherStarts otherOccupies =>
          cases found.symm.trans otherFound
          cases laid.symm.trans otherLaid
          cases present.symm.trans otherPresent
          cases starts.symm.trans otherStarts
          cases occupies.unique otherOccupies
          exact ⟨rfl, rfl⟩

theorem fitsAt (ordered : tables.Ordered) {step : Step} {type : ValueType}
    {base : Nat} {unit whole : Extent}
    (element : tables.Element name step type base)
    (occupies : tables.Occupies type unit)
    (wholeOccupies : tables.Occupies (.record name) whole) :
    unit.FitsAt base whole := by
  cases element with
  | @intro record layout field same step offset count found laid present
      starts otherwise counts within =>
      cases occupies.unique otherwise
      cases wholeOccupies.unique (.record laid)
      rcases natural_of_layout? ordered laid with
        ⟨other, fields, otherFound, holds, natural⟩
      cases found.symm.trans otherFound
      have placed := getElem?_of_holds holds present occupies counts
      have offsetAligned : unit.alignment ∣ offset :=
        (natural.offset _ _ _ placed starts).1.1
      have fieldCoarser := natural.dvd_alignment
        (List.mem_of_getElem? placed) occupies.padded.power
      have fieldEnds := natural.offset_add_size_le_size placed starts
      have elementEnds := mul_add_le_of_lt unit.size within
      constructor
      · -- The elements before it are padded to the alignment.
        exact Nat.dvd_add offsetAligned
          (Nat.dvd_mul_left_of_dvd occupies.padded.whole _)
      · exact fieldCoarser
      · simp only at fieldEnds ⊢
        omega

/-- Steps to a later field, or to a later element of one field, lead on. -/
theorem add_size_le (ordered : tables.Ordered) {step later : Step}
    {type other : ValueType} {base start : Nat} {unit : Extent}
    (element : tables.Element name step type base)
    (laterElement : tables.Element name later other start)
    (occupies : tables.Occupies type unit)
    (order :
      step.field < later.field ∨
        step.field = later.field ∧ step.element < later.element) :
    base + unit.size ≤ start := by
  cases element with
  | @intro record layout field same step offset count found laid present
      starts otherwise counts within =>
      cases laterElement with
      | @intro laterRecord laterLayout laterField laterUnit later laterOffset
          laterCount laterFound laterLaid laterPresent laterStarts
          laterOccupies laterCounts laterWithin =>
          cases occupies.unique otherwise
          cases found.symm.trans laterFound
          cases laid.symm.trans laterLaid
          rcases order with fields | ⟨sameField, elements⟩
          · rcases natural_of_layout? ordered laid with
              ⟨record, extents, known, holds, natural⟩
            cases found.symm.trans known
            have fieldEnds := natural.offset_add_size_le
              (getElem?_of_holds holds present occupies counts) starts
              (getElem?_of_holds holds laterPresent laterOccupies laterCounts)
              laterStarts fields
            have elementEnds := mul_add_le_of_lt unit.size within
            simp only at fieldEnds
            omega
          · rw [← sameField] at laterPresent laterStarts
            cases present.symm.trans laterPresent
            cases starts.symm.trans laterStarts
            cases occupies.unique laterOccupies
            have elementEnds := mul_add_le_of_lt unit.size elements
            rw [Nat.mul_comm unit.size] at elementEnds
            omega

/-- Different steps lead to values that do not overlap. -/
theorem apart (ordered : tables.Ordered) {step otherStep : Step}
    {type other : ValueType} {base start : Nat} {unit otherUnit : Extent}
    (element : tables.Element name step type base)
    (otherElement : tables.Element name otherStep other start)
    (occupies : tables.Occupies type unit)
    (otherOccupies : tables.Occupies other otherUnit)
    (different : step ≠ otherStep) :
    base + unit.size ≤ start ∨ start + otherUnit.size ≤ base := by
  rcases Nat.lt_trichotomy step.field otherStep.field with
    before | same | after
  · exact Or.inl (element.add_size_le ordered otherElement occupies
      (Or.inl before))
  · rcases Nat.lt_trichotomy step.element otherStep.element with
      before | sameElement | after
    · exact Or.inl (element.add_size_le ordered otherElement occupies
        (Or.inr ⟨same, before⟩))
    · cases step
      cases otherStep
      cases same
      cases sameElement
      exact absurd rfl different
    · exact Or.inr (otherElement.add_size_le ordered element otherOccupies
        (Or.inr ⟨same.symm, after⟩))
  · exact Or.inr (otherElement.add_size_le ordered element otherOccupies
      (Or.inl after))

end Element

/-! ## Leaves -/

/--
The path leads from a value of the given type to a scalar of the given extent,
which starts at the given place of the value.
-/
inductive Leaf (tables : Tables) :
    ValueType → List Step → Nat → Extent → Prop where
  | scalar {type : ValueType} {extent : Extent}
      (plain : ∀ name, type ≠ .record name)
      (occupies : tables.Occupies type extent) :
      Leaf tables type [] 0 extent
  | inside {name : String} {step : Step} {type : ValueType} {base : Nat}
      {path : List Step} {start : Nat} {extent : Extent}
      (element : tables.Element name step type base)
      (leaf : Leaf tables type path start extent) :
      Leaf tables (.record name) (step :: path) (base + start) extent

namespace Leaf

variable {tables : Tables} {type : ValueType} {path otherPath : List Step}
  {start otherStart : Nat} {extent otherExtent whole : Extent}

theorem fitsAt (ordered : tables.Ordered)
    (leaf : tables.Leaf type path start extent)
    (occupies : tables.Occupies type whole) :
    extent.FitsAt start whole := by
  induction leaf generalizing whole with
  | scalar _ scalarOccupies =>
      cases occupies.unique scalarOccupies
      exact ⟨Nat.dvd_zero _, Nat.dvd_refl _, by rw [Nat.zero_add]⟩
  | inside element _ induction =>
      rcases element.exists_occupies with ⟨unit, unitOccupies⟩
      exact (element.fitsAt ordered unitOccupies occupies).trans
        (induction unitOccupies)

/-- A path leads to one leaf. -/
theorem unique (leaf : tables.Leaf type path start extent)
    (other : tables.Leaf type path otherStart otherExtent) :
    start = otherStart ∧ extent = otherExtent := by
  induction leaf generalizing otherStart with
  | scalar plain occupies =>
      cases other with
      | scalar _ otherOccupies => exact ⟨rfl, occupies.unique otherOccupies⟩
  | inside element _ induction =>
      cases other with
      | inside otherElement otherLeaf =>
          obtain ⟨rfl, rfl⟩ := element.unique otherElement
          obtain ⟨rfl, same⟩ := induction otherLeaf
          exact ⟨rfl, same⟩

/-- Different paths lead to leaves that do not overlap. -/
theorem apart (ordered : tables.Ordered)
    (leaf : tables.Leaf type path start extent)
    (other : tables.Leaf type otherPath otherStart otherExtent)
    (different : path ≠ otherPath) :
    start + extent.size ≤ otherStart ∨
      otherStart + otherExtent.size ≤ start := by
  induction leaf generalizing otherPath otherStart with
  | scalar plain _ =>
      cases other with
      | scalar => exact absurd rfl different
      | inside => exact absurd rfl (plain _)
  | @inside name step type base path start extent element leaf induction =>
      cases other with
      | scalar plain => exact absurd rfl (plain _)
      | @inside _ otherStep otherType otherBase otherPath otherStart _
          otherElement otherLeaf =>
          by_cases same : step = otherStep
          · -- The paths part further inside the common element.
            subst same
            obtain ⟨rfl, rfl⟩ := element.unique otherElement
            have tails : path ≠ otherPath := by
              rintro rfl
              exact different rfl
            have inner := induction otherLeaf tails
            omega
          · -- The paths part here, and each leaf stays in its element.
            rcases element.exists_occupies with ⟨unit, occupies⟩
            rcases otherElement.exists_occupies with
              ⟨otherUnit, otherOccupies⟩
            have elements := element.apart ordered otherElement occupies
              otherOccupies same
            have inner := (leaf.fitsAt ordered occupies).bounded
            have otherInner :=
              (otherLeaf.fitsAt ordered otherOccupies).bounded
            omega

end Leaf

/-! ## Soundness of layouts -/

/--
Where records refer to earlier records only, there is no layout for a name
exactly if there is no record of that name or a field of the record has no
size.  Any layout is the natural one of what the fields hold; down to the
scalars, every leaf of the record fits at its place, and two leaves are the
same or do not overlap.
-/
theorem layout_sound {tables : Tables} (ordered : tables.Ordered)
    (name : String) :
    (tables.layout? name = none ↔
      (∀ record ∈ tables.records, record.name ≠ name) ∨
        ∃ record,
          tables.record? name = some record ∧
            ∃ field ∈ record.fields, tables.Unsized field) ∧
    ∀ layout, tables.layout? name = some layout →
      (∃ record fields,
        tables.record? name = some record ∧
          List.Forall₂ tables.Holds record.fields fields ∧
          layout.Natural fields) ∧
      (∀ path start extent,
        tables.Leaf (.record name) path start extent →
        extent.FitsAt start layout.extent) ∧
      ∀ path start extent otherPath otherStart otherExtent,
        tables.Leaf (.record name) path start extent →
        tables.Leaf (.record name) otherPath otherStart otherExtent →
        (path = otherPath ∧ start = otherStart ∧ extent = otherExtent) ∨
          start + extent.size ≤ otherStart ∨
          otherStart + otherExtent.size ≤ start := by
  refine ⟨layout?_eq_none_iff ordered, ?_⟩
  intro layout laid
  refine ⟨natural_of_layout? ordered laid, ?_, ?_⟩
  · intro path start extent leaf
    exact leaf.fitsAt ordered (.record laid)
  · intro path start extent otherPath otherStart otherExtent leaf other
    by_cases same : path = otherPath
    · subst same
      exact Or.inl ⟨rfl, leaf.unique other⟩
    · exact Or.inr (leaf.apart ordered other same)

theorem ordered_shipped : shipped.Ordered := by
  intro place record present field member name refers earlier known
  rcases place with _ | _ | place
  · cases present
    simp only [List.mem_cons, List.not_mem_nil, or_false] at member
    rcases member with rfl | rfl <;> cases refers
  · cases present
    simp only [List.mem_cons, List.not_mem_nil, or_false] at member
    rcases member with rfl | rfl <;> cases refers
    cases known
    decide
  · cases present

theorem layout?_shipped_batch :
    shipped.layout? "pktgen_batch" = some ⟨12018, 2, [0, 2]⟩ := by
  decide

theorem layout?_shipped_packet :
    shipped.layout? "pktgen_packet" = some ⟨1502, 2, [0, 2]⟩ := by
  decide

theorem element_shipped_packet :
    shipped.Element "pktgen_batch" ⟨1, 7⟩ (.record "pktgen_packet") 10516 :=
  @Element.intro shipped "pktgen_batch" _ _
    ⟨"packets", .record "pktgen_packet", some "PKTGEN_BATCH_CAPACITY"⟩ _
    ⟨1, 7⟩ 2 8 rfl layout?_shipped_batch rfl rfl
    (.record layout?_shipped_packet) rfl (by decide)

/-- The length of the last packet of a batch. -/
theorem leaf_shipped_len :
    shipped.Leaf (.record "pktgen_batch") [⟨1, 7⟩, ⟨0, 0⟩] 10516 ⟨2, 2⟩ :=
  .inside element_shipped_packet
    (.inside
      (@Element.intro shipped "pktgen_packet" _ _ ⟨"len", .u16, none⟩ _
        ⟨0, 0⟩ 0 1 rfl layout?_shipped_packet rfl rfl .u16 rfl (by decide))
      (.scalar (by rintro name ⟨⟩) .u16))

/-- The last byte of the last packet of a batch. -/
theorem leaf_shipped_data :
    shipped.Leaf (.record "pktgen_batch") [⟨1, 7⟩, ⟨1, 1499⟩] 12017 ⟨1, 1⟩ :=
  .inside element_shipped_packet
    (.inside
      (@Element.intro shipped "pktgen_packet" _ _
        ⟨"data", .u8, some "PKTGEN_PACKET_CAPACITY"⟩ _
        ⟨1, 1499⟩ 2 1500 rfl layout?_shipped_packet rfl rfl .u8 rfl
        (by decide))
      (.scalar (by rintro name ⟨⟩) .u8))

/--
The batch record as shipped: the length of its last packet and the last byte of
that packet are leaves two records deep, and both fit at their places.
-/
theorem layout_sound_shipped_batch :
    shipped.Ordered ∧
      shipped.layout? "pktgen_batch" = some ⟨12018, 2, [0, 2]⟩ ∧
      shipped.Leaf (.record "pktgen_batch") [⟨1, 7⟩, ⟨0, 0⟩] 10516 ⟨2, 2⟩ ∧
      shipped.Leaf (.record "pktgen_batch") [⟨1, 7⟩, ⟨1, 1499⟩] 12017
        ⟨1, 1⟩ ∧
      (⟨2, 2⟩ : Extent).FitsAt 10516 ⟨12018, 2⟩ ∧
      (⟨1, 1⟩ : Extent).FitsAt 12017 ⟨12018, 2⟩ := by
  rcases (layout_sound ordered_shipped "pktgen_batch").2 _
    layout?_shipped_batch with ⟨-, fits, -⟩
  exact ⟨ordered_shipped, layout?_shipped_batch, leaf_shipped_len,
    leaf_shipped_data, fits _ _ _ leaf_shipped_len,
    fits _ _ _ leaf_shipped_data⟩

end Tables

end PacketFeed.Interface
