import Mathlib.Data.List.Forall2
import PacketFeed.Proofs.Placement

/-!
# Layouts of records

The layout of a record is computed through the layouts of the records that it
refers to, to a depth that the number of records bounds.  If records refer to
earlier records only, the bound is never reached: the layout of a record then
is the natural layout of its fields, each with the extent of its type, and
there is none only if some field has no extent.
-/

namespace PacketFeed.Interface

/-! ## Options of lists -/

section Traversal

variable {α β : Type} {f g : α → Option β} {items : List α}

theorem mapM_eq_some_iff {results : List β} :
    items.mapM f = some results ↔
      List.Forall₂ (fun item result => f item = some result) items
        results := by
  induction items generalizing results with
  | nil =>
      rw [List.mapM_nil, List.forall₂_nil_left_iff]
      exact ⟨fun same => (Option.some.inj same).symm, fun same => by rw [same]; rfl⟩
  | cons item items induction =>
      rw [List.mapM_cons, List.forall₂_cons_left_iff]
      simp only [Option.bind_eq_bind, Option.bind_eq_some_iff,
        Option.pure_def, Option.some.injEq, induction]
      constructor
      · rintro ⟨result, here, results, later, rfl⟩
        exact ⟨result, results, here, later, rfl⟩
      · rintro ⟨result, results, here, later, rfl⟩
        exact ⟨result, here, results, later, rfl⟩

theorem mapM_eq_none_iff :
    items.mapM f = none ↔ ∃ item ∈ items, f item = none := by
  induction items with
  | nil => simp
  | cons item items induction =>
      rw [List.mapM_cons, List.exists_mem_cons_iff, ← induction]
      cases f item with
      | none => simp
      | some result => cases items.mapM f <;> simp

theorem mapM_congr (same : ∀ item ∈ items, f item = g item) :
    items.mapM f = items.mapM g := by
  induction items with
  | nil => rfl
  | cons item items induction =>
      rw [List.mapM_cons, List.mapM_cons, same item List.mem_cons_self,
        induction fun other member => same other (List.mem_cons_of_mem _ member)]

end Traversal

namespace Tables

/-! ## Records that refer to earlier records -/

/-- The place of the first record of the given name. -/
def place? (tables : Tables) (name : String) : Option Nat :=
  tables.records.findIdx? fun record => record.name = name

/--
If a record of the table refers to a record, and there is one of that name,
then the first one of that name stands before the record that refers to it.
-/
def Ordered (tables : Tables) : Prop :=
  ∀ place record,
    tables.records[place]? = some record →
    ∀ field ∈ record.fields, ∀ name,
      field.type = .record name →
      ∀ earlier, tables.place? name = some earlier → earlier < place

theorem record?_eq_bind_place? (tables : Tables) (name : String) :
    tables.record? name =
      (tables.place? name).bind fun place => tables.records[place]? :=
  List.find?_eq_bind_findIdx?_getElem?

theorem lt_of_place? {tables : Tables} {name : String} {place : Nat}
    (found : tables.place? name = some place) :
    place < tables.records.length :=
  (List.findIdx?_eq_some_iff_findIdx_eq.mp found).1

theorem layoutWithin?_of_missing {tables : Tables} {name : String}
    (missing : tables.place? name = none) (depth : Nat) :
    tables.layoutWithin? depth name = none := by
  cases depth with
  | zero => rfl
  | succ depth =>
      rw [layoutWithin?, record?_eq_bind_place?, missing]
      rfl

/-- Only the layouts of records to which the field refers matter. -/
theorem fieldExtent?_congr {tables : Tables}
    {layouts others : String → Option Layout} {field : Field}
    (same :
      ∀ name, field.type = .record name → layouts name = others name) :
    tables.fieldExtent? layouts field =
      tables.fieldExtent? others field := by
  have types :
      typeExtent? layouts field.type = typeExtent? others field.type := by
    cases type : field.type with
    | record name => rw [typeExtent?, typeExtent?, same name type]
    | void | u8 | u16 | u64 | pointer => rfl
  rw [fieldExtent?, fieldExtent?, types]

theorem layoutWithin?_succ {tables : Tables} {name : String} {place : Nat}
    {record : Record} (found : tables.place? name = some place)
    (present : tables.records[place]? = some record) (depth : Nat) :
    tables.layoutWithin? (depth + 1) name =
      (record.fields.mapM
        (tables.fieldExtent? (tables.layoutWithin? depth))).map
        Layout.ofExtents := by
  rw [layoutWithin?, record?_eq_bind_place?, found, Option.bind_some, present,
    Option.map_eq_bind]
  rfl

/-- Any depth above the place of a record gives the same layout. -/
theorem layoutWithin?_eq {tables : Tables} (ordered : tables.Ordered)
    {name : String} {place depth other : Nat}
    (found : tables.place? name = some place)
    (within : place < depth) (otherWithin : place < other) :
    tables.layoutWithin? depth name = tables.layoutWithin? other name := by
  induction place using Nat.strongRecOn generalizing name depth other with
  | ind place induction =>
      obtain ⟨depth, rfl⟩ := Nat.exists_eq_succ_of_ne_zero
        (Nat.ne_of_gt (Nat.lt_of_le_of_lt (Nat.zero_le _) within))
      obtain ⟨other, rfl⟩ := Nat.exists_eq_succ_of_ne_zero
        (Nat.ne_of_gt (Nat.lt_of_le_of_lt (Nat.zero_le _) otherWithin))
      have present := List.getElem?_eq_getElem (lt_of_place? found)
      rw [layoutWithin?_succ found present, layoutWithin?_succ found present]
      apply congrArg (Option.map Layout.ofExtents)
      apply mapM_congr
      intro field member
      apply fieldExtent?_congr
      intro target refers
      cases known : tables.place? target with
      | none =>
          rw [layoutWithin?_of_missing known, layoutWithin?_of_missing known]
      | some earlier =>
          -- References go down the table, so the depth left is enough.
          have before : earlier < place :=
            ordered place _ present field member target refers earlier known
          exact induction earlier before known
            (Nat.lt_of_lt_of_le before (Nat.le_of_lt_succ within))
            (Nat.lt_of_lt_of_le before (Nat.le_of_lt_succ otherWithin))

/-- The equation of layouts, in which the depth no longer appears. -/
theorem layout?_eq {tables : Tables} (ordered : tables.Ordered)
    {name : String} {record : Record}
    (found : tables.record? name = some record) :
    tables.layout? name =
      (record.fields.mapM (tables.fieldExtent? tables.layout?)).map
        Layout.ofExtents := by
  cases known : tables.place? name with
  | none =>
      rw [record?_eq_bind_place?, known] at found
      cases found
  | some place =>
      have inside := lt_of_place? known
      have present : tables.records[place]? = some record := by
        rw [record?_eq_bind_place?, known, Option.bind_some] at found
        exact found
      have deeper :
          tables.layout? name =
            tables.layoutWithin? (tables.records.length + 1) name :=
        layoutWithin?_eq ordered known inside (Nat.lt_succ_of_lt inside)
      rw [deeper, layoutWithin?_succ known present]
      rfl

theorem layout?_of_missing {tables : Tables} {name : String}
    (missing : tables.record? name = none) :
    tables.layout? name = none := by
  cases known : tables.place? name with
  | none => exact layoutWithin?_of_missing known _
  | some place =>
      rw [record?_eq_bind_place?, known, Option.bind_some,
        List.getElem?_eq_getElem (lt_of_place? known)] at missing
      cases missing

/-! ## Extents of fields -/

/-- The space that one value of a type takes. -/
inductive Occupies (tables : Tables) : ValueType → Extent → Prop where
  | u8 : Occupies tables .u8 ⟨1, 1⟩
  | u16 : Occupies tables .u16 ⟨2, 2⟩
  | u64 : Occupies tables .u64 ⟨8, 8⟩
  | pointer (target : String) : Occupies tables (.pointer target) ⟨8, 8⟩
  | record {name : String} {layout : Layout}
      (laid : tables.layout? name = some layout) :
      Occupies tables (.record name) ⟨layout.size, layout.alignment⟩

/-- The space that a field takes: its values stand one after the other. -/
def Holds (tables : Tables) (field : Field) (extent : Extent) : Prop :=
  ∃ unit count,
    tables.Occupies field.type unit ∧
      tables.multiplicity? field = some count ∧
      extent = ⟨unit.size * count, unit.alignment⟩

theorem typeExtent?_eq_some_iff {tables : Tables} {type : ValueType}
    {extent : Extent} :
    typeExtent? tables.layout? type = some extent ↔
      tables.Occupies type extent := by
  constructor
  · intro computed
    cases type with
    | void => cases computed
    | u8 => cases computed; exact .u8
    | u16 => cases computed; exact .u16
    | u64 => cases computed; exact .u64
    | pointer target => cases computed; exact .pointer target
    | record name =>
        rcases Option.map_eq_some_iff.mp computed with ⟨layout, laid, rfl⟩
        exact .record laid
  · rintro (_ | _ | _ | _ | laid)
    · rfl
    · rfl
    · rfl
    · rfl
    · exact congrArg (Option.map Layout.extent) laid

theorem fieldExtent?_eq_some_iff {tables : Tables}
    {layouts : String → Option Layout} {field : Field} {extent : Extent} :
    tables.fieldExtent? layouts field = some extent ↔
      ∃ unit,
        typeExtent? layouts field.type = some unit ∧
          ∃ count,
            tables.multiplicity? field = some count ∧
              (⟨unit.size * count, unit.alignment⟩ : Extent) = extent := by
  simp only [fieldExtent?, Option.bind_eq_bind, Option.bind_eq_some_iff,
    Option.pure_def, Option.some.injEq]

theorem holds_iff {tables : Tables} {field : Field} {extent : Extent} :
    tables.fieldExtent? tables.layout? field = some extent ↔
      tables.Holds field extent := by
  rw [fieldExtent?_eq_some_iff]
  constructor
  · rintro ⟨unit, occupies, count, counts, rfl⟩
    exact ⟨unit, count, typeExtent?_eq_some_iff.mp occupies, counts, rfl⟩
  · rintro ⟨unit, count, occupies, counts, rfl⟩
    exact ⟨unit, typeExtent?_eq_some_iff.mpr occupies, count, counts, rfl⟩

/-- The reasons for which a field has no extent. -/
def Unsized (tables : Tables) (field : Field) : Prop :=
  field.type = .void ∨
    (∃ name, field.type = .record name ∧ tables.layout? name = none) ∨
    ∃ length,
      field.length = some length ∧
        ∀ value, (length, value) ∉ tables.constants

theorem constant?_eq_none_iff {tables : Tables} {name : String} :
    tables.constant? name = none ↔
      ∀ value, (name, value) ∉ tables.constants := by
  rw [constant?, Option.map_eq_none_iff, List.lookup_eq_none_iff]
  constructor
  · intro absent value member
    simpa using absent _ member
  · rintro absent ⟨other, value⟩ member
    rw [bne_iff_ne]
    rintro rfl
    exact absent value member

theorem typeExtent?_eq_none_iff {layouts : String → Option Layout}
    {type : ValueType} :
    typeExtent? layouts type = none ↔
      type = .void ∨ ∃ name, type = .record name ∧ layouts name = none := by
  cases type with
  | void => simp [typeExtent?]
  | record name => simp [typeExtent?]
  | u8 | u16 | u64 | pointer => simp [typeExtent?]

theorem multiplicity?_eq_none_iff {tables : Tables} {field : Field} :
    tables.multiplicity? field = none ↔
      ∃ length,
        field.length = some length ∧
          ∀ value, (length, value) ∉ tables.constants := by
  rw [multiplicity?]
  cases field.length with
  | none => simp
  | some length => simp [constant?_eq_none_iff]

theorem unsized_iff {tables : Tables} {field : Field} :
    tables.fieldExtent? tables.layout? field = none ↔
      tables.Unsized field := by
  rw [Unsized, ← or_assoc, ← typeExtent?_eq_none_iff,
    ← multiplicity?_eq_none_iff, fieldExtent?]
  cases typeExtent? tables.layout? field.type with
  | none => simp
  | some unit => cases tables.multiplicity? field <;> simp

/-! ## Layouts are natural -/

theorem padded_typeExtent? {layouts : String → Option Layout}
    (sound :
      ∀ name layout, layouts name = some layout → layout.extent.Padded)
    {type : ValueType} {extent : Extent}
    (computed : typeExtent? layouts type = some extent) :
    extent.Padded := by
  cases type with
  | void => cases computed
  | u8 => cases computed; exact ⟨⟨0, rfl⟩, Nat.dvd_refl _⟩
  | u16 => cases computed; exact ⟨⟨1, rfl⟩, Nat.dvd_refl _⟩
  | u64 => cases computed; exact ⟨⟨3, rfl⟩, Nat.dvd_refl _⟩
  | pointer target => cases computed; exact ⟨⟨3, rfl⟩, Nat.dvd_refl _⟩
  | record name =>
      rcases Option.map_eq_some_iff.mp computed with ⟨layout, laid, rfl⟩
      exact sound name layout laid

theorem padded_fieldExtent? {tables : Tables}
    {layouts : String → Option Layout}
    (sound :
      ∀ name layout, layouts name = some layout → layout.extent.Padded)
    {field : Field} {extent : Extent}
    (computed : tables.fieldExtent? layouts field = some extent) :
    extent.Padded := by
  rcases fieldExtent?_eq_some_iff.mp computed with
    ⟨unit, occupies, count, -, rfl⟩
  have padded := padded_typeExtent? sound occupies
  exact ⟨padded.power, Nat.dvd_mul_right_of_dvd padded.whole count⟩

/-- The extents of all fields are padded if those of all records are. -/
theorem padded_of_mapM {tables : Tables} {layouts : String → Option Layout}
    (sound :
      ∀ name layout, layouts name = some layout → layout.extent.Padded)
    {fields : List Field} {extents : List Extent}
    (computed : fields.mapM (tables.fieldExtent? layouts) = some extents) :
    ∀ extent ∈ extents, extent.Padded := by
  intro extent member
  rcases List.forall₂_iff_get.mp (mapM_eq_some_iff.mp computed) with
    ⟨lengths, each⟩
  rcases List.mem_iff_get.mp member with ⟨place, rfl⟩
  have inside : place < fields.length := by
    rw [lengths]
    exact place.isLt
  exact padded_fieldExtent? sound (each place inside place.isLt)

theorem padded_layoutWithin? {tables : Tables} {depth : Nat} {name : String}
    {layout : Layout}
    (laid : tables.layoutWithin? depth name = some layout) :
    layout.extent.Padded := by
  induction depth generalizing name layout with
  | zero => cases laid
  | succ depth induction =>
      simp only [layoutWithin?, Option.bind_eq_bind, Option.bind_eq_some_iff,
        Option.pure_def, Option.some.injEq] at laid
      rcases laid with ⟨record, -, extents, computed, rfl⟩
      have padded :=
        padded_of_mapM (fun name layout => induction) computed
      exact (Layout.natural_ofExtents fun extent member =>
        (padded extent member).power).padded

theorem Occupies.padded {tables : Tables} {type : ValueType}
    {extent : Extent} (occupies : tables.Occupies type extent) :
    extent.Padded :=
  padded_typeExtent? (fun _ _ => padded_layoutWithin?)
    (typeExtent?_eq_some_iff.mpr occupies)

/-- The layout of a record is the natural layout of what its fields hold. -/
theorem natural_of_layout? {tables : Tables} (ordered : tables.Ordered)
    {name : String} {layout : Layout}
    (laid : tables.layout? name = some layout) :
    ∃ record fields,
      tables.record? name = some record ∧
        List.Forall₂ tables.Holds record.fields fields ∧
        layout.Natural fields := by
  cases found : tables.record? name with
  | none =>
      rw [layout?_of_missing found] at laid
      cases laid
  | some record =>
      rw [layout?_eq ordered found] at laid
      rcases Option.map_eq_some_iff.mp laid with ⟨fields, computed, rfl⟩
      have padded :=
        padded_of_mapM (fun _ _ => padded_layoutWithin?) computed
      refine ⟨record, fields, rfl, ?_,
        Layout.natural_ofExtents fun field member =>
          (padded field member).power⟩
      exact (mapM_eq_some_iff.mp computed).imp fun _ _ => holds_iff.mp

/-- A layout is missing only for a reason. -/
theorem layout?_eq_none_iff {tables : Tables} (ordered : tables.Ordered)
    {name : String} :
    tables.layout? name = none ↔
      (∀ record ∈ tables.records, record.name ≠ name) ∨
        ∃ record,
          tables.record? name = some record ∧
            ∃ field ∈ record.fields, tables.Unsized field := by
  have missing :
      tables.record? name = none ↔
        ∀ record ∈ tables.records, record.name ≠ name := by
    simp [record?]
  rw [← missing]
  cases found : tables.record? name with
  | none => simp [layout?_of_missing found]
  | some record =>
      rw [layout?_eq ordered found, Option.map_eq_none_iff,
        mapM_eq_none_iff]
      simp [unsized_iff]

end Tables

end PacketFeed.Interface
