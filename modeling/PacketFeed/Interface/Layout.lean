import PacketFeed.Interface.Basic

/-!
# Record layouts

Natural alignment: each field starts at the next multiple of its alignment, a
record is aligned like its most demanding field, and its size is a multiple of
its alignment.  A record has no layout when one of its fields has no size, or
when it refers to a record or a constant that does not exist.
-/

namespace PacketFeed.Interface

/-- The size of a pointer, in bytes. -/
def wordSize : Nat := 8

/-- The space that a value takes. -/
structure Extent where
  size : Nat
  alignment : Nat
deriving DecidableEq, Repr

/-- The layout of a record: its extent and where its fields start. -/
structure Layout where
  size : Nat
  alignment : Nat
  offsets : List Nat
deriving DecidableEq, Repr

/-- The least multiple of `alignment` that is not below `position`. -/
def roundUp (position alignment : Nat) : Nat :=
  (position + (alignment - 1)) / alignment * alignment

namespace Layout

/-- The extent of a record with this layout. -/
def extent (layout : Layout) : Extent :=
  ⟨layout.size, layout.alignment⟩

/-- Where consecutive fields start when the first may start at `position`. -/
def offsetsFrom (position : Nat) : List Extent → List Nat
  | [] => []
  | field :: rest =>
      let offset := roundUp position field.alignment
      offset :: offsetsFrom (offset + field.size) rest

/-- Where consecutive fields end when the first may start at `position`. -/
def endFrom (position : Nat) : List Extent → Nat
  | [] => position
  | field :: rest =>
      endFrom (roundUp position field.alignment + field.size) rest

/-- The highest of the alignments of fields, at least one. -/
def alignmentOf (fields : List Extent) : Nat :=
  (fields.map Extent.alignment).foldl max 1

/-- The layout of a record whose fields have the given extents. -/
def ofExtents (fields : List Extent) : Layout where
  size := roundUp (endFrom 0 fields) (alignmentOf fields)
  alignment := alignmentOf fields
  offsets := offsetsFrom 0 fields

/-- The text of a layout. -/
def inspect (layout : Layout) : String :=
  Text.record "CLayout"
    [Text.labelled "size" (toString layout.size),
      Text.labelled "align" (toString layout.alignment),
      Text.labelled "offsets"
        (Text.bracketed (layout.offsets.map fun offset => toString offset))]

end Layout

namespace Tables

/-- The value of a constant. -/
def constant? (tables : Tables) (name : String) : Option Nat :=
  (tables.constants.lookup name).map UInt64.toNat

/-- The first record of the given name. -/
def record? (tables : Tables) (name : String) : Option Record :=
  tables.records.find? fun record => record.name = name

/-- The number of values that a field holds. -/
def multiplicity? (tables : Tables) (field : Field) : Option Nat :=
  match field.length with
  | none => some 1
  | some constant => tables.constant? constant

/-- The extent of a type, given the layouts of records. -/
def typeExtent? (layouts : String → Option Layout) :
    ValueType → Option Extent
  | .void => none
  | .u8 => some ⟨1, 1⟩
  | .u16 => some ⟨2, 2⟩
  | .u64 => some ⟨8, 8⟩
  | .pointer _ => some ⟨wordSize, wordSize⟩
  | .record name => (layouts name).map Layout.extent

/-- The extent of a field, given the layouts of records. -/
def fieldExtent? (tables : Tables) (layouts : String → Option Layout)
    (field : Field) : Option Extent := do
  let extent ← typeExtent? layouts field.type
  let count ← tables.multiplicity? field
  return ⟨extent.size * count, extent.alignment⟩

/-- The layout of a record that refers to others through at most `depth` steps. -/
def layoutWithin? (tables : Tables) : (depth : Nat) → String → Option Layout
  | 0, _ => none
  | depth + 1, name => do
      let record ← tables.record? name
      let extents ← record.fields.mapM
        (tables.fieldExtent? (tables.layoutWithin? depth))
      return Layout.ofExtents extents

/--
The layout of the record with the given name.  A chain of references that
never returns to a record passes through each record at most once, so the
number of records bounds its depth.
-/
def layout? (tables : Tables) (name : String) : Option Layout :=
  tables.layoutWithin? tables.records.length name

end Tables

end PacketFeed.Interface
