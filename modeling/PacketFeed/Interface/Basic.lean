import PacketFeed.Status
import PacketFeed.Text.Quoted
import PacketFeed.Text.Record

/-!
# Interface tables

The boundary described as data: named constants and statuses, the names of
types whose contents callers never see, records with their fields, and
functions with their versions.  Every function that was ever part of the
interface stays in its table; a new shape of a function is a new row with a
higher version.
-/

namespace PacketFeed.Interface

/-- The types of values that cross the boundary. -/
inductive ValueType where
  /-- No value. -/
  | void
  | u8
  | u16
  | u64
  /-- A record of the given name. -/
  | record (name : String)
  /-- A pointer to a type of the given name. -/
  | pointer (target : String)
deriving DecidableEq, Repr

/-- A named value; with a length it is an array, and a constant names the length. -/
structure Field where
  name : String
  type : ValueType
  length : Option String := none
deriving DecidableEq, Repr

/-- A record type and its fields in order. -/
structure Record where
  name : String
  fields : List Field
deriving DecidableEq, Repr

/-- One version of a function. -/
structure Function where
  name : String
  version : UInt32
  result : ValueType
  arguments : List Field
deriving DecidableEq, Repr

/-- The full description of a boundary. -/
structure Tables where
  constants : List (String × UInt64)
  statuses : List (String × Status)
  /-- Names of types of which callers only hold pointers. -/
  handles : List String
  records : List Record
  functions : List Function
deriving DecidableEq, Repr

/-- The symbol of a version of a function. -/
def symbol (name : String) (version : UInt32) : String :=
  name ++ "_v" ++ toString version

/-- The symbol that a row of the table declares. -/
def Function.symbol (function : Function) : String :=
  Interface.symbol function.name function.version

/-! ## Shown text -/

/-- The text of a type. -/
def ValueType.inspect : ValueType → String
  | .void => "Void"
  | .u8 => "U8"
  | .u16 => "U16"
  | .u64 => "U64"
  | .record name => "Struct(" ++ Text.quoted name ++ ")"
  | .pointer target => "Ptr(" ++ Text.quoted target ++ ")"

/-- The text of an optional name. -/
def inspectOptional : Option String → String
  | none => "None"
  | some name => "Some(" ++ Text.quoted name ++ ")"

/-- The text of a field. -/
def Field.inspect (field : Field) : String :=
  Text.record "Field"
    [Text.labelled "name" (Text.quoted field.name),
      Text.labelled "ty" field.type.inspect,
      Text.labelled "len" (inspectOptional field.length)]

/-- The text of a row of the function table. -/
def Function.inspect (function : Function) : String :=
  Text.record "AbiFn"
    [Text.labelled "name" (Text.quoted function.name),
      Text.labelled "version" (toString function.version),
      Text.labelled "ret" function.result.inspect,
      Text.labelled "args"
        (Text.bracketed (function.arguments.map Field.inspect))]

end PacketFeed.Interface
