import PacketFeed.Interface.Header

/-!
# The Rust bindings

The tables rendered as Rust declarations: constants, types with the C layout,
one foreign function per row of the function table, and a re-export that binds
each name without a version to its latest symbol.
-/

namespace PacketFeed.Interface

open PacketFeed.Text

/-- The Rust spelling of a type. -/
def ValueType.rustText : ValueType → String
  | .void => "()"
  | .u8 => "u8"
  | .u16 => "u16"
  | .u64 => "u64"
  | .record name => name
  | .pointer target => "*mut " ++ target

/-- The Rust declaration of a field. -/
def Field.rustText (field : Field) : String :=
  match field.length with
  | some length =>
      field.name ++ ": [" ++ field.type.rustText ++ "; " ++ length ++ "]"
  | none => field.name ++ ": " ++ field.type.rustText

/-- The Rust spelling of a result; that of a function without one is empty. -/
def rustResult : ValueType → String
  | .void => ""
  | type => " -> " ++ type.rustText

/-- The Rust declaration of a row of the function table. -/
def Function.rustDeclaration (function : Function) : Line :=
  ["    pub fn ", function.symbol, "(",
    commaSeparated (function.arguments.map Field.rustText), ")",
    rustResult function.result, ";\n"]

/-- The mark of a Rust type with the C layout. -/
def rustMark : Line := ["#[repr(C)]\n"]

/-- The line that opens the Rust definition of a type. -/
def rustOpening (name : String) : Line :=
  ["pub struct ", name, " \x7b\n"]

/-- The only member of a type whose contents callers never see. -/
def rustHidden : Line := ["    _opaque_data: [u8; 0],\n"]

/-- The Rust declaration of a field on a line of its own. -/
def Field.rustMember (field : Field) : Line :=
  ["    pub ", field.rustText, ",\n"]

/-- The line that closes a Rust block. -/
def rustClosing : Line := ["\x7d\n"]

/-- The Rust definition of a type with the given lines between its braces. -/
def rustDefinition (name : String) (body : Rendering) : Rendering :=
  [rustMark, rustOpening name] ++ body ++ [rustClosing]

/-- The Rust definition of a record. -/
def Record.rustDefinition (record : Record) : Rendering :=
  Interface.rustDefinition record.name (record.fields.map Field.rustMember)

/-- The Rust constant that stands for a number of the given type. -/
def rustConstant (name type : String) (value : UInt64) : Line :=
  ["pub const ", name, ": " ++ type ++ " = ", toString value, ";\n"]

/-- The line that opens the block of foreign functions. -/
def rustForeign : Line := ["extern \"C\" \x7b\n"]

/-- The Rust re-export that binds a name to its latest symbol. -/
def rustAlias (name : String) (version : UInt32) : Line :=
  ["pub use self::", name, "_v", toString version, " as ", name, ";\n"]

/-- The lines of the Rust bindings of the tables. -/
def Tables.bindings (tables : Tables) : Rendering :=
  tables.constants.map (fun (name, value) => rustConstant name "usize" value) ++
  [blank] ++
  tables.statuses.map
    (fun (name, status) => rustConstant name "u64" status.code) ++
  [blank] ++
  tables.handles.flatMap
    (fun name => rustDefinition name [rustHidden] ++ [blank]) ++
  tables.records.flatMap (fun record => record.rustDefinition ++ [blank]) ++
  [rustForeign] ++
  tables.functions.map Function.rustDeclaration ++
  [rustClosing, blank] ++
  (aliases tables.functions).map
    (fun (name, version) => rustAlias name version)

/-! ## Writing -/

section Writing

variable {σ : Type}

/-- Write the Rust declaration of a row of the function table. -/
def Function.writeDeclaration (function : Function) (sink : Sink σ) :
    Writing σ Unit :=
  sink.writeAll function.rustDeclaration

/-- Write the Rust definition of a record. -/
def Record.writeRust (record : Record) (sink : Sink σ) : Writing σ Unit := do
  sink.writeAll rustMark
  sink.writeAll (rustOpening record.name)
  for field in record.fields do
    sink.writeAll field.rustMember
  sink.writeAll rustClosing

/-- Write the Rust bindings of the tables, up to the first refusal. -/
def Tables.writeBindings (tables : Tables) (sink : Sink σ) :
    Writing σ Unit := do
  for (name, value) in tables.constants do
    sink.writeAll (rustConstant name "usize" value)
  sink.writeAll blank
  for (name, status) in tables.statuses do
    sink.writeAll (rustConstant name "u64" status.code)
  sink.writeAll blank
  for name in tables.handles do
    sink.writeAll rustMark
    sink.writeAll (rustOpening name)
    sink.writeAll rustHidden
    sink.writeAll rustClosing
    sink.writeAll blank
  for record in tables.records do
    record.writeRust sink
    sink.writeAll blank
  sink.writeAll rustForeign
  for function in tables.functions do
    function.writeDeclaration sink
  sink.writeAll rustClosing
  sink.writeAll blank
  for (name, version) in aliases tables.functions do
    sink.writeAll (rustAlias name version)

end Writing

/-- The text of the Rust bindings. -/
def Tables.bindingsText (tables : Tables) : String :=
  ((tables.writeBindings Sink.toText).runFrom "").2

end PacketFeed.Interface
