import PacketFeed.Interface.Version
import PacketFeed.Text.Rendering

/-!
# The C header

The tables rendered as a C header: constants and statuses as macros, types,
one prototype per row of the function table, and a macro that binds each name
without a version to its latest symbol.
-/

namespace PacketFeed.Interface

open PacketFeed.Text

/-- The C spelling of a type. -/
def ValueType.cText : ValueType → String
  | .void => "void"
  | .u8 => "uint8_t"
  | .u16 => "uint16_t"
  | .u64 => "uint64_t"
  | .record name => name ++ "_t"
  | .pointer target => target ++ "_t*"

/-- The C declaration of a field. -/
def Field.cText (field : Field) : String :=
  match field.length with
  | some length => field.type.cText ++ " " ++ field.name ++ "[" ++ length ++ "]"
  | none => field.type.cText ++ " " ++ field.name

/-- The C spelling of an argument list; an empty one is written `void`. -/
def cArguments (arguments : List Field) : String :=
  if arguments.isEmpty then "void"
  else commaSeparated (arguments.map Field.cText)

/-- The C prototype of a row of the function table. -/
def Function.cPrototype (function : Function) : Line :=
  [function.result.cText, " ", function.symbol, "(",
    cArguments function.arguments, ");\n"]

/-- The C name of the type with the given name. -/
def cTypedef (name : String) : Line :=
  ["typedef struct ", name, " ", name, "_t;\n"]

/-- The line that opens the C definition of a type. -/
def cOpening (name : String) : Line :=
  ["struct ", name, " \x7b\n"]

/-- The C declaration of a field on a line of its own. -/
def Field.cMember (field : Field) : Line :=
  ["  ", field.cText, ";\n"]

/-- The line that closes the C definition of a type. -/
def cClosing : Line := ["\x7d;\n"]

/-- The C definition of a record. -/
def Record.cDefinition (record : Record) : Rendering :=
  [cTypedef record.name, cOpening record.name] ++
  record.fields.map Field.cMember ++
  [cClosing]

/-- The C macro that stands for a number. -/
def cMacro (name : String) (value : UInt64) : Line :=
  ["#define ", name, " ", toString value, "\n"]

/-- The C macro that binds a name to its latest symbol. -/
def cAlias (name : String) (version : UInt32) : Line :=
  ["#define ", name, " ", name, "_v", toString version, "\n"]

/-- A line with nothing on it. -/
def blank : Line := ["\n"]

/-- The lines of the C header of the tables. -/
def Tables.header (tables : Tables) : Rendering :=
  [["#pragma once\n"], ["#include <stdint.h>\n"], blank] ++
  tables.constants.map (fun (name, value) => cMacro name value) ++
  [blank] ++
  tables.statuses.map (fun (name, status) => cMacro name status.code) ++
  [blank] ++
  tables.handles.map cTypedef ++
  [blank] ++
  tables.records.flatMap (fun record => record.cDefinition ++ [blank]) ++
  tables.functions.map Function.cPrototype ++
  [blank] ++
  (aliases tables.functions).map (fun (name, version) => cAlias name version)

/-! ## Writing -/

section Writing

variable {σ : Type}

/-- Write the C prototype of a row of the function table. -/
def Function.writePrototype (function : Function) (sink : Sink σ) :
    Writing σ Unit :=
  sink.writeAll function.cPrototype

/-- Write the C definition of a record. -/
def Record.writeC (record : Record) (sink : Sink σ) : Writing σ Unit := do
  sink.writeAll (cTypedef record.name)
  sink.writeAll (cOpening record.name)
  for field in record.fields do
    sink.writeAll field.cMember
  sink.writeAll cClosing

/-- Write the C header of the tables, up to the first refusal. -/
def Tables.writeHeader (tables : Tables) (sink : Sink σ) :
    Writing σ Unit := do
  sink.writeAll ["#pragma once\n"]
  sink.writeAll ["#include <stdint.h>\n"]
  sink.writeAll blank
  for (name, value) in tables.constants do
    sink.writeAll (cMacro name value)
  sink.writeAll blank
  for (name, status) in tables.statuses do
    sink.writeAll (cMacro name status.code)
  sink.writeAll blank
  for name in tables.handles do
    sink.writeAll (cTypedef name)
  sink.writeAll blank
  for record in tables.records do
    record.writeC sink
    sink.writeAll blank
  for function in tables.functions do
    function.writePrototype sink
  sink.writeAll blank
  for (name, version) in aliases tables.functions do
    sink.writeAll (cAlias name version)

end Writing

/-- The text of the C header. -/
def Tables.headerText (tables : Tables) : String :=
  ((tables.writeHeader Sink.toText).runFrom "").2

end PacketFeed.Interface
