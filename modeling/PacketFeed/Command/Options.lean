import PacketFeed.Command.Number
import PacketFeed.Text.Style
import PacketFeed.Text.Visible

/-!
# Options

What can be chosen on the command line, what is chosen when an option is left
out, and what can be wrong with a choice.
-/

namespace PacketFeed.Command

/-- The languages in which the interface can be printed. -/
inductive Language where
  | c
  | rust
deriving DecidableEq, Repr

/-- The choices for one run. -/
structure Options where
  /-- The size of the first batch; without it the legacy constructor is used. -/
  initial : Option UInt8 := none
  /-- The number of batches; zero means that only an interrupt ends the run. -/
  batches : UInt64 := 5
  /-- Whether to print the length of every packet. -/
  dump : Bool := false
  /-- Print the interface in this language and do nothing else. -/
  emit : Option Language := none
deriving DecidableEq, Repr

/-- The options that take a value. -/
inductive Setting where
  | initial
  | batches
  | emit
deriving DecidableEq, Repr

/-- The options that take no value. -/
inductive Flag where
  | dump
  | help
deriving DecidableEq, Repr

namespace Setting

/-- The name behind the two dashes. -/
def name : Setting → String
  | .initial => "initial"
  | .batches => "batches"
  | .emit => "emit"

/-- The name of the value. -/
def placeholder : Setting → String
  | .initial => "INITIAL"
  | .batches => "BATCHES"
  | .emit => "EMIT"

/-- The option as messages show it. -/
def label (setting : Setting) : String :=
  "--" ++ setting.name ++ " <" ++ setting.placeholder ++ ">"

end Setting

namespace Flag

/-- The name behind the two dashes. -/
def name : Flag → String
  | .dump => "dump"
  | .help => "help"

/-- The option as messages show it. -/
def label (flag : Flag) : String :=
  "--" ++ flag.name

end Flag

/-- What can be wrong with the arguments. -/
inductive UsageError where
  /-- An argument has no meaning where it stands. -/
  | unexpectedArgument (argument : String)
  /-- An option that takes no value was given one. -/
  | unexpectedValue (flag : Flag) (value : String)
  /-- An option that takes a value was given none. -/
  | missingValue (setting : Setting)
  /-- An option with a value was given twice. -/
  | repeatedSetting (setting : Setting)
  /-- An option without a value was given twice. -/
  | repeatedFlag (flag : Flag)
  /-- A value is not a number. -/
  | notANumber (setting : Setting) (value : String) (fault : NumberFault)
  /-- A value is a number that is too high or too low. -/
  | outOfRange (setting : Setting) (value : String) (number : Int)
      (low high : Int)
  /-- A value is none of those that the option knows. -/
  | unknownChoice (setting : Setting) (value : String)
deriving DecidableEq, Repr

/-! ## Reports

Reports and the help text are styled for a terminal if `coloured` says so.
Otherwise nothing is left in them that only a terminal understands, whatever
the arguments hold.
-/

/-- Something that was given, in a report: yellow if coloured. -/
def given (coloured : Bool) (text : String) : String :=
  if coloured then Text.styled [33] text else Text.visible text

/-- Something that could be given: bold if coloured. -/
def literal (coloured : Bool) (text : String) : String :=
  Text.styledIf coloured [1] text

/-- A title in the help text: bold and underlined if coloured. -/
def title (coloured : Bool) (text : String) : String :=
  Text.styledIf coloured [1, 4] text

/-- The opening of messages about a value. -/
def invalidValue (coloured : Bool) (setting : Setting) (value : String) :
    String :=
  "invalid value '" ++ given coloured value ++ "' for '" ++
    literal coloured setting.label ++ "'"

/-- The sentence that explains an error. -/
def UsageError.message (coloured : Bool) : UsageError → String
  | .unexpectedArgument argument =>
      "unexpected argument '" ++ given coloured argument ++ "' found"
  | .unexpectedValue flag value =>
      "unexpected value '" ++ given coloured value ++ "' for '" ++
        literal coloured flag.label ++ "' found; no more were expected"
  | .missingValue setting =>
      "a value is required for '" ++ literal coloured setting.label ++
        "' but none was supplied"
  | .repeatedSetting setting =>
      "the argument '" ++ literal coloured setting.label ++
        "' cannot be used multiple times"
  | .repeatedFlag flag =>
      "the argument '" ++ literal coloured flag.label ++
        "' cannot be used multiple times"
  | .notANumber setting value fault =>
      invalidValue coloured setting value ++ ": " ++ fault.message
  | .outOfRange setting value number low high =>
      invalidValue coloured setting value ++ ": " ++ toString number ++
        " is not in " ++ toString low ++ "..=" ++ toString high
  | .unknownChoice setting value => invalidValue coloured setting value

/-- The text in which an error is reported; its start is red if coloured. -/
def UsageError.report (coloured : Bool) (error : UsageError) : String :=
  Text.styledIf coloured [1, 31] "error:" ++ " " ++ error.message coloured

/-- The text that explains the options, line by line. -/
def helpLines (coloured : Bool) : List String :=
  let literal := literal coloured
  let title := title coloured
  ["Pulls packet batches through the pktgen C ABI\n",
    "\n",
    title "Usage:" ++ " " ++ literal "pktgen-driver" ++ " [OPTIONS]\n",
    "\n",
    title "Options:" ++ "\n",
    "      " ++ literal "--initial" ++ " <INITIAL>  " ++
      "Initial batch size (pktgen_new_v2). " ++
      "Omit to use the legacy pktgen_new_v1\n",
    "      " ++ literal "--batches" ++ " <BATCHES>  " ++
      "Number of batches to fetch. 0 runs until Ctrl-C [default: 5]\n",
    "      " ++ literal "--dump" ++ "               " ++
      "Print every packet length\n",
    "      " ++ literal "--emit" ++ " <EMIT>        " ++
      "Print bindings for the given language and exit " ++
      "[possible values: c, rust]\n",
    "  " ++ literal "-h" ++ ", " ++ literal "--help" ++ "               " ++
      "Print help\n"]

end PacketFeed.Command
