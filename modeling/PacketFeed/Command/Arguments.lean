import PacketFeed.Command.Options

/-!
# Arguments

Arguments are read from the left.  An option with a value is written as one
argument with an equals sign, or as two arguments of which the second does not
look like an option.  The first problem is reported, with one exception: a
value that stands in an argument of its own is examined only when the next
argument has been recognised, so an argument that cannot be placed at all is
reported before a bad value in front of it.
-/

namespace PacketFeed.Command

/-- What a single argument is, looked at on its own. -/
inductive Argument where
  /-- An option that takes no value. -/
  | flag (flag : Flag)
  /-- An option together with its value. -/
  | assigned (setting : Setting) (value : String)
  /-- An option whose value is still to come. -/
  | opened (setting : Setting)
  /-- A text that does not look like an option. -/
  | plain (text : String)
  /-- The two dashes after which no argument is an option. -/
  | terminator
  /-- An argument that is wrong wherever it stands. -/
  | refused (error : UsageError)
deriving DecidableEq, Repr

namespace Argument

/-- The option with a value that has the given name. -/
def setting? (name : String) : Option Setting :=
  [Setting.initial, .batches, .emit].find? fun setting => setting.name = name

/-- The option without a value that has the given name. -/
def flag? (name : String) : Option Flag :=
  [Flag.dump, .help].find? fun flag => flag.name = name

/-- Cut a text at its first equals sign. -/
def cutAtEquals : List Char → List Char × Option (List Char)
  | [] => ([], none)
  | character :: rest =>
      if character = '=' then
        ([], some rest)
      else
        let (name, value) := cutAtEquals rest
        (character :: name, value)

/-- An option by its name, perhaps with a value attached. -/
def ofName (name : String) (value : Option String) : Argument :=
  match setting? name, flag? name, value with
  | some setting, _, some value => .assigned setting value
  | some setting, _, none => .opened setting
  | none, some switch, some value => .refused (.unexpectedValue switch value)
  | none, some switch, none => .flag switch
  | none, none, _ => .refused (.unexpectedArgument ("--" ++ name))

/-- Recognise an argument. -/
def ofText (text : String) : Argument :=
  match text.toList with
  | ['-', '-'] => .terminator
  | '-' :: '-' :: option =>
      let (name, value) := cutAtEquals option
      ofName (String.ofList name) (value.map String.ofList)
  | '-' :: 'h' :: _ => .flag .help
  | '-' :: letter :: _ =>
      .refused (.unexpectedArgument (String.ofList ['-', letter]))
  | _ => .plain text

end Argument

/-! ## Choices made so far -/

/-- The options that have been given. -/
structure Choices where
  initial : Option UInt8 := none
  batches : Option UInt64 := none
  dump : Bool := false
  emit : Option Language := none
deriving DecidableEq, Repr

namespace Choices

/-- Fill in what was left out. -/
def options (choices : Choices) : Options :=
  let standard : Options := {}
  { initial := choices.initial
    batches := choices.batches.getD standard.batches
    dump := choices.dump
    emit := choices.emit }

/-- Choose the size of the first batch. -/
def chooseInitial (choices : Choices) (value : String) :
    Except UsageError Choices :=
  if choices.initial.isSome then
    .error (.repeatedSetting .initial)
  else
    match readSigned value with
    | .error fault => .error (.notANumber .initial value fault)
    | .ok number =>
        if 0 ≤ number ∧ number ≤ 255 then
          .ok { choices with initial := some (UInt8.ofNat number.toNat) }
        else
          .error (.outOfRange .initial value number 0 255)

/-- Choose the number of batches. -/
def chooseBatches (choices : Choices) (value : String) :
    Except UsageError Choices :=
  if choices.batches.isSome then
    .error (.repeatedSetting .batches)
  else
    match readUnsigned value with
    | .error fault => .error (.notANumber .batches value fault)
    | .ok number => .ok { choices with batches := some (UInt64.ofNat number) }

/-- Choose the language in which the interface is printed. -/
def chooseEmit (choices : Choices) (value : String) :
    Except UsageError Choices :=
  if choices.emit.isSome then
    .error (.repeatedSetting .emit)
  else
    match value with
    | "c" => .ok { choices with emit := some .c }
    | "rust" => .ok { choices with emit := some .rust }
    | "" => .error (.missingValue .emit)
    | _ => .error (.unknownChoice .emit value)

/-- Choose the value of an option. -/
def choose (choices : Choices) (setting : Setting) (value : String) :
    Except UsageError Choices :=
  match setting with
  | .initial => choices.chooseInitial value
  | .batches => choices.chooseBatches value
  | .emit => choices.chooseEmit value

/-- Choose to print the length of every packet. -/
def chooseDump (choices : Choices) : Except UsageError Choices :=
  if choices.dump then .error (.repeatedFlag .dump)
  else .ok { choices with dump := true }

end Choices

/-! ## Reading arguments -/

/-- What the arguments ask for. -/
inductive Request where
  | help
  | run (options : Options)
deriving DecidableEq, Repr

/-- What is wrong with the next argument wherever it stands, if anything. -/
def refusal? : List String → Option UsageError
  | [] => none
  | text :: rest =>
      match Argument.ofText text with
      | .refused error => some error
      | .plain text => some (.unexpectedArgument text)
      | .terminator => rest.head?.map .unexpectedArgument
      | _ => none

/-- Read the remaining arguments on top of the choices made so far. -/
def readFrom (choices : Choices) : List String → Except UsageError Request
  | [] => .ok (.run choices.options)
  | text :: rest =>
      match Argument.ofText text with
      | .flag .help => .ok .help
      | .flag .dump =>
          match choices.chooseDump with
          | .error error => .error error
          | .ok choices => readFrom choices rest
      | .assigned setting value =>
          match choices.choose setting value with
          | .error error => .error error
          | .ok choices => readFrom choices rest
      | .opened setting =>
          match rest with
          | [] => .error (.missingValue setting)
          | value :: others =>
              match Argument.ofText value with
              | .plain value =>
                  match refusal? others with
                  | some error => .error error
                  | none =>
                      match choices.choose setting value with
                      | .error error => .error error
                      | .ok choices => readFrom choices others
              | _ =>
                  .error ((refusal? (value :: others)).getD
                    (.missingValue setting))
      | .plain text => .error (.unexpectedArgument text)
      | .terminator =>
          match rest with
          | [] => .ok (.run choices.options)
          | argument :: _ => .error (.unexpectedArgument argument)
      | .refused error => .error error

/-- Read a whole argument list. -/
def read (arguments : List String) : Except UsageError Request :=
  readFrom {} arguments

end PacketFeed.Command
