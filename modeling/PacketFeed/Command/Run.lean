import PacketFeed.Command.Arguments
import PacketFeed.Command.Session
import PacketFeed.Log.Filter

/-!
# Runs

One run of the program, from its arguments to its transcript, and what can be
seen of it from the outside.
-/

namespace PacketFeed.Command

/-- The interface in the given language. -/
def interfaceLines (language : Language) : List String :=
  Text.Rendering.lines
    (match language with
      | .c => Interface.shipped.header
      | .rust => Interface.shipped.bindings)

/-- Do what the options ask for. -/
def execute (options : Options) (circumstances : Circumstances) :
    Transcript :=
  match options.emit with
  | some language => ⟨interfaceLines language, [], .finished⟩
  | none => Session.transcript options circumstances

/-- Read the arguments and do what they ask for. -/
def run (arguments : List String) (circumstances : Circumstances) :
    Transcript :=
  match read arguments with
  | .error error => ⟨[], [], .misused error⟩
  | .ok .help => ⟨helpLines circumstances.coloured, [], .finished⟩
  | .ok (.run options) => execute options circumstances

/-- What can be seen of a run from the outside. -/
structure Appearance where
  /-- The printed lines, each with its end. -/
  output : List String
  /-- The events that the log shows. -/
  records : List Log.Event
  /-- What is printed to the error stream before and after the log. -/
  complaints : List String
  ending : Ending
deriving DecidableEq, Repr

namespace Appearance

/-- Everything that was printed. -/
def text (appearance : Appearance) : String :=
  String.join appearance.output

/-- What a reader has seen who stopped after `count` lines. -/
def firstLines (appearance : Appearance) (count : Nat) : String :=
  String.join (appearance.output.take count)

end Appearance

/-- What an ending says on the error stream; a failure names its cause last. -/
def Ending.complaint? (coloured : Bool) : Ending → Option String
  | .misused error => some (error.report coloured)
  | .failed attempt error =>
      some ("Error: " ++ attempt.failure ++ "\n\nCaused by:\n    " ++
        error.message)
  | .aborted fault => some fault.message
  | .finished | .unfinished => none

/-- How a transcript appears. -/
def Transcript.appearance (transcript : Transcript)
    (circumstances : Circumstances) : Appearance :=
  { output := transcript.output
    records :=
      Log.shown circumstances.address circumstances.log transcript.events
    complaints :=
      (Log.warnings circumstances.log).map Log.Warning.message ++
        (transcript.ending.complaint? circumstances.coloured).toList
    ending := transcript.ending }

/-- How a run on some arguments appears. -/
def appearance (arguments : List String) (circumstances : Circumstances) :
    Appearance :=
  (run arguments circumstances).appearance circumstances

end PacketFeed.Command
