import PacketFeed.Command.Run

/-!
# The program

Printing what a run says.  A bounded run is printed as a whole; an endless one
is printed round by round, as it goes.
-/

namespace PacketFeed.Main

open PacketFeed.Command

/--
Print the records that a setting shows to the error stream.  The contexts of
this program have no addresses, so the placeholder is all that a pattern sees.
-/
def report (setting : Option String) (events : List Log.Event) :
    IO Unit := do
  for event in Log.shown Log.placeholder setting events do
    IO.eprintln ("[" ++ event.level.name ++ " " ++ event.target ++ "] " ++
      event.message)

/-- Print lines that carry their own ends. -/
def printLines (lines : List String) : IO Unit := do
  let output ← IO.getStdout
  for line in lines do
    output.putStr line
  output.flush

/-- The exit code for an ending; a fault counts as an abort. -/
def exitCode (ending : Ending) : UInt32 :=
  match ending.exitCode? with
  | some code => UInt32.ofNat code
  | none => if ending.signal?.isSome then 134 else 0

/-- Explain how a run ended and give the exit code for it. -/
def conclude (ending : Ending) : IO UInt32 := do
  for complaint in ending.complaint? false do
    IO.eprintln complaint
  return exitCode ending

/-- Fetch and print batches for ever. -/
partial def continueFrom (setting : Option String) (options : Options)
    (session : Session) (index : UInt64) : IO UInt32 := do
  let fetched := session.rounds options false index 1
  report setting fetched.events
  printLines fetched.output
  match fetched.result with
  | .error ending => conclude ending
  | .ok session => continueFrom setting options session (index + 1)

/-- Run a session that only an interrupt ends. -/
def runEndlessly (setting : Option String) (options : Options) :
    IO UInt32 := do
  report setting (Session.warning options)
  let (events, created) := Session.create options true
  report setting events
  match created with
  | .error error => conclude (.failed .creation error)
  | .ok session =>
      report setting [Session.announcement options]
      continueFrom setting options session 0

end PacketFeed.Main

open PacketFeed PacketFeed.Command in
/-- Run the program on its arguments; `RUST_LOG` says how much is logged. -/
def main (arguments : List String) : IO UInt32 := do
  let setting ← IO.getEnv "RUST_LOG"
  for warning in Log.warnings setting do
    IO.eprintln warning.message
  match read arguments with
  | .ok (.run options) =>
      if options.emit.isNone && options.batches == 0 then
        return ← PacketFeed.Main.runEndlessly setting options
  | _ => pure ()
  let transcript := run arguments { log := setting }
  PacketFeed.Main.report setting transcript.events
  PacketFeed.Main.printLines transcript.output
  PacketFeed.Main.conclude transcript.ending
