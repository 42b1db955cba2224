/-!
# Renderings and sinks

A rendering is a list of lines, and a line is the list of texts that are
written one after the other to produce it, the last of which ends the line.

A sink takes texts one by one and may refuse.  A refusal is an error of the
write that met it.  Whoever writes decides what becomes of the error: bound to
what comes next, it ends the writing there.
-/

namespace PacketFeed.Text

/-- The texts that make up one line, including its end. -/
abbrev Line := List String

/-- Lines in order. -/
abbrev Rendering := List Line

namespace Rendering

/-- The texts in the order in which they are written. -/
def writes (rendering : Rendering) : List String :=
  rendering.flatten

/-- The lines as whole texts. -/
def lines (rendering : Rendering) : List String :=
  rendering.map String.join

/-- Everything in one text. -/
def text (rendering : Rendering) : String :=
  String.join (writes rendering)

end Rendering

/-! ## Sinks -/

/-- A sink would not take a text, for reasons of its own. -/
inductive Refusal where
  | refused
deriving DecidableEq, Repr

/-- Something that writes to a sink with state `σ` and may meet a refusal. -/
abbrev Writing (σ : Type) := ExceptT Refusal (StateM σ)

/-- Write, starting from the given state of the sink. -/
def Writing.runFrom {σ α : Type} (writing : Writing σ α) (state : σ) :
    Except Refusal α × σ :=
  (writing.run.run state).run

/-- A place with state `σ` to which texts are written. -/
structure Sink (σ : Type) where
  write : String → Writing σ Unit

namespace Sink

/-- Write texts in order, as one formatted line is written. -/
def writeAll {σ : Type} (sink : Sink σ) (texts : List String) :
    Writing σ Unit :=
  texts.forM sink.write

/-- The sink that takes everything, and what it has taken so far. -/
def toText : Sink String where
  write text := modify (· ++ text)

end Sink

/-- The bytes of a text. -/
def bytes (text : String) : List UInt8 :=
  text.toUTF8.data.toList

/-- The bytes that were kept and the number of bytes that still fit. -/
structure Quota where
  kept : List UInt8
  room : Nat
deriving DecidableEq

namespace Quota

/-- Nothing kept yet, and room for `limit` bytes. -/
def ofLimit (limit : Nat) : Quota where
  kept := []
  room := limit

/-- Keep of the bytes what fits. -/
def keep (quota : Quota) (bytes : List UInt8) : Quota where
  kept := quota.kept ++ bytes.take quota.room
  room := quota.room - bytes.length

/-- The sink that refuses a text that does not fit and keeps the part that does. -/
def sink : Sink Quota where
  write text := do
    let quota ← get
    set (quota.keep (bytes text))
    unless (bytes text).length ≤ quota.room do
      throw .refused

end Quota

end PacketFeed.Text
