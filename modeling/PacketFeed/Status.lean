/-!
# Status codes and errors

Calls across the boundary answer with a 64-bit code.  Two codes have a
meaning; a caller that checks a code learns that the call succeeded, or gets an
error that explains the code.
-/

namespace PacketFeed

/-- The answers that a call across the boundary can give. -/
inductive Status where
  | success
  | invalidHandle
deriving DecidableEq, Repr

/-- What a caller of the boundary can be told. -/
inductive CallError where
  | allocFailure
  | invalidHandle
  | unknownStatus (code : UInt64)
deriving DecidableEq, Repr

namespace Status

/-- The code that stands for a status. -/
def code : Status → UInt64
  | .success => 0
  | .invalidHandle => 1

/-- The status for which a code stands. -/
def ofCode? (code : UInt64) : Option Status :=
  if code = 0 then some .success
  else if code = 1 then some .invalidHandle
  else none

/-- The name under which a status is shown. -/
def inspect : Status → String
  | .success => "Success"
  | .invalidHandle => "InvalidHandle"

/-- Success, or the error that the status stands for. -/
def toExcept : Status → Except CallError Unit
  | .success => .ok ()
  | .invalidHandle => .error .invalidHandle

end Status

namespace CallError

/-- The name under which an error is shown. -/
def inspect : CallError → String
  | .allocFailure => "AllocFailure"
  | .invalidHandle => "InvalidHandle"
  | .unknownStatus code => "Status(" ++ toString code ++ ")"

/-- The sentence that explains an error. -/
def message : CallError → String
  | .allocFailure => "context allocation failed"
  | .invalidHandle => "null context or batch handle"
  | .unknownStatus code => "unknown status code " ++ toString code

end CallError

/-- Success, or the error that a raw code stands for. -/
def Status.check (code : UInt64) : Except CallError Unit :=
  match ofCode? code with
  | some status => status.toExcept
  | none => .error (.unknownStatus code)

theorem Status.ofCode?_code (status : Status) :
    ofCode? status.code = some status := by
  cases status <;> rfl

end PacketFeed
