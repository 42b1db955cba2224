/-!
# Numbers on the command line

A number is an optional sign and at least one decimal digit, leading zeros
allowed.  Digits are read from the left and the first problem is reported: a
character that is no digit, or a digit that takes the number out of range.
-/

namespace PacketFeed.Command

/-- Why a text is not a number of the wanted kind. -/
inductive NumberFault where
  | empty
  | invalidDigit
  | tooLarge
  | tooSmall
deriving DecidableEq, Repr

/-- The sentence that explains a fault. -/
def NumberFault.message : NumberFault → String
  | .empty => "cannot parse integer from empty string"
  | .invalidDigit => "invalid digit found in string"
  | .tooLarge => "number too large to fit in target type"
  | .tooSmall => "number too small to fit in target type"

/-- The value of a decimal digit. -/
def digit? (character : Char) : Option Nat :=
  if character.isDigit then some (character.toNat - '0'.toNat) else none

/-- Continue the number `value` with more digits, up to `limit`. -/
def readDigits (limit : Nat) (excess : NumberFault) (value : Nat) :
    List Char → Except NumberFault Nat
  | [] => .ok value
  | character :: rest =>
      match digit? character with
      | none => .error .invalidDigit
      | some digit =>
          let value := 10 * value + digit
          if value ≤ limit then readDigits limit excess value rest
          else .error excess

/-- Read a number that must have at least one digit. -/
def readNumber (limit : Nat) (excess : NumberFault) :
    List Char → Except NumberFault Nat
  | [] => .error .invalidDigit
  | digits => readDigits limit excess 0 digits

/-- The highest number that 64 bits hold without a sign. -/
def highestUnsigned : Nat := 0xffffffffffffffff

/-- The highest number that 64 bits hold with a sign. -/
def highestSigned : Nat := 0x7fffffffffffffff

/-- The magnitude of the lowest number that 64 bits hold with a sign. -/
def lowestSigned : Nat := 0x8000000000000000

/-- Read a number without a minus sign. -/
def readUnsigned (text : String) : Except NumberFault Nat :=
  match text.toList with
  | [] => .error .empty
  | '+' :: digits => readNumber highestUnsigned .tooLarge digits
  | digits => readNumber highestUnsigned .tooLarge digits

/-- Read a number with an optional sign. -/
def readSigned (text : String) : Except NumberFault Int :=
  match text.toList with
  | [] => .error .empty
  | '+' :: digits => (readNumber highestSigned .tooLarge digits).map Int.ofNat
  | '-' :: digits =>
      (readNumber lowestSigned .tooSmall digits).map
        fun number : Nat => -(number : Int)
  | digits => (readNumber highestSigned .tooLarge digits).map Int.ofNat

end PacketFeed.Command
