import PacketFeed.Text.Printable

/-!
# Quoted text

A text in double quotes.  A quote, a backslash and four control characters
have short escapes; every other character that does not show as a character of
its own is escaped by its number.
-/

namespace PacketFeed.Text

/-- The number of a character in lower-case hexadecimal digits. -/
def hexNumber (character : Char) : List Char :=
  Nat.toDigits 16 character.toNat

/-- The form of one character between quotes. -/
def quotedChar (character : Char) : List Char :=
  match character with
  | '\x00' => ['\\', '0']
  | '\t' => ['\\', 't']
  | '\n' => ['\\', 'n']
  | '\r' => ['\\', 'r']
  | '"' => ['\\', '"']
  | '\\' => ['\\', '\\']
  | _ =>
      if isPrintable character then
        [character]
      else
        ['\\', 'u', '\x7b'] ++ hexNumber character ++ ['\x7d']

/-- A text between double quotes. -/
def quoted (text : String) : String :=
  "\"" ++ String.ofList (text.toList.flatMap quotedChar) ++ "\""

end PacketFeed.Text
