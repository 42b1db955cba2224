/-!
# Styles

Words that a terminal shows in a style of their own.  Every code of a style is
a control sequence in front of the word, and one sequence after it ends them
all.
-/

namespace PacketFeed.Text

/-- The control sequence for one code. -/
def styleCode (code : Nat) : String :=
  "\x1b[" ++ toString code ++ "m"

/-- A word in the style with the given codes. -/
def styled (codes : List Nat) (word : String) : String :=
  String.join (codes.map styleCode) ++ word ++ styleCode 0

/-- A word, in a style if styles are wanted. -/
def styledIf (wanted : Bool) (codes : List Nat) (word : String) : String :=
  if wanted then styled codes word else word

end PacketFeed.Text
