/-!
# Text of structured values

Two ways to show a value with named fields.  The compact form stands on one
line; the spread form gives every field and every list element a line of its
own, indented by four spaces and closed by a comma.  A record may hide some of
its fields, which both forms announce by two dots.
-/

namespace PacketFeed.Text

/-! ## Compact form -/

/-- Join texts with a comma and a space between neighbours. -/
def commaSeparated (texts : List String) : String :=
  ", ".intercalate texts

/-- A list in brackets. -/
def bracketed (items : List String) : String :=
  "[" ++ commaSeparated items ++ "]"

/-- A field as its name, a colon and its value. -/
def labelled (name value : String) : String :=
  name ++ ": " ++ value

/-- A record: its name and its parts in braces. -/
def record (name : String) (parts : List String) : String :=
  name ++ " \x7b " ++ commaSeparated parts ++ " \x7d"

/-! ## Spread form, as a list of lines -/

/-- Shift a line to the right by one level. -/
def indent (line : String) : String :=
  "    " ++ line

/-- Put `text` in front of the first line. -/
def onFirst (text : String) : List String → List String
  | [] => [text]
  | line :: rest => (text ++ line) :: rest

/-- Put a comma behind the last line. -/
def closed : List String → List String
  | [] => [","]
  | [line] => [line ++ ","]
  | line :: rest => line :: closed rest

/-- A field whose value is spread over lines. -/
def labelledLines (name : String) (value : List String) : List String :=
  onFirst (name ++ ": ") value

/-- Enclose indented lines between an opening and a closing line. -/
def enclosed (first last : String) (lines : List String) : List String :=
  first :: lines.map indent ++ [last]

/-- A list, each element on lines of its own. -/
def bracketedLines (items : List (List String)) : List String :=
  enclosed "[" "]" (items.flatMap closed)

/-- A record that shows all its fields. -/
def recordLines (name : String) (fields : List (List String)) : List String :=
  enclosed (name ++ " \x7b") "\x7d" (fields.flatMap closed)

/-- A record that hides some of its fields. -/
def openRecordLines (name : String) (fields : List (List String)) :
    List String :=
  enclosed (name ++ " \x7b") "\x7d" (fields.flatMap closed ++ [".."])

/-- Lines as one text, with line ends only between them. -/
def stacked (lines : List String) : String :=
  "\n".intercalate lines

end PacketFeed.Text
