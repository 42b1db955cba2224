import PacketFeed.Pattern

/-!
# The form of patterns

Patterns are put together in a fixed form.  Sequences and choices are never
empty or single and never stand directly in one another, texts that follow one
another are one text, a set of one character is a text, and a choice between
characters is a set.  The form decides how much room a pattern takes.
-/

namespace PacketFeed.Pattern

/-! ## Equality -/

mutual

/-- Whether two patterns are equal. -/
def same : Pattern → Pattern → Bool
  | .nothing, .nothing => true
  | .text left, .text right => left == right
  | .one left leftNarrow, .one right rightNarrow =>
      left == right && leftNarrow == rightNarrow
  | .placed left, .placed right => left == right
  | .repetition left least most greedy,
      .repetition right least' most' greedy' =>
      least == least' && most == most' && greedy == greedy' && same left right
  | .group number left, .group number' right =>
      number == number' && same left right
  | .sequence left, .sequence right => sameAll left right
  | .choice left, .choice right => sameAll left right
  | _, _ => false

/-- Whether two lists of patterns are equal. -/
def sameAll : List Pattern → List Pattern → Bool
  | [], [] => true
  | left :: lefts, right :: rights => same left right && sameAll lefts rights
  | _, _ => false

end

/-! ## Lengths and ends -/

/-- The number of bytes of a character with the given number. -/
def byteCount (number : Nat) : Nat :=
  if number < 0x80 then 1
  else if number < 0x800 then 2
  else if number < 0x10000 then 3
  else 4

mutual

/-- The length in bytes of the shortest texts, unless some set is empty. -/
def shortest : Pattern → Option Nat
  | .nothing | .placed _ => some 0
  | .text characters => some (String.ofList characters).utf8ByteSize
  | .one set _ => set.ranges.head?.map fun (first, _) => byteCount first
  | .repetition body least _ _ => (shortest body).map (· * least)
  | .group _ body => shortest body
  | .sequence parts => shortestOfAll parts
  | .choice branches => shortestOfAny branches

/-- The length of the shortest texts for patterns in a row. -/
def shortestOfAll : List Pattern → Option Nat
  | [] => some 0
  | part :: parts =>
      match shortest part, shortestOfAll parts with
      | some first, some others => some (first + others)
      | _, _ => none

/-- The length of the shortest texts for one of some patterns. -/
def shortestOfAny : List Pattern → Option Nat
  | [] => none
  | [branch] => shortest branch
  | branch :: branches =>
      match shortest branch, shortestOfAny branches with
      | some first, some others => some (min first others)
      | _, _ => none

end

mutual

/-- Whether only the text without characters can fit. -/
def isAlwaysEmpty : Pattern → Bool
  | .nothing | .placed _ => true
  | .text _ | .one .. => false
  | .repetition body _ most _ => most.isSome && isAlwaysEmpty body
  | .group _ body => isAlwaysEmpty body
  | .sequence parts => areAlwaysEmpty parts
  | .choice branches => areAlwaysEmpty branches

/-- Whether only the text without characters can fit each pattern. -/
def areAlwaysEmpty : List Pattern → Bool
  | [] => true
  | pattern :: patterns => isAlwaysEmpty pattern && areAlwaysEmpty patterns

end

mutual

/--
Whether a condition stands at one end of the pattern whatever text fits it:
at its last end if `atEnd` says so, and otherwise at its first.
-/
def isBoundBy (condition : Condition) (atEnd : Bool) : Pattern → Bool
  | .nothing | .text _ | .one .. => false
  | .placed other => other == condition
  | .repetition body least _ _ =>
      0 < least && isBoundBy condition atEnd body
  | .group _ body => isBoundBy condition atEnd body
  | .sequence parts =>
      if atEnd then (rowEnd condition parts).1
      else isRowStartBoundBy condition parts
  | .choice branches => areBoundBy condition atEnd branches

/-- Whether a condition stands at the start of patterns in a row. -/
def isRowStartBoundBy (condition : Condition) : List Pattern → Bool
  | [] => false
  | part :: parts =>
      isBoundBy condition false part ||
        (isAlwaysEmpty part && isRowStartBoundBy condition parts)

/--
Whether a condition stands at the end of patterns in a row, and whether only
the text without characters can fit all of them.
-/
def rowEnd (condition : Condition) : List Pattern → Bool × Bool
  | [] => (false, true)
  | part :: parts =>
      let (isBound, areEmpty) := rowEnd condition parts
      (isBound || (areEmpty && isBoundBy condition true part),
        areEmpty && isAlwaysEmpty part)

/-- Whether a condition stands at one end of each pattern. -/
def areBoundBy (condition : Condition) (atEnd : Bool) : List Pattern → Bool
  | [] => true
  | branch :: branches =>
      isBoundBy condition atEnd branch && areBoundBy condition atEnd branches

end

mutual

/-- Whether every condition in a pattern can be decided. -/
def isDecided : Pattern → Bool
  | .nothing | .text _ | .one .. => true
  | .placed condition => condition != .undecided
  | .repetition body .. => isDecided body
  | .group _ body => isDecided body
  | .sequence parts => areDecided parts
  | .choice branches => areDecided branches

/-- Whether every condition in each pattern can be decided. -/
def areDecided : List Pattern → Bool
  | [] => true
  | pattern :: patterns => isDecided pattern && areDecided patterns

end

/-! ## Putting patterns together -/

/-- The pattern that no text fits. -/
def never : Pattern :=
  .one .empty true

/-- One character of a set. -/
def ofSet (set : CharSet) (isNarrow : Bool) : Pattern :=
  match set.ranges with
  | [] => never
  | [(first, last)] =>
      if first = last then .text [Char.ofNat first] else .one set isNarrow
  | _ => .one set isNarrow

/-- Join texts that follow one another. -/
def joinTexts : List Pattern → List Pattern
  | [] => []
  | .text first :: rest =>
      match joinTexts rest with
      | .text second :: others => .text (first ++ second) :: others
      | others => .text first :: others
  | part :: rest => part :: joinTexts rest

/-- The patterns in a row that a pattern stands for. -/
def parts : Pattern → List Pattern
  | .nothing => []
  | .sequence parts => parts
  | pattern => [pattern]

/-- The patterns of a choice that a pattern stands for. -/
def branches : Pattern → List Pattern
  | .choice branches => branches
  | pattern => [pattern]

/-- Patterns in a row. -/
def ofParts (patterns : List Pattern) : Pattern :=
  match joinTexts (patterns.flatMap parts) with
  | [] => .nothing
  | [part] => part
  | parts => .sequence parts

/-- The character that a pattern stands for, if it is one. -/
def character? : Pattern → Option Char
  | .text [character] => some character
  | _ => none

/-- The set that a pattern stands for, if it is one. -/
def set? : Pattern → Option CharSet
  | .one set _ => some set
  | _ => none

/-- The union of some sets. -/
def unionOf (sets : List CharSet) : CharSet :=
  sets.foldl CharSet.union .empty

/--
A choice whose branches are no choices themselves.  Single characters, and
sets, are joined to one set.
-/
def ofBranchesPlain (branches : List Pattern) : Pattern :=
  match branches with
  | [] => never
  | [branch] => branch
  | _ =>
      match branches.mapM character?, branches.mapM set? with
      | some characters, _ =>
          ofSet (unionOf (characters.map CharSet.single)) false
      | none, some sets => ofSet (unionOf sets) false
      | none, none => .choice branches

/-- The number of patterns with which two rows start alike. -/
def commonLength : List Pattern → List Pattern → Nat
  | left :: lefts, right :: rights =>
      if same left right then commonLength lefts rights + 1 else 0
  | _, _ => 0

/-- The parts of a sequence, if the pattern is one. -/
def sequence? : Pattern → Option (List Pattern)
  | .sequence parts => some parts
  | _ => none

/--
A choice.  If all branches are sequences that start alike, the common start is
put in front of it.
-/
def ofBranches (patterns : List Pattern) : Pattern :=
  let branches := patterns.flatMap branches
  match branches.mapM sequence? with
  | some (first :: second :: others) =>
      let shared := (second :: others).foldl
        (fun length row => min length (commonLength first row)) first.length
      if shared = 0 then
        ofBranchesPlain branches
      else
        let tails := (first :: second :: others).map fun row =>
          ofParts (row.drop shared)
        ofParts (first.take shared ++
          [ofBranchesPlain (tails.flatMap Pattern.branches)])
  | _ => ofBranchesPlain branches

/--
A repetition.  One of a pattern that takes no characters is never followed
more than once, no round at all is the empty text, and one round is the pattern
itself.
-/
def ofRounds (body : Pattern) (least : Nat) (most : Option Nat)
    (isGreedy : Bool) : Pattern :=
  let isEmpty := body.isAlwaysEmpty
  let least := if isEmpty then min least 1 else least
  let most := if isEmpty then some (min (most.getD 1) 1) else most
  if least = 0 && most = some 0 then .nothing
  else if least = 1 && most = some 1 then body
  else .repetition body least most isGreedy

end PacketFeed.Pattern
