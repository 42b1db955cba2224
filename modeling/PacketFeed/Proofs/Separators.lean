import Mathlib
import PacketFeed.Interface.Basic

/-!
# Taking texts apart

Texts are put together from parts with marks between them.  A part can be told
from what follows it if the part does not contain the mark with which that
begins, and from what precedes it if the part does not contain the mark with
which that ends.  So a list between commas and a symbol with a version at its
end can be taken apart again.
-/

namespace PacketFeed.Text

/-! ## Marks -/

/-- The text is empty or begins with the mark. -/
def Opens (mark : Char) (text : String) : Prop :=
  ∀ character ∈ text.toList.head?, character = mark

/-- The text ends with the mark. -/
def Closes (mark : Char) (text : String) : Prop :=
  text.toList.getLast? = some mark

theorem opens_empty (mark : Char) : Opens mark "" := by
  intro character head
  cases head

theorem opens_append {mark : Char} {first : String}
    (head : first.toList.head? = some mark) (second : String) :
    Opens mark (first ++ second) := by
  intro character found
  rw [String.toList_append, List.head?_append, head] at found
  exact (Option.some.inj found).symm

theorem closes_append {mark : Char} {second : String}
    (closes : Closes mark second) (first : String) :
    Closes mark (first ++ second) := by
  rw [Closes, String.toList_append, List.getLast?_append, closes]
  rfl

theorem takeWhile_ne_append {mark : Char} {part rest : List Char}
    (absent : mark ∉ part)
    (opens : ∀ character ∈ rest.head?, character = mark) :
    (part ++ rest).takeWhile (· != mark) = part := by
  have inside : ∀ character ∈ part, (character != mark) = true := by
    intro character member
    exact bne_iff_ne.mpr fun same => absent (same ▸ member)
  have ended : rest.takeWhile (· != mark) = [] := by
    cases rest with
    | nil => rfl
    | cons character rest =>
        have first : character = mark := opens character rfl
        simp [first]
  rw [List.takeWhile_append_of_pos inside, ended, List.append_nil]

section Splitting

variable {mark : Char} {first second left right : String}

/-- Where a mark follows, the part in front of it is determined. -/
theorem split_inj (absentFirst : mark ∉ first.toList)
    (absentSecond : mark ∉ second.toList) (opensLeft : Opens mark left)
    (opensRight : Opens mark right) (same : first ++ left = second ++ right) :
    first = second ∧ left = right := by
  have parts : first = second := by
    apply String.toList_inj.mp
    rw [← takeWhile_ne_append absentFirst opensLeft,
      ← takeWhile_ne_append absentSecond opensRight, ← String.toList_append,
      ← String.toList_append, same]
  subst parts
  exact ⟨rfl, (String.append_right_inj first).mp same⟩

/-- Where a mark precedes, the part behind it is determined. -/
theorem split_last_inj (closesLeft : Closes mark left)
    (closesRight : Closes mark right) (absentFirst : mark ∉ first.toList)
    (absentSecond : mark ∉ second.toList)
    (same : left ++ first = right ++ second) :
    left = right ∧ first = second := by
  -- Read backwards the part comes first.
  have reversed : ∀ {part front : String}, mark ∉ part.toList →
      Closes mark front →
      (front ++ part).toList.reverse.takeWhile (· != mark) =
        part.toList.reverse := by
    intro part front absent closes
    rw [String.toList_append, List.reverse_append]
    apply takeWhile_ne_append
    · rwa [List.mem_reverse]
    · intro character head
      rw [List.head?_reverse, closes] at head
      exact (Option.some.inj head).symm
  have parts : first = second := by
    apply String.toList_inj.mp
    apply List.reverse_injective
    rw [← reversed absentFirst closesLeft, ← reversed absentSecond closesRight,
      same]
  subst parts
  exact ⟨(String.append_left_inj first).mp same, rfl⟩

end Splitting

/-! ## Lists between commas -/

/-- What follows the first text of a list. -/
def afterFirst : List String → String
  | [] => ""
  | texts => ", " ++ commaSeparated texts

theorem commaSeparated_cons (text : String) (rest : List String) :
    commaSeparated (text :: rest) = text ++ afterFirst rest := by
  cases rest with
  | nil =>
      rw [commaSeparated, String.intercalate_singleton]
      exact String.append_empty.symm
  | cons next rest =>
      rw [commaSeparated, String.intercalate_cons_cons, String.append_assoc]
      rfl

theorem opens_afterFirst (rest : List String) :
    Opens ',' (afterFirst rest) := by
  cases rest with
  | nil => exact opens_empty ','
  | cons next rest => exact opens_append rfl _

theorem commaSeparated_eq_of_afterFirst {texts others : List String}
    (same : afterFirst texts = afterFirst others) :
    commaSeparated texts = commaSeparated others := by
  cases texts with
  | nil =>
      cases others with
      | nil => rfl
      | cons other others =>
          exact absurd (String.append_eq_empty_iff.mp same.symm).1 (by decide)
  | cons text texts =>
      cases others with
      | nil => exact absurd (String.append_eq_empty_iff.mp same).1 (by decide)
      | cons other others => exact (String.append_right_inj ", ").mp same

/-- A text that can stand in a list: not empty, and without a comma. -/
structure Listable (text : String) : Prop where
  nonempty : text ≠ ""
  plain : ',' ∉ text.toList

theorem commaSeparated_cons_ne_empty {text : String} (listable : Listable text)
    (rest : List String) : commaSeparated (text :: rest) ≠ "" := by
  rw [commaSeparated_cons]
  intro empty
  exact listable.nonempty (String.append_eq_empty_iff.mp empty).1

theorem commaSeparated_inj {texts others : List String}
    (listable : ∀ text ∈ texts, Listable text)
    (listable' : ∀ text ∈ others, Listable text)
    (same : commaSeparated texts = commaSeparated others) :
    texts = others := by
  induction texts generalizing others with
  | nil =>
      cases others with
      | nil => rfl
      | cons other others =>
          rw [List.forall_mem_cons] at listable'
          exact absurd same.symm
            (commaSeparated_cons_ne_empty listable'.1 others)
  | cons text texts induction =>
      rw [List.forall_mem_cons] at listable
      cases others with
      | nil => exact absurd same (commaSeparated_cons_ne_empty listable.1 texts)
      | cons other others =>
          rw [List.forall_mem_cons] at listable'
          rw [commaSeparated_cons, commaSeparated_cons] at same
          rcases split_inj listable.1.plain listable'.1.plain
              (opens_afterFirst texts) (opens_afterFirst others) same with
            ⟨rfl, rests⟩
          rw [induction listable.2 listable'.2
            (commaSeparated_eq_of_afterFirst rests)]

/-! ## Decimal numbers -/

theorem toList_toString (number : Nat) :
    (toString number).toList = Nat.toDigits 10 number := by
  rw [Nat.toString_eq_ofList_toDigits, String.toList_ofList]

theorem isDigit_of_mem_toString {number : Nat} {character : Char}
    (member : character ∈ (toString number).toList) :
    character.isDigit = true := by
  rw [toList_toString] at member
  exact Nat.isDigit_of_mem_toDigits (by decide) (by decide) member

theorem ofDigitChars_toString (number : Nat) :
    Nat.ofDigitChars 10 (toString number).toList 0 = number := by
  rw [toList_toString, Nat.ofDigitChars_ten_toDigits]

end PacketFeed.Text

namespace PacketFeed.Interface

/-- A symbol determines the name and the version, whatever the name is. -/
theorem symbol_inj {name other : String} {version latest : UInt32}
    (same : symbol name version = symbol other latest) :
    name = other ∧ version = latest := by
  have free : ∀ number : UInt32, 'v' ∉ (toString number).toList := by
    intro number member
    exact absurd (Text.isDigit_of_mem_toString member) (by decide)
  have closes : Text.Closes 'v' "_v" := rfl
  rcases Text.split_last_inj (Text.closes_append closes name)
      (Text.closes_append closes other) (free version) (free latest) same with
    ⟨names, versions⟩
  exact ⟨(String.append_left_inj "_v").mp names,
    UInt32.toNat_inj.mp (Nat.repr_inj.mp versions)⟩

end PacketFeed.Interface
