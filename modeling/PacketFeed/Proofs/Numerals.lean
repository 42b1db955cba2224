import PacketFeed.Command.Number

/-!
# What numbers on the command line denote

Decimal digits, at least one, denote a number; a plus sign in front changes
nothing and a minus sign denotes the opposite.  Reading a number gives what
its text denotes, and fails exactly when the text denotes no number within the
limits.  That digits are read from the left and that reading stops as soon as
a limit is passed makes no difference, since more digits never make a number
smaller.
-/

namespace PacketFeed.Command

/-- Decimal digits and the number that they denote. -/
structure Decimal (digits : List Char) (number : Nat) : Prop where
  nonempty : digits ≠ []
  isDigit : ∀ character ∈ digits, character.isDigit = true
  value : Nat.ofDigitChars 10 digits 0 = number

/-- A number with or without a plus sign. -/
inductive Unsigned : List Char → Nat → Prop where
  | bare {digits : List Char} {number : Nat}
      (decimal : Decimal digits number) : Unsigned digits number
  | plus {digits : List Char} {number : Nat}
      (decimal : Decimal digits number) : Unsigned ('+' :: digits) number

/-- A number with or without a sign. -/
inductive Signed : List Char → Int → Prop where
  | positive {text : List Char} {number : Nat}
      (unsigned : Unsigned text number) : Signed text number
  | minus {digits : List Char} {number : Nat}
      (decimal : Decimal digits number) :
      Signed ('-' :: digits) (-(number : Int))

/-! ## Digits -/

theorem Decimal.isDigit_head {character : Char} {digits : List Char}
    {number : Nat} (decimal : Decimal (character :: digits) number) :
    character.isDigit = true :=
  decimal.isDigit character List.mem_cons_self

theorem Decimal.unique {digits : List Char} {first second : Nat}
    (left : Decimal digits first) (right : Decimal digits second) :
    first = second :=
  left.value.symm.trans right.value

theorem Decimal.zero_cons {digits : List Char} {number : Nat}
    (decimal : Decimal digits number) : Decimal ('0' :: digits) number where
  nonempty := List.cons_ne_nil _ _
  isDigit := by
    intro character member
    rcases List.mem_cons.mp member with rfl | later
    · rfl
    · exact decimal.isDigit character later
  value := by
    rw [Nat.ofDigitChars_cons]
    exact decimal.value

/-- More digits never make a number smaller. -/
theorem le_ofDigitChars (digits : List Char) (value : Nat) :
    value ≤ Nat.ofDigitChars 10 digits value := by
  induction digits generalizing value with
  | nil => exact Nat.le_refl value
  | cons character digits induction =>
      rw [Nat.ofDigitChars_cons]
      apply Nat.le_trans _ (induction _)
      omega

theorem readDigits_eq_ok_iff {limit value number : Nat}
    {excess : NumberFault} {digits : List Char} (within : value ≤ limit) :
    readDigits limit excess value digits = .ok number ↔
      (∀ character ∈ digits, character.isDigit = true) ∧
        Nat.ofDigitChars 10 digits value = number ∧ number ≤ limit := by
  induction digits generalizing value with
  | nil =>
      constructor
      · intro read
        cases read
        exact ⟨List.forall_mem_nil _, rfl, within⟩
      · rintro ⟨-, rfl, -⟩
        rfl
  | cons character digits induction =>
      rw [Nat.ofDigitChars_cons, List.forall_mem_cons]
      by_cases isDigit : character.isDigit = true
      · simp only [readDigits, digit?, isDigit, if_true, true_and]
        split
        · rename_i stillWithin
          exact induction stillWithin
        · rename_i beyond
          constructor
          · intro read
            cases read
          · rintro ⟨-, rfl, small⟩
            exact absurd (Nat.le_trans (le_ofDigitChars _ _) small) beyond
      · simp [readDigits, digit?, isDigit]

theorem readNumber_eq_ok_iff {limit number : Nat} {excess : NumberFault}
    {digits : List Char} :
    readNumber limit excess digits = .ok number ↔
      Decimal digits number ∧ number ≤ limit := by
  cases digits with
  | nil =>
      constructor
      · intro read
        cases read
      · rintro ⟨decimal, -⟩
        exact absurd rfl decimal.nonempty
  | cons character digits =>
      rw [readNumber, readDigits_eq_ok_iff (Nat.zero_le limit)]
      · constructor
        · rintro ⟨allDigits, value, small⟩
          exact ⟨⟨List.cons_ne_nil _ _, allDigits, value⟩, small⟩
        · rintro ⟨decimal, small⟩
          exact ⟨decimal.isDigit, decimal.value, small⟩
      · exact List.cons_ne_nil _ _

/-! ## Signs -/

/-- A text that starts with a digit or a minus sign has no plus sign. -/
theorem unsigned_iff_decimal {text : List Char} {number : Nat}
    (noPlus : ∀ digits, text ≠ '+' :: digits) :
    Unsigned text number ↔ Decimal text number := by
  constructor
  · intro unsigned
    cases unsigned with
    | bare decimal => exact decimal
    | plus decimal => exact absurd rfl (noPlus _)
  · exact .bare

theorem unsigned_plus_iff {digits : List Char} {number : Nat} :
    Unsigned ('+' :: digits) number ↔ Decimal digits number := by
  constructor
  · intro unsigned
    cases unsigned with
    | bare decimal => exact absurd decimal.isDigit_head (by decide)
    | plus decimal => exact decimal
  · exact .plus

theorem not_unsigned_minus {digits : List Char} {number : Nat} :
    ¬ Unsigned ('-' :: digits) number := by
  intro unsigned
  cases unsigned with
  | bare decimal => exact absurd decimal.isDigit_head (by decide)

theorem readUnsigned_eq_ok_iff {text : String} {number : Nat} :
    readUnsigned text = .ok number ↔
      Unsigned text.toList number ∧ number < UInt64.size := by
  have limit : number < UInt64.size ↔ number ≤ highestUnsigned :=
    Nat.lt_succ_iff
  rw [limit, readUnsigned]
  generalize text.toList = characters
  split
  · constructor
    · intro read
      cases read
    · rintro ⟨unsigned, -⟩
      cases unsigned with
      | bare decimal => exact absurd rfl decimal.nonempty
  · rw [readNumber_eq_ok_iff, unsigned_plus_iff]
  · rename_i noPlus
    rw [readNumber_eq_ok_iff, unsigned_iff_decimal noPlus]

theorem signed_iff_unsigned {text : List Char} {number : Int}
    (noMinus : ∀ digits, text ≠ '-' :: digits) :
    Signed text number ↔
      ∃ magnitude : Nat, Unsigned text magnitude ∧ magnitude = number := by
  constructor
  · intro signed
    cases signed with
    | positive unsigned => exact ⟨_, unsigned, rfl⟩
    | minus decimal => exact absurd rfl (noMinus _)
  · rintro ⟨magnitude, unsigned, rfl⟩
    exact .positive unsigned

theorem signed_minus_iff {digits : List Char} {number : Int} :
    Signed ('-' :: digits) number ↔
      ∃ magnitude : Nat, Decimal digits magnitude ∧ -magnitude = number := by
  constructor
  · intro signed
    cases signed with
    | positive unsigned => exact absurd unsigned not_unsigned_minus
    | minus decimal => exact ⟨_, decimal, rfl⟩
  · rintro ⟨magnitude, decimal, rfl⟩
    exact .minus decimal

theorem map_readNumber_eq_ok_iff {limit : Nat} {excess : NumberFault}
    {digits : List Char} {f : Nat → Int} {number : Int} :
    (readNumber limit excess digits).map f = .ok number ↔
      ∃ magnitude,
        (Decimal digits magnitude ∧ magnitude ≤ limit) ∧
          f magnitude = number := by
  simp only [← @readNumber_eq_ok_iff _ _ excess]
  cases readNumber limit excess digits <;> simp [Except.map]

theorem readSigned_eq_ok_iff {text : String} {number : Int} :
    readSigned text = .ok number ↔
      Signed text.toList number ∧
        -(lowestSigned : Int) ≤ number ∧ number ≤ highestSigned := by
  -- A number without a minus sign cannot be too low.
  have bounds : ∀ magnitude : Nat,
      -(lowestSigned : Int) ≤ magnitude ∧ (magnitude : Int) ≤ highestSigned ↔
        magnitude ≤ highestSigned := by
    intro magnitude
    simp only [lowestSigned, highestSigned]
    omega
  rw [readSigned]
  generalize text.toList = characters
  split
  · constructor
    · intro read
      cases read
    · rintro ⟨signed, -⟩
      cases signed with
      | positive unsigned =>
          cases unsigned with
          | bare decimal => exact absurd rfl decimal.nonempty
  · rw [map_readNumber_eq_ok_iff, signed_iff_unsigned (by simp)]
    simp only [unsigned_plus_iff]
    constructor
    · rintro ⟨magnitude, ⟨decimal, small⟩, rfl⟩
      exact ⟨⟨magnitude, decimal, rfl⟩, (bounds magnitude).mpr small⟩
    · rintro ⟨⟨magnitude, decimal, rfl⟩, small⟩
      exact ⟨magnitude, ⟨decimal, (bounds magnitude).mp small⟩, rfl⟩
  · rw [map_readNumber_eq_ok_iff, signed_minus_iff]
    simp only [lowestSigned, highestSigned]
    constructor
    · rintro ⟨magnitude, ⟨decimal, small⟩, rfl⟩
      refine ⟨⟨magnitude, decimal, rfl⟩, ?_⟩
      omega
    · rintro ⟨⟨magnitude, decimal, rfl⟩, small⟩
      refine ⟨magnitude, ⟨decimal, ?_⟩, rfl⟩
      omega
  · rename_i noPlus noMinus
    rw [map_readNumber_eq_ok_iff, signed_iff_unsigned noMinus]
    simp only [unsigned_iff_decimal noPlus]
    constructor
    · rintro ⟨magnitude, ⟨decimal, small⟩, rfl⟩
      exact ⟨⟨magnitude, decimal, rfl⟩, (bounds magnitude).mpr small⟩
    · rintro ⟨⟨magnitude, decimal, rfl⟩, small⟩
      exact ⟨magnitude, ⟨decimal, (bounds magnitude).mp small⟩, rfl⟩

theorem Unsigned.unique {text : List Char} {first second : Nat}
    (left : Unsigned text first) (right : Unsigned text second) :
    first = second := by
  cases left with
  | bare decimal =>
      cases right with
      | bare other => exact decimal.unique other
      | plus other => exact absurd decimal.isDigit_head (by decide)
  | plus decimal => exact decimal.unique (unsigned_plus_iff.mp right)

theorem Signed.unique {text : List Char} {first second : Int}
    (left : Signed text first) (right : Signed text second) :
    first = second := by
  cases left with
  | positive unsigned =>
      cases right with
      | positive other => rw [unsigned.unique other]
      | minus other => exact absurd unsigned not_unsigned_minus
  | minus decimal =>
      rcases signed_minus_iff.mp right with ⟨magnitude, other, rfl⟩
      rw [decimal.unique other]

/-! ## Padding -/

/-- One more zero in front of the digits, or a plus sign in front of all. -/
inductive Padding : List Char → List Char → Prop where
  | zero {digits : List Char}
      (isDigit : ∀ character ∈ digits, character.isDigit = true) :
      Padding digits ('0' :: digits)
  | zeroBehind {sign : Char} {digits : List Char}
      (isSign : sign = '+' ∨ sign = '-') :
      Padding (sign :: digits) (sign :: '0' :: digits)
  | plus {digits : List Char}
      (isDigit : ∀ character ∈ digits, character.isDigit = true) :
      Padding digits ('+' :: digits)

namespace Padding

variable {text padded : List Char}

theorem unsigned {number : Nat} (padding : Padding text padded)
    (original : Unsigned text number) : Unsigned padded number := by
  have decimal_of_digits :
      (∀ character ∈ text, character.isDigit = true) →
        Decimal text number := by
    intro isDigit
    apply (unsigned_iff_decimal _).mp original
    rintro digits rfl
    exact absurd (isDigit '+' List.mem_cons_self) (by decide)
  cases padding with
  | zero isDigit => exact .bare (decimal_of_digits isDigit).zero_cons
  | zeroBehind isSign =>
      rcases isSign with rfl | rfl
      · exact .plus (unsigned_plus_iff.mp original).zero_cons
      · exact absurd original not_unsigned_minus
  | plus isDigit => exact .plus (decimal_of_digits isDigit)

theorem signed {number : Int} (padding : Padding text padded)
    (original : Signed text number) : Signed padded number := by
  cases original with
  | positive original => exact .positive (padding.unsigned original)
  | minus decimal =>
      cases padding with
      | zero isDigit =>
          exact absurd (isDigit '-' List.mem_cons_self) (by decide)
      | zeroBehind isSign => exact .minus decimal.zero_cons
      | plus isDigit =>
          exact absurd (isDigit '-' List.mem_cons_self) (by decide)

theorem head?_ne_dash (padding : Padding text padded)
    (free : text.head? ≠ some '-') : padded.head? ≠ some '-' := by
  cases padding with
  | zero => simp
  | zeroBehind => exact free
  | plus => simp

end Padding

end PacketFeed.Command
