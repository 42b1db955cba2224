import Mathlib.Data.List.Nodup
import PacketFeed.Command.Arguments
import PacketFeed.Proofs.Numerals

/-!
# Recognising arguments and values

What an argument is taken for says what its text is, and the texts that
options are written in are taken for these options.  A value is accepted for
an option that was not given before exactly when it spells a choice that the
option offers.
-/

namespace PacketFeed.Command

/-- An option with a value, as it is written. -/
def Setting.option : Setting → String
  | .initial => "--initial"
  | .batches => "--batches"
  | .emit => "--emit"

theorem Setting.toList_option (setting : Setting) :
    setting.option.toList = '-' :: '-' :: setting.name.toList := by
  cases setting <;> rfl

/-- The long option for help, or the short one with anything behind it. -/
def AsksForHelp (text : String) : Prop :=
  text = "--help" ∨ ∃ more, text.toList = '-' :: 'h' :: more

/-! ## Arguments -/

namespace Argument

theorem eq_of_cutAtEquals {text name : List Char} {value : Option (List Char)}
    (cut : cutAtEquals text = (name, value)) :
    text = name ++ value.elim [] ('=' :: ·) := by
  induction text generalizing name with
  | nil =>
      cases cut
      rfl
  | cons character rest induction =>
      rw [cutAtEquals] at cut
      split at cut
      · rename_i equals
        cases cut
        rw [equals]
        rfl
      · cases cut
        rw [List.cons_append, ← induction rfl]

theorem cutAtEquals_append {name : List Char} (absent : '=' ∉ name)
    (value : List Char) :
    cutAtEquals (name ++ '=' :: value) = (name, some value) := by
  induction name with
  | nil => rfl
  | cons character name induction =>
      rw [List.mem_cons, not_or] at absent
      rw [List.cons_append, cutAtEquals, if_neg (Ne.symm absent.1),
        induction absent.2]

theorem name_of_setting? {name : String} {setting : Setting}
    (found : setting? name = some setting) : setting.name = name := by
  have fits := List.find?_some found
  exact of_decide_eq_true fits

theorem name_of_flag? {name : String} {flag : Flag}
    (found : flag? name = some flag) : flag.name = name := by
  have fits := List.find?_some found
  exact of_decide_eq_true fits

/-- What the text of an argument is, by what the argument is taken for. -/
def Fits (text : String) : Argument → Prop
  | .flag .dump => text = "--dump"
  | .flag .help => AsksForHelp text
  | .assigned setting value => text = setting.option ++ "=" ++ value
  | .opened setting => text = setting.option
  | .plain other => other = text
  | .terminator => text = "--"
  | .refused _ => True

theorem fits_ofName {text : String} {name : List Char}
    {value : Option (List Char)}
    (shape : text.toList = '-' :: '-' :: (name ++ value.elim [] ('=' :: ·))) :
    (ofName (String.ofList name) (value.map String.ofList)).Fits text := by
  unfold ofName
  split
  · rename_i setting _ found present
    obtain ⟨body, rfl, rfl⟩ := Option.map_eq_some_iff.mp present
    apply String.toList_inj.mp
    simp [shape, setting.toList_option, name_of_setting? found]
  · rename_i setting found absent
    cases Option.map_eq_none_iff.mp absent
    apply String.toList_inj.mp
    simp [shape, setting.toList_option, name_of_setting? found]
  · exact trivial
  · rename_i switch _ found absent
    cases Option.map_eq_none_iff.mp absent
    have whole : text.toList = '-' :: '-' :: switch.name.toList := by
      simp [shape, name_of_flag? found]
    cases switch with
    | dump => exact String.toList_inj.mp whole
    | help => exact Or.inl (String.toList_inj.mp whole)
  · exact trivial

/-- Every argument is taken for something that its text fits. -/
theorem fits_ofText (text : String) : (ofText text).Fits text := by
  rw [ofText]
  split
  · rename_i whole
    exact String.toList_inj.mp whole
  · rename_i option _ whole
    apply fits_ofName
    rw [whole, ← eq_of_cutAtEquals rfl]
  · rename_i whole
    exact Or.inr ⟨_, whole⟩
  · exact trivial
  · rfl

theorem ofText_option (setting : Setting) :
    ofText setting.option = .opened setting := by
  cases setting <;> rfl

theorem ofText_assigned (setting : Setting) (value : String) :
    ofText (setting.option ++ "=" ++ value) = .assigned setting value := by
  have shape :
      (setting.option ++ "=" ++ value).toList =
        '-' :: '-' :: (setting.name.toList ++ '=' :: value.toList) := by
    simp [setting.toList_option]
  have absent : '=' ∉ setting.name.toList := by
    cases setting <;> decide
  have known : setting? setting.name = some setting := by
    cases setting <;> rfl
  rw [ofText, shape]
  split
  · rename_i whole
    simp at whole
  · rename_i option _ whole
    cases whole
    simp [cutAtEquals_append absent, ofName, known]
  · rename_i whole
    simp at whole
  · rename_i letter _ dashed _ whole
    cases whole
    exact (dashed rfl).elim
  · rename_i noDash
    exact absurd rfl (noDash _ _)

theorem ofText_help {text : String} (help : AsksForHelp text) :
    ofText text = .flag .help := by
  rcases help with rfl | ⟨more, shape⟩
  · rfl
  · rw [ofText, shape]
    rfl

/-- A text without a dash in front is no option. -/
theorem ofText_plain {text : String} (free : text.toList.head? ≠ some '-') :
    ofText text = .plain text := by
  rw [ofText]
  split
  · rename_i whole
    simp [whole] at free
  · rename_i whole
    simp [whole] at free
  · rename_i whole
    simp [whole] at free
  · rename_i whole
    simp [whole] at free
  · rfl

theorem ofName_ne_plain (name : String) (value : Option String)
    (text : String) : ofName name value ≠ .plain text := by
  unfold ofName
  split <;> exact Argument.noConfusion

/-- The only text with a dash in front that is no option is the dash alone. -/
theorem eq_dash_of_ofText_plain {value text : String}
    (plain : ofText value = .plain text)
    (dashed : value.toList.head? = some '-') : value = "-" := by
  rw [ofText] at plain
  split at plain
  · cases plain
  · exact absurd plain (ofName_ne_plain _ _ _)
  · cases plain
  · cases plain
  · rename_i noLetter
    apply String.toList_inj.mp
    obtain ⟨more, shape⟩ := List.head?_eq_some_iff.mp dashed
    cases more with
    | nil => exact shape
    | cons letter more => exact absurd shape (noLetter letter more)

end Argument

/-! ## Choices -/

/-- What a single option chooses. -/
inductive Choice where
  | initial (size : UInt8)
  | batches (number : UInt64)
  | dump
  | emit (language : Language)
deriving DecidableEq

namespace Choice

/-- The option that makes a choice. -/
def option : Choice → String
  | .initial _ => "--initial"
  | .batches _ => "--batches"
  | .dump => "--dump"
  | .emit _ => "--emit"

def initial? : Choice → Option UInt8
  | .initial size => some size
  | _ => none

def batches? : Choice → Option UInt64
  | .batches number => some number
  | _ => none

def emit? : Choice → Option Language
  | .emit language => some language
  | _ => none

end Choice

/-- The value that stands for a language. -/
def Language.spelling : Language → String
  | .c => "c"
  | .rust => "rust"

theorem Language.spelling_injective {first second : Language}
    (same : first.spelling = second.spelling) : first = second := by
  revert same
  cases first <;> cases second <;> decide

/-- The choices that the values of an option spell. -/
inductive Spelling : Setting → String → Choice → Prop where
  | initial {value : String} {size : UInt8}
      (number : Signed value.toList size.toNat) :
      Spelling .initial value (.initial size)
  | batches {value : String} {count : UInt64}
      (number : Unsigned value.toList count.toNat) :
      Spelling .batches value (.batches count)
  | emit {value : String} {language : Language}
      (name : value = language.spelling) :
      Spelling .emit value (.emit language)

namespace Spelling

theorem option_eq {setting : Setting} {value : String} {choice : Choice}
    (spelling : Spelling setting value choice) :
    choice.option = setting.option := by
  cases spelling <;> rfl

theorem unique {setting : Setting} {value : String} {left right : Choice}
    (first : Spelling setting value left)
    (second : Spelling setting value right) : left = right := by
  cases first with
  | initial number =>
      cases second with
      | initial other =>
          have same := Int.ofNat.inj (number.unique other)
          rw [UInt8.toNat_inj.mp same]
  | batches number =>
      cases second with
      | batches other => rw [UInt64.toNat_inj.mp (number.unique other)]
  | emit name =>
      cases second with
      | emit other =>
          rw [Language.spelling_injective (name.symm.trans other)]

end Spelling

theorem spelling_initial_iff {value : String} {choice : Choice} :
    Spelling .initial value choice ↔
      ∃ number, readSigned value = .ok number ∧
        (0 ≤ number ∧ number ≤ 255) ∧
        choice = .initial (UInt8.ofNat number.toNat) := by
  constructor
  · intro spelling
    cases spelling with
    | @initial _ size number =>
        have small := size.toNat_lt
        refine ⟨size.toNat, ?_, by omega, by simp⟩
        apply readSigned_eq_ok_iff.mpr
        refine ⟨number, ?_⟩
        simp only [lowestSigned, highestSigned]
        omega
  · rintro ⟨number, read, within, rfl⟩
    apply Spelling.initial
    have size : ((UInt8.ofNat number.toNat).toNat : Int) = number := by
      rw [UInt8.toNat_ofNat_of_lt']
      · exact Int.toNat_of_nonneg within.1
      · simp only [UInt8.size]
        omega
    rw [size]
    exact (readSigned_eq_ok_iff.mp read).1

theorem spelling_batches_iff {value : String} {choice : Choice} :
    Spelling .batches value choice ↔
      ∃ number, readUnsigned value = .ok number ∧
        choice = .batches (UInt64.ofNat number) := by
  constructor
  · intro spelling
    cases spelling with
    | @batches _ count number =>
        refine ⟨count.toNat, ?_, by simp⟩
        exact readUnsigned_eq_ok_iff.mpr ⟨number, count.toNat_lt⟩
  · rintro ⟨number, read, rfl⟩
    obtain ⟨unsigned, small⟩ := readUnsigned_eq_ok_iff.mp read
    apply Spelling.batches
    rwa [UInt64.toNat_ofNat_of_lt' small]

theorem spelling_emit_iff {value : String} {choice : Choice} :
    Spelling .emit value choice ↔
      value = "c" ∧ choice = .emit .c ∨
        value = "rust" ∧ choice = .emit .rust := by
  constructor
  · intro spelling
    cases spelling with
    | @emit _ language name =>
        cases language with
        | c => exact Or.inl ⟨name, rfl⟩
        | rust => exact Or.inr ⟨name, rfl⟩
  · rintro (⟨name, rfl⟩ | ⟨name, rfl⟩)
    · exact .emit name
    · exact .emit name

namespace Spelling

theorem padded {setting : Setting} {value longer : String} {choice : Choice}
    (isNumber : setting ≠ .emit)
    (padding : Padding value.toList longer.toList)
    (spelling : Spelling setting value choice) :
    Spelling setting longer choice := by
  cases spelling with
  | initial number => exact .initial (padding.signed number)
  | batches number => exact .batches (padding.unsigned number)
  | emit name => exact absurd rfl isNumber

/-- A dash alone is not a value of any option. -/
theorem ne_dash {setting : Setting} {value : String} {choice : Choice}
    (spelling : Spelling setting value choice) : value ≠ "-" := by
  rintro rfl
  cases spelling with
  | initial number =>
      obtain ⟨_, decimal, -⟩ := signed_minus_iff.mp number
      exact decimal.nonempty rfl
  | batches number => exact not_unsigned_minus number
  | emit name =>
      rename_i language
      revert name
      cases language <;> decide

end Spelling

/-! ## Records of choices -/

/-- An option with the choices that it makes and the way back. -/
structure Recorded {α : Type} (name : String) (make : α → Choice)
    (made? : Choice → Option α) : Prop where
  made_iff : ∀ choice value, made? choice = some value ↔ choice = make value
  option_iff : ∀ choice : Choice,
    choice.option = name ↔ ∃ value, choice = make value

theorem recorded_initial :
    Recorded "--initial" Choice.initial Choice.initial? := by
  constructor
  · intro choice size
    cases choice <;> simp [Choice.initial?]
  · intro choice
    cases choice <;> simp [Choice.option]

theorem recorded_batches :
    Recorded "--batches" Choice.batches Choice.batches? := by
  constructor
  · intro choice number
    cases choice <;> simp [Choice.batches?]
  · intro choice
    cases choice <;> simp [Choice.option]

theorem recorded_emit : Recorded "--emit" Choice.emit Choice.emit? := by
  constructor
  · intro choice language
    cases choice <;> simp [Choice.emit?]
  · intro choice
    cases choice <;> simp [Choice.option]

namespace Recorded

variable {α : Type} {name : String} {make : α → Choice}
  {made? : Choice → Option α}

theorem made?_make (recorded : Recorded name make made?) (value : α) :
    made? (make value) = some value :=
  (recorded.made_iff _ _).mpr rfl

theorem findSome?_eq_none_iff (recorded : Recorded name make made?)
    (choices : List Choice) :
    choices.findSome? made? = none ↔ name ∉ choices.map Choice.option := by
  rw [List.findSome?_eq_none_iff, List.mem_map, not_exists]
  apply forall_congr'
  intro choice
  rw [not_and, recorded.option_iff]
  constructor
  · rintro absent member ⟨value, rfl⟩
    have none := absent member
    rw [recorded.made?_make] at none
    cases none
  · intro other member
    apply Option.eq_none_iff_forall_ne_some.mpr
    intro value made
    exact other member ⟨value, (recorded.made_iff _ _).mp made⟩

theorem isSome_findSome?_iff (recorded : Recorded name make made?)
    (choices : List Choice) :
    (choices.findSome? made?).isSome = true ↔
      name ∈ choices.map Choice.option := by
  rw [Option.isSome_iff_ne_none, Ne, recorded.findSome?_eq_none_iff,
    Decidable.not_not]

/-- When no option is given twice, the order of the choices is immaterial. -/
theorem findSome?_eq_some_iff (recorded : Recorded name make made?)
    {choices : List Choice} (once : (choices.map Choice.option).Nodup)
    (value : α) :
    choices.findSome? made? = some value ↔ make value ∈ choices := by
  constructor
  · intro found
    obtain ⟨choice, member, made⟩ := List.exists_of_findSome?_eq_some found
    rwa [← (recorded.made_iff _ _).mp made]
  · intro member
    have given : name ∈ choices.map Choice.option :=
      List.mem_map.mpr ⟨_, member, (recorded.option_iff _).mpr ⟨value, rfl⟩⟩
    cases found : choices.findSome? made? with
    | none =>
        exact absurd given ((recorded.findSome?_eq_none_iff choices).mp found)
    | some other =>
        obtain ⟨choice, present, made⟩ := List.exists_of_findSome?_eq_some found
        have same : choice = make value := by
          apply List.inj_on_of_nodup_map once present member
          rw [(recorded.option_iff _).mpr ⟨value, rfl⟩, recorded.option_iff]
          exact ⟨other, (recorded.made_iff _ _).mp made⟩
        rw [← made, same, recorded.made?_make]

end Recorded

namespace Choices

/-- The record of choices made one after another. -/
def ofList (made : List Choice) : Choices where
  initial := made.findSome? Choice.initial?
  batches := made.findSome? Choice.batches?
  dump := decide (.dump ∈ made)
  emit := made.findSome? Choice.emit?

/-- Put one choice on record. -/
def record (choices : Choices) : Choice → Choices
  | .initial size => { choices with initial := some size }
  | .batches number => { choices with batches := some number }
  | .dump => { choices with dump := true }
  | .emit language => { choices with emit := some language }

variable {made : List Choice} {value : String} {next : Choices}

theorem dump_ofList :
    (ofList made).dump = true ↔ "--dump" ∈ made.map Choice.option := by
  rw [ofList, decide_eq_true_iff, List.mem_map]
  constructor
  · intro member
    exact ⟨.dump, member, rfl⟩
  · rintro ⟨choice, member, named⟩
    cases choice with
    | dump => exact member
    | _ => simp [Choice.option] at named

theorem ofList_concat {choice : Choice}
    (fresh : choice.option ∉ made.map Choice.option) :
    ofList (made ++ [choice]) = (ofList made).record choice := by
  cases choice with
  | initial size =>
      have none := (recorded_initial.findSome?_eq_none_iff made).mpr fresh
      simp [ofList, record, none, Choice.initial?, Choice.batches?,
        Choice.emit?]
  | batches number =>
      have none := (recorded_batches.findSome?_eq_none_iff made).mpr fresh
      simp [ofList, record, none, Choice.initial?, Choice.batches?,
        Choice.emit?]
  | dump =>
      simp [ofList, record, Choice.initial?, Choice.batches?, Choice.emit?]
  | emit language =>
      have none := (recorded_emit.findSome?_eq_none_iff made).mpr fresh
      simp [ofList, record, none, Choice.initial?, Choice.batches?,
        Choice.emit?]

theorem chooseInitial_eq_ok_iff {choices : Choices}
    (absent : choices.initial.isSome ≠ true) :
    choices.chooseInitial value = .ok next ↔
      ∃ choice, Spelling .initial value choice ∧
        next = choices.record choice := by
  simp only [spelling_initial_iff]
  rw [chooseInitial, if_neg absent]
  cases readSigned value with
  | error fault => simp
  | ok number =>
      by_cases within : 0 ≤ number ∧ number ≤ 255
      · simp [within, record, eq_comm]
      · simp [within]

theorem chooseBatches_eq_ok_iff {choices : Choices}
    (absent : choices.batches.isSome ≠ true) :
    choices.chooseBatches value = .ok next ↔
      ∃ choice, Spelling .batches value choice ∧
        next = choices.record choice := by
  simp only [spelling_batches_iff]
  rw [chooseBatches, if_neg absent]
  cases readUnsigned value with
  | error fault => simp
  | ok number => simp [record, eq_comm]

theorem chooseEmit_eq_ok_iff {choices : Choices}
    (absent : choices.emit.isSome ≠ true) :
    choices.chooseEmit value = .ok next ↔
      ∃ choice, Spelling .emit value choice ∧
        next = choices.record choice := by
  simp only [spelling_emit_iff]
  unfold chooseEmit
  rw [if_neg absent]
  split
  · simp [record, eq_comm]
  · simp [record, eq_comm]
  · simp
  · simp_all

theorem choose_of_given {setting : Setting}
    (given : setting.option ∈ made.map Choice.option) :
    (ofList made).choose setting value = .error (.repeatedSetting setting) := by
  cases setting with
  | initial =>
      exact if_pos ((recorded_initial.isSome_findSome?_iff made).mpr given)
  | batches =>
      exact if_pos ((recorded_batches.isSome_findSome?_iff made).mpr given)
  | emit => exact if_pos ((recorded_emit.isSome_findSome?_iff made).mpr given)

theorem choose_of_fresh {setting : Setting}
    (fresh : setting.option ∉ made.map Choice.option) :
    (ofList made).choose setting value = .ok next ↔
      ∃ choice, Spelling setting value choice ∧
        next = (ofList made).record choice := by
  cases setting with
  | initial =>
      apply chooseInitial_eq_ok_iff
      exact mt (recorded_initial.isSome_findSome?_iff made).mp fresh
  | batches =>
      apply chooseBatches_eq_ok_iff
      exact mt (recorded_batches.isSome_findSome?_iff made).mp fresh
  | emit =>
      apply chooseEmit_eq_ok_iff
      exact mt (recorded_emit.isSome_findSome?_iff made).mp fresh

/--
A value is accepted if its option was not given before and the value spells
a choice, which is then on record.
-/
theorem choose_eq_ok_iff {setting : Setting} :
    (ofList made).choose setting value = .ok next ↔
      ∃ choice, Spelling setting value choice ∧
        choice.option ∉ made.map Choice.option ∧
        next = ofList (made ++ [choice]) := by
  by_cases given : setting.option ∈ made.map Choice.option
  · rw [choose_of_given given]
    constructor
    · intro chosen
      cases chosen
    · rintro ⟨choice, spelling, fresh, -⟩
      exact absurd given (spelling.option_eq ▸ fresh)
  · rw [choose_of_fresh given]
    apply exists_congr
    intro choice
    constructor
    · rintro ⟨spelling, recorded⟩
      have fresh := spelling.option_eq ▸ given
      exact ⟨spelling, fresh, recorded.trans (ofList_concat fresh).symm⟩
    · rintro ⟨spelling, fresh, recorded⟩
      exact ⟨spelling, recorded.trans (ofList_concat fresh)⟩

theorem chooseDump_eq_ok_iff :
    (ofList made).chooseDump = .ok next ↔
      "--dump" ∉ made.map Choice.option ∧ next = ofList (made ++ [.dump]) := by
  rw [chooseDump]
  split
  · rename_i given
    constructor
    · intro chosen
      cases chosen
    · rintro ⟨fresh, -⟩
      exact absurd (dump_ofList.mp given) fresh
  · rename_i absent
    have fresh := mt dump_ofList.mpr absent
    have recorded : ofList (made ++ [.dump]) = (ofList made).record .dump :=
      ofList_concat fresh
    constructor
    · intro chosen
      cases chosen
      exact ⟨fresh, recorded.symm⟩
    · rintro ⟨-, rfl⟩
      rw [recorded]
      rfl

end Choices

end PacketFeed.Command
