import Mathlib.Data.List.Perm.Basic
import Mathlib.Logic.Relation
import PacketFeed.Command.Run
import PacketFeed.Proofs.Recognition

/-!
# The grammar of arguments

An argument list is accepted exactly when it falls into groups, each an option
with a value that the option takes, and no option is given twice.  There is
one way to group a list, and the order of the groups, the way in which a value
is attached and the padding of numbers are immaterial.
-/

namespace PacketFeed.Command

/-- How a value is attached: by an equals sign or as the next argument. -/
inductive Form where
  | joined
  | separate

/-- An option in an argument list, with its value if it takes one. -/
inductive Group where
  | dump
  | valued (form : Form) (setting : Setting) (value : String)

namespace Group

/-- The arguments that make up a group. -/
def arguments : Group → List String
  | .dump => ["--dump"]
  | .valued .joined setting value => [setting.option ++ "=" ++ value]
  | .valued .separate setting value => [setting.option, value]

/-- The choice that a group makes. -/
inductive Means : Group → Choice → Prop where
  | dump : Means .dump .dump
  | joined {setting : Setting} {value : String} {choice : Choice}
      (spelling : Spelling setting value choice) :
      Means (.valued .joined setting value) choice
  | separate {setting : Setting} {value : String} {choice : Choice}
      (spelling : Spelling setting value choice)
      (free : value.toList.head? ≠ some '-') :
      Means (.valued .separate setting value) choice

/-- Another way to write the same group. -/
inductive Varies : Group → Group → Prop where
  | joined {setting : Setting} {value : String} :
      Varies (.valued .separate setting value) (.valued .joined setting value)
  | separate {setting : Setting} {value : String}
      (free : value.toList.head? ≠ some '-') :
      Varies (.valued .joined setting value) (.valued .separate setting value)
  | padded {form : Form} {setting : Setting} {value padded : String}
      (isNumber : setting ≠ .emit)
      (padding : Padding value.toList padded.toList) :
      Varies (.valued form setting value) (.valued form setting padded)

end Group

/-- A division of an argument list into groups that make choices. -/
structure Split (arguments : List String) (groups : List Group)
    (choices : List Choice) : Prop where
  cover : groups.flatMap Group.arguments = arguments
  means : List.Forall₂ Group.Means groups choices
  once : (choices.map Choice.option).Nodup

/-- The options that choices amount to. -/
def configuration (choices : List Choice) : Options where
  initial := choices.findSome? Choice.initial?
  batches := (choices.findSome? Choice.batches?).getD 5
  dump := decide (.dump ∈ choices)
  emit := choices.findSome? Choice.emit?

/-! ## Groups -/

namespace Group

/-- What the first argument of a group is taken for. -/
def argument : Group → Argument
  | .dump => .flag .dump
  | .valued .joined setting value => .assigned setting value
  | .valued .separate setting _ => .opened setting

theorem arguments_eq_cons (group : Group) :
    ∃ text more, group.arguments = text :: more ∧
      Argument.ofText text = group.argument := by
  rcases group with _ | ⟨_ | _, setting, value⟩
  · exact ⟨_, _, rfl, rfl⟩
  · exact ⟨_, _, rfl, Argument.ofText_assigned setting value⟩
  · exact ⟨_, _, rfl, Argument.ofText_option setting⟩

theorem argument_eq_of_arguments_append {first second : Group}
    {left right : List String}
    (same : first.arguments ++ left = second.arguments ++ right) :
    first.argument = second.argument := by
  obtain ⟨text, more, shape, taken⟩ := first.arguments_eq_cons
  obtain ⟨other, others, shape', taken'⟩ := second.arguments_eq_cons
  rw [shape, shape'] at same
  rw [← taken, ← taken', (List.cons.inj same).1]

/-- Where a group ends can be told from its first argument. -/
theorem arguments_append_inj {first second : Group} {left right : List String}
    (same : first.arguments ++ left = second.arguments ++ right) :
    first = second ∧ left = right := by
  have taken := argument_eq_of_arguments_append same
  rcases first with _ | ⟨_ | _, setting, value⟩ <;>
    rcases second with _ | ⟨_ | _, setting', value'⟩ <;>
    cases taken
  -- The first argument leaves only the value of a separate form open.
  · exact ⟨rfl, List.append_cancel_left same⟩
  · exact ⟨rfl, List.append_cancel_left same⟩
  · cases same
    exact ⟨rfl, rfl⟩

theorem flatMap_arguments_cons_ne_nil (group : Group) (groups : List Group) :
    (group :: groups).flatMap arguments ≠ [] := by
  obtain ⟨text, more, shape, -⟩ := group.arguments_eq_cons
  rw [List.flatMap_cons, shape, List.cons_append]
  exact List.cons_ne_nil _ _

theorem flatMap_arguments_inj {first second : List Group}
    (same : first.flatMap arguments = second.flatMap arguments) :
    first = second := by
  induction first generalizing second with
  | nil =>
      cases second with
      | nil => rfl
      | cons group groups =>
          exact absurd same.symm (flatMap_arguments_cons_ne_nil group groups)
  | cons group groups induction =>
      cases second with
      | nil => exact absurd same (flatMap_arguments_cons_ne_nil group groups)
      | cons other others =>
          rw [List.flatMap_cons, List.flatMap_cons] at same
          obtain ⟨rfl, later⟩ := arguments_append_inj same
          rw [induction later]

theorem Means.unique : Relator.RightUnique Means := by
  intro group left right first second
  cases first with
  | dump =>
      cases second
      rfl
  | joined spelling =>
      cases second with
      | joined other => exact spelling.unique other
  | separate spelling =>
      cases second with
      | separate other => exact spelling.unique other

theorem Varies.means {group other : Group} {choice : Choice}
    (varies : group.Varies other) (means : group.Means choice) :
    other.Means choice := by
  cases varies with
  | joined =>
      cases means with
      | separate spelling => exact .joined spelling
  | separate free =>
      cases means with
      | joined spelling => exact .separate spelling free
  | padded isNumber padding =>
      cases means with
      | joined spelling =>
          exact .joined (spelling.padded isNumber padding)
      | separate spelling free =>
          exact .separate (spelling.padded isNumber padding)
            (padding.head?_ne_dash free)

theorem means_of_reflTransGen {group other : Group} {choice : Choice}
    (varies : Relation.ReflTransGen Varies group other)
    (means : group.Means choice) : other.Means choice := by
  induction varies with
  | refl => exact means
  | tail _ last induction => exact last.means induction

theorem forall₂_means_of_varies {groups varied : List Group}
    {choices : List Choice}
    (varies : List.Forall₂ (Relation.ReflTransGen Varies) groups varied)
    (means : List.Forall₂ Means groups choices) :
    List.Forall₂ Means varied choices := by
  induction varies generalizing choices with
  | nil => exact means
  | cons first _ induction =>
      cases means with
      | cons head tail =>
          exact .cons (means_of_reflTransGen first head) (induction tail)

end Group

/-! ## Splits -/

theorem configuration_perm {left right : List Choice} (perm : left.Perm right)
    (once : (left.map Choice.option).Nodup) :
    configuration left = configuration right := by
  have onceToo := (perm.map Choice.option).nodup_iff.mp once
  have same : ∀ {α : Type} {name : String} {make : α → Choice}
      {made? : Choice → Option α}, Recorded name make made? →
        left.findSome? made? = right.findSome? made? := by
    intro α name make made? recorded
    apply Option.ext
    intro value
    rw [recorded.findSome?_eq_some_iff once,
      recorded.findSome?_eq_some_iff onceToo, perm.mem_iff]
  simp only [configuration, same recorded_initial, same recorded_batches,
    same recorded_emit, perm.mem_iff]

namespace Split

theorem nil : Split [] [] [] := ⟨rfl, .nil, List.nodup_nil⟩

theorem concat {arguments : List String} {groups : List Group}
    {choices : List Choice} {group : Group} {choice : Choice}
    (split : Split arguments groups choices) (means : group.Means choice)
    (fresh : choice.option ∉ choices.map Choice.option) :
    Split (arguments ++ group.arguments) (groups ++ [group])
      (choices ++ [choice]) where
  cover := by
    rw [List.flatMap_append, split.cover, List.flatMap_singleton]
  means := List.rel_append split.means (.cons means .nil)
  once := by
    rw [List.map_append, List.map_singleton, ← List.concat_eq_append]
    exact split.once.concat fresh

theorem unique {arguments : List String} {groups others : List Group}
    {choices otherChoices : List Choice}
    (first : Split arguments groups choices)
    (second : Split arguments others otherChoices) :
    groups = others ∧ choices = otherChoices := by
  have same : groups = others := by
    apply Group.flatMap_arguments_inj
    rw [first.cover, second.cover]
  subst same
  exact ⟨rfl, Group.Means.unique.forall₂ first.means second.means⟩

/-- Groups can be reordered and written in another way. -/
theorem exists_of_perm_of_varies {arguments : List String}
    {groups permuted varied : List Group} {choices : List Choice}
    (split : Split arguments groups choices) (perm : permuted.Perm groups)
    (varies : List.Forall₂ (Relation.ReflTransGen Group.Varies)
      permuted varied) :
    ∃ reordered, Split (varied.flatMap Group.arguments) varied reordered ∧
      configuration reordered = configuration choices := by
  obtain ⟨reordered, means, same⟩ := List.perm_comp_forall₂ perm split.means
  have once : (reordered.map Choice.option).Nodup :=
    (same.map Choice.option).nodup_iff.mpr split.once
  have still := Group.forall₂_means_of_varies varies means
  exact ⟨reordered, ⟨rfl, still, once⟩, configuration_perm same once⟩

end Split

/-! ## Reading groups -/

theorem refusal?_groups (groups : List Group) {tail : List String}
    (welcome : refusal? tail = none) :
    refusal? (groups.flatMap Group.arguments ++ tail) = none := by
  cases groups with
  | nil => exact welcome
  | cons group groups =>
      obtain ⟨text, more, shape, taken⟩ := group.arguments_eq_cons
      rw [List.flatMap_cons, shape]
      simp only [List.cons_append, refusal?, taken]
      rcases group with _ | ⟨_ | _, setting, value⟩ <;> rfl

theorem readFrom_group {group : Group} {choice : Choice}
    {made : List Choice} {rest : List String} (means : group.Means choice)
    (fresh : choice.option ∉ made.map Choice.option)
    (welcome : refusal? rest = none) :
    readFrom (.ofList made) (group.arguments ++ rest) =
      readFrom (.ofList (made ++ [choice])) rest := by
  cases means with
  | dump =>
      have taken : Argument.ofText "--dump" = .flag .dump := rfl
      have chosen := Choices.chooseDump_eq_ok_iff.mpr ⟨fresh, rfl⟩
      rw [readFrom.eq_def]
      simp only [Group.arguments, List.cons_append, List.nil_append, taken,
        chosen]
  | @joined setting value _ spelling =>
      have chosen := Choices.choose_eq_ok_iff.mpr ⟨_, spelling, fresh, rfl⟩
      rw [readFrom.eq_def]
      simp only [Group.arguments, List.cons_append, List.nil_append,
        Argument.ofText_assigned, chosen]
  | @separate setting value _ spelling free =>
      have chosen := Choices.choose_eq_ok_iff.mpr ⟨_, spelling, fresh, rfl⟩
      -- The value is examined when the next argument is found in order.
      rw [readFrom.eq_def]
      simp only [Group.arguments, List.cons_append, List.nil_append,
        Argument.ofText_option, Argument.ofText_plain free, welcome, chosen]

theorem readFrom_groups {groups : List Group} {made choices : List Choice}
    {tail : List String} (means : List.Forall₂ Group.Means groups choices)
    (once : ((made ++ choices).map Choice.option).Nodup)
    (welcome : refusal? tail = none) :
    readFrom (.ofList made) (groups.flatMap Group.arguments ++ tail) =
      readFrom (.ofList (made ++ choices)) tail := by
  induction means generalizing made with
  | nil => rw [List.append_nil, List.flatMap_nil, List.nil_append]
  | @cons group choice groups choices first _ induction =>
      rw [List.append_cons] at once
      have fresh : choice.option ∉ made.map Choice.option := by
        rw [List.map_append, List.map_append, List.append_assoc] at once
        intro given
        exact (List.nodup_append.mp once).2.2 _ given _
          (List.mem_append_left _ List.mem_cons_self) rfl
      rw [List.flatMap_cons, List.append_assoc,
        readFrom_group first fresh (refusal?_groups _ welcome),
        induction once, ← List.append_cons]

/--
What may stand behind the groups: nothing, or a request for help with
anything after it.
-/
inductive Remainder (choices : List Choice) : List String → Request → Prop where
  | nothing : Remainder choices [] (.run (configuration choices))
  | help {text : String} {rest : List String} (asks : AsksForHelp text) :
      Remainder choices (text :: rest) .help

theorem readFrom_remainder {choices : List Choice} {tail : List String}
    {request : Request} (remainder : Remainder choices tail request) :
    refusal? tail = none ∧
      readFrom (.ofList choices) tail = .ok request := by
  cases remainder with
  | nothing => exact ⟨rfl, rfl⟩
  | help asks =>
      rw [refusal?, readFrom.eq_def]
      simp only [Argument.ofText_help asks, and_self]

theorem Split.read_append {front tail : List String} {groups : List Group}
    {choices : List Choice} {request : Request}
    (split : Split front groups choices)
    (remainder : Remainder choices tail request) :
    read (front ++ tail) = .ok request := by
  obtain ⟨welcome, last⟩ := readFrom_remainder remainder
  rw [← split.cover]
  exact (@readFrom_groups _ [] _ _ split.means split.once welcome).trans last

theorem Split.read_eq {arguments : List String} {groups : List Group}
    {choices : List Choice} (split : Split arguments groups choices) :
    read arguments = .ok (.run (configuration choices)) := by
  have whole := split.read_append .nothing
  rwa [List.append_nil] at whole

/-! ## Groups from reading -/

theorem readFrom_assigned_ok {made : List Choice} {setting : Setting}
    {value : String} {rest : List String} {request : Request}
    (accepted :
      readFrom (.ofList made) ((setting.option ++ "=" ++ value) :: rest) =
        .ok request) :
    ∃ choice, Spelling setting value choice ∧
      choice.option ∉ made.map Choice.option ∧
      readFrom (.ofList (made ++ [choice])) rest = .ok request := by
  rw [readFrom.eq_def] at accepted
  simp only [Argument.ofText_assigned] at accepted
  split at accepted
  · cases accepted
  · rename_i chosen
    obtain ⟨choice, spelling, fresh, rfl⟩ :=
      Choices.choose_eq_ok_iff.mp chosen
    exact ⟨choice, spelling, fresh, accepted⟩

theorem readFrom_opened_ok {made : List Choice} {setting : Setting}
    {rest : List String} {request : Request}
    (accepted :
      readFrom (.ofList made) (setting.option :: rest) = .ok request) :
    ∃ value others choice, rest = value :: others ∧
      Spelling setting value choice ∧ value.toList.head? ≠ some '-' ∧
      choice.option ∉ made.map Choice.option ∧
      readFrom (.ofList (made ++ [choice])) others = .ok request := by
  rw [readFrom.eq_def] at accepted
  simp only [Argument.ofText_option] at accepted
  split at accepted
  · cases accepted
  · rename_i value others
    split at accepted
    · rename_i plain
      have same := Argument.fits_ofText value
      rw [plain] at same
      subst same
      split at accepted
      · cases accepted
      · split at accepted
        · cases accepted
        · rename_i chosen
          obtain ⟨choice, spelling, fresh, rfl⟩ :=
            Choices.choose_eq_ok_iff.mp chosen
          -- A dash alone would be taken as a value, but spells no choice.
          have free :=
            mt (Argument.eq_dash_of_ofText_plain plain) spelling.ne_dash
          exact ⟨_, others, choice, rfl, spelling, free, fresh, accepted⟩
    · cases accepted

/--
Arguments that are accepted start with a group, unless they have ended or
ask for help.
-/
theorem readFrom_ok_cases {made : List Choice} {arguments : List String}
    {request : Request}
    (accepted : readFrom (.ofList made) arguments = .ok request)
    (noTerminator : "--" ∉ arguments) :
    Remainder made arguments request ∨
      ∃ group choice rest, arguments = group.arguments ++ rest ∧
        Group.Means group choice ∧
        choice.option ∉ made.map Choice.option ∧
        readFrom (.ofList (made ++ [choice])) rest = .ok request := by
  cases arguments with
  | nil =>
      cases accepted
      exact Or.inl .nothing
  | cons text rest =>
      have fits := Argument.fits_ofText text
      cases taken : Argument.ofText text with
      | assigned setting value =>
          rw [taken] at fits
          subst fits
          obtain ⟨choice, spelling, fresh, later⟩ :=
            readFrom_assigned_ok accepted
          exact Or.inr ⟨.valued .joined setting value, choice, rest, rfl,
            .joined spelling, fresh, later⟩
      | opened setting =>
          rw [taken] at fits
          subst fits
          obtain ⟨value, others, choice, rfl, spelling, free, fresh, later⟩ :=
            readFrom_opened_ok accepted
          exact Or.inr ⟨.valued .separate setting value, choice, others, rfl,
            .separate spelling free, fresh, later⟩
      | flag flag =>
          rw [taken] at fits
          rw [readFrom.eq_def] at accepted
          simp only [taken] at accepted
          cases flag with
          | help =>
              cases accepted
              exact Or.inl (.help fits)
          | dump =>
              subst fits
              simp only at accepted
              split at accepted
              · cases accepted
              · rename_i chosen
                obtain ⟨fresh, rfl⟩ := Choices.chooseDump_eq_ok_iff.mp chosen
                exact Or.inr ⟨.dump, .dump, rest, rfl, .dump, fresh, accepted⟩
      | terminator =>
          rw [taken] at fits
          exact absurd (fits ▸ List.mem_cons_self) noTerminator
      | plain other =>
          rw [readFrom.eq_def] at accepted
          simp only [taken] at accepted
          cases accepted
      | refused error =>
          rw [readFrom.eq_def] at accepted
          simp only [taken] at accepted
          cases accepted

/-- What has been read is split, and stays so to the end. -/
theorem exists_split_of_readFrom {front rest : List String}
    {groups : List Group} {made : List Choice} {request : Request}
    (split : Split front groups made)
    (accepted : readFrom (.ofList made) rest = .ok request)
    (noTerminator : "--" ∉ rest) :
    ∃ before tail groups choices, front ++ rest = before ++ tail ∧
      Split before groups choices ∧ Remainder choices tail request := by
  -- Every group takes at least one argument away.
  induction size : rest.length using Nat.strongRecOn
    generalizing front rest groups made with
  | _ length induction =>
      rcases readFrom_ok_cases accepted noTerminator with
        remainder | ⟨group, choice, later, rfl, means, fresh, accepted⟩
      · exact ⟨front, rest, groups, made, rfl, split, remainder⟩
      · have shorter : later.length < length := by
          obtain ⟨text, more, shape, -⟩ := group.arguments_eq_cons
          rw [← size, shape, List.length_append, List.length_cons]
          omega
        have onwards := induction later.length shorter
          (split.concat means fresh) accepted
          (fun member => noTerminator (List.mem_append_right _ member)) rfl
        rwa [List.append_assoc] at onwards

theorem read_eq_ok_iff {arguments : List String} {request : Request}
    (noTerminator : "--" ∉ arguments) :
    read arguments = .ok request ↔
      ∃ before tail groups choices, arguments = before ++ tail ∧
        Split before groups choices ∧ Remainder choices tail request := by
  constructor
  · intro accepted
    exact exists_split_of_readFrom .nil accepted noTerminator
  · rintro ⟨before, tail, groups, choices, rfl, split, remainder⟩
    exact split.read_append remainder

/-- A request for help behind groups that are in order. -/
def ReachesHelp (arguments : List String) : Prop :=
  ∃ before text rest groups choices,
    arguments = before ++ text :: rest ∧ Split before groups choices ∧
      AsksForHelp text

theorem read_eq_run_iff {arguments : List String} {options : Options}
    (noTerminator : "--" ∉ arguments) :
    read arguments = .ok (.run options) ↔
      ∃ groups choices, Split arguments groups choices ∧
        options = configuration choices := by
  constructor
  · intro accepted
    obtain ⟨before, tail, groups, choices, rfl, split, remainder⟩ :=
      (read_eq_ok_iff noTerminator).mp accepted
    cases remainder
    rw [List.append_nil]
    exact ⟨groups, choices, split, rfl⟩
  · rintro ⟨groups, choices, split, rfl⟩
    exact split.read_eq

theorem read_eq_help_iff {arguments : List String}
    (noTerminator : "--" ∉ arguments) :
    read arguments = .ok .help ↔ ReachesHelp arguments := by
  rw [read_eq_ok_iff noTerminator]
  constructor
  · rintro ⟨before, tail, groups, choices, rfl, split, remainder⟩
    cases remainder with
    | help asks => exact ⟨before, _, _, groups, choices, rfl, split, asks⟩
  · rintro ⟨before, text, rest, groups, choices, rfl, split, asks⟩
    exact ⟨before, text :: rest, groups, choices, rfl, split, .help asks⟩

theorem appearance_of_help {arguments : List String}
    (help : read arguments = .ok .help) (circumstances : Circumstances) :
    (appearance arguments circumstances).output =
        helpLines circumstances.coloured ∧
      (appearance arguments circumstances).records = [] ∧
      (appearance arguments circumstances).ending = .finished := by
  rw [appearance, run, help]
  exact ⟨rfl, rfl, rfl⟩

theorem appearance_of_error {arguments : List String} {error : UsageError}
    (refused : read arguments = .error error)
    (circumstances : Circumstances) :
    (appearance arguments circumstances).output = [] ∧
      (appearance arguments circumstances).records = [] ∧
      (appearance arguments circumstances).ending = .misused error := by
  rw [appearance, run, refused]
  exact ⟨rfl, rfl, rfl⟩

/--
Without the two dashes that end the options, the arguments ask for a run
exactly when they split into groups of which no two give the same option.
There is one split, and the options of the run are what its choices amount to,
so that reordering groups, attaching values in the other way and padding
numbers change nothing.  All other arguments show the help text if they ask
for it behind groups that are in order, and nothing but an error if not.
-/
theorem accepts_exactly_grammar (arguments : List String)
    (noTerminator : "--" ∉ arguments) :
    (∀ options, read arguments = .ok (.run options) ↔
      ∃ groups choices, Split arguments groups choices ∧
        options = configuration choices) ∧
    (∀ groups choices, Split arguments groups choices →
      (∀ others otherChoices, Split arguments others otherChoices →
        others = groups ∧ otherChoices = choices) ∧
      ∀ permuted varied, permuted.Perm groups →
        List.Forall₂ (Relation.ReflTransGen Group.Varies) permuted varied →
        read (varied.flatMap Group.arguments) = read arguments) ∧
    ((¬ ∃ groups choices, Split arguments groups choices) →
      ∀ circumstances,
        let seen := appearance arguments circumstances
        seen.records = [] ∧
        (ReachesHelp arguments ∧
            seen.output = helpLines circumstances.coloured ∧
            seen.ending.exitCode? = some 0 ∨
          ¬ ReachesHelp arguments ∧ seen.output = [] ∧
            ∃ error, read arguments = .error error ∧
              seen.ending = .misused error ∧
              seen.ending.exitCode? = some 2)) := by
  refine ⟨fun options => read_eq_run_iff noTerminator, ?_, ?_⟩
  · intro groups choices split
    constructor
    · intro others otherChoices other
      exact other.unique split
    · intro permuted varied perm varies
      obtain ⟨reordered, again, same⟩ :=
        split.exists_of_perm_of_varies perm varies
      rw [again.read_eq, split.read_eq, same]
  · intro noSplit circumstances
    cases outcome : read arguments with
    | error error =>
        obtain ⟨output, records, ending⟩ :=
          appearance_of_error outcome circumstances
        have noHelp : ¬ ReachesHelp arguments := by
          rw [← read_eq_help_iff noTerminator, outcome]
          intro same
          cases same
        refine ⟨records, Or.inr ⟨noHelp, output, error, rfl, ending, ?_⟩⟩
        rw [ending]
        rfl
    | ok request =>
        cases request with
        | help =>
            obtain ⟨output, records, ending⟩ :=
              appearance_of_help outcome circumstances
            have help := (read_eq_help_iff noTerminator).mp outcome
            refine ⟨records, Or.inl ⟨help, output, ?_⟩⟩
            rw [ending]
            rfl
        | run options =>
            obtain ⟨groups, choices, split, -⟩ :=
              (read_eq_run_iff noTerminator).mp outcome
            exact absurd ⟨groups, choices, split⟩ noSplit

/--
Three groups, one of them with a sign before a zero, are read as one run; put
in another order, with a value attached and padded, they are read as the same.
-/
theorem accepts_exactly_grammar_three :
    "--" ∉ ["--initial=-0", "--batches", "7", "--dump"] ∧
    read ["--initial=-0", "--batches", "7", "--dump"] =
      .ok (.run { initial := some 0, batches := 7, dump := true }) ∧
    read ["--dump", "--batches=+07", "--initial=-0"] =
      read ["--initial=-0", "--batches", "7", "--dump"] := by
  have noTerminator :
      "--" ∉ ["--initial=-0", "--batches", "7", "--dump"] := by decide
  have split : Split ["--initial=-0", "--batches", "7", "--dump"]
      [.valued .joined .initial "-0", .valued .separate .batches "7", .dump]
      [.initial 0, .batches 7, .dump] := by
    have first : Spelling .initial "-0" (.initial 0) :=
      .initial (.minus ⟨by decide, List.all_eq_true.mp rfl, rfl⟩)
    have second : Spelling .batches "7" (.batches 7) :=
      .batches (.bare ⟨by decide, List.all_eq_true.mp rfl, rfl⟩)
    exact ⟨rfl,
      .cons (.joined first) (.cons (.separate second (by decide))
        (.cons .dump .nil)),
      by decide⟩
  have padded : Relation.ReflTransGen Group.Varies
      (.valued .separate .batches "7") (.valued .joined .batches "+07") := by
    have zero : Padding "7".toList "07".toList :=
      .zero (List.all_eq_true.mp rfl)
    have plus : Padding "07".toList "+07".toList :=
      .plus (List.all_eq_true.mp rfl)
    exact ((Relation.ReflTransGen.single .joined).tail
      (.padded (by decide) zero)).tail (.padded (by decide) plus)
  obtain ⟨accepts, unchanged, -⟩ :=
    accepts_exactly_grammar ["--initial=-0", "--batches", "7", "--dump"]
      noTerminator
  refine ⟨noTerminator, (accepts _).mpr ⟨_, _, split, rfl⟩, ?_⟩
  exact (unchanged _ _ split).2 _
    [.dump, .valued .joined .batches "+07", .valued .joined .initial "-0"]
    (List.reverse_perm _) (.cons .refl (.cons padded (.cons .refl .nil)))

end PacketFeed.Command
