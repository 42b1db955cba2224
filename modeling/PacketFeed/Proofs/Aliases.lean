import Mathlib.Data.List.Basic
import Mathlib.Data.List.Induction
import PacketFeed.Interface.Bindings

/-!
# Aliases and latest versions

The list of aliases is built by going through the table once and raising the
version of a name whenever a row of that name comes by.  Whatever the order of
the rows, the list ends up with the names of the table, each once, in the order
in which they first appear, and the version of each name is the one that is
found by asking for that name alone.

Both renderings bind exactly the listed names, each to the symbol of a row that
no row of the same name surpasses.
-/

namespace PacketFeed.Interface

/-! ## Highest versions -/

instance instLawfulOrderMaxVersion : Std.LawfulOrderMax UInt32 where
  max_eq_or first second := by
    rw [UInt32.max_def]
    split
    · exact Or.inr rfl
    · exact Or.inl rfl
  max_le_iff first second bound := by
    simp only [UInt32.le_iff_toNat_le, UInt32.toNat_max]
    omega

theorem latestVersion?_cons (function : Function) (functions : List Function)
    (name : String) :
    latestVersion? (function :: functions) name =
      (if function.name = name then some function.version else none).merge max
        (latestVersion? functions name) := by
  by_cases same : function.name = name
  · rw [if_pos same, latestVersion?,
      List.filter_cons_of_pos (by simpa using same), List.map_cons,
      List.max?_cons, ← latestVersion?]
    cases latestVersion? functions name <;> rfl
  · rw [if_neg same, latestVersion?,
      List.filter_cons_of_neg (by simpa using same), ← latestVersion?,
      Option.merge_none_left]

theorem latestVersion?_eq_some_iff {functions : List Function} {name : String}
    {version : UInt32} :
    latestVersion? functions name = some version ↔
      (∃ row ∈ functions, row.name = name ∧ row.version = version) ∧
        ∀ row ∈ functions, row.name = name → row.version ≤ version := by
  rw [latestVersion?, List.max?_eq_some_iff]
  simp only [List.mem_map, List.mem_filter, decide_eq_true_eq, and_assoc]
  constructor
  · rintro ⟨found, highest⟩
    exact ⟨found, fun row member named => highest _ ⟨row, member, named, rfl⟩⟩
  · rintro ⟨found, highest⟩
    refine ⟨found, ?_⟩
    rintro version ⟨row, member, named, rfl⟩
    exact highest row member named

/-! ## One row -/

theorem lookup_cons_eq_ite (known other : String) (latest : UInt32)
    (rest : List (String × UInt32)) :
    ((known, latest) :: rest).lookup other =
      if known = other then some latest else rest.lookup other := by
  by_cases same : known = other
  · rw [same, if_pos rfl, List.lookup_cons_self]
  · rw [if_neg same, List.lookup_cons, beq_false_of_ne (Ne.symm same)]

theorem lookup_noteVersion (name other : String) (version : UInt32)
    (listed : List (String × UInt32)) :
    (noteVersion name version listed).lookup other =
      (listed.lookup other).merge max
        (if name = other then some version else none) := by
  induction listed with
  | nil => simp [noteVersion, lookup_cons_eq_ite]
  | cons entry rest induction =>
      rcases entry with ⟨known, latest⟩
      rw [noteVersion, lookup_cons_eq_ite]
      by_cases here : known = name
      · rw [if_pos here, lookup_cons_eq_ite, here]
        split
        · rfl
        · rw [Option.merge_none_right]
      · rw [if_neg here, lookup_cons_eq_ite, induction]
        split
        · rename_i asked
          rw [if_neg (asked ▸ Ne.symm here), Option.merge_none_right]
        · rfl

theorem map_fst_noteVersion (name : String) (version : UInt32)
    (listed : List (String × UInt32)) :
    (noteVersion name version listed).map Prod.fst =
      if name ∈ listed.map Prod.fst then listed.map Prod.fst
      else listed.map Prod.fst ++ [name] := by
  induction listed with
  | nil => rfl
  | cons entry rest induction =>
      rcases entry with ⟨known, latest⟩
      rw [noteVersion]
      by_cases here : known = name
      · simp [here]
      · rw [if_neg here, List.map_cons, induction, List.map_cons]
        simp only [List.mem_cons, Ne.symm here, false_or]
        split <;> rfl

/-! ## The whole table -/

/-- Going through rows raises what was listed before to what the rows have. -/
theorem lookup_foldl_noteVersion (functions : List Function) (name : String)
    (listed : List (String × UInt32)) :
    (functions.foldl
        (fun listed function =>
          noteVersion function.name function.version listed)
        listed).lookup name =
      (listed.lookup name).merge max (latestVersion? functions name) := by
  induction functions generalizing listed with
  | nil =>
      show listed.lookup name = (listed.lookup name).merge max none
      rw [Option.merge_none_right]
  | cons function functions induction =>
      rw [List.foldl_cons, induction, lookup_noteVersion, latestVersion?_cons,
        (Option.associative_merge max).assoc]

theorem lookup_aliases (functions : List Function) (name : String) :
    (aliases functions).lookup name = latestVersion? functions name := by
  rw [aliases, lookup_foldl_noteVersion]
  exact Option.merge_none_left

theorem aliases_concat (functions : List Function) (function : Function) :
    aliases (functions ++ [function]) =
      noteVersion function.name function.version (aliases functions) := by
  rw [aliases, List.foldl_append]
  rfl

theorem mem_map_fst_aliases {functions : List Function} {name : String} :
    name ∈ (aliases functions).map Prod.fst ↔
      name ∈ functions.map Function.name := by
  induction functions using List.reverseRecOn with
  | nil => rfl
  | append_singleton functions function induction =>
      rw [aliases_concat, map_fst_noteVersion, List.map_append,
        List.mem_append, ← induction, List.map_singleton, List.mem_singleton]
      split
      · rename_i known
        constructor
        · exact Or.inl
        · rintro (old | rfl)
          · exact old
          · exact known
      · rw [List.mem_append, List.mem_singleton]

/-- Names are listed in the order in which they first appear in the table. -/
theorem pairwise_idxOf_aliases (functions : List Function) :
    ((aliases functions).map Prod.fst).Pairwise fun earlier later =>
      (functions.map Function.name).idxOf earlier <
        (functions.map Function.name).idxOf later := by
  induction functions using List.reverseRecOn with
  | nil => exact List.Pairwise.nil
  | append_singleton functions function induction =>
      -- A row behind the others does not move the first place of a listed name.
      have unmoved : ∀ name ∈ (aliases functions).map Prod.fst,
          ((functions ++ [function]).map Function.name).idxOf name =
            (functions.map Function.name).idxOf name := by
        intro name listed
        rw [List.map_append]
        exact List.idxOf_append_of_mem (mem_map_fst_aliases.mp listed)
      have kept := induction.imp_of_mem (S := fun earlier later =>
          ((functions ++ [function]).map Function.name).idxOf earlier <
            ((functions ++ [function]).map Function.name).idxOf later) (by
        intro earlier later first second before
        rw [unmoved earlier first, unmoved later second]
        exact before)
      rw [aliases_concat, map_fst_noteVersion]
      split
      · exact kept
      · rename_i fresh
        rw [List.pairwise_append]
        refine ⟨kept, List.pairwise_singleton _ _, ?_⟩
        intro earlier listed later new
        cases List.mem_singleton.mp new
        rw [unmoved earlier listed, List.map_append,
          List.idxOf_append_of_notMem (mt mem_map_fst_aliases.mpr fresh)]
        exact Nat.lt_add_right _
          (List.idxOf_lt_length_iff.mpr (mem_map_fst_aliases.mp listed))

theorem nodup_map_fst_aliases (functions : List Function) :
    ((aliases functions).map Prod.fst).Nodup := by
  apply (pairwise_idxOf_aliases functions).imp
  rintro earlier later before rfl
  exact Nat.lt_irrefl _ before

theorem lookup_eq_some_iff_mem {listed : List (String × UInt32)}
    (nodup : (listed.map Prod.fst).Nodup) {name : String} {version : UInt32} :
    listed.lookup name = some version ↔ (name, version) ∈ listed := by
  induction listed with
  | nil => simp
  | cons entry rest induction =>
      rcases entry with ⟨known, latest⟩
      rw [List.map_cons, List.nodup_cons] at nodup
      rw [lookup_cons_eq_ite, List.mem_cons, Prod.mk.injEq]
      split
      · rename_i here
        subst here
        have absent : (known, version) ∉ rest := by
          intro member
          exact nodup.1 (List.mem_map.mpr ⟨_, member, rfl⟩)
        simp [absent, eq_comm]
      · rename_i elsewhere
        simp [Ne.symm elsewhere, induction nodup.2]

theorem mem_aliases_iff {functions : List Function} {name : String}
    {version : UInt32} :
    (name, version) ∈ aliases functions ↔
      latestVersion? functions name = some version := by
  rw [← lookup_aliases,
    lookup_eq_some_iff_mem (nodup_map_fst_aliases functions)]

/-! ## Rendered aliases -/

/-- The name that a line of a header binds, and the symbol to which it does. -/
def cBinding? : Text.Line → Option (String × String)
  | [opening, name, _, base, mark, version, _] =>
      if opening = "#define " then some (name, base ++ mark ++ version)
      else none
  | _ => none

/-- The name that a line of bindings binds, and the symbol to which it does. -/
def rustBinding? : Text.Line → Option (String × String)
  | [opening, base, mark, version, _, name, _] =>
      if opening = "pub use self::" then some (name, base ++ mark ++ version)
      else none
  | _ => none

/--
The lines of a rendering that bind names: each name of the table is bound once
and no other name is, each to a symbol that a row of that name declares and of
which no row of the name has a higher version, and the text of such a line
spells the name and the symbol.
-/
structure BindsLatest (functions : List Function) (rendering : Text.Rendering)
    (binding? : Text.Line → Option (String × String))
    (spelling : String → String → String) : Prop where
  nodup : ((rendering.filterMap binding?).map Prod.fst).Nodup
  named : ∀ name,
    name ∈ (rendering.filterMap binding?).map Prod.fst ↔
      name ∈ functions.map Function.name
  latest : ∀ name target, (name, target) ∈ rendering.filterMap binding? →
    ∃ row ∈ functions, row.name = name ∧ row.symbol = target ∧
      ∀ other ∈ functions, other.name = name → other.version ≤ row.version
  spelled : ∀ line ∈ rendering, ∀ name target,
    binding? line = some (name, target) →
      String.join line = spelling name target

section Binding

variable {functions : List Function} {front : Text.Rendering}
  {binding? : Text.Line → Option (String × String)}
  {spelling : String → String → String} {line : String → UInt32 → Text.Line}

/-- Reading the bindings gives back the list of aliases. -/
theorem filterMap_binding? (silent : ∀ line ∈ front, binding? line = none)
    (read : ∀ name version,
      binding? (line name version) = some (name, symbol name version)) :
    (front ++ (aliases functions).map fun (name, version) =>
        line name version).filterMap binding? =
      (aliases functions).map fun (name, version) =>
        (name, symbol name version) := by
  rw [List.filterMap_append, List.filterMap_eq_nil_iff.mpr silent,
    List.nil_append, List.filterMap_map, ← List.filterMap_eq_map]
  congr 1
  funext entry
  exact read entry.1 entry.2

/-- The lines of the aliases come last, and no line before them binds a name. -/
theorem bindsLatest_append (silent : ∀ line ∈ front, binding? line = none)
    (read : ∀ name version,
      binding? (line name version) = some (name, symbol name version))
    (joined : ∀ name version,
      String.join (line name version) =
        spelling name (symbol name version)) :
    BindsLatest functions
      (front ++ (aliases functions).map fun (name, version) =>
        line name version)
      binding? spelling := by
  have bound := @filterMap_binding? functions _ _ _ silent read
  have names :
      ((aliases functions).map fun (name, version) =>
        (name, symbol name version)).map Prod.fst =
        (aliases functions).map Prod.fst := by
    rw [List.map_map]
    rfl
  constructor
  · rw [bound, names]
    exact nodup_map_fst_aliases functions
  · intro name
    rw [bound, names]
    exact mem_map_fst_aliases
  · intro name target member
    rw [bound, List.mem_map] at member
    rcases member with ⟨⟨listed, version⟩, entry, same⟩
    cases same
    rcases latestVersion?_eq_some_iff.mp (mem_aliases_iff.mp entry) with
      ⟨⟨row, present, rfl, rfl⟩, highest⟩
    exact ⟨row, present, rfl, rfl, highest⟩
  · intro shown member name target binds
    rcases List.mem_append.mp member with early | late
    · rw [silent shown early] at binds
      cases binds
    · rcases List.mem_map.mp late with ⟨⟨listed, version⟩, -, rfl⟩
      cases (read listed version).symm.trans binds
      exact joined name version

end Binding

/-- A header binds names in its last lines only. -/
theorem Tables.exists_header_eq_append (tables : Tables) :
    ∃ front : Text.Rendering,
      (∀ line ∈ front, cBinding? line = none) ∧
        tables.header =
          front ++ (aliases tables.functions).map fun (name, version) =>
            cAlias name version := by
  refine ⟨_, ?_, rfl⟩
  -- No other line of a header consists of seven texts.
  simp only [Record.cDefinition, List.forall_mem_append,
    List.forall_mem_map, List.forall_mem_flatMap, List.forall_mem_cons]
  simp [Function.cPrototype, Field.cMember, cMacro, cTypedef, cOpening,
    cClosing, blank, cBinding?]

theorem Tables.bindsLatest_header (tables : Tables) :
    BindsLatest tables.functions tables.header cBinding?
      (fun name target => "#define " ++ name ++ " " ++ target ++ "\n") := by
  rcases tables.exists_header_eq_append with ⟨front, silent, split⟩
  rw [split]
  apply bindsLatest_append silent
  · intro name version
    rfl
  · intro name version
    simp [cAlias, symbol, String.join_cons, String.append_assoc]

/-- Bindings bind names in their last lines only. -/
theorem Tables.exists_bindings_eq_append (tables : Tables) :
    ∃ front : Text.Rendering,
      (∀ line ∈ front, rustBinding? line = none) ∧
        tables.bindings =
          front ++ (aliases tables.functions).map fun (name, version) =>
            rustAlias name version := by
  refine ⟨_, ?_, rfl⟩
  -- Declarations consist of seven texts as well, but they open differently.
  simp only [Record.rustDefinition, rustDefinition, List.forall_mem_append,
    List.forall_mem_map, List.forall_mem_flatMap, List.forall_mem_cons]
  simp [Function.rustDeclaration, Field.rustMember, rustConstant, rustMark,
    rustOpening, rustHidden, rustClosing, rustForeign, blank, rustBinding?]

theorem Tables.bindsLatest_bindings (tables : Tables) :
    BindsLatest tables.functions tables.bindings rustBinding?
      (fun name target =>
        "pub use self::" ++ target ++ " as " ++ name ++ ";\n") := by
  rcases tables.exists_bindings_eq_append with ⟨front, silent, split⟩
  rw [split]
  apply bindsLatest_append silent
  · intro name version
    rfl
  · intro name version
    simp [rustAlias, symbol, String.join_cons, String.append_assoc]

/--
The list of aliases has the names of the table, each once and in the order in
which they first appear, and it has a name with a version exactly if that is
the latest version of the name.  So the header and the bindings both bind each
name of the table once, to a symbol of the table with the highest version.
-/
theorem aliases_name_latest_versions (tables : Tables) :
    let names := tables.functions.map Function.name
    let listed := (aliases tables.functions).map Prod.fst
    listed.Nodup ∧
      (∀ name, name ∈ listed ↔ name ∈ names) ∧
      (listed.Pairwise fun earlier later =>
        names.idxOf earlier < names.idxOf later) ∧
      (∀ name version,
        (name, version) ∈ aliases tables.functions ↔
          latestVersion? tables.functions name = some version) ∧
      BindsLatest tables.functions tables.header cBinding?
        (fun name target => "#define " ++ name ++ " " ++ target ++ "\n") ∧
      BindsLatest tables.functions tables.bindings rustBinding?
        (fun name target =>
          "pub use self::" ++ target ++ " as " ++ name ++ ";\n") := by
  intro names listed
  exact ⟨nodup_map_fst_aliases tables.functions,
    fun _ => mem_map_fst_aliases, pairwise_idxOf_aliases tables.functions,
    fun _ _ => mem_aliases_iff, tables.bindsLatest_header,
    tables.bindsLatest_bindings⟩

end PacketFeed.Interface
