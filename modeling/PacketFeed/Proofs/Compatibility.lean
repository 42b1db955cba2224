import Mathlib.Data.List.Basic
import PacketFeed.Interface.Shipped
import PacketFeed.Proofs.Aliases
import PacketFeed.Proofs.Separators

/-!
# Tables that grow

A symbol stands for one version of one name, so the symbols of a table are
distinct exactly if no version of a name has two rows.

Rows are only ever added behind those of a table.  Both renderings of the longer
table declare what those of the shorter one declare, in the same order, and bind
the same names first.  A name is never bound to an older version than before,
and it moves exactly if an added row surpasses all earlier rows of that name.
-/

namespace PacketFeed.Interface

/-! ## Symbols -/

theorem Function.symbol_eq_iff {function other : Function} :
    function.symbol = other.symbol ↔
      function.name = other.name ∧ function.version = other.version := by
  constructor
  · exact symbol_inj
  · rintro ⟨names, versions⟩
    rw [symbol, symbol, names, versions]

/--
Two rows have the same symbol exactly if they agree in name and version,
whatever their names contain.  So the symbols of a table are distinct exactly
if no two of its rows agree in both.
-/
theorem Function.symbols_distinguish_versions :
    (∀ function other : Function,
      function.symbol = other.symbol ↔
        function.name = other.name ∧ function.version = other.version) ∧
      ∀ functions : List Function,
        (functions.map Function.symbol).Nodup ↔
          functions.Pairwise fun earlier later =>
            ¬ (earlier.name = later.name ∧
              earlier.version = later.version) := by
  refine ⟨fun _ _ => symbol_eq_iff, ?_⟩
  intro functions
  rw [List.Nodup, List.pairwise_map]
  simp only [ne_eq, symbol_eq_iff]

/-! ## Latest versions of a longer table -/

/-- The version of the row is above that of every row of its name. -/
def Function.Surpasses (row : Function) (functions : List Function) : Prop :=
  ∀ earlier ∈ functions, earlier.name = row.name →
    earlier.version < row.version

section Append

variable {functions added : List Function} {name : String}
  {version later : UInt32}

theorem exists_latestVersion?_of_mem
    (named : name ∈ functions.map Function.name) :
    ∃ version, latestVersion? functions name = some version := by
  rcases List.mem_map.mp (mem_map_fst_aliases.mpr named) with
    ⟨⟨listed, version⟩, entry, rfl⟩
  exact ⟨version, mem_aliases_iff.mp entry⟩

theorem le_latestVersion?_append
    (latest : latestVersion? functions name = some version)
    (latest' : latestVersion? (functions ++ added) name = some later) :
    version ≤ later := by
  rcases latestVersion?_eq_some_iff.mp latest with
    ⟨⟨row, present, named, rfl⟩, -⟩
  exact (latestVersion?_eq_some_iff.mp latest').2 row
    (List.mem_append_left added present) named

/-- The latest version moves exactly if an added row surpasses all others. -/
theorem lt_latestVersion?_append_iff
    (latest : latestVersion? functions name = some version)
    (latest' : latestVersion? (functions ++ added) name = some later) :
    version < later ↔
      ∃ row ∈ added, row.name = name ∧ row.Surpasses functions := by
  rcases latestVersion?_eq_some_iff.mp latest with
    ⟨⟨old, present, named, rfl⟩, highest⟩
  rcases latestVersion?_eq_some_iff.mp latest' with
    ⟨⟨new, present', rfl, rfl⟩, highest'⟩
  constructor
  · intro above
    rcases List.mem_append.mp present' with early | late
    · -- Among the earlier rows none is above the old version.
      exact absurd above (UInt32.not_lt.mpr (highest new early rfl))
    · refine ⟨new, late, rfl, ?_⟩
      intro earlier member same
      exact UInt32.lt_of_le_of_lt (highest earlier member same) above
  · rintro ⟨row, member, same, surpasses⟩
    exact UInt32.lt_of_lt_of_le (surpasses old present (named.trans same.symm))
      (highest' row (List.mem_append_right functions member) same)

/-! ## Listed names of a longer table -/

theorem isPrefix_map_fst_noteVersion (name : String) (version : UInt32)
    (listed : List (String × UInt32)) :
    listed.map Prod.fst <+: (noteVersion name version listed).map Prod.fst := by
  rw [map_fst_noteVersion]
  split
  · exact List.prefix_refl _
  · exact List.prefix_append _ _

/-- Going through rows neither removes nor reorders listed names. -/
theorem isPrefix_map_fst_foldl_noteVersion (added : List Function)
    (listed : List (String × UInt32)) :
    listed.map Prod.fst <+:
      (added.foldl
        (fun listed function =>
          noteVersion function.name function.version listed)
        listed).map Prod.fst := by
  induction added generalizing listed with
  | nil => exact List.prefix_refl _
  | cons function added induction =>
      rw [List.foldl_cons]
      exact (isPrefix_map_fst_noteVersion _ _ listed).trans (induction _)

theorem aliases_append (functions added : List Function) :
    aliases (functions ++ added) =
      added.foldl
        (fun listed function =>
          noteVersion function.name function.version listed)
        (aliases functions) := by
  rw [aliases, List.foldl_append, ← aliases]

end Append

/-! ## Rendered declarations -/

/-- The line of a header is a prototype. -/
def isPrototype : Text.Line → Bool
  | [_, _, _, opening, _, closing] => opening = "(" && closing = ");\n"
  | _ => false

/-- The line of bindings declares a foreign function. -/
def isForeignFunction : Text.Line → Bool
  | opening :: _ => opening = "    pub fn "
  | [] => false

section Rendered

variable {functions added : List Function}
  {front gap behind older newer : Text.Rendering}
  {declares : Text.Line → Bool} {declaration : Function → Text.Line}
  {binding? : Text.Line → Option (String × String)}

/-- Reading the declarations gives back those of the rows. -/
theorem filter_declares (silentFront : ∀ line ∈ front, ¬ declares line)
    (shown : ∀ function, declares (declaration function))
    (silentGap : ∀ line ∈ gap, ¬ declares line)
    (silentBehind : ∀ line ∈ behind, ¬ declares line) :
    (front ++ functions.map declaration ++ gap ++ behind).filter declares =
      functions.map declaration := by
  have rows : (functions.map declaration).filter declares =
      functions.map declaration := by
    rw [List.filter_eq_self, List.forall_mem_map]
    exact fun function _ => shown function
  rw [List.filter_append, List.filter_append, List.filter_append, rows,
    List.filter_eq_nil_iff.mpr silentFront,
    List.filter_eq_nil_iff.mpr silentGap,
    List.filter_eq_nil_iff.mpr silentBehind, List.append_nil, List.append_nil,
    List.nil_append]

/--
What a rendering of rows with others added behind them keeps of the rendering
of the rows alone.  It declares all rows as before and then the added ones.  It
binds the same names first and in the same order.  Each of them is bound to one
symbol in either rendering, of a version that is no lower than before, and
higher exactly if an added row of the name surpasses all rows of that name.
-/
structure Extends (functions added : List Function)
    (older newer : Text.Rendering) (declares : Text.Line → Bool)
    (declaration : Function → Text.Line)
    (binding? : Text.Line → Option (String × String)) : Prop where
  declared : older.filter declares = functions.map declaration
  appended :
    newer.filter declares = older.filter declares ++ added.map declaration
  names :
    (older.filterMap binding?).map Prod.fst <+:
      (newer.filterMap binding?).map Prod.fst
  targets : ∀ name ∈ functions.map Function.name, ∃ version later,
    (∀ target, (name, target) ∈ older.filterMap binding? ↔
      target = symbol name version) ∧
    (∀ target, (name, target) ∈ newer.filterMap binding? ↔
      target = symbol name later) ∧
    version ≤ later ∧
    (version < later ↔
      ∃ row ∈ added, row.name = name ∧ row.Surpasses functions)

/-- A listed name is bound to the symbol of its latest version and to no other. -/
theorem mem_bindings_iff {name : String} {version : UInt32}
    (latest : latestVersion? functions name = some version)
    (target : String) :
    (name, target) ∈ (aliases functions).map (fun (name, version) =>
        (name, symbol name version)) ↔
      target = symbol name version := by
  rw [List.mem_map]
  constructor
  · rintro ⟨⟨listed, other⟩, entry, same⟩
    cases same
    rw [mem_aliases_iff, latest] at entry
    cases entry
    rfl
  · rintro rfl
    exact ⟨(name, version), mem_aliases_iff.mpr latest, rfl⟩

/-- It is enough to know which rows and aliases can be read off. -/
theorem extends_of_readings
    (rows : older.filter declares = functions.map declaration)
    (rows' : newer.filter declares = (functions ++ added).map declaration)
    (bound : older.filterMap binding? =
      (aliases functions).map fun (name, version) =>
        (name, symbol name version))
    (bound' : newer.filterMap binding? =
      (aliases (functions ++ added)).map fun (name, version) =>
        (name, symbol name version)) :
    Extends functions added older newer declares declaration binding? where
  declared := rows
  appended := by rw [rows', rows, List.map_append]
  names := by
    rw [bound, bound', List.map_map, List.map_map, aliases_append]
    exact isPrefix_map_fst_foldl_noteVersion added (aliases functions)
  targets := by
    intro name named
    have named' : name ∈ (functions ++ added).map Function.name := by
      rw [List.map_append]
      exact List.mem_append_left _ named
    rcases exists_latestVersion?_of_mem named with ⟨version, latest⟩
    rcases exists_latestVersion?_of_mem named' with ⟨later, latest'⟩
    rw [bound, bound']
    exact ⟨version, later, mem_bindings_iff latest, mem_bindings_iff latest',
      le_latestVersion?_append latest latest',
      lt_latestVersion?_append_iff latest latest'⟩

end Rendered

namespace Tables

theorem filter_isPrototype_header (tables : Tables) :
    tables.header.filter isPrototype =
      tables.functions.map Function.cPrototype := by
  apply filter_declares
  · -- No other line of a header consists of six texts.
    simp only [Record.cDefinition, List.forall_mem_append,
      List.forall_mem_map, List.forall_mem_flatMap, List.forall_mem_cons]
    simp [Field.cMember, cMacro, cTypedef, cOpening, cClosing, blank,
      isPrototype]
  · intro function
    rfl
  · simp [blank, isPrototype]
  · rw [List.forall_mem_map]
    simp [cAlias, isPrototype]

theorem filter_isForeignFunction_bindings (tables : Tables) :
    tables.bindings.filter isForeignFunction =
      tables.functions.map Function.rustDeclaration := by
  apply filter_declares
  · -- Public fields open with a shorter text.
    simp only [Record.rustDefinition, rustDefinition, List.forall_mem_append,
      List.forall_mem_map, List.forall_mem_flatMap, List.forall_mem_cons]
    simp [Field.rustMember, rustConstant, rustMark, rustOpening, rustHidden,
      rustClosing, rustForeign, blank, isForeignFunction]
  · intro function
    rfl
  · simp [rustClosing, blank, isForeignFunction]
  · rw [List.forall_mem_map]
    simp [rustAlias, isForeignFunction]

theorem filterMap_cBinding?_header (tables : Tables) :
    tables.header.filterMap cBinding? =
      (aliases tables.functions).map fun (name, version) =>
        (name, symbol name version) := by
  rcases tables.exists_header_eq_append with ⟨front, silent, split⟩
  rw [split]
  exact filterMap_binding? silent fun _ _ => rfl

theorem filterMap_rustBinding?_bindings (tables : Tables) :
    tables.bindings.filterMap rustBinding? =
      (aliases tables.functions).map fun (name, version) =>
        (name, symbol name version) := by
  rcases tables.exists_bindings_eq_append with ⟨front, silent, split⟩
  rw [split]
  exact filterMap_binding? silent fun _ _ => rfl

/--
Whatever rows are added at the end of the function table, older versions and
repeated rows among them, the header and the bindings keep every declaration in
its place, keep the order of the bound names and bind none of them to an older
version than before.
-/
theorem appended_rows_extend_renderings (tables : Tables)
    (added : List Function) :
    let longer : Tables :=
      { tables with functions := tables.functions ++ added }
    Extends tables.functions added tables.header longer.header
        isPrototype Function.cPrototype cBinding? ∧
      Extends tables.functions added tables.bindings longer.bindings
        isForeignFunction Function.rustDeclaration rustBinding? := by
  intro longer
  constructor
  · exact extends_of_readings tables.filter_isPrototype_header
      longer.filter_isPrototype_header tables.filterMap_cBinding?_header
      longer.filterMap_cBinding?_header
  · exact extends_of_readings tables.filter_isForeignFunction_bindings
      longer.filter_isForeignFunction_bindings
      tables.filterMap_rustBinding?_bindings
      longer.filterMap_rustBinding?_bindings

end Tables

/-- An old version, a version out of order and a new name behind the rest. -/
example :
    aliases (shipped.functions ++
        [⟨"pktgen_new", 1, .void, []⟩, ⟨"pktgen_delete", 3, .void, []⟩,
          ⟨"pktgen_reset", 1, .void, []⟩, ⟨"pktgen_delete", 2, .void, []⟩]) =
      [("pktgen_new", 2), ("pktgen_fetch_batch", 1), ("pktgen_delete", 3),
        ("pktgen_reset", 1)] := by
  decide

end PacketFeed.Interface
