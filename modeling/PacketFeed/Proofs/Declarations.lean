import PacketFeed.Interface.Bindings
import PacketFeed.Proofs.Separators

/-!
# Declarations determine their rows

A row of the function table is declared twice, as a prototype in C and as a
foreign function in Rust.  If all its names are identifiers, and no record
takes the name of a scalar type, then either line determines the row: its name
and version, its result and its arguments.
-/

namespace PacketFeed.Interface

open PacketFeed.Text

/-! ## Identifiers -/

/--
Letters, digits, the underscore, and the characters past ASCII, of which
compilers admit different ones.
-/
def isNameChar (character : Char) : Bool :=
  character.isAlphanum || character == '_' || 127 < character.toNat

/-- A name in C: not empty, of name characters only, and no digit first. -/
def isIdentifier (name : String) : Bool :=
  match name.toList with
  | [] => false
  | first :: rest =>
      isNameChar first && !first.isDigit && rest.all isNameChar

/-- The text has no other characters than those of names and the given marks. -/
def MadeOf (marks : List Char) (text : String) : Prop :=
  ∀ character ∈ text.toList, isNameChar character = true ∨ character ∈ marks

namespace MadeOf

variable {marks : List Char} {first second text : String}

theorem append (left : MadeOf marks first) (right : MadeOf marks second) :
    MadeOf marks (first ++ second) := by
  intro character member
  rw [String.toList_append, List.mem_append] at member
  rcases member with member | member
  · exact left character member
  · exact right character member

theorem ofLiteral
    (checked :
      text.toList.all
        (fun character => isNameChar character || marks.contains character) =
          true) :
    MadeOf marks text := by
  intro character member
  simpa using List.all_eq_true.mp checked character member

theorem ofIdentifier (identifier : isIdentifier text = true) :
    MadeOf marks text := by
  intro character member
  rw [isIdentifier] at identifier
  cases spelled : text.toList with
  | nil =>
      rw [spelled] at member
      cases member
  | cons first rest =>
      simp only [spelled, Bool.and_eq_true, List.all_eq_true] at identifier
      rw [spelled] at member
      rcases List.mem_cons.mp member with rfl | later
      · exact Or.inl identifier.1.1
      · exact Or.inl (identifier.2 character later)

theorem not_mem (made : MadeOf marks text) {mark : Char}
    (other : isNameChar mark = false ∧ mark ∉ marks) : mark ∉ text.toList := by
  intro member
  rcases made mark member with named | marked
  · rw [other.1] at named
    cases named
  · exact other.2 marked

theorem mono {others : List Char} (made : MadeOf marks text)
    (more : marks ⊆ others) : MadeOf others text := by
  intro character member
  exact (made character member).imp_right fun marked => more marked

theorem symbol {name : String} (named : MadeOf marks name)
    (version : UInt32) : MadeOf marks (Interface.symbol name version) := by
  have mark : MadeOf marks "_v" := by
    intro character member
    exact Or.inl (List.all_eq_true.mp rfl character member)
  apply (named.append mark).append
  intro character member
  have digit : character.isDigit = true := isDigit_of_mem_toString member
  left
  simp [isNameChar, Char.isAlphanum, digit]

end MadeOf

theorem not_mem_of_isIdentifier {name : String}
    (identifier : isIdentifier name = true) {mark : Char}
    (other : isNameChar mark = false) : mark ∉ name.toList := by
  have made : MadeOf [] name := .ofIdentifier identifier
  exact made.not_mem ⟨other, List.not_mem_nil⟩

/-! ## Well named rows -/

/-- The names that stand for scalar types in one of the languages. -/
def reservedNames : List String :=
  ["uint8", "uint16", "uint64", "u8", "u16", "u64"]

/-- Names in the type are identifiers, and no record is named like a scalar. -/
def ValueType.WellNamed : ValueType → Prop
  | .record name => isIdentifier name = true ∧ name ∉ reservedNames
  | .pointer target => isIdentifier target = true
  | .void | .u8 | .u16 | .u64 => True

/-- A field whose names are identifiers. -/
structure Field.WellNamed (field : Field) : Prop where
  name : isIdentifier field.name = true
  type : field.type.WellNamed
  length : ∀ constant ∈ field.length, isIdentifier constant = true

/-- A row of the function table whose names are identifiers. -/
structure Function.WellNamed (function : Function) : Prop where
  name : isIdentifier function.name = true
  result : function.result.WellNamed
  arguments : ∀ field ∈ function.arguments, field.WellNamed

/-! ## Types -/

/-- The type with the given name, where scalars have the first three names. -/
def ValueType.ofName (byte short long name : String) : ValueType :=
  if name = byte then .u8
  else if name = short then .u16
  else if name = long then .u64
  else .record name

/-- The type that is spelled like this in C. -/
def ValueType.ofCText (text : String) : ValueType :=
  match text.toList.reverse with
  | '*' :: 't' :: '_' :: target => .pointer (String.ofList target.reverse)
  | 't' :: '_' :: name =>
      .ofName "uint8" "uint16" "uint64" (String.ofList name.reverse)
  | _ => .void

/-- The type that is spelled like this in Rust. -/
def ValueType.ofRustText (text : String) : ValueType :=
  match text.toList with
  | '(' :: _ => .void
  | '*' :: 'm' :: 'u' :: 't' :: ' ' :: target =>
      .pointer (String.ofList target)
  | name => .ofName "u8" "u16" "u64" (String.ofList name)

theorem ValueType.ofName_of_distinct {byte short long name : String}
    (noByte : name ≠ byte) (noShort : name ≠ short) (noLong : name ≠ long) :
    ofName byte short long name = .record name := by
  rw [ofName, if_neg noByte, if_neg noShort, if_neg noLong]

theorem ValueType.ofCText_cText {type : ValueType} (named : type.WellNamed) :
    ofCText type.cText = type := by
  cases type with
  | void | u8 | u16 | u64 => rfl
  | record name =>
      have free := named.2
      simp only [reservedNames, List.mem_cons, not_or] at free
      simp [ofCText, cText, ofName_of_distinct, free]
  | pointer target => simp [ofCText, cText]

theorem ValueType.ofRustText_rustText {type : ValueType}
    (named : type.WellNamed) : ofRustText type.rustText = type := by
  cases type with
  | void | u8 | u16 | u64 => rfl
  | record name =>
      have free := named.2
      simp only [reservedNames, List.mem_cons, not_or] at free
      have parenthesis : '(' ∉ name.toList :=
        not_mem_of_isIdentifier named.1 rfl
      have star : '*' ∉ name.toList := not_mem_of_isIdentifier named.1 rfl
      rw [ofRustText, rustText]
      -- The first two cases would start the name with a mark.
      split
      · rename_i spelled
        rw [spelled] at parenthesis
        exact absurd List.mem_cons_self parenthesis
      · rename_i spelled
        rw [spelled] at star
        exact absurd List.mem_cons_self star
      · simp [ofName_of_distinct, free]
  | pointer target => simp [ofRustText, rustText]

theorem ValueType.cText_inj {type other : ValueType} (named : type.WellNamed)
    (named' : other.WellNamed) (same : type.cText = other.cText) :
    type = other := by
  rw [← ofCText_cText named, same, ofCText_cText named']

theorem ValueType.rustText_inj {type other : ValueType}
    (named : type.WellNamed) (named' : other.WellNamed)
    (same : type.rustText = other.rustText) : type = other := by
  rw [← ofRustText_rustText named, same, ofRustText_rustText named']

theorem ValueType.madeOf_cText {type : ValueType} (named : type.WellNamed) :
    MadeOf ['*'] type.cText := by
  cases type with
  | void | u8 | u16 | u64 => exact .ofLiteral rfl
  | record name => exact (MadeOf.ofIdentifier named.1).append (.ofLiteral rfl)
  | pointer target =>
      exact (MadeOf.ofIdentifier named).append (.ofLiteral rfl)

theorem ValueType.madeOf_rustText {type : ValueType} (named : type.WellNamed) :
    MadeOf ['*', ' ', '(', ')'] type.rustText := by
  cases type with
  | void | u8 | u16 | u64 => exact .ofLiteral rfl
  | record name => exact MadeOf.ofIdentifier named.1
  | pointer target =>
      exact MadeOf.append (.ofLiteral rfl) (.ofIdentifier named)

/-! ## Fields -/

/-- The brackets behind the name of an array in C. -/
def cDimension : Option String → String
  | some length => "[" ++ length ++ "]"
  | none => ""

theorem cDimension_injective : Function.Injective cDimension := by
  intro length other same
  cases length with
  | none =>
      cases other with
      | none => rfl
      | some other =>
          exact absurd (String.append_eq_empty_iff.mp same.symm).2 (by decide)
  | some length =>
      cases other with
      | none => exact absurd (String.append_eq_empty_iff.mp same).2 (by decide)
      | some other =>
          have inner := (String.append_left_inj "]").mp same
          rw [(String.append_right_inj "[").mp inner]

theorem opens_cDimension (length : Option String) :
    Opens '[' (cDimension length) := by
  cases length with
  | none => exact opens_empty '['
  | some length =>
      rw [cDimension, String.append_assoc]
      exact opens_append rfl _

theorem Field.cText_eq (field : Field) :
    field.cText =
      field.type.cText ++ (" " ++ (field.name ++ cDimension field.length)) := by
  rw [cText]
  cases field.length with
  | none => simp only [cDimension, String.append_empty, String.append_assoc]
  | some length => simp only [cDimension, String.append_assoc]

theorem Field.cText_inj {field other : Field} (named : field.WellNamed)
    (named' : other.WellNamed) (same : field.cText = other.cText) :
    field = other := by
  rw [cText_eq, cText_eq] at same
  rcases split_inj ((ValueType.madeOf_cText named.type).not_mem (by decide))
      ((ValueType.madeOf_cText named'.type).not_mem (by decide))
      (opens_append rfl _) (opens_append rfl _) same with
    ⟨types, behind⟩
  have tails := (String.append_right_inj " ").mp behind
  rcases split_inj (not_mem_of_isIdentifier named.name rfl)
      (not_mem_of_isIdentifier named'.name rfl)
      (opens_cDimension field.length) (opens_cDimension other.length) tails with
    ⟨names, lengths⟩
  cases field
  cases other
  simp only [Field.mk.injEq]
  exact ⟨names, ValueType.cText_inj named.type named'.type types,
    cDimension_injective lengths⟩

/-- The value of a field in Rust, behind its name. -/
def rustValue (type : ValueType) : Option String → String
  | some length => "[" ++ (type.rustText ++ ("; " ++ (length ++ "]")))
  | none => type.rustText

theorem Field.rustText_eq (field : Field) :
    field.rustText =
      field.name ++ (": " ++ rustValue field.type field.length) := by
  have opening : (": [" : String) = ": " ++ "[" := rfl
  rw [rustText]
  cases field.length with
  | none => simp only [rustValue, String.append_assoc]
  | some length => simp only [rustValue, opening, String.append_assoc]

theorem bracket_ne_rustText {type : ValueType} (named : type.WellNamed)
    (text : String) : "[" ++ text ≠ type.rustText := by
  intro same
  have absent : '[' ∉ type.rustText.toList :=
    (ValueType.madeOf_rustText named).not_mem (by decide)
  rw [← same, String.toList_append] at absent
  exact absent (List.mem_append_left _ List.mem_cons_self)

theorem rustValue_inj {type other : ValueType} {length length' : Option String}
    (named : type.WellNamed) (named' : other.WellNamed)
    (same : rustValue type length = rustValue other length') :
    type = other ∧ length = length' := by
  cases length with
  | none =>
      cases length' with
      | none => exact ⟨ValueType.rustText_inj named named' same, rfl⟩
      | some length' => exact absurd same.symm (bracket_ne_rustText named _)
  | some length =>
      cases length' with
      | none => exact absurd same (bracket_ne_rustText named' _)
      | some length' =>
          have inner := (String.append_right_inj "[").mp same
          rcases split_inj
              ((ValueType.madeOf_rustText named).not_mem (by decide))
              ((ValueType.madeOf_rustText named').not_mem (by decide))
              (opens_append rfl _) (opens_append rfl _) inner with
            ⟨types, behind⟩
          have lengths := (String.append_left_inj "]").mp
            ((String.append_right_inj "; ").mp behind)
          exact ⟨ValueType.rustText_inj named named' types,
            congrArg some lengths⟩

theorem Field.rustText_inj {field other : Field} (named : field.WellNamed)
    (named' : other.WellNamed) (same : field.rustText = other.rustText) :
    field = other := by
  rw [rustText_eq, rustText_eq] at same
  rcases split_inj (not_mem_of_isIdentifier named.name rfl)
      (not_mem_of_isIdentifier named'.name rfl) (opens_append rfl _)
      (opens_append rfl _) same with
    ⟨names, behind⟩
  rcases rustValue_inj named.type named'.type
      ((String.append_right_inj ": ").mp behind) with
    ⟨types, lengths⟩
  cases field
  cases other
  simp only [Field.mk.injEq]
  exact ⟨names, types, lengths⟩

/-! ## Argument lists -/

/-- A spelling of fields that can stand in a list and determines the field. -/
structure Lossless (spelling : Field → String) : Prop where
  injective : ∀ {field other : Field}, field.WellNamed → other.WellNamed →
    spelling field = spelling other → field = other
  listable : ∀ {field : Field}, field.WellNamed → Listable (spelling field)

theorem Lossless.map_inj {spelling : Field → String}
    (lossless : Lossless spelling) {fields others : List Field}
    (named : ∀ field ∈ fields, field.WellNamed)
    (named' : ∀ field ∈ others, field.WellNamed)
    (same : fields.map spelling = others.map spelling) : fields = others := by
  induction fields generalizing others with
  | nil => exact (List.map_eq_nil_iff.mp same.symm).symm
  | cons field fields induction =>
      cases others with
      | nil => cases same
      | cons other others =>
          rw [List.forall_mem_cons] at named named'
          rw [List.map_cons, List.map_cons, List.cons.injEq] at same
          rw [lossless.injective named.1 named'.1 same.1,
            induction named.2 named'.2 same.2]

theorem Lossless.commaSeparated_inj {spelling : Field → String}
    (lossless : Lossless spelling) {fields others : List Field}
    (named : ∀ field ∈ fields, field.WellNamed)
    (named' : ∀ field ∈ others, field.WellNamed)
    (same : commaSeparated (fields.map spelling) =
      commaSeparated (others.map spelling)) :
    fields = others := by
  apply lossless.map_inj named named'
  apply Text.commaSeparated_inj _ _ same
  · rw [List.forall_mem_map]
    exact fun field member => lossless.listable (named field member)
  · rw [List.forall_mem_map]
    exact fun field member => lossless.listable (named' field member)

/-- The marks in the spellings of fields; a comma is not among them. -/
def fieldMarks : List Char :=
  ['*', ' ', '(', ')', ':', '[', ']', ';']

theorem MadeOf.listable {text : String} (made : MadeOf fieldMarks text)
    (nonempty : text ≠ "") : Listable text where
  nonempty := nonempty
  plain := made.not_mem (by decide)

theorem Field.madeOf_cText {field : Field} (named : field.WellNamed) :
    MadeOf fieldMarks field.cText := by
  have type : MadeOf fieldMarks field.type.cText :=
    (ValueType.madeOf_cText named.type).mono (by decide)
  have name : MadeOf fieldMarks field.name := .ofIdentifier named.name
  have dimension : MadeOf fieldMarks (cDimension field.length) := by
    cases given : field.length with
    | none => exact .ofLiteral rfl
    | some length =>
        exact (MadeOf.append (.ofLiteral rfl)
          (.ofIdentifier (named.length length given))).append (.ofLiteral rfl)
  rw [cText_eq]
  exact type.append (.append (.ofLiteral rfl) (name.append dimension))

theorem Field.madeOf_rustText {field : Field} (named : field.WellNamed) :
    MadeOf fieldMarks field.rustText := by
  have type : MadeOf fieldMarks field.type.rustText :=
    (ValueType.madeOf_rustText named.type).mono (by decide)
  have name : MadeOf fieldMarks field.name := .ofIdentifier named.name
  have value : MadeOf fieldMarks (rustValue field.type field.length) := by
    cases given : field.length with
    | none => exact type
    | some length =>
        exact .append (.ofLiteral rfl) (type.append (.append (.ofLiteral rfl)
          (.append (.ofIdentifier (named.length length given))
            (.ofLiteral rfl))))
  rw [rustText_eq]
  exact name.append (.append (.ofLiteral rfl) value)

theorem lossless_cText : Lossless Field.cText where
  injective := Field.cText_inj
  listable {field} named := by
    apply (Field.madeOf_cText named).listable
    rw [Field.cText_eq]
    simp

theorem lossless_rustText : Lossless Field.rustText where
  injective := Field.rustText_inj
  listable {field} named := by
    apply (Field.madeOf_rustText named).listable
    rw [Field.rustText_eq]
    simp

/-- A list of arguments has a blank in it, and `void` has none. -/
theorem void_ne_commaSeparated (field : Field) (rest : List String) :
    "void" ≠ commaSeparated (field.cText :: rest) := by
  intro same
  have absent : ' ' ∉ ("void" : String).toList := by decide
  rw [same, commaSeparated_cons, Field.cText_eq] at absent
  simp at absent

theorem cArguments_inj {fields others : List Field}
    (named : ∀ field ∈ fields, field.WellNamed)
    (named' : ∀ field ∈ others, field.WellNamed)
    (same : cArguments fields = cArguments others) : fields = others := by
  cases fields with
  | nil =>
      cases others with
      | nil => rfl
      | cons other others => exact absurd same (void_ne_commaSeparated other _)
  | cons field fields =>
      cases others with
      | nil => exact absurd same.symm (void_ne_commaSeparated field _)
      | cons other others =>
          exact lossless_cText.commaSeparated_inj named named' same

/-! ## Rows -/

theorem rustResult_eq (type : ValueType) :
    rustResult type =
      if type = .void then "" else " -> " ++ type.rustText := by
  cases type <;> rfl

theorem rustResult_inj {type other : ValueType} (named : type.WellNamed)
    (named' : other.WellNamed) (same : rustResult type = rustResult other) :
    type = other := by
  rw [rustResult_eq, rustResult_eq] at same
  split at same
  · rename_i void
    split at same
    · rename_i void'
      rw [void, void']
    · exact absurd (String.append_eq_empty_iff.mp same.symm).1 (by decide)
  · split at same
    · exact absurd (String.append_eq_empty_iff.mp same).1 (by decide)
    · exact ValueType.rustText_inj named named'
        ((String.append_right_inj " -> ").mp same)

/-- Only the missing result would be spelled with a parenthesis. -/
theorem parenthesis_not_mem_rustResult {type : ValueType}
    (named : type.WellNamed) : ')' ∉ (rustResult type).toList := by
  have made : MadeOf ['*', ' ', '-', '>'] (rustResult type) := by
    cases type with
    | void | u8 | u16 | u64 => exact .ofLiteral rfl
    | record name => exact .append (.ofLiteral rfl) (.ofIdentifier named.1)
    | pointer target =>
        exact .append (.ofLiteral rfl)
          (.append (.ofLiteral rfl) (.ofIdentifier named))
  exact made.not_mem (by decide)

theorem Function.join_cPrototype (function : Function) :
    String.join function.cPrototype =
      function.result.cText ++ (" " ++ (function.symbol ++
        ("(" ++ (cArguments function.arguments ++ ");\n")))) := by
  simp [cPrototype, String.join_cons]

theorem Function.join_rustDeclaration (function : Function) :
    String.join function.rustDeclaration =
      "    pub fn " ++ (function.symbol ++ ("(" ++
        (commaSeparated (function.arguments.map Field.rustText) ++ ")" ++
          rustResult function.result ++ ";\n"))) := by
  simp [rustDeclaration, String.join_cons, String.append_assoc]

theorem Function.eq_of_symbol {function other : Function}
    (symbols : function.symbol = other.symbol)
    (results : function.result = other.result)
    (arguments : function.arguments = other.arguments) : function = other := by
  rcases symbol_inj symbols with ⟨names, versions⟩
  cases function
  cases other
  simp only [Function.mk.injEq]
  exact ⟨names, versions, results, arguments⟩

theorem Function.parenthesis_not_mem_symbol {function : Function}
    (named : function.WellNamed) : '(' ∉ function.symbol.toList := by
  have made : MadeOf [] function.symbol :=
    .symbol (.ofIdentifier named.name) function.version
  exact made.not_mem (by decide)

theorem Function.cPrototype_inj {function other : Function}
    (named : function.WellNamed) (named' : other.WellNamed)
    (same : String.join function.cPrototype = String.join other.cPrototype) :
    function = other := by
  rw [join_cPrototype, join_cPrototype] at same
  rcases split_inj ((ValueType.madeOf_cText named.result).not_mem (by decide))
      ((ValueType.madeOf_cText named'.result).not_mem (by decide))
      (opens_append rfl _) (opens_append rfl _) same with
    ⟨results, behindResult⟩
  rcases split_inj (parenthesis_not_mem_symbol named)
      (parenthesis_not_mem_symbol named') (opens_append rfl _)
      (opens_append rfl _) ((String.append_right_inj " ").mp behindResult) with
    ⟨symbols, behindSymbol⟩
  have arguments := (String.append_left_inj ");\n").mp
    ((String.append_right_inj "(").mp behindSymbol)
  exact eq_of_symbol symbols
    (ValueType.cText_inj named.result named'.result results)
    (cArguments_inj named.arguments named'.arguments arguments)

theorem Function.rustDeclaration_inj {function other : Function}
    (named : function.WellNamed) (named' : other.WellNamed)
    (same : String.join function.rustDeclaration =
      String.join other.rustDeclaration) :
    function = other := by
  rw [join_rustDeclaration, join_rustDeclaration] at same
  rcases split_inj (parenthesis_not_mem_symbol named)
      (parenthesis_not_mem_symbol named') (opens_append rfl _)
      (opens_append rfl _)
      ((String.append_right_inj "    pub fn ").mp same) with
    ⟨symbols, behindSymbol⟩
  have signatures := (String.append_left_inj ";\n").mp
    ((String.append_right_inj "(").mp behindSymbol)
  -- Arguments can contain parentheses, but nothing behind the last one can.
  have closes : Closes ')' ")" := rfl
  rcases split_last_inj (closes_append closes _) (closes_append closes _)
      (parenthesis_not_mem_rustResult named.result)
      (parenthesis_not_mem_rustResult named'.result) signatures with
    ⟨arguments, results⟩
  exact eq_of_symbol symbols
    (rustResult_inj named.result named'.result results)
    (lossless_rustText.commaSeparated_inj named.arguments named'.arguments
      ((String.append_left_inj ")").mp arguments))

/--
Two rows whose names are identifiers have the same prototype in C exactly if
they have the same declaration in Rust, and exactly if they agree in name,
version, result and arguments.
-/
theorem Function.declarations_determine_row {function other : Function}
    (named : function.WellNamed) (named' : other.WellNamed) :
    (String.join function.cPrototype = String.join other.cPrototype ↔
        String.join function.rustDeclaration =
          String.join other.rustDeclaration) ∧
      (String.join function.rustDeclaration =
          String.join other.rustDeclaration ↔
        function.name = other.name ∧ function.version = other.version ∧
          function.result = other.result ∧
          function.arguments = other.arguments) := by
  have rows : function = other ↔
      function.name = other.name ∧ function.version = other.version ∧
        function.result = other.result ∧
        function.arguments = other.arguments := by
    cases function
    cases other
    simp only [Function.mk.injEq]
  have prototypes :
      String.join function.cPrototype = String.join other.cPrototype ↔
        function = other :=
    ⟨cPrototype_inj named named', fun same => by rw [same]⟩
  have declarations :
      String.join function.rustDeclaration =
          String.join other.rustDeclaration ↔
        function = other :=
    ⟨rustDeclaration_inj named named', fun same => by rw [same]⟩
  exact ⟨prototypes.trans declarations.symm, declarations.trans rows⟩

/--
Version 12 of a function and version 2 of one whose name already ends like a
symbol, with an array of nothing among their arguments.
-/
theorem Function.declarations_determine_row_versions :
    let arguments : List Field :=
      [{ name := "a", type := .void, length := some "N" },
        { name := "b", type := .pointer "box" }]
    let function : Function := ⟨"f", 12, .record "pair", arguments⟩
    let other : Function := ⟨"f_v1", 2, .record "pair", arguments⟩
    function.WellNamed ∧ other.WellNamed ∧
      String.join function.cPrototype ≠ String.join other.cPrototype ∧
      String.join function.rustDeclaration ≠
        String.join other.rustDeclaration := by
  intro arguments function other
  have pair : (ValueType.record "pair").WellNamed := ⟨rfl, by decide⟩
  have fields : ∀ field ∈ arguments, field.WellNamed := by
    simp only [arguments, List.forall_mem_cons]
    refine ⟨⟨rfl, trivial, ?_⟩, ⟨rfl, rfl, ?_⟩, List.forall_mem_nil _⟩
    · rintro constant ⟨⟩
      rfl
    · rintro constant ⟨⟩
  have identifier : isIdentifier "f" = true := rfl
  have identifier' : isIdentifier "f_v1" = true := rfl
  have named : function.WellNamed := ⟨identifier, pair, fields⟩
  have named' : other.WellNamed := ⟨identifier', pair, fields⟩
  rcases declarations_determine_row named named' with
    ⟨languages, determined⟩
  have different : ¬ function.name = other.name := by decide
  have declarations :
      String.join function.rustDeclaration ≠
        String.join other.rustDeclaration := by
    intro same
    exact different (determined.mp same).1
  exact ⟨named, named', mt languages.mp declarations, declarations⟩

end PacketFeed.Interface
