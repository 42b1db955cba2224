import Mathlib.Data.List.Basic
import PacketFeed.Command.Run

/-!
# Renderings in sinks that fail

The header and the bindings are written line by line, through helpers and in
loops over the tables, and every step is bound to the next one.  So what is
written is what writing the texts of all lines in a row would write, and the
first refusal ends it, wherever it comes from.

A sink with room for some bytes ends up with exactly the bytes of the whole
text that fit, and writing succeeds exactly if all of them do.  The places
where one text ends and the next one begins leave no trace.

Of any other sink one can record the calls.  The calls are those of the
rendering in order, up to the first one that is refused or to the last one, and
nothing is written after a refusal.
-/

namespace PacketFeed.Text

/-! ## Steps of writing -/

section Steps

variable {σ α β : Type} {sink : Sink σ} {state next : σ} {text : String}

theorem Writing.runFrom_bind_of_ok {writing : Writing σ α} {value : α}
    (written : writing.runFrom state = (.ok value, next))
    (continuation : α → Writing σ β) :
    (writing >>= continuation).runFrom state =
      (continuation value).runFrom next := by
  simp only [runFrom, ExceptT.run_bind, StateT.run_bind, Id.run_bind] at *
  rw [written]

theorem Writing.runFrom_bind_of_error {writing : Writing σ α}
    {refusal : Refusal}
    (refused : writing.runFrom state = (.error refusal, next))
    (continuation : α → Writing σ β) :
    (writing >>= continuation).runFrom state = (.error refusal, next) := by
  simp only [runFrom, ExceptT.run_bind, StateT.run_bind, Id.run_bind] at *
  rw [refused]
  rfl

namespace Sink

theorem writeAll_cons (sink : Sink σ) (text : String) (rest : List String) :
    sink.writeAll (text :: rest) =
      (do sink.write text; sink.writeAll rest) :=
  List.forM_cons

theorem writeAll_cons_of_accepts
    (accepts : (sink.write text).runFrom state = (.ok (), next))
    (rest : List String) :
    (sink.writeAll (text :: rest)).runFrom state =
      (sink.writeAll rest).runFrom next := by
  rw [writeAll_cons, Writing.runFrom_bind_of_ok accepts]

theorem writeAll_cons_of_refuses {refusal : Refusal}
    (refuses : (sink.write text).runFrom state = (.error refusal, next))
    (rest : List String) :
    (sink.writeAll (text :: rest)).runFrom state = (.error refusal, next) := by
  rw [writeAll_cons, Writing.runFrom_bind_of_error refuses]

theorem writeAll_append (sink : Sink σ) (first second : List String) :
    sink.writeAll (first ++ second) =
      (do sink.writeAll first; sink.writeAll second) :=
  List.forM_append

/-- A loop whose steps write texts writes all of them in a row. -/
theorem forIn_eq_writeAll (sink : Sink σ) (items : List α)
    (texts : α → List String)
    {step : α → PUnit → Writing σ (ForInStep PUnit)}
    (steps : ∀ item, step item ⟨⟩ = (do
      sink.writeAll (texts item)
      pure (.yield ⟨⟩))) :
    forIn items ⟨⟩ step = sink.writeAll (items.flatMap texts) := by
  induction items with
  | nil => rfl
  | cons item items induction =>
      rw [List.forIn_cons, steps, bind_assoc, List.flatMap_cons,
        writeAll_append]
      simp only [pure_bind, induction]

end Sink

end Steps

/-! ## Texts of renderings -/

namespace Rendering

variable {α : Type}

theorem writes_nil : writes [] = [] :=
  rfl

theorem writes_cons (line : Line) (rest : Rendering) :
    writes (line :: rest) = line ++ writes rest :=
  rfl

theorem writes_append (first second : Rendering) :
    writes (first ++ second) = writes first ++ writes second :=
  List.flatten_append

theorem writes_map (items : List α) (line : α → Line) :
    writes (items.map line) = items.flatMap line :=
  rfl

theorem writes_flatMap (items : List α) (lines : α → Rendering) :
    writes (items.flatMap lines) =
      items.flatMap fun item => writes (lines item) := by
  induction items with
  | nil => rfl
  | cons item items induction =>
      rw [List.flatMap_cons, writes_append, induction, List.flatMap_cons]

theorem join_lines (rendering : Rendering) :
    String.join (lines rendering) = text rendering := by
  induction rendering with
  | nil => rfl
  | cons line rest induction =>
      have first : lines (line :: rest) = String.join line :: lines rest := rfl
      rw [first, String.join_cons, induction, text, text, writes_cons,
        String.join_append]

end Rendering

/-! ## Bytes that fit -/

theorem bytes_append (first second : String) :
    bytes (first ++ second) = bytes first ++ bytes second := by
  show (first ++ second).toByteArray.data.toList = _
  rw [String.toByteArray_append, ByteArray.toList_data_append]
  rfl

theorem bytes_join (texts : List String) :
    bytes (String.join texts) = texts.flatMap bytes := by
  induction texts with
  | nil => rfl
  | cons text rest induction =>
      rw [String.join_cons, bytes_append, induction, List.flatMap_cons]

namespace Quota

theorem keep_append (quota : Quota) (first second : List UInt8) :
    quota.keep (first ++ second) = (quota.keep first).keep second := by
  simp only [keep, List.take_append, List.append_assoc, List.length_append,
    Nat.sub_sub]

/-- Bytes that do not fit leave no room for others. -/
theorem keep_append_of_lt {quota : Quota} {first : List UInt8}
    (overflow : quota.room < first.length) (second : List UInt8) :
    quota.keep (first ++ second) = quota.keep first := by
  have full : quota.room - first.length = 0 :=
    Nat.sub_eq_zero_of_le (Nat.le_of_lt overflow)
  rw [keep_append]
  simp only [keep, full, List.take_zero, List.append_nil, Nat.zero_sub]

theorem runFrom_write (quota : Quota) (text : String) :
    (sink.write text).runFrom quota =
      (if (bytes text).length ≤ quota.room then .ok () else .error .refused,
        quota.keep (bytes text)) := by
  show (if _ then pure () else throw Refusal.refused :
    Writing Quota Unit).runFrom (quota.keep (bytes text)) = _
  split <;> rfl

theorem write_of_fits {quota : Quota} {text : String}
    (fits : (bytes text).length ≤ quota.room) :
    (sink.write text).runFrom quota = (.ok (), quota.keep (bytes text)) := by
  rw [runFrom_write, if_pos fits]

theorem write_of_overflow {quota : Quota} {text : String}
    (overflow : ¬ (bytes text).length ≤ quota.room) :
    (sink.write text).runFrom quota =
      (.error .refused, quota.keep (bytes text)) := by
  rw [runFrom_write, if_neg overflow]

/-- Writing texts one by one keeps what writing them all at once would. -/
theorem runFrom_writeAll (texts : List String) (quota : Quota) :
    (sink.writeAll texts).runFrom quota =
      (if (texts.flatMap bytes).length ≤ quota.room then .ok ()
        else .error .refused,
        quota.keep (texts.flatMap bytes)) := by
  induction texts generalizing quota with
  | nil =>
      have same : quota.keep [] = quota := by simp [keep]
      rw [List.flatMap_nil, same, List.length_nil, if_pos (Nat.zero_le _)]
      rfl
  | cons text rest induction =>
      rw [List.flatMap_cons, List.length_append]
      by_cases fits : (bytes text).length ≤ quota.room
      · -- What is left of the room decides about the rest.
        have room :
            (rest.flatMap bytes).length ≤ (quota.keep (bytes text)).room ↔
              (bytes text).length + (rest.flatMap bytes).length ≤
                quota.room :=
          Nat.le_sub_iff_add_le' fits
        rw [Sink.writeAll_cons_of_accepts (write_of_fits fits), induction,
          keep_append]
        simp only [room]
      · -- The rest is not written, and would not have been kept either.
        have overflow : quota.room < (bytes text).length :=
          Nat.lt_of_not_le fits
        rw [Sink.writeAll_cons_of_refuses (write_of_overflow fits),
          keep_append_of_lt overflow,
          if_neg (Nat.not_le.mpr (Nat.lt_add_right _ overflow))]

end Quota

/-- A sink that takes everything holds the texts in a row. -/
theorem Sink.runFrom_writeAll_toText (texts : List String) (text : String) :
    (toText.writeAll texts).runFrom text =
      (.ok (), text ++ String.join texts) := by
  induction texts generalizing text with
  | nil =>
      show (Except.ok (), text) = (Except.ok (), text ++ "")
      rw [String.append_empty]
  | cons first rest induction =>
      have accepts :
          (toText.write first).runFrom text = (.ok (), text ++ first) :=
        rfl
      rw [writeAll_cons_of_accepts accepts, induction, String.join_cons,
        String.append_assoc]

/-! ## Recorded calls -/

namespace Sink

variable {σ : Type}

/-- A sink that answers like the given one and records calls and answers. -/
def recording (sink : Sink σ) : Sink (List (String × Bool) × σ) where
  write text := do
    let (calls, state) ← get
    let (outcome, next) := (sink.write text).runFrom state
    set (calls ++ [(text, outcome.isOk)], next)
    MonadExcept.ofExcept outcome

/--
The calls that are made to write `texts`, with their answers, and whether all
texts were written: either every text is accepted, or the texts up to one that
is refused are written and no call follows.
-/
inductive Called (texts : List String) :
    Bool → List (String × Bool) → Prop where
  | completed : Called texts true (texts.map fun text => (text, true))
  | interrupted {accepted rest : List String} {refused : String}
      (split : texts = accepted ++ refused :: rest) :
      Called texts false
        (accepted.map (fun text => (text, true)) ++ [(refused, false)])

namespace Called

variable {texts : List String} {complete : Bool}
  {calls : List (String × Bool)}

theorem cons (called : Called texts complete calls) (text : String) :
    Called (text :: texts) complete ((text, true) :: calls) := by
  cases called with
  | completed => exact completed
  | interrupted split =>
      subst split
      exact @interrupted _ (text :: _) _ _ rfl

/-- A call that is refused is the last one. -/
theorem length_of_refused (called : Called texts complete calls) {index : Nat}
    {text : String} (refused : calls[index]? = some (text, false)) :
    complete = false ∧ calls.length = index + 1 := by
  cases called with
  | completed => simp at refused
  | @interrupted accepted rest last split =>
      refine ⟨rfl, ?_⟩
      rcases Nat.lt_trichotomy index accepted.length with early | rfl | late
      · simp [List.getElem?_append_left, early] at refused
      · simp
      · have outside :
            (accepted.map (fun text => (text, true)) ++
              [(last, false)]).length ≤ index := by
          simpa using Nat.succ_le_of_lt late
        rw [List.getElem?_eq_none outside] at refused
        cases refused

/-- The texts that were accepted come before all others. -/
theorem accepted_isPrefix (called : Called texts complete calls) :
    (calls.filter Prod.snd).map Prod.fst <+: texts := by
  cases called with
  | completed => simp [List.filter_map, Function.comp_def]
  | interrupted split => simp [split, List.filter_map, Function.comp_def]

end Called

theorem write_recording (sink : Sink σ) (text : String)
    (calls : List (String × Bool)) (state : σ) :
    let result := (sink.write text).runFrom state
    (sink.recording.write text).runFrom (calls, state) =
      (result.1, (calls ++ [(text, result.1.isOk)], result.2)) := by
  intro result
  show Writing.runFrom (MonadExcept.ofExcept result.1)
    (calls ++ [(text, result.1.isOk)], result.2) = _
  cases result.1 with
  | ok accepted => rfl
  | error refusal => rfl

/-- Recording changes no answer, and records the calls that write the texts. -/
theorem writeAll_recording (sink : Sink σ) (texts : List String) (state : σ)
    (calls : List (String × Bool)) :
    let result := (sink.writeAll texts).runFrom state
    ∃ further,
      Called texts result.1.isOk further ∧
        (sink.recording.writeAll texts).runFrom (calls, state) =
          (result.1, (calls ++ further, result.2)) := by
  induction texts generalizing state calls with
  | nil => exact ⟨[], .completed, by rw [List.append_nil]; rfl⟩
  | cons text rest induction =>
      have recorded := sink.write_recording text calls state
      rcases answer : (sink.write text).runFrom state with
        ⟨refusal | accepted, next⟩
      · rw [answer] at recorded
        rw [writeAll_cons_of_refuses answer,
          writeAll_cons_of_refuses recorded]
        exact ⟨[(text, false)], .interrupted (List.nil_append _).symm, rfl⟩
      · rw [answer] at recorded
        rcases induction next (calls ++ [(text, true)]) with
          ⟨further, called, run⟩
        rw [writeAll_cons_of_accepts answer,
          writeAll_cons_of_accepts recorded]
        refine ⟨(text, true) :: further, called.cons text, run.trans ?_⟩
        rw [List.append_assoc, List.singleton_append]

end Sink

/-! ## Truncated texts -/

/--
How a text is written to sinks that fail.  A sink that takes everything ends up
with the whole text.  A sink with room for `limit` bytes keeps the first
`limit` bytes, and writing succeeds exactly if these are all.  In any sink, the
calls are the same writes in order up to the first refusal.  A refused call is
the last one and its refusal is reported, and the accepted texts together are
an initial part of the whole text.
-/
structure Truncates (write : ∀ {σ : Type}, Sink σ → Writing σ Unit)
    (text : String) : Prop where
  whole : (write Sink.toText).runFrom "" = (.ok (), text)
  complete_iff : ∀ limit,
    ((write Quota.sink).runFrom (Quota.ofLimit limit)).1 = .ok () ↔
      (bytes text).length ≤ limit
  kept : ∀ limit,
    ((write Quota.sink).runFrom (Quota.ofLimit limit)).2.kept =
      (bytes text).take (min limit (bytes text).length)
  calls : ∃ writes : List String,
    String.join writes = text ∧
      ∀ {σ : Type} (sink : Sink σ) (state : σ),
        let result := (write sink).runFrom state
        ∃ calls,
          (write sink.recording).runFrom ([], state) =
              (result.1, (calls, result.2)) ∧
            Sink.Called writes result.1.isOk calls ∧
            (∀ index refused, calls[index]? = some (refused, false) →
              result.1 = .error .refused ∧ calls.length = index + 1) ∧
            ∃ unwritten,
              text =
                String.join ((calls.filter Prod.snd).map Prod.fst) ++
                  unwritten

/-- Whoever writes texts in a row, and nothing else, truncates them. -/
theorem truncates_of_writeAll
    {write : ∀ {σ : Type}, Sink σ → Writing σ Unit} {texts : List String}
    (same : ∀ {σ : Type} (sink : Sink σ), write sink = sink.writeAll texts) :
    Truncates write (String.join texts) where
  whole := by
    rw [same, Sink.runFrom_writeAll_toText, String.empty_append]
  complete_iff limit := by
    rw [same, Quota.runFrom_writeAll, bytes_join]
    by_cases fits :
        (texts.flatMap bytes).length ≤ (Quota.ofLimit limit).room
    · rw [if_pos fits]
      exact iff_of_true rfl fits
    · rw [if_neg fits]
      exact iff_of_false nofun fits
  kept limit := by
    rw [same, Quota.runFrom_writeAll, bytes_join, ← List.take_eq_take_min]
    exact List.nil_append _
  calls := by
    refine ⟨texts, rfl, ?_⟩
    intro σ sink state result
    rcases sink.writeAll_recording texts state [] with ⟨calls, called, run⟩
    rcases called.accepted_isPrefix with ⟨unwritten, split⟩
    rw [← same] at called run
    rw [← same] at run
    refine ⟨calls, run, called, ?_, String.join unwritten, ?_⟩
    · intro index refused last
      rcases called.length_of_refused last with ⟨incomplete, length⟩
      refine ⟨?_, length⟩
      cases outcome : result.1 with
      | ok written =>
          rw [outcome] at incomplete
          cases incomplete
      | error refusal => rfl
    · rw [← split, String.join_append]

end PacketFeed.Text

namespace PacketFeed.Interface

open PacketFeed.Text

/-! ## Writers -/

section Writers

variable {σ : Type}

theorem Record.writeC_eq (record : Record) (sink : Sink σ) :
    record.writeC sink =
      sink.writeAll (Rendering.writes record.cDefinition) := by
  rw [writeC, sink.forIn_eq_writeAll record.fields Field.cMember fun _ => rfl]
  simp only [cDefinition, Rendering.writes_append, Rendering.writes_map,
    Rendering.writes_cons, Rendering.writes_nil, List.append_nil,
    Sink.writeAll_append, bind_assoc]

theorem Record.writeRust_eq (record : Record) (sink : Sink σ) :
    record.writeRust sink =
      sink.writeAll (Rendering.writes record.rustDefinition) := by
  rw [writeRust,
    sink.forIn_eq_writeAll record.fields Field.rustMember fun _ => rfl]
  simp only [rustDefinition, Interface.rustDefinition,
    Rendering.writes_append, Rendering.writes_map, Rendering.writes_cons,
    Rendering.writes_nil, List.append_nil, Sink.writeAll_append, bind_assoc]

/-- Writing the header is writing the texts of its lines in a row. -/
theorem Tables.writeHeader_eq (tables : Tables) (sink : Sink σ) :
    tables.writeHeader sink =
      sink.writeAll (Rendering.writes tables.header) := by
  rw [writeHeader,
    sink.forIn_eq_writeAll tables.constants
      (fun entry => cMacro entry.1 entry.2) fun _ => rfl,
    sink.forIn_eq_writeAll tables.statuses
      (fun entry => cMacro entry.1 entry.2.code) fun _ => rfl,
    sink.forIn_eq_writeAll tables.handles cTypedef fun _ => rfl,
    sink.forIn_eq_writeAll tables.records
      (fun record => Rendering.writes record.cDefinition ++ blank)
      fun record => by
        simp only [record.writeC_eq, Sink.writeAll_append, bind_assoc],
    sink.forIn_eq_writeAll tables.functions Function.cPrototype fun _ => rfl,
    sink.forIn_eq_writeAll (aliases tables.functions)
      (fun entry => cAlias entry.1 entry.2) fun _ => rfl]
  simp only [header, Rendering.writes_append, Rendering.writes_map,
    Rendering.writes_flatMap, Rendering.writes_cons, Rendering.writes_nil,
    List.append_nil, Sink.writeAll_append, bind_assoc, bind_pure_unit]

/-- Writing the bindings is writing the texts of their lines in a row. -/
theorem Tables.writeBindings_eq (tables : Tables) (sink : Sink σ) :
    tables.writeBindings sink =
      sink.writeAll (Rendering.writes tables.bindings) := by
  rw [writeBindings,
    sink.forIn_eq_writeAll tables.constants
      (fun entry => rustConstant entry.1 "usize" entry.2) fun _ => rfl,
    sink.forIn_eq_writeAll tables.statuses
      (fun entry => rustConstant entry.1 "u64" entry.2.code) fun _ => rfl,
    sink.forIn_eq_writeAll tables.handles
      (fun name =>
        Rendering.writes (rustDefinition name [rustHidden]) ++ blank)
      fun name => by
        simp only [rustDefinition, Rendering.writes_append,
          Rendering.writes_cons, Rendering.writes_nil, List.append_nil,
          Sink.writeAll_append, bind_assoc],
    sink.forIn_eq_writeAll tables.records
      (fun record => Rendering.writes record.rustDefinition ++ blank)
      fun record => by
        simp only [record.writeRust_eq, Sink.writeAll_append, bind_assoc],
    sink.forIn_eq_writeAll tables.functions Function.rustDeclaration
      fun _ => rfl,
    sink.forIn_eq_writeAll (aliases tables.functions)
      (fun entry => rustAlias entry.1 entry.2) fun _ => rfl]
  simp only [bindings, Rendering.writes_append, Rendering.writes_map,
    Rendering.writes_flatMap, Rendering.writes_cons, Rendering.writes_nil,
    List.append_nil, Sink.writeAll_append, bind_assoc, bind_pure_unit]

end Writers

theorem Tables.headerText_eq (tables : Tables) :
    tables.headerText = Rendering.text tables.header := by
  rw [headerText, writeHeader_eq, Sink.runFrom_writeAll_toText]
  exact String.empty_append

theorem Tables.bindingsText_eq (tables : Tables) :
    tables.bindingsText = Rendering.text tables.bindings := by
  rw [bindingsText, writeBindings_eq, Sink.runFrom_writeAll_toText]
  exact String.empty_append

/-- The program prints what a sink that takes everything is left with. -/
theorem join_interfaceLines (language : Command.Language) :
    String.join (Command.interfaceLines language) =
      match language with
      | .c => shipped.headerText
      | .rust => shipped.bindingsText := by
  cases language with
  | c =>
      rw [shipped.headerText_eq, ← Rendering.join_lines]
      rfl
  | rust =>
      rw [shipped.bindingsText_eq, ← Rendering.join_lines]
      rfl

/--
Of tables that are written to a sink that fails an exact initial part arrives,
and the failure is reported.
-/
theorem Tables.writers_truncate (tables : Tables) :
    Truncates tables.writeHeader tables.headerText ∧
      Truncates tables.writeBindings tables.bindingsText := by
  rw [tables.headerText_eq, tables.bindingsText_eq]
  exact ⟨truncates_of_writeAll tables.writeHeader_eq,
    truncates_of_writeAll tables.writeBindings_eq⟩

end PacketFeed.Interface
