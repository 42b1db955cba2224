import Mathlib.Data.List.Iterate
import PacketFeed.Proofs.Abort
import PacketFeed.Proofs.Rejection

/-!
# The log of the boundary

Every call logs one event at most, and what it logs shows how the call ended.
Events of fetches do not name a context, so the log as a whole says little;
but the events of the calls on one handle, taken by themselves, tell the life
of its context.  They begin with its creation, go on with one event for each
fetch that was served, and end with its deletion.  The sizes in the events of
fetches form a chain: each names the size of its own batch and of the next.

A fetch that is given the handle but no batch is a call on the handle too.  It
is turned down with a warning, which may stand anywhere in between.
-/

namespace PacketFeed

/-! ## Calls and handles -/

/-- Whether a call asks for a new context. -/
def Call.constructs : Call → Bool
  | .createLegacy _ | .create .. => true
  | _ => false

/-- Whether a call deletes the context of a handle. -/
def Call.deletes (handle : Handle) : Call → Bool
  | .delete (some context) => context == handle
  | _ => false

/-- Whether a call is given a handle. -/
def Call.names (handle : Handle) : Call → Bool
  | .fetch (some context) _ | .delete (some context) => context == handle
  | _ => false

theorem Call.constructs_of_initial? {call : Call} {first : UInt8}
    (asks : call.initial? = some first) :
    call.constructs = true := by
  cases call with
  | createLegacy | create => rfl
  | fetch | delete | store => cases asks

/-- A call that asks for a new context is given no handle. -/
theorem Call.of_constructs {call : Call}
    (constructs : call.constructs = true) (handle : Handle) :
    call.names handle = false ∧
      call.fetchesFrom handle = false ∧
      call.deletes handle = false := by
  cases call with
  | createLegacy | create => exact ⟨rfl, rfl, rfl⟩
  | fetch | delete | store => cases constructs

/-- Whether an event reports a creation. -/
def Log.Event.isCreated : Log.Event → Bool
  | .created .. => true
  | _ => false

/-- Whether an event reports a deletion. -/
def Log.Event.isDeleting : Log.Event → Bool
  | .deleting _ => true
  | _ => false

namespace Boundary

/-! ## How a call returns -/

/--
The ways in which a call can return: its reply, with what it logs, and the
state that it leaves.
-/
inductive Returns (boundary : Boundary) : Call → Reply → Boundary → Prop where
  | created {call : Call} {first : UInt8}
      (asks : call.initial? = some first) :
      Returns boundary call
        ⟨.handle (some boundary.contexts.length),
          [.created boundary.contexts.length first]⟩
        { boundary with
          contexts :=
            boundary.contexts ++ [some (Generator.ofInitial first)] }
  | refused {call : Call} (constructs : call.constructs = true) :
      Returns boundary call ⟨.handle none, [.allocationFailed]⟩ boundary
  | served {handle : Handle} {name : BufferName}
      {generator : Generator Keystream}
      (live : boundary.context? (some handle) = some generator)
      (ready : generator.Ready) :
      Returns boundary (.fetch (some handle) (some name))
        ⟨.status .success,
          [.fetched generator.pending
            (Generator.advance generator.pending)]⟩
        ((boundary.setContext handle
            (some
              (generator.fetch (boundary.buffers.get name)).generator)).setBuffer
          name (generator.fetch (boundary.buffers.get name)).batch)
  | rejected {context : Option Handle} {buffer : Option BufferName}
      (null : boundary.context? context = none ∨ buffer = none) :
      Returns boundary (.fetch context buffer)
        ⟨.status .invalidHandle, [.fetchRejected]⟩ boundary
  | deleted {handle : Handle} {generator : Generator Keystream}
      (live : boundary.context? (some handle) = some generator) :
      Returns boundary (.delete (some handle)) ⟨.done, [.deleting handle]⟩
        (boundary.setContext handle none)
  | ignored {context : Option Handle}
      (null : boundary.context? context = none) :
      Returns boundary (.delete context) ⟨.done, []⟩ boundary
  | stored {buffer : BufferName} {contents : Batch} :
      Returns boundary (.store buffer contents) ⟨.done, []⟩
        (boundary.setBuffer buffer contents)

theorem returns_create (boundary : Boundary) {call : Call} {first : UInt8}
    {allocates : Bool} (constructs : call.constructs = true)
    (asks : allocates = true → call.initial? = some first) :
    boundary.Returns call (boundary.create first allocates).1
      (boundary.create first allocates).2 := by
  cases allocates with
  | true => exact .created (asks rfl)
  | false => exact .refused constructs

/-- Every call that does not end the process returns in one of these ways. -/
theorem returns_step {boundary : Boundary} {call : Call}
    (answered : (boundary.step call).1.isAbort = false) :
    boundary.Returns call (boundary.step call).1 (boundary.step call).2 := by
  cases call with
  | createLegacy allocates =>
      refine boundary.returns_create rfl ?_
      rintro rfl
      rfl
  | create first allocates =>
      refine boundary.returns_create rfl ?_
      rintro rfl
      rfl
  | fetch context buffer =>
      simp only [step] at answered ⊢
      rcases boundary.fetch_cases context buffer with
        null | ⟨handle, name, generator, rfl, rfl, live,
          ready | ⟨fault, fails⟩⟩
      · rw [boundary.fetch_of_null null]
        exact .rejected null
      · rw [fetch_of_ready live ready]
        exact .served live ready
      · rw [fetch_of_fault live fails] at answered
        cases answered
  | delete context =>
      cases live : boundary.context? context with
      | none =>
          rw [step_delete_of_null boundary live]
          exact .ignored live
      | some generator =>
          cases context with
          | none => cases live
          | some handle =>
              simp only [step, delete, live]
              exact .deleted live
  | store buffer contents => exact .stored

/-- A run that survives is a step that returns, and a run from there. -/
theorem exists_returns_of_survives {boundary : Boundary} {call : Call}
    {calls : List Call} (survives : boundary.Survives (call :: calls)) :
    ∃ reply next,
      boundary.Returns call reply next ∧
        next.Survives calls ∧
        boundary.performed (call :: calls) =
          ⟨boundary, call, reply, next⟩ :: next.performed calls ∧
        (boundary.run (call :: calls)).2 = (next.run calls).2 := by
  rcases survives_cons_iff.mp survives with ⟨answered, later⟩
  refine ⟨_, _, returns_step answered, later,
    performed_cons_of_answer answered calls, ?_⟩
  rw [run_cons_of_answer answered]

theorem performed_append {boundary : Boundary} {calls : List Call}
    (survives : boundary.Survives calls) (others : List Call) :
    boundary.performed (calls ++ others) =
      boundary.performed calls ++
        (boundary.run calls).2.performed others := by
  induction calls generalizing boundary with
  | nil => rfl
  | cons call calls induction =>
      rcases survives_cons_iff.mp survives with ⟨answered, later⟩
      rw [List.cons_append, performed_cons_of_answer answered,
        performed_cons_of_answer answered, run_cons_of_answer answered,
        induction later, List.cons_append]

theorem returns_of_mem_performed {boundary : Boundary} {calls : List Call}
    (survives : boundary.Survives calls) {entry : Performed}
    (member : entry ∈ boundary.performed calls) :
    entry.before.Returns entry.call entry.reply entry.after := by
  induction calls generalizing boundary with
  | nil => cases member
  | cons call calls induction =>
      rcases exists_returns_of_survives survives with
        ⟨reply, next, returns, later, shape, -⟩
      rw [shape] at member
      rcases List.mem_cons.mp member with rfl | rest
      · exact returns
      · exact induction later rest

/-! ## What one call logs -/

namespace Returns

variable {boundary next : Boundary} {call : Call} {reply : Reply}

theorem length_events_le (returns : boundary.Returns call reply next) :
    reply.events.length ≤ 1 := by
  cases returns <;> simp

theorem allocationFailed_mem_iff
    (returns : boundary.Returns call reply next) :
    .allocationFailed ∈ reply.events ↔
      call.constructs = true ∧ reply.answer = .handle none := by
  cases returns with
  | refused constructs => simp [constructs]
  | created | served | rejected | deleted | ignored | stored => simp

theorem fetchRejected_mem_iff (returns : boundary.Returns call reply next) :
    .fetchRejected ∈ reply.events ↔
      ∃ context buffer status,
        call = .fetch context buffer ∧
          reply.answer = .status status ∧
          status.code = 1 := by
  cases returns with
  | rejected null => simp [Status.code]
  | served live ready => simp [Status.code]
  | created | refused | deleted | ignored | stored => simp

theorem events_of_delete_none
    (returns : boundary.Returns (.delete none) reply next) :
    reply.events = [] := by
  cases returns with
  | created asks => cases asks
  | refused constructs => cases constructs
  | ignored null => rfl

end Returns

/-! ## Calls on one handle -/

namespace Performed

/-- Whether a performed call was on a handle: it returned it or was given it. -/
def on (handle : Handle) (entry : Performed) : Bool :=
  entry.reply.answer == .handle (some handle) || entry.call.names handle

/-- Whether a performed call was a fetch that returned the code 1. -/
def turnedDown (entry : Performed) : Bool :=
  entry.reply.answer == .status .invalidHandle

/-- Whether a performed call was on a handle and not turned down. -/
def heededOn (handle : Handle) (entry : Performed) : Bool :=
  entry.on handle && !entry.turnedDown

/-- Whether a performed call filled a batch from the context of a handle. -/
def serves (handle : Handle) (entry : Performed) : Bool :=
  entry.call.fetchesFrom handle && entry.reply.answer == .status .success

/-- The count found after a fetch in the batch that it was given. -/
def countFound (entry : Performed) : Option UInt8 :=
  match entry.call with
  | .fetch _ (some name) => some (entry.after.buffers.get name).count
  | _ => none

end Performed

/-- What the calls on a handle have logged, in order. -/
def eventsOn (handle : Handle) (entries : List Performed) :
    List Log.Event :=
  (entries.filter (Performed.on handle)).flatMap
    fun entry => entry.reply.events

/-- The calls that were not turned down. -/
def heeded (entries : List Performed) : List Performed :=
  entries.filter fun entry => !entry.turnedDown

theorem eventsOn_heeded (handle : Handle) (entries : List Performed) :
    eventsOn handle (heeded entries) =
      (entries.filter (Performed.heededOn handle)).flatMap
        fun entry => entry.reply.events := by
  rw [eventsOn, heeded, List.filter_filter]
  rfl

theorem eventsOn_heeded_append (handle : Handle)
    (entries others : List Performed) :
    eventsOn handle (heeded (entries ++ others)) =
      eventsOn handle (heeded entries) ++ eventsOn handle (heeded others) := by
  simp only [eventsOn_heeded, List.filter_append, List.flatMap_append]

theorem eventsOn_heeded_cons (handle : Handle) (entry : Performed)
    (entries : List Performed) :
    eventsOn handle (heeded (entry :: entries)) =
      (if entry.heededOn handle then entry.reply.events else []) ++
        eventsOn handle (heeded entries) := by
  simp only [eventsOn_heeded, List.filter_cons]
  split
  · rw [List.flatMap_cons]
  · rfl

namespace Returns

variable {boundary next : Boundary} {call : Call} {reply : Reply}
  {handle : Handle}

/-- Calls create contexts at the end of the table and never remove an entry. -/
theorem length_contexts_le (returns : boundary.Returns call reply next) :
    boundary.contexts.length ≤ next.contexts.length := by
  cases returns with
  | created asks => simp
  | served live ready => simp [setBuffer, setContext]
  | deleted live => simp [setContext]
  | refused | rejected | ignored | stored => exact Nat.le_refl _

/-- A new handle is the number of handles given out before. -/
theorem eq_of_issued (returns : boundary.Returns call reply next)
    (issued : reply.answer = .handle (some handle)) :
    handle = boundary.contexts.length ∧
      next.contexts.length = boundary.contexts.length + 1 := by
  cases returns with
  | created asks =>
      cases issued
      exact ⟨rfl, by simp⟩
  | refused | served | rejected | deleted | ignored | stored => cases issued

theorem events_of_issued (returns : boundary.Returns call reply next)
    (issued : reply.answer = .handle (some handle)) {first : UInt8}
    (asks : call.initial? = some first) :
    reply.events = [.created handle first] := by
  cases returns with
  | created created =>
      cases issued
      rw [asks] at created
      cases created
      rfl
  | refused | served | rejected | deleted | ignored | stored => cases issued

/-- What a call tells about a handle that has no context. -/
theorem of_absent (returns : boundary.Returns call reply next)
    (absent : boundary.context? (some handle) = none)
    (unissued : reply.answer ≠ .handle (some handle)) :
    let entry : Performed := ⟨boundary, call, reply, next⟩
    (if entry.heededOn handle then entry.reply.events else []) = [] ∧
      entry.serves handle = false ∧
      next.context? (some handle) = none := by
  intro entry
  cases returns with
  | @created call first asks =>
      rcases Call.of_constructs (Call.constructs_of_initial? asks) handle with
        ⟨unnamed, fetches, -⟩
      have other : handle ≠ boundary.contexts.length := by
        rintro rfl
        exact unissued rfl
      have later := boundary.context?_create first true handle
      rw [if_neg (fun fresh => other fresh.2)] at later
      refine ⟨?_, ?_, later.trans absent⟩
      · simp [entry, Performed.heededOn, Performed.on, unnamed, Ne.symm other]
      · simp [entry, Performed.serves, fetches]
  | refused constructs =>
      rcases Call.of_constructs constructs handle with ⟨unnamed, fetches, -⟩
      refine ⟨?_, ?_, absent⟩
      · simp [entry, Performed.heededOn, Performed.on, unnamed]
      · simp [entry, Performed.serves, fetches]
  | @served context name generator live ready =>
      have other : context ≠ handle := by
        rintro rfl
        rw [absent] at live
        cases live
      refine ⟨?_, ?_, ?_⟩
      · simp [entry, Performed.heededOn, Performed.on, Call.names, other]
      · simp [entry, Performed.serves, Call.fetchesFrom, other]
      · rw [context?_setBuffer,
          context?_setContext _ _ _ _ (lt_of_context? live),
          if_neg (Ne.symm other), absent]
  | rejected null =>
      refine ⟨?_, ?_, absent⟩
      · simp [entry, Performed.heededOn, Performed.turnedDown]
      · simp [entry, Performed.serves]
  | @deleted context generator live =>
      have other : context ≠ handle := by
        rintro rfl
        rw [absent] at live
        cases live
      refine ⟨?_, ?_, ?_⟩
      · simp [entry, Performed.heededOn, Performed.on, Call.names, other]
      · simp [entry, Performed.serves, Call.fetchesFrom]
      · rw [context?_setContext _ _ _ _ (lt_of_context? live),
          if_neg (Ne.symm other), absent]
  | ignored null =>
      refine ⟨?_, ?_, absent⟩
      · simp [entry]
      · simp [entry, Performed.serves, Call.fetchesFrom]
  | stored =>
      refine ⟨?_, ?_, absent⟩
      · simp [entry]
      · simp [entry, Performed.serves, Call.fetchesFrom]

/-- What a call tells about a handle whose context lives. -/
theorem of_live (returns : boundary.Returns call reply next)
    {generator : Generator Keystream}
    (live : boundary.context? (some handle) = some generator) :
    let entry : Performed := ⟨boundary, call, reply, next⟩
    (∃ later,
        entry.heededOn handle = true ∧
          entry.serves handle = true ∧
          call.deletes handle = false ∧
          reply.events =
            [.fetched generator.pending
              (Generator.advance generator.pending)] ∧
          entry.countFound = some generator.pending ∧
          next.context? (some handle) = some later ∧
          later.pending = Generator.advance generator.pending) ∨
      (entry.heededOn handle = true ∧
        entry.serves handle = false ∧
        call.deletes handle = true ∧
        reply.events = [.deleting handle] ∧
        next.context? (some handle) = none) ∨
      (entry.heededOn handle = false ∧
        entry.serves handle = false ∧
        call.deletes handle = false ∧
        next.context? (some handle) = some generator) := by
  intro entry
  cases returns with
  | created asks =>
      rcases Call.of_constructs (Call.constructs_of_initial? asks) handle with
        ⟨unnamed, fetches, deletes⟩
      have other : boundary.contexts.length ≠ handle :=
        Nat.ne_of_gt (lt_of_context? live)
      refine Or.inr (Or.inr ⟨?_, ?_, deletes, ?_⟩)
      · simp [entry, Performed.heededOn, Performed.on, unnamed, other]
      · simp [entry, Performed.serves, fetches]
      · exact context?_create_of_live live _ true
  | refused constructs =>
      rcases Call.of_constructs constructs handle with
        ⟨unnamed, fetches, deletes⟩
      refine Or.inr (Or.inr ⟨?_, ?_, deletes, live⟩)
      · simp [entry, Performed.heededOn, Performed.on, unnamed]
      · simp [entry, Performed.serves, fetches]
  | @served context name found foundLive ready =>
      have known := lt_of_context? foundLive
      by_cases same : context = handle
      · subst same
        rw [live] at foundLive
        cases foundLive
        refine Or.inl
          ⟨(generator.fetch (boundary.buffers.get name)).generator, ?_, ?_,
            rfl, rfl, ?_, ?_, ?_⟩
        · simp [entry, Performed.heededOn, Performed.on, Performed.turnedDown,
            Call.names]
        · simp [entry, Performed.serves, Call.fetchesFrom]
        · simp only [entry, Performed.countFound, setBuffer,
            Buffers.get_set, if_true, Generator.count_fetch ready]
        · rw [context?_setBuffer, context?_setContext _ _ _ _ known,
            if_pos rfl]
        · rw [Generator.fetch_of_ready ready]
      · refine Or.inr (Or.inr ⟨?_, ?_, rfl, ?_⟩)
        · simp [entry, Performed.heededOn, Performed.on, Call.names, same]
        · simp [entry, Performed.serves, Call.fetchesFrom, same]
        · rw [context?_setBuffer, context?_setContext _ _ _ _ known,
            if_neg (Ne.symm same), live]
  | rejected null =>
      refine Or.inr (Or.inr ⟨?_, ?_, rfl, live⟩)
      · simp [entry, Performed.heededOn, Performed.turnedDown]
      · simp [entry, Performed.serves]
  | @deleted context found foundLive =>
      have known := lt_of_context? foundLive
      by_cases same : context = handle
      · subst same
        refine Or.inr (Or.inl ⟨?_, ?_, ?_, rfl, ?_⟩)
        · simp [entry, Performed.heededOn, Performed.on, Performed.turnedDown,
            Call.names]
        · simp [entry, Performed.serves, Call.fetchesFrom]
        · simp [Call.deletes]
        · rw [context?_setContext _ _ _ _ known, if_pos rfl]
      · refine Or.inr (Or.inr ⟨?_, ?_, ?_, ?_⟩)
        · simp [entry, Performed.heededOn, Performed.on, Call.names, same]
        · simp [entry, Performed.serves, Call.fetchesFrom]
        · simp [Call.deletes, same]
        · rw [context?_setContext _ _ _ _ known, if_neg (Ne.symm same), live]
  | @ignored context null =>
      have other : context ≠ some handle := by
        rintro rfl
        rw [live] at null
        cases null
      refine Or.inr (Or.inr ⟨?_, ?_, ?_, live⟩)
      · cases context with
        | none => simp [entry, Performed.heededOn, Performed.on, Call.names]
        | some context =>
            simpa [entry, Performed.heededOn, Performed.on,
              Performed.turnedDown, Call.names] using other
      · simp [entry, Performed.serves, Call.fetchesFrom]
      · cases context with
        | none => rfl
        | some context => simpa [Call.deletes] using other
  | stored =>
      refine Or.inr (Or.inr ⟨?_, ?_, rfl, live⟩)
      · simp [entry, Performed.heededOn, Performed.on, Call.names]
      · simp [entry, Performed.serves, Call.fetchesFrom]

end Returns

/-! ## The events of one context along a run -/

theorem length_contexts_le_run {boundary : Boundary} {calls : List Call}
    (survives : boundary.Survives calls) :
    boundary.contexts.length ≤
      (boundary.run calls).2.contexts.length := by
  induction calls generalizing boundary with
  | nil => exact Nat.le_refl _
  | cons call calls induction =>
      rcases exists_returns_of_survives survives with
        ⟨reply, next, returns, later, -, last⟩
      rw [last]
      exact Nat.le_trans returns.length_contexts_le (induction later)

/--
Nothing is told of a handle whose context has been deleted, nor of one that is
not given out before the end of the run.
-/
theorem eventsOn_of_absent {boundary : Boundary} {calls : List Call}
    {handle : Handle} (survives : boundary.Survives calls)
    (absent : boundary.context? (some handle) = none)
    (elsewhere :
      handle < boundary.contexts.length ∨
        (boundary.run calls).2.contexts.length ≤ handle) :
    eventsOn handle (heeded (boundary.performed calls)) = [] ∧
      (boundary.performed calls).filter (Performed.serves handle) = [] ∧
      (boundary.run calls).2.context? (some handle) = none := by
  induction calls generalizing boundary with
  | nil => exact ⟨rfl, rfl, absent⟩
  | cons call calls induction =>
      rcases exists_returns_of_survives survives with
        ⟨reply, next, returns, later, shape, last⟩
      rw [last] at elsewhere
      have grows := returns.length_contexts_le
      have unissued : reply.answer ≠ .handle (some handle) := by
        intro issued
        rcases returns.eq_of_issued issued with ⟨fresh, grown⟩
        rcases elsewhere with known | beyond
        · exact Nat.ne_of_lt known fresh
        · have final := Nat.le_trans (length_contexts_le_run later) beyond
          rw [grown, fresh] at final
          exact Nat.not_succ_le_self _ final
      rcases returns.of_absent absent unissued with ⟨silent, idle, still⟩
      rcases induction later still
          (elsewhere.imp_left fun known => Nat.lt_of_lt_of_le known grows)
        with ⟨events, served, gone⟩
      rw [shape, last, eventsOn_heeded_cons, silent, events,
        List.filter_cons_of_neg (by simp [idle]), served]
      exact ⟨rfl, rfl, gone⟩

/--
What is told of a live context: one event for each fetch that it serves, with
the counter before and after it, and the deletion if there is one.
-/
theorem eventsOn_of_live {boundary : Boundary} {calls : List Call}
    {handle : Handle} {generator : Generator Keystream}
    (survives : boundary.Survives calls)
    (live : boundary.context? (some handle) = some generator) :
    let served :=
      (boundary.performed calls).filter (Performed.serves handle)
    let sizes :=
      List.iterate Generator.advance generator.pending served.length
    eventsOn handle (heeded (boundary.performed calls)) =
        (sizes.map fun size => .fetched size (Generator.advance size)) ++
          (if calls.any (Call.deletes handle) then [.deleting handle]
            else []) ∧
      served.map Performed.countFound = sizes.map some ∧
      ((boundary.run calls).2.context? (some handle) = none ↔
        calls.any (Call.deletes handle) = true) := by
  induction calls generalizing boundary generator with
  | nil =>
      refine ⟨rfl, rfl, ?_⟩
      simp [run, live]
  | cons call calls induction =>
      rcases exists_returns_of_survives survives with
        ⟨reply, next, returns, later, shape, last⟩
      rw [shape, last]
      rcases returns.of_live live with
        ⟨after, told, serves, keeps, events, count, nextLive, pending⟩ |
          ⟨told, idle, deletes, events, gone⟩ |
          ⟨silent, idle, keeps, nextLive⟩
      · rcases induction later nextLive with ⟨rest, counts, ending⟩
        simp only [eventsOn_heeded_cons, told, if_true, events,
          List.filter_cons_of_pos serves, List.length_cons, List.iterate,
          List.map_cons, count, List.any_cons, keeps, Bool.false_or, rest,
          counts, ending, pending, List.cons_append, List.nil_append,
          true_and]
      · -- Once the context is gone, the calls on its handle that are heeded
        -- log nothing.
        have known : handle < next.contexts.length :=
          Nat.lt_of_lt_of_le (lt_of_context? live) returns.length_contexts_le
        rcases eventsOn_of_absent later gone (Or.inl known) with
          ⟨rest, served, still⟩
        have unserved :
            ¬ Performed.serves handle ⟨boundary, call, reply, next⟩ =
              true := by
          simp [idle]
        simp only [eventsOn_heeded_cons, told, if_true, events, rest,
          List.filter_cons_of_neg unserved, served, still, List.any_cons,
          deletes, Bool.true_or]
        exact ⟨rfl, rfl, trivial⟩
      · rcases induction later nextLive with ⟨rest, counts, ending⟩
        have unserved :
            ¬ Performed.serves handle ⟨boundary, call, reply, next⟩ =
              true := by
          simp [idle]
        simp only [eventsOn_heeded_cons, silent, Bool.false_eq_true, if_false,
          List.nil_append, List.filter_cons_of_neg unserved, List.any_cons,
          keeps, Bool.false_or]
        exact ⟨rest, counts, ending⟩

/-! ## Creations and deletions -/

/-- The number of contexts that have been created and not deleted. -/
def liveContexts (boundary : Boundary) : Nat :=
  boundary.contexts.countP Option.isSome

theorem liveContexts_setContext {boundary : Boundary} {handle : Handle}
    {generator : Generator Keystream}
    (live : boundary.context? (some handle) = some generator)
    (entry : Option (Generator Keystream)) :
    (boundary.setContext handle entry).liveContexts + 1 =
      boundary.liveContexts + if entry.isSome then 1 else 0 := by
  have known := lt_of_context? live
  have present : (boundary.contexts.get ⟨handle, known⟩).isSome = true := by
    rw [context?_some, List.getElem?_eq_getElem known] at live
    rw [List.get_eq_getElem]
    cases found : boundary.contexts[handle] with
    | none =>
        rw [found] at live
        cases live
    | some other => rfl
  have positive : 0 < boundary.contexts.countP Option.isSome :=
    List.countP_pos_iff.mpr ⟨_, List.get_mem _ _, present⟩
  rw [List.get_eq_getElem] at present
  simp only [liveContexts, setContext, List.countP_set known, present,
    if_true]
  omega

/-- A call that returns keeps the account of live contexts. -/
theorem Returns.balance {boundary next : Boundary} {call : Call}
    {reply : Reply} (returns : boundary.Returns call reply next) :
    reply.events.countP Log.Event.isCreated + boundary.liveContexts =
      reply.events.countP Log.Event.isDeleting + next.liveContexts := by
  cases returns with
  | created asks =>
      simp [liveContexts, Log.Event.isCreated, Log.Event.isDeleting,
        Nat.add_comm]
  | @served handle name generator live ready =>
      have kept := liveContexts_setContext live
        (some (generator.fetch (boundary.buffers.get name)).generator)
      simp only [Option.isSome_some, if_true,
        Nat.add_right_cancel_iff] at kept
      simp only [Log.Event.isCreated, Log.Event.isDeleting, List.countP_cons,
        List.countP_nil, Bool.false_eq_true, if_false, Nat.add_zero,
        Nat.zero_add]
      exact kept.symm
  | deleted live =>
      have fewer := liveContexts_setContext live none
      simp only [Option.isSome_none, Bool.false_eq_true, if_false,
        Nat.add_zero] at fewer
      simp only [Log.Event.isCreated, Log.Event.isDeleting, List.countP_cons,
        List.countP_nil, Bool.false_eq_true, if_false, if_true, Nat.zero_add,
        Nat.add_zero]
      rw [Nat.add_comm, fewer]
  | refused | rejected | ignored | stored => rfl

theorem countP_created_add_liveContexts {boundary : Boundary}
    {calls : List Call} (survives : boundary.Survives calls) :
    let log :=
      (boundary.performed calls).flatMap fun entry => entry.reply.events
    log.countP Log.Event.isCreated + boundary.liveContexts =
      log.countP Log.Event.isDeleting +
        (boundary.run calls).2.liveContexts := by
  induction calls generalizing boundary with
  | nil => rfl
  | cons call calls induction =>
      rcases exists_returns_of_survives survives with
        ⟨reply, next, returns, later, shape, last⟩
      have here := returns.balance
      have rest := induction later
      simp only [shape, last, List.flatMap_cons, List.countP_append] at rest ⊢
      omega

/-! ## The log of a run -/

theorem map_call_performed {boundary : Boundary} {calls : List Call}
    (survives : boundary.Survives calls) :
    (boundary.performed calls).map Performed.call = calls := by
  induction calls generalizing boundary with
  | nil => rfl
  | cons call calls induction =>
      rcases exists_returns_of_survives survives with
        ⟨reply, next, -, later, shape, -⟩
      rw [shape, List.map_cons, induction later]

/-- The events of a context, from the call that creates it on. -/
theorem eventsOn_of_created {before life : List Call} {creation : Call}
    {handle : Handle} {first : UInt8}
    (survives : Boundary.initial.Survives (before ++ creation :: life))
    (asks : creation.initial? = some first)
    (issued :
      ((Boundary.initial.run before).2.step creation).1.answer =
        .handle (some handle)) :
    let entries := Boundary.initial.performed (before ++ creation :: life)
    let served := entries.filter (Performed.serves handle)
    let sizes := List.iterate Generator.advance first served.length
    eventsOn handle (heeded entries) =
        .created handle first ::
          ((sizes.map fun size => .fetched size (Generator.advance size)) ++
            (if life.any (Call.deletes handle) then [.deleting handle]
              else [])) ∧
      served.map Performed.countFound = sizes.map some ∧
      ((Boundary.initial.run (before ++ creation :: life)).2.context?
          (some handle) = none ↔
        life.any (Call.deletes handle) = true) := by
  rcases survives_append_iff.mp survives with ⟨earlier, later⟩
  rcases survives_cons_iff.mp later with ⟨answered, rest⟩
  have returns := returns_step answered
  rcases returns.eq_of_issued issued with ⟨fresh, -⟩
  rcases step_of_issued issued with ⟨other, sameAsks, live⟩
  rw [asks] at sameAsks
  cases sameAsks
  rcases eventsOn_of_absent earlier rfl (Or.inr (Nat.le_of_eq fresh.symm))
    with ⟨silent, unserved, -⟩
  rcases eventsOn_of_live rest live with ⟨told, counts, ending⟩
  have told_creation :
      Performed.heededOn handle
        ⟨(Boundary.initial.run before).2, creation,
          ((Boundary.initial.run before).2.step creation).1,
          ((Boundary.initial.run before).2.step creation).2⟩ = true := by
    simp [Performed.heededOn, Performed.on, Performed.turnedDown, issued]
  have creation_idle :
      ¬ Performed.serves handle
        ⟨(Boundary.initial.run before).2, creation,
          ((Boundary.initial.run before).2.step creation).1,
          ((Boundary.initial.run before).2.step creation).2⟩ = true := by
    simp [Performed.serves, issued]
  simp only [performed_append earlier, performed_cons_of_answer answered,
    eventsOn_heeded_append, eventsOn_heeded_cons, told_creation, if_true, silent,
    returns.events_of_issued issued asks, List.filter_append, unserved,
    List.filter_cons_of_neg creation_idle, List.nil_append,
    List.cons_append, run_append earlier, run_cons_of_answer answered]
  refine ⟨?_, counts, ending⟩
  rw [told]
  rfl

/--
The events of a context that was created with `first` as its counter, that has
served a number of fetches, and that has been deleted or not.
-/
def chronicle (handle : Handle) (first : UInt8) (fetches : Nat)
    (deleted : Bool) : List Log.Event :=
  .created handle first ::
    (((List.range fetches).map fun number =>
        .fetched (Generator.advance^[number] first)
          (Generator.advance^[number + 1] first)) ++
      (if deleted then [.deleting handle] else []))

theorem fetchRejected_not_mem_chronicle (handle : Handle) (first : UInt8)
    (fetches : Nat) (deleted : Bool) :
    .fetchRejected ∉ chronicle handle first fetches deleted := by
  cases deleted <;> simp [chronicle]

/--
The log of a run.  Each call logs one event at most.  A failed allocation is
logged exactly by the constructors that return the null handle, a rejected
fetch exactly by the fetches that return the code 1, and the deletion of the
null handle logs nothing.  What the calls on a handle log, fetches that return
the code 1 apart, is the creation of its context with the first counter, one
event for each fetch that was served, with the count found in the batch and the
size of the next one, and the deletion if a call has deleted the context.  So
the creations in the log exceed the deletions by the number of contexts that no
call has deleted.
-/
theorem log_of_calls {calls : List Call}
    (survives : Boundary.initial.Survives calls) :
    let entries := Boundary.initial.performed calls
    let log := entries.flatMap fun entry => entry.reply.events
    let last := (Boundary.initial.run calls).2
    entries.map Performed.call = calls ∧
      (∀ entry ∈ entries,
        entry.reply.events.length ≤ 1 ∧
          (.allocationFailed ∈ entry.reply.events ↔
            entry.call.constructs = true ∧
              entry.reply.answer = .handle none) ∧
          (.fetchRejected ∈ entry.reply.events ↔
            ∃ context buffer status,
              entry.call = .fetch context buffer ∧
                entry.reply.answer = .status status ∧
                status.code = 1) ∧
          (entry.call = .delete none → entry.reply.events = [])) ∧
      (∀ before creation life handle first,
        calls = before ++ creation :: life →
        creation.initial? = some first →
        ((Boundary.initial.run before).2.step creation).1.answer =
          .handle (some handle) →
        let served := entries.filter (Performed.serves handle)
        eventsOn handle (heeded entries) =
            chronicle handle first served.length
              (life.any (Call.deletes handle)) ∧
          served.map Performed.countFound =
            ((List.range served.length).map fun number =>
              some (Generator.advance^[number] first)) ∧
          (last.context? (some handle) = none ↔
            life.any (Call.deletes handle) = true)) ∧
      log.countP Log.Event.isCreated =
        log.countP Log.Event.isDeleting + last.liveContexts ∧
      ∀ (handle : Handle) (size next : UInt8),
        let shown (event : Log.Event) : Log.Level × String :=
          (event.level, event.message)
        shown .allocationFailed = (.warn, "context allocation failed") ∧
          shown .fetchRejected =
            (.warn, "fetch_batch called with null context or batch") ∧
          shown (.created handle size) =
            (.debug,
              "created context 0xPTR (initial " ++ toString size ++ ")") ∧
          shown (.fetched size next) =
            (.trace,
              "fetched " ++ toString size ++ " packets, next batch " ++
                toString next) ∧
          shown (.deleting handle) = (.debug, "deleting context 0xPTR") := by
  intro entries log last
  refine ⟨map_call_performed survives, ?_, ?_, ?_, ?_⟩
  · intro entry member
    have returns := returns_of_mem_performed survives member
    refine ⟨returns.length_events_le, returns.allocationFailed_mem_iff,
      returns.fetchRejected_mem_iff, ?_⟩
    intro null
    rw [null] at returns
    exact returns.events_of_delete_none
  · rintro before creation life handle first rfl asks issued served
    rcases eventsOn_of_created survives asks issued with
      ⟨events, counts, ending⟩
    rw [← List.range_map_iterate, List.map_map] at events counts
    refine ⟨events.trans ?_, counts, ending⟩
    simp only [chronicle, Function.iterate_succ_apply']
    rfl
  · exact countP_created_add_liveContexts survives
  · intro handle size next shown
    have opening :
        "created context " ++ "0xPTR" ++ " (initial " =
          "created context 0xPTR (initial " := by
      decide
    have whole :
        "deleting context " ++ "0xPTR" = "deleting context 0xPTR" := by
      decide
    refine ⟨rfl, rfl, ?_, rfl, ?_⟩
    · rw [← opening]
      rfl
    · rw [← whole]
      rfl

/--
Two contexts side by side, a failed allocation, fetches without a batch and
without a context, and a buffer that was left with a wrong count.
-/
theorem log_of_calls_two :
    let calls : List Call :=
      [.create 0 true, .createLegacy false, .createLegacy true,
        .store 7 ⟨255, Batch.zero.slots⟩, .fetch (some 0) (some 7),
        .fetch (some 0) none, .delete none, .delete (some 0),
        .fetch none (some 7)]
    let entries := Boundary.initial.performed calls
    let log := entries.flatMap fun entry => entry.reply.events
    eventsOn 0 (heeded entries) =
        [.created 0 0, .fetched 0 5, .deleting 0] ∧
      (entries.filter (Performed.serves 0)).map Performed.countFound =
        [some 0] ∧
      eventsOn 1 (heeded entries) = [.created 1 1] ∧
      log.countP Log.Event.isCreated =
        log.countP Log.Event.isDeleting + 1 := by
  intro calls entries log
  have survives : Boundary.initial.Survives calls := by
    apply survives_of_fits
    simp [calls, Call.initial?, legacyInitial, batchCapacity]
  rcases log_of_calls survives with ⟨-, -, contexts, balance, -⟩
  rcases contexts [] (.create 0 true) _ 0 0 rfl rfl rfl with
    ⟨first, counts, -⟩
  rcases contexts [.create 0 true, .createLegacy false]
      (.createLegacy true) _ 1 1 rfl rfl rfl with ⟨second, -, -⟩
  have served : (entries.filter (Performed.serves 0)).length = 1 := by
    decide +kernel
  have unserved : (entries.filter (Performed.serves 1)).length = 0 := by
    decide +kernel
  rw [served] at first counts
  rw [unserved] at second
  exact ⟨first, counts, second, balance⟩

/--
With fetches that return the code 1 among them, the calls on a handle log more
than the life of its context: here a warning follows the creation, and no
number of fetches accounts for it, with a deletion or without one.
-/
theorem turned_down_fetch_logged_on_handle :
    let calls : List Call := [.create 3 true, .fetch (some 0) none]
    let entries := Boundary.initial.performed calls
    Boundary.initial.Survives calls ∧
      (Boundary.initial.step (.create 3 true)).1.answer =
        .handle (some 0) ∧
      eventsOn 0 entries = [.created 0 3, .fetchRejected] ∧
      ∀ fetches deleted,
        eventsOn 0 entries ≠ chronicle 0 3 fetches deleted := by
  intro calls entries
  have logged : eventsOn 0 entries = [.created 0 3, .fetchRejected] := rfl
  refine ⟨?_, rfl, logged, ?_⟩
  · apply survives_of_fits
    simp [calls, Call.initial?, batchCapacity]
  · intro fetches deleted same
    apply fetchRejected_not_mem_chronicle 0 3 fetches deleted
    rw [← same, logged]
    simp

end Boundary

end PacketFeed
