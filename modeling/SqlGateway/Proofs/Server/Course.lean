import SqlGateway.Proofs.Server.Conservation

/-!
# Calls one after another as a course of calls

The registry of concurrent calls takes one section of one call at a time. A call that runs alone is
such a course, in which no other call moves: `follows_call`. So are calls that are made one after
the other, and whatever holds of every course holds of them: `course_of_made`.
-/

namespace SqlGateway

open Registry (Answer Call Event Machine Request Stage)

variable {σ : Type}

namespace Registry

/-! ## Cells that are not busy -/

def Idle (registry : Registry) : Prop := ∀ cell ∈ registry.cells, cell.busy = false

namespace Idle

variable {registry : Registry} (idle : registry.Idle)

include idle

theorem isBusy_eq_false (cell : Nat) : registry.isBusy cell = false := by
  rw [isBusy]
  cases found : registry.cells[cell]? with
  | none => rfl
  | some content => exact idle content (List.mem_of_getElem? found)

theorem reserve (key : PoolKey) : (registry.reserve key).2.Idle := by
  rw [Registry.reserve]
  split
  · exact idle
  · intro cell member
    rcases List.mem_append.mp member with old | new
    · exact idle cell old
    · rw [List.mem_singleton.mp new]

theorem fill (cell : Nat) (definition : Definition) (database : Option String) :
    (registry.fill cell definition database).2.Idle := by
  intro other member
  rcases List.mem_iff_getElem?.mp member with ⟨index, found⟩
  rw [Registry.fill, List.getElem?_modify] at found
  cases old : registry.cells[index]? with
  | none => simp [old] at found
  | some content =>
    have unbusy := idle content (List.mem_of_getElem? old)
    rw [old, Option.map_eq_map, Option.map_some, Option.some.injEq] at found
    split at found
    · rw [← found]
    · rw [← found]
      exact unbusy

theorem setBusy_setBusy (cell : Nat) :
    (registry.setBusy cell true).setBusy cell false = registry := by
  have same : (registry.cells.modify cell fun content => { content with busy := false }) =
      registry.cells := by
    apply List.ext_getElem?
    intro index
    rw [List.getElem?_modify]
    cases old : registry.cells[index]? with
    | none => rfl
    | some content =>
      have unbusy := idle content (List.mem_of_getElem? old)
      simp [← unbusy]
  rw [setBusy, setBusy, List.modify_modify_eq]
  exact congrArg (fun cells => { registry with cells }) same

end Idle

theorem fill_setBusy (registry : Registry) (cell : Nat) (definition : Definition)
    (database : Option String) :
    (registry.setBusy cell true).fill cell definition database =
      registry.fill cell definition database := by
  rw [fill, setBusy, List.modify_modify_eq]
  rfl

end Registry

namespace Gateway

variable (backend : Backend σ)

/-! ## One call that moves alone -/

def traffic? : Event → Option Traffic
  | .opening definition key => some (.connecting definition key)
  | .closing pool => some (.closing pool)
  | .opened _ | .refused _ => none

/-- A machine with some calls that has the registry of a session, and in which the same was asked of
the servers. -/
structure Mirrors (session : Session σ) (calls : List Call) (machine : Machine) : Prop where
  registry : machine.registry = session.registry
  calls : machine.calls = calls
  traffic : machine.events.filterMap traffic? = session.traffic

/-- A call that moves alone behind other calls comes from one stage and session to another. -/
def Follows (calls : List Call) (request : Request) (before after : Stage × Session σ) : Prop :=
  ∀ machine, Mirrors before.2 (calls ++ [⟨request, before.1⟩]) machine →
    ∃ actions moved, machine.run actions = some moved ∧
      Mirrors after.2 (calls ++ [⟨request, after.1⟩]) moved

section Follows

variable {calls : List Call} {request : Request}

theorem Follows.trans {before between after : Stage × Session σ}
    (first : Follows calls request before between) (second : Follows calls request between after) :
    Follows calls request before after := by
  intro machine mirrors
  rcases first machine mirrors with ⟨actions, moved, ran, mirrored⟩
  rcases second moved mirrored with ⟨more, ended, alsoRan, mirrors⟩
  refine ⟨actions ++ more, ended, ?_, mirrors⟩
  rw [Machine.run_append, ran]
  exact alsoRan

variable {stage next : Stage} {session after : Session σ}

theorem follows_of_step (action : Machine.Action) (new : List Event)
    (steps : ∀ events, Machine.step ⟨session.registry, calls ++ [⟨request, stage⟩], events⟩ action =
      some ⟨after.registry, calls ++ [⟨request, next⟩], new ++ events⟩)
    (traffic : after.traffic = new.filterMap traffic? ++ session.traffic) :
    Follows calls request (stage, session) (next, after) := by
  rintro ⟨registry, others, events⟩ ⟨rfl, rfl, mirrored⟩
  refine ⟨[action], ⟨after.registry, calls ++ [⟨request, next⟩], new ++ events⟩, ?_, rfl, rfl, ?_⟩
  · simp [Machine.run, steps]
  · rw [traffic, ← mirrored, List.filterMap_append]

theorem modify_last (calls : List Call) (call : Call) (change : Call → Call) :
    (calls ++ [call]).modify calls.length change = calls ++ [change call] := by
  simp [List.modify_eq_set_getElem?]

/-! ### Sections -/

theorem follows_enter (unread : ∀ call ∈ calls, Machine.readsDefinitions call.stage = false)
    (request : Request) (session : Session σ) :
    Follows calls request (.entering, session)
      ((Machine.enter session.registry request).2,
        { session with registry := (Machine.enter session.registry request).1 }) := by
  refine follows_of_step (.advance calls.length) [] ?_ rfl
  intro events
  have free :
      Machine.isRead ⟨session.registry, calls ++ [⟨request, .entering⟩], events⟩ = false := by
    simpa [Machine.isRead, Machine.readsDefinitions] using unread
  simp [Machine.step, Machine.advance, free, Machine.setStage, modify_last]

variable {definition : Definition} {key : PoolKey} {cell : Nat} {pool : Pool}

theorem follows_reserve :
    Follows calls request (.reserving definition key, session)
      (.waiting definition key (session.registry.reserve key).1,
        { session with registry := (session.registry.reserve key).2 }) := by
  refine follows_of_step (.advance calls.length) [] ?_ rfl
  intro events
  simp [Machine.step, Machine.advance, Machine.setStage, modify_last]

theorem follows_find (filled : session.registry.content cell = some pool) :
    Follows calls request (.waiting definition key cell, session)
      (.checking key cell pool false, session) := by
  refine follows_of_step (.advance calls.length) [] ?_ rfl
  intro events
  simp [Machine.step, Machine.advance, Machine.setStage, modify_last, filled]

theorem follows_open (empty : session.registry.content cell = none)
    (free : session.registry.isBusy cell = false) :
    Follows calls request (.waiting definition key cell, session)
      (.opening definition key cell,
        { session with registry := session.registry.setBusy cell true }.log
          (.connecting definition key)) := by
  refine follows_of_step (.advance calls.length) [.opening definition key] ?_ rfl
  intro events
  simp [Machine.step, Machine.advance, Machine.setStage, modify_last, empty, free, Machine.log,
    Session.log]

theorem follows_fill (servers : σ) :
    Follows calls request (.opening definition key cell, session)
      (.checking key cell (session.registry.fill cell definition key.database).1 true,
        { session with
          registry := (session.registry.fill cell definition key.database).2, servers }) := by
  refine follows_of_step (.openEnds calls.length none)
    [.opened (session.registry.fill cell definition key.database).1] ?_ rfl
  intro events
  simp [Machine.step, Machine.openEnds, Machine.stage?, Machine.setStage, modify_last, Machine.log]

theorem follows_refuse (servers : σ) (failure : Failure) :
    Follows calls request (.opening definition key cell, session)
      (.finished (.failed failure),
        { session with registry := session.registry.setBusy cell false, servers }) := by
  refine follows_of_step (.openEnds calls.length (some failure)) [.refused failure] ?_ rfl
  intro events
  simp [Machine.step, Machine.openEnds, Machine.stage?, Machine.setStage, modify_last, Machine.log]

theorem follows_opened (servers : σ) (empty : session.registry.content cell = none)
    (free : session.registry.isBusy cell = false) :
    Follows calls request (.waiting definition key cell, session)
      (.checking key cell (session.registry.fill cell definition key.database).1 true,
        { session with
          registry := (session.registry.fill cell definition key.database).2, servers }.log
          (.connecting definition key)) := by
  apply (follows_open empty free).trans
  rw [← session.registry.fill_setBusy]
  exact follows_fill servers

theorem follows_refused (servers : σ) (failure : Failure) (idle : session.registry.Idle)
    (empty : session.registry.content cell = none) :
    Follows calls request (.waiting definition key cell, session)
      (.finished (.failed failure),
        { session with servers }.log (.connecting definition key)) := by
  apply (follows_open empty (idle.isBusy_eq_false cell)).trans
  have refused : Follows calls request (.opening definition key cell,
      { session with registry := session.registry.setBusy cell true }.log
        (.connecting definition key)) _ := follows_refuse servers failure
  simp only [Session.log, idle.setBusy_setBusy cell] at refused
  exact refused

theorem follows_return {created : Bool} (current : session.registry.isCurrent key cell = true) :
    Follows calls request (.checking key cell pool created, session)
      (.finished (.pool pool), session) := by
  refine follows_of_step (.advance calls.length) [] ?_ rfl
  intro events
  simp [Machine.step, Machine.advance, Machine.setStage, modify_last, current]

theorem follows_pass {cells : List Nat} {closed : Nat}
    (empty : session.registry.content cell = none) :
    Follows calls request (.closing (cell :: cells) closed, session)
      (.closing cells closed, session) := by
  refine follows_of_step (.advance calls.length) [] ?_ rfl
  intro events
  simp [Machine.step, Machine.advance, Machine.setStage, modify_last, empty]

theorem follows_close {cells : List Nat} {closed : Nat} (servers : σ) (succeeds : Bool)
    (filled : session.registry.content cell = some pool) :
    Follows calls request (.closing (cell :: cells) closed, session)
      (.closing cells (if succeeds then closed + 1 else closed),
        { session with servers }.log (.closing pool)) := by
  refine follows_of_step (.close calls.length succeeds) [.closing pool] ?_ rfl
  intro events
  simp [Machine.step, Machine.close, Machine.stage?, Machine.setStage, modify_last, filled,
    Machine.log, Session.log]

theorem follows_end {closed : Nat} :
    Follows calls request (.closing [] closed, session)
      (.finished (Machine.closedAnswer request closed), session) := by
  refine follows_of_step (.advance calls.length) [] ?_ rfl
  intro events
  simp [Machine.step, Machine.advance, Machine.setStage, modify_last]

/-! ### Whole calls -/

theorem follows_closeCells (cells : List Nat) (closed : Nat) (session : Session σ) :
    Follows calls request (.closing cells closed, session)
      (.finished (Machine.closedAnswer request (closed + (closeCells backend cells session).1)),
        (closeCells backend cells session).2) := by
  induction cells generalizing closed session with
  | nil => exact follows_end
  | cons cell cells induction =>
    rw [closeCells]
    split
    · next empty => exact (follows_pass empty).trans (induction closed session)
    · next pool filled =>
      rcases backend.close pool session.servers with ⟨closes, servers⟩
      refine (follows_close servers closes filled).trans ?_
      have rest := induction (if closes then closed + 1 else closed)
        ({ session with servers }.log (.closing pool))
      cases closes with
      | false => exact rest
      | true =>
        rw [if_pos rfl, Nat.add_right_comm] at rest
        exact rest

theorem follows_dismiss (taken : PoolKey → Bool) (definitions : Entries Definition)
    (session : Session σ) :
    Follows calls request
      (.closing (session.registry.takeWhere taken).1 0,
        { session with registry := { (session.registry.takeWhere taken).2 with definitions } })
      (.finished (Machine.closedAnswer request (dismiss backend taken definitions session).1),
        (dismiss backend taken definitions session).2) := by
  have closes : Follows calls request _ _ :=
    follows_closeCells backend (session.registry.takeWhere taken).1 0
      { session with registry := { (session.registry.takeWhere taken).2 with definitions } }
  rw [Nat.zero_add] at closes
  exact closes

theorem follows_lookUp (unread : ∀ call ∈ calls, Machine.readsDefinitions call.stage = false)
    {id : String} {database : Option String} (usable : database ≠ some "")
    (known : session.registry.definitions.find? id = some definition)
    (is : key = ⟨id, definition.effectiveDatabase database⟩) :
    Follows calls (.get id database) (.entering, session)
      (.waiting definition key (session.registry.reserve key).1,
        { session with registry := (session.registry.reserve key).2 }) := by
  subst is
  have entered := follows_enter unread (.get id database) session
  rw [Machine.enter, if_neg usable, Registry.definition, known] at entered
  cases placed : session.registry.place? ⟨id, definition.effectiveDatabase database⟩ with
  | some cell =>
    simp only [placed] at entered
    rw [Registry.reserve, placed]
    exact entered
  | none =>
    simp only [placed] at entered
    exact entered.trans follows_reserve

end Follows

section Enter

variable {registry : Registry} {request : Request}

theorem enter_refused {failure : Failure} (refuses : Refuses registry request failure) :
    Machine.enter registry request = (registry, .finished (.failed failure)) := by
  cases refuses with
  | @repeats definition known =>
    cases found : registry.definitions.find? definition.id with
    | none => exact absurd found known
    | some => rw [Machine.enter, Registry.register, found]
  | updates unknown => rw [Machine.enter, Registry.replace, unknown]
  | removes unknown => rw [Machine.enter, Registry.forget, unknown]
  | gets usable unknown => rw [Machine.enter, if_neg usable, Registry.definition, unknown]
  | blank => rfl

theorem enter_dismisses {taken : PoolKey → Bool} {definitions : Entries Definition}
    (asked : Dismisses registry request taken definitions) :
    Machine.enter registry request =
      ({ (registry.takeWhere taken).2 with definitions },
        .closing (registry.takeWhere taken).1 0) := by
  cases asked with
  | @updates definition known =>
    cases found : registry.definitions.find? definition.id with
    | none => exact absurd found known
    | some =>
      rw [Machine.enter, Registry.replace, found]
      rfl
  | @removes id known =>
    cases found : registry.definitions.find? id with
    | none => exact absurd found known
    | some =>
      rw [Machine.enter, Registry.forget, found]
      rfl
  | takes asked =>
    cases request with
    | removeAll | evict | closeAll =>
      cases asked
      rfl
    | register | update | remove | get => cases asked

end Enter

section Calls

variable {calls : List Call} {session : Session σ}
  (unread : ∀ call ∈ calls, Machine.readsDefinitions call.stage = false)
  (tidy : session.registry.Tidy) (idle : session.registry.Idle)

include unread tidy idle

/-- What a call does alone is a course in which no other call moves. -/
theorem follows_call (request : Request) :
    Follows calls request (.entering, session)
      (.finished (call backend request session).1, (call backend request session).2) := by
  have entered := follows_enter unread request session
  have performs := performs_call backend tidy request
  generalize call backend request session = outcome at performs ⊢
  cases performs with
  | refuses refuses =>
    rw [enter_refused refuses] at entered
    exact entered
  | @registers definition new =>
    rw [Machine.enter, Registry.register, new] at entered
    exact entered
  | dismisses asked =>
    rw [enter_dismisses asked] at entered
    exact entered.trans (follows_dismiss backend _ _ session)
  | @provides id database definition pool after usable known provided =>
    let key : PoolKey := ⟨id, definition.effectiveDatabase database⟩
    have found := follows_lookUp unread usable known rfl
    cases provided with
    | finds holds =>
      rcases holds with ⟨cell, placed, filled⟩
      have current : session.registry.place? key = some cell :=
        (Registry.place?_eq_some_iff tidy.keys).mpr placed
      rw [Registry.reserve, current] at found
      refine found.trans ((follows_find filled).trans (follows_return ?_))
      exact decide_eq_true current
    | @opens servers vacant =>
      have free := (idle.reserve key).isBusy_eq_false (session.registry.reserve key).1
      have current : (opened definition key servers session).2.registry.isCurrent key
          (session.registry.reserve key).1 = true :=
        (Registry.isCurrent_iff (tidy_opened tidy known servers).keys).mpr
          (Registry.mem_reserve session.registry key)
      exact found.trans ((follows_opened servers (content_of_vacant vacant) free).trans
        (follows_return current))
  | @fails id database definition failure after usable known unprovided =>
    let key : PoolKey := ⟨id, definition.effectiveDatabase database⟩
    have found := follows_lookUp unread usable known rfl
    cases unprovided with
    | @fails _ servers vacant =>
      exact found.trans
        (follows_refused servers failure (idle.reserve key) (content_of_vacant vacant))

omit unread in
theorem idle_call (request : Request) :
    (call backend request session).2.registry.Idle := by
  have performs := performs_call backend tidy request
  generalize call backend request session = outcome at performs ⊢
  cases performs with
  | refuses | registers => exact idle
  | dismisses =>
    rw [registry_dismiss]
    exact idle
  | provides _ _ provided =>
    cases provided with
    | finds => exact idle
    | opens => exact (idle.reserve _).fill _ _ _
  | fails _ _ unprovided =>
    cases unprovided with
    | fails => exact idle.reserve _

end Calls

/-! ## Many calls -/

theorem idle_made (servers : σ) (requests : List Request) :
    (made backend servers requests).2.registry.Idle := by
  induction requests with
  | nil => exact List.forall_mem_nil _
  | cons request earlier induction =>
    exact idle_call backend (tidy_made backend servers earlier) induction request

def ended (made : Request × Answer) : Call := ⟨made.1, .finished made.2⟩

/-- Calls that are made one after the other are a course of calls that come one after the other to
the same answers, with the same registry, and the same is asked of the servers. -/
theorem course_of_made (servers : σ) (requests : List Request) :
    let (history, session) := made backend servers requests
    ∃ actions machine, (Machine.idle .empty).run actions = some machine ∧
      Mirrors session (history.reverse.map ended) machine := by
  induction requests with
  | nil => exact ⟨[], .idle .empty, rfl, rfl, rfl, rfl⟩
  | cons request earlier induction =>
    rcases induction with ⟨actions, machine, ran, mirrors⟩
    have unread : ∀ call ∈ (made backend servers earlier).1.reverse.map ended,
        Machine.readsDefinitions call.stage = false := by
      intro call member
      rcases List.mem_map.mp member with ⟨_, -, rfl⟩
      rfl
    have invoked : Mirrors (made backend servers earlier).2
        ((made backend servers earlier).1.reverse.map ended ++ [⟨request, .entering⟩])
        { machine with calls := machine.calls ++ [⟨request, .entering⟩] } :=
      ⟨mirrors.registry, by rw [mirrors.calls], mirrors.traffic⟩
    rcases follows_call backend unread (tidy_made backend servers earlier)
      (idle_made backend servers earlier) request _ invoked with ⟨more, moved, alsoRan, mirrored⟩
    refine ⟨actions ++ .invoke request :: more, moved, ?_, ?_⟩
    · rw [Machine.run_append, ran]
      exact alsoRan
    · rw [List.reverse_cons, List.map_append]
      exact mirrored

end Gateway

end SqlGateway
