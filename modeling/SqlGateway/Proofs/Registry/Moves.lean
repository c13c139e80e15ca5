import Mathlib.Algebra.GroupWithZero.Nat
import Mathlib.Data.List.Induction
import SqlGateway.Proofs.Registry.Sections
import SqlGateway.Registry.Machine

/-!
# The moves of a call

`Move` lists what one call can do in one action: to the registry, to its own stage and to the
events. `Steps` lists what one action can do to the machine. `steps_of_step` says that nothing else
happens, so that a property of every state is shown by one case for each move, and `Passes.keeps`
takes such a property from any moment of a course to its end.
-/

namespace SqlGateway.Registry.Machine

def connection? : Request → Option String
  | .register definition | .update definition => some definition.id
  | .remove id | .get id _ | .removeAll id | .evict id _ => some id
  | .closeAll => none

/-- The keys whose cells a request takes, if it does no more than that. -/
def taken? : Request → Option (PoolKey → Bool)
  | .removeAll id => some fun key => key.connection = id
  | .evict id database => some fun key => key = ⟨id, database⟩
  | .closeAll => some fun _ => true
  | .register _ | .update _ | .remove _ | .get .. => none

def Requests (request : Request) (definition : Definition) (key : PoolKey) : Prop :=
  ∃ id database,
    request = .get id database ∧ key = ⟨id, definition.effectiveDatabase database⟩

def Action.call? : Action → Option Nat
  | .advance call | .openEnds call _ | .close call _ => some call
  | .invoke _ | .reorder _ => none

/-- What a call does in one action. The last list holds the event that it makes, if any. -/
inductive Move (registry : Registry) (request : Request) :
    Stage → Registry → Stage → List Event → Prop where
  | misses {id : String} (asked : connection? request = some id)
      (unknown : registry.definitions.find? id = none) :
      Move registry request .entering registry
        (.finished (.failed (.connectionNotFound id))) []
  | repeats {definition : Definition} (asked : request = .register definition)
      (known : registry.definitions.find? definition.id ≠ none) :
      Move registry request .entering registry
        (.finished (.failed (.input (.connectionExists definition.id)))) []
  | blank {id : String} (asked : request = .get id (some "")) :
      Move registry request .entering registry
        (.finished (.failed (.input .emptyDatabase))) []
  | registers {definition : Definition} (asked : request = .register definition)
      (unknown : registry.definitions.find? definition.id = none) :
      Move registry request .entering
        { registry with
          definitions := registry.definitions.insert definition.id definition }
        (.finished .done) []
  | replaces {definition : Definition} (asked : request = .update definition)
      (known : registry.definitions.find? definition.id ≠ none) :
      Move registry request .entering
        { (registry.drain definition.id).2 with
          definitions := registry.definitions.insert definition.id definition }
        (.closing (registry.drain definition.id).1 0) []
  | forgets {id : String} (asked : request = .remove id)
      (known : registry.definitions.find? id ≠ none) :
      Move registry request .entering
        { (registry.drain id).2 with definitions := registry.definitions.erase id }
        (.closing (registry.drain id).1 0) []
  | takes {taken : PoolKey → Bool} (asked : taken? request = some taken) :
      Move registry request .entering (registry.takeWhere taken).2
        (.closing (registry.takeWhere taken).1 0) []
  | finds {definition : Definition} {key : PoolKey} {cell : Nat}
      (asked : Requests request definition key)
      (known : registry.definitions.find? key.connection = some definition)
      (placed : (key, cell) ∈ registry.places) :
      Move registry request .entering registry (.waiting definition key cell) []
  | lacks {definition : Definition} {key : PoolKey}
      (asked : Requests request definition key)
      (known : registry.definitions.find? key.connection = some definition)
      (absent : ∀ cell, (key, cell) ∉ registry.places) :
      Move registry request .entering registry (.reserving definition key) []
  | reserves {definition : Definition} {key : PoolKey} :
      Move registry request (.reserving definition key) (registry.reserve key).2
        (.waiting definition key (registry.reserve key).1) []
  | joins {definition : Definition} {key : PoolKey} {cell : Nat} {pool : Pool}
      (filled : registry.content cell = some pool) :
      Move registry request (.waiting definition key cell) registry
        (.checking key cell pool false) []
  | begins {definition : Definition} {key : PoolKey} {cell : Nat}
      (empty : registry.content cell = none) (idle : registry.isBusy cell = false) :
      Move registry request (.waiting definition key cell) (registry.setBusy cell true)
        (.opening definition key cell) [.opening definition key]
  | opens {definition : Definition} {key : PoolKey} {cell : Nat} :
      Move registry request (.opening definition key cell)
        (registry.fill cell definition key.database).2
        (.checking key cell (registry.fill cell definition key.database).1 true)
        [.opened (registry.fill cell definition key.database).1]
  | fails {definition : Definition} {key : PoolKey} {cell : Nat} (failure : Failure) :
      Move registry request (.opening definition key cell) (registry.setBusy cell false)
        (.finished (.failed failure)) [.refused failure]
  | returns {key : PoolKey} {cell : Nat} {pool : Pool} {created : Bool}
      (current : registry.isCurrent key cell = true) :
      Move registry request (.checking key cell pool created) registry
        (.finished (.pool pool)) []
  | loses {key : PoolKey} {cell : Nat} {pool : Pool}
      (lost : registry.isCurrent key cell = false) :
      Move registry request (.checking key cell pool true) registry (.discarding cell) []
  | retries {key : PoolKey} {cell : Nat} {pool : Pool}
      (lost : registry.isCurrent key cell = false) :
      Move registry request (.checking key cell pool false) registry .entering []
  | discards {cell : Nat} {pool : Pool} (filled : registry.content cell = some pool) :
      Move registry request (.discarding cell) registry .entering [.closing pool]
  | forsakes {cell : Nat} (empty : registry.content cell = none) :
      Move registry request (.discarding cell) registry .entering []
  | closes {cell : Nat} {cells : List Nat} {closed : Nat} {pool : Pool}
      (filled : registry.content cell = some pool) (succeeds : Bool) :
      Move registry request (.closing (cell :: cells) closed) registry
        (.closing cells (if succeeds then closed + 1 else closed)) [.closing pool]
  | passes {cell : Nat} {cells : List Nat} {closed : Nat}
      (empty : registry.content cell = none) :
      Move registry request (.closing (cell :: cells) closed) registry
        (.closing cells closed) []
  | ends {closed : Nat} :
      Move registry request (.closing [] closed) registry
        (.finished (closedAnswer request closed)) []

theorem Move.stage_ne_finished {registry after : Registry} {request : Request} {stage next : Stage}
    {events : List Event} (move : Move registry request stage after next events)
    (answer : Answer) : stage ≠ .finished answer := by
  cases move <;> exact nofun

theorem Move.stage_ne {registry after : Registry} {request : Request} {stage next : Stage}
    {events : List Event} (move : Move registry request stage after next events) :
    next ≠ stage := by
  cases move with
  | closes | passes =>
    intro equal
    injection equal with same
    exact List.cons_ne_self _ _ same.symm
  | _ => exact nofun

def moved (machine : Machine) (call : Nat) (registry : Registry) (request : Request)
    (stage : Stage) (events : List Event) : Machine :=
  ⟨registry, machine.calls.set call ⟨request, stage⟩, events ++ machine.events⟩

/-- What one call does to a machine in one action. -/
inductive Moves (before : Machine) (call : Nat) : Machine → Prop where
  | intro {request : Request} {stage next : Stage} {registry : Registry} {events : List Event}
      (present : before.calls[call]? = some ⟨request, stage⟩)
      (unread : stage = .entering → changesDefinitions request = true → before.isRead = false)
      (move : Move before.registry request stage registry next events) :
      Moves before call (before.moved call registry request next events)

inductive Steps (before : Machine) : Machine → Prop where
  | invokes (request : Request) :
      Steps before { before with calls := before.calls ++ [⟨request, .entering⟩] }
  | reorders (places : List (PoolKey × Nat)) (same : places.Perm before.registry.places) :
      Steps before { before with registry := { before.registry with places } }
  /-- Only a call that changes definitions has to wait for those who read them. -/
  | moves {call : Nat} {request : Request} {stage next : Stage} {registry : Registry}
      {events : List Event} (present : before.calls[call]? = some ⟨request, stage⟩)
      (unread : stage = .entering → changesDefinitions request = true → before.isRead = false)
      (move : Move before.registry request stage registry next events) :
      Steps before (before.moved call registry request next events)

/-! ## Every action is a step -/

theorem move_of_enter (registry : Registry) (request : Request) :
    Move registry request .entering (enter registry request).1 (enter registry request).2 [] := by
  cases request with
  | register definition =>
    rw [enter, Registry.register]
    cases known : registry.definitions.find? definition.id with
    | some _ => exact .repeats rfl (by simp [known])
    | none => exact .registers rfl known
  | update definition =>
    rw [enter, Registry.replace]
    cases known : registry.definitions.find? definition.id with
    | none => exact .misses rfl known
    | some _ => exact .replaces rfl (by simp [known])
  | remove id =>
    rw [enter, Registry.forget]
    cases known : registry.definitions.find? id with
    | none => exact .misses rfl known
    | some _ => exact .forgets rfl (by simp [known])
  | get id database =>
    rw [enter]
    split
    · next empty =>
      subst empty
      exact .blank rfl
    · rw [Registry.definition]
      cases known : registry.definitions.find? id with
      | none => exact .misses rfl known
      | some definition =>
        dsimp only
        cases found : registry.place? ⟨id, definition.effectiveDatabase database⟩ with
        | none =>
          exact .lacks ⟨id, database, rfl, rfl⟩ known (Registry.place?_eq_none_iff.mp found)
        | some cell =>
          exact .finds ⟨id, database, rfl, rfl⟩ known (mem_places_of_place? found)
  | removeAll id => exact @Move.takes registry _ (fun key => key.connection = id) rfl
  | evict id database => exact @Move.takes registry _ (fun key => key = ⟨id, database⟩) rfl
  | closeAll => exact @Move.takes registry _ (fun _ => true) rfl

theorem stage?_eq_some_iff {machine : Machine} {call : Nat} {stage : Stage} :
    machine.stage? call = some stage ↔
      ∃ request, machine.calls[call]? = some ⟨request, stage⟩ := by
  rw [stage?, Option.map_eq_some_iff]
  constructor
  · rintro ⟨⟨request, _⟩, present, rfl⟩
    exact ⟨request, present⟩
  · rintro ⟨request, present⟩
    exact ⟨⟨request, stage⟩, present, rfl⟩

section

variable {before after : Machine} {call : Nat} {request : Request} {stage next : Stage}
  {registry : Registry}

private theorem setStage_eq (present : before.calls[call]? = some ⟨request, stage⟩) :
    { before with registry }.setStage call next =
      before.moved call registry request next [] := by
  rw [setStage, List.modify_eq_set_getElem?, present]
  rfl

private theorem moves_of_move (present : before.calls[call]? = some ⟨request, stage⟩)
    (unread : stage = .entering → changesDefinitions request = true → before.isRead = false)
    (move : Move before.registry request stage registry next []) :
    Moves before call ({ before with registry }.setStage call next) := by
  rw [setStage_eq present]
  exact .intro present unread move

private theorem moves_of_logged_move {event : Event}
    (present : before.calls[call]? = some ⟨request, stage⟩)
    (unread : stage = .entering → changesDefinitions request = true → before.isRead = false)
    (move : Move before.registry request stage registry next [event]) :
    Moves before call (({ before with registry }.setStage call next).log event) := by
  rw [setStage_eq present]
  exact .intro present unread move

theorem moves_of_advance (advanced : before.advance call = some after) :
    Moves before call after := by
  rw [advance] at advanced
  cases present : before.calls[call]? with
  | none => simp [present] at advanced
  | some found =>
    rcases found with ⟨request, stage⟩
    rw [present] at advanced
    cases stage with
    | entering =>
      dsimp only at advanced
      split at advanced
      · cases advanced
      · next free =>
        cases advanced
        refine moves_of_move present (fun _ changes => ?_) (move_of_enter _ _)
        simpa [changes] using free
    | reserving definition key =>
      cases advanced
      exact moves_of_move present nofun .reserves
    | waiting definition key cell =>
      dsimp only at advanced
      split at advanced
      · next filled =>
        cases advanced
        exact moves_of_move present nofun (.joins filled)
      · next empty =>
        split at advanced
        · cases advanced
        · next idle =>
          cases advanced
          exact moves_of_logged_move present nofun (.begins empty (by simpa using idle))
    | opening definition key cell => cases advanced
    | checking key cell pool created =>
      dsimp only at advanced
      split at advanced
      · next current =>
        cases advanced
        exact moves_of_move present nofun (.returns current)
      · next lost =>
        cases created <;> cases advanced
        · exact moves_of_move present nofun (.retries (by simpa using lost))
        · exact moves_of_move present nofun (.loses (by simpa using lost))
    | discarding cell =>
      dsimp only at advanced
      split at advanced
      · cases advanced
      · next empty =>
        cases advanced
        exact moves_of_move present nofun (.forsakes empty)
    | closing cells closed =>
      cases cells with
      | nil =>
        cases advanced
        exact moves_of_move present nofun .ends
      | cons cell cells =>
        dsimp only at advanced
        split at advanced
        · cases advanced
        · next empty =>
          cases advanced
          exact moves_of_move present nofun (.passes empty)
    | finished answer => cases advanced

theorem moves_of_openEnds {failure : Option Failure}
    (ended : before.openEnds call failure = some after) : Moves before call after := by
  rw [openEnds] at ended
  split at ended
  · next definition key cell found =>
    rcases stage?_eq_some_iff.mp found with ⟨request, present⟩
    cases failure with
    | none =>
      cases ended
      exact moves_of_logged_move present nofun .opens
    | some failure =>
      cases ended
      exact moves_of_logged_move present nofun (.fails failure)
  · cases ended

theorem moves_of_close {succeeds : Bool} (closed : before.close call succeeds = some after) :
    Moves before call after := by
  rw [close] at closed
  split at closed
  · next cell cells count found =>
    rcases stage?_eq_some_iff.mp found with ⟨request, present⟩
    rcases Option.map_eq_some_iff.mp closed with ⟨pool, filled, rfl⟩
    exact moves_of_logged_move present nofun (.closes filled succeeds)
  · next cell found =>
    rcases stage?_eq_some_iff.mp found with ⟨request, present⟩
    rcases Option.map_eq_some_iff.mp closed with ⟨pool, filled, rfl⟩
    exact moves_of_logged_move present nofun (.discards filled)
  · cases closed

theorem steps_of_reorder {places : List (PoolKey × Nat)}
    (reordered : before.reorder places = some after) : Steps before after := by
  rw [reorder] at reordered
  split at reordered
  · next same =>
    cases reordered
    exact .reorders places (List.isPerm_iff.mp same)
  · cases reordered

theorem moves_of_step {action : Action} (steps : before.step action = some after)
    (acts : action.call? = some call) : Moves before call after := by
  cases action with
  | invoke | reorder => cases acts
  | advance =>
    cases acts
    exact moves_of_advance steps
  | openEnds =>
    cases acts
    exact moves_of_openEnds steps
  | close =>
    cases acts
    exact moves_of_close steps

theorem Moves.steps (moves : Moves before call after) : Steps before after := by
  cases moves with
  | intro present unread move => exact .moves present unread move

theorem steps_of_step {action : Action} (steps : before.step action = some after) :
    Steps before after := by
  cases action with
  | invoke request =>
    cases steps
    exact .invokes request
  | advance | openEnds | close => exact (moves_of_step steps rfl).steps
  | reorder => exact steps_of_reorder steps

end

/-! ## Courses of actions -/

def Passes (before : Machine) (actions : List Action) (moment : Machine) : Prop :=
  ∃ earlier, earlier <+: actions ∧ before.run earlier = some moment

theorem run_append (machine : Machine) (actions more : List Action) :
    machine.run (actions ++ more) = (machine.run actions).bind fun moment => moment.run more := by
  simp [run, List.foldlM_append]

theorem run_concat (machine : Machine) (actions : List Action) (action : Action) :
    machine.run (actions ++ [action]) = (machine.run actions).bind fun moment =>
      moment.step action := by
  simp [run, List.foldlM_append]

theorem run_concat_eq_some_iff {before after : Machine} {actions : List Action} {action : Action} :
    before.run (actions ++ [action]) = some after ↔
      ∃ moment, before.run actions = some moment ∧ moment.step action = some after := by
  rw [run_concat, Option.bind_eq_some_iff]

theorem exists_of_run_concat {before after : Machine} {actions : List Action} {action : Action}
    (course : before.run (actions ++ [action]) = some after) :
    ∃ moment, before.run actions = some moment ∧ Steps moment after := by
  rcases run_concat_eq_some_iff.mp course with ⟨moment, earlier, steps⟩
  exact ⟨moment, earlier, steps_of_step steps⟩

/-- What every step keeps holds at the end of a course if it holds at its start. -/
theorem run_keeps {Holds : Machine → Prop}
    (keeps : ∀ {before after}, Steps before after → Holds before → Holds after)
    {before after : Machine} {actions : List Action} (course : before.run actions = some after)
    (start : Holds before) : Holds after := by
  induction actions using List.reverseRecOn generalizing after with
  | nil =>
    cases course
    exact start
  | append_singleton actions action induction =>
    rcases exists_of_run_concat course with ⟨moment, earlier, steps⟩
    exact keeps steps (induction earlier)

theorem Reachable.run {before after : Machine} {actions : List Action}
    (reachable : Reachable before) (course : before.run actions = some after) :
    Reachable after := by
  induction actions using List.reverseRecOn generalizing after with
  | nil =>
    cases course
    exact reachable
  | append_singleton actions action induction =>
    rcases run_concat_eq_some_iff.mp course with ⟨moment, earlier, steps⟩
    exact .step action (induction earlier) steps

theorem exists_run_of_prefix {start machine : Machine} {actions earlier : List Action}
    (course : start.run actions = some machine) (isPrefix : earlier <+: actions) :
    ∃ moment rest, start.run earlier = some moment ∧ moment.run rest = some machine := by
  rcases isPrefix with ⟨rest, rfl⟩
  rw [run_append, Option.bind_eq_some_iff] at course
  rcases course with ⟨moment, first, second⟩
  exact ⟨moment, rest, first, second⟩

theorem Passes.append {before moment : Machine} {actions : List Action}
    (passes : Passes before actions moment) (more : List Action) :
    Passes before (actions ++ more) moment := by
  rcases passes with ⟨earlier, isPrefix, course⟩
  exact ⟨earlier, isPrefix.trans (List.prefix_append ..), course⟩

theorem Passes.last {before after : Machine} {actions : List Action}
    (course : before.run actions = some after) : Passes before actions after :=
  ⟨actions, List.prefix_rfl, course⟩

theorem Passes.run {before moment after : Machine} {actions : List Action}
    (passes : Passes before actions moment) (course : before.run actions = some after) :
    ∃ rest, moment.run rest = some after := by
  rcases passes with ⟨earlier, ⟨rest, rfl⟩, first⟩
  rw [run_append, first] at course
  exact ⟨rest, course⟩

theorem passes_concat_cases {before moment : Machine} {actions : List Action} {action : Action}
    (passes : Passes before (actions ++ [action]) moment) :
    Passes before actions moment ∨ before.run (actions ++ [action]) = some moment := by
  rcases passes with ⟨earlier, isPrefix, course⟩
  rcases List.prefix_concat_iff.mp isPrefix with rfl | isPrefix
  · exact .inr course
  · exact .inl ⟨earlier, isPrefix, course⟩

theorem Passes.start (before : Machine) (actions : List Action) : Passes before actions before :=
  ⟨[], List.nil_prefix, rfl⟩

theorem Passes.keeps {Holds : List Action → Machine → Prop} {start moment machine : Machine}
    {actions : List Action} (passes : Passes start actions moment)
    (here : ∀ earlier, start.run earlier = some moment → Holds earlier moment)
    (keeps : ∀ earlier action before after, earlier ++ [action] <+: actions →
      start.run earlier = some before → before.step action = some after →
      Holds earlier before → Holds (earlier ++ [action]) after)
    (course : start.run actions = some machine) : Holds actions machine := by
  induction actions using List.reverseRecOn generalizing machine with
  | nil =>
    rcases passes with ⟨earlier, isPrefix, reached⟩
    rw [List.prefix_nil.mp isPrefix, course] at reached
    cases reached
    exact here [] course
  | append_singleton actions action induction =>
    rcases passes_concat_cases passes with passes | last
    · rcases run_concat_eq_some_iff.mp course with ⟨before, earlier, steps⟩
      have remaining := induction passes
        (fun early next left right within =>
          keeps early next left right (within.trans (List.prefix_append ..)))
        earlier
      exact keeps actions action before machine List.prefix_rfl earlier steps remaining
    · rw [course] at last
      cases last
      exact here (actions ++ [action]) course

theorem sum_moved {calls : List Call} {call : Nat} {found : Call}
    (present : calls[call]? = some found) (count : Call → Nat) (next : Call) :
    ((calls.set call next).map count).sum + count found = (calls.map count).sum + count next := by
  induction calls generalizing call with
  | nil => simp at present
  | cons head tail induction =>
    cases call with
    | zero =>
      simp only [List.getElem?_cons_zero, Option.some.injEq] at present
      simp only [List.set_cons_zero, List.map_cons, List.sum_cons, present]
      omega
    | succ call =>
      rw [List.getElem?_cons_succ] at present
      have rest := induction present
      simp only [List.set_cons_succ, List.map_cons, List.sum_cons]
      omega

theorem calls_moved_self {machine : Machine} {call : Nat} {found : Call}
    (present : machine.calls[call]? = some found) (registry : Registry) (request : Request)
    (stage : Stage) (events : List Event) :
    (machine.moved call registry request stage events).calls[call]? = some ⟨request, stage⟩ :=
  List.getElem?_set_self (List.getElem?_eq_some_iff.mp present).1

theorem moved_cases {machine : Machine} {call : Nat} {registry : Registry} {request : Request}
    {stage : Stage} {events : List Event} {other : Nat} {found : Call}
    (present : (machine.moved call registry request stage events).calls[other]? = some found) :
    other = call ∧ found = ⟨request, stage⟩ ∨
      other ≠ call ∧ machine.calls[other]? = some found := by
  rw [moved, List.getElem?_set] at present
  split at present
  · next same =>
    split at present
    · cases present
      exact .inl ⟨same.symm, rfl⟩
    · cases present
  · next apart => exact .inr ⟨fun equal => apart equal.symm, present⟩

theorem invoked_cases {calls : List Call} {request : Request} {other : Nat} {found : Call}
    (present : (calls ++ [(⟨request, .entering⟩ : Call)])[other]? = some found) :
    calls[other]? = some found ∨ other = calls.length ∧ found = ⟨request, .entering⟩ := by
  rw [List.getElem?_append] at present
  split at present
  · exact .inl present
  · next outside =>
    rcases List.getElem?_eq_some_iff.mp present with ⟨position, equal⟩
    rw [List.length_singleton] at position
    exact .inr ⟨by omega, by simpa using equal.symm⟩

theorem Steps.events_suffix {before after : Machine} (steps : Steps before after) :
    before.events <:+ after.events := by
  cases steps with
  | invokes | reorders => exact List.suffix_rfl
  | moves => exact List.suffix_append ..

theorem exists_last_move {before after : Machine} {actions : List Action} {call : Nat}
    {request : Request} {answer : Answer} (course : before.run actions = some after)
    (unfinished : ∀ request answer, before.calls[call]? ≠ some ⟨request, .finished answer⟩)
    (finished : after.calls[call]? = some ⟨request, .finished answer⟩) :
    ∃ moment stage registry events, Passes before actions moment ∧
      moment.calls[call]? = some ⟨request, stage⟩ ∧
      Move moment.registry request stage registry (.finished answer) events ∧
      events ⊆ after.events := by
  induction actions using List.reverseRecOn generalizing after with
  | nil =>
    cases course
    exact absurd finished (unfinished _ _)
  | append_singleton actions action induction =>
    rcases exists_of_run_concat course with ⟨last, earlier, steps⟩
    by_cases already : last.calls[call]? = some ⟨request, .finished answer⟩
    · rcases induction earlier already with
        ⟨moment, stage, registry, events, passes, present, move, known⟩
      exact ⟨moment, stage, registry, events, passes.append _, present, move,
        List.Subset.trans known steps.events_suffix.subset⟩
    · cases steps with
      | invokes =>
        rcases invoked_cases finished with present | ⟨-, equal⟩
        · exact absurd present already
        · cases equal
      | reorders => exact absurd finished already
      | @moves _ _ stage _ registry events present _ move =>
        rcases moved_cases finished with ⟨rfl, equal⟩ | ⟨-, present⟩
        · cases equal
          exact ⟨last, stage, registry, events, (Passes.last earlier).append _, present, move,
            List.subset_append_left ..⟩
        · exact absurd present already

def shop (database : String) : Definition where
  id := "shop"
  engine := .postgres
  host := "localhost"
  port := none
  username := none
  password := none
  database := some database
  showAllDatabases := false
  ssl := false
  trustServerCertificate := false
  limits := .standard

end SqlGateway.Registry.Machine
