import SqlGateway.Proofs.Registry.Upkeep

/-!
# Fresh pools

A pool that a cell of the registry holds was opened with the definition that its connection has now,
and nobody has begun to close it: `fresh_of_placed` says so of every state. What a request of a pool
answers was true at a moment at which the request was under way, and a definition that was replaced
or forgotten before the request began has no part in it: `get_answers_moment`.
-/

namespace SqlGateway.Registry.Machine

structure Live (events : List Event) (definition : Definition) (key : PoolKey) (pool : Pool) :
    Prop where
  opened : [.opened pool, .opening definition key].Sublist events
  definition : pool.definition = definition
  database : pool.database = key.database
  unclosed : .closing pool ∉ events

/-! ## The cells of the registry -/

theorem Kept.live {machine : Machine} (kept : Kept machine) {key : PoolKey} {cell : Nat}
    (placed : (key, cell) ∈ machine.registry.places) {pool : Pool}
    (filled : machine.registry.content cell = some pool) :
    machine.registry.definitions.find? key.connection = some pool.definition ∧
      Live machine.events pool.definition key pool := by
  rcases kept.tidy.current placed filled with ⟨known, database⟩
  have same : pool.key = key := by
    rw [Pool.key, kept.tidy.named known, database]
  have built := kept.records.held filled
  rw [Built, same] at built
  exact ⟨known, built, rfl, database, kept.records.unclosed placed filled⟩

/-- Whatever the calls do, a cell in the registry belongs to a connection that is known. A pool in
it was opened with the definition that the connection has now, and is not closed. -/
theorem fresh_of_placed {machine : Machine} (reachable : Reachable machine) {key : PoolKey}
    {cell : Nat} (placed : (key, cell) ∈ machine.registry.places) :
    ∃ definition, machine.registry.definitions.find? key.connection = some definition ∧
      ∀ pool, machine.registry.content cell = some pool →
        Live machine.events definition key pool := by
  have kept := reachable.kept
  rcases kept.tidy.known placed with ⟨definition, known⟩
  refine ⟨definition, known, ?_⟩
  intro pool filled
  rcases kept.live placed filled with ⟨same, live⟩
  rw [known] at same
  rw [Option.some.inj same]
  exact live

/-- The connection changes while a pool is opened for it. The call that opened the pool closes it
and opens another one. -/
def overtaken : List Action := [
  .invoke (.register (shop "old")), .advance 0,
  .invoke (.get "shop" none), .advance 1, .advance 1, .advance 1,
  .invoke (.update (shop "new")), .advance 2, .advance 2, .advance 2,
  .openEnds 1 none, .advance 1, .close 1 true, .advance 1, .advance 1, .advance 1,
  .openEnds 1 none]

theorem fresh_of_placed_overtaken : ∃ machine, (idle .empty).run overtaken = some machine ∧
    machine.registry.places = [(⟨"shop", some "new"⟩, 1)] ∧
    ∃ definition, machine.registry.definitions.find? "shop" = some definition ∧
      ∀ pool, machine.registry.content 1 = some pool →
        Live machine.events definition ⟨"shop", some "new"⟩ pool := by
  have possible : ((idle .empty).run overtaken).isSome := rfl
  rcases Option.isSome_iff_exists.mp possible with ⟨machine, course⟩
  have places : machine.registry.places = [(⟨"shop", some "new"⟩, 1)] := by
    cases course
    rfl
  have placed : (⟨"shop", some "new"⟩, 1) ∈ machine.registry.places := by
    rw [places]
    exact List.mem_singleton_self _
  exact ⟨machine, course, places, fresh_of_placed (Reachable.start.run course) placed⟩

/-! ## What a request of a pool answers -/

def During (before : Machine) (actions : List Action) (call : Nat) (moment : Machine) : Prop :=
  Passes before actions moment ∧
    ∃ request stage, moment.calls[call]? = some ⟨request, stage⟩ ∧
      ∀ answer, stage ≠ .finished answer

/-- A connection is known, and its cell for what is asked holds a pool that is fresh. -/
def Serves (machine : Machine) (id : String) (database : Option String) (pool : Pool) : Prop :=
  ∃ definition cell, machine.registry.definitions.find? id = some definition ∧
    (⟨id, definition.effectiveDatabase database⟩, cell) ∈ machine.registry.places ∧
    machine.registry.content cell = some pool ∧
    Live machine.events definition ⟨id, definition.effectiveDatabase database⟩ pool

inductive Withdraws (id : String) (before after : Machine) : Prop where
  | updates {call : Nat} {definition : Definition}
      (present : before.calls[call]? = some ⟨.update definition, .entering⟩)
      (named : definition.id = id) (known : before.registry.definitions.find? id ≠ none)
      (advanced : before.advance call = some after)
  | removes {call : Nat} (present : before.calls[call]? = some ⟨.remove id, .entering⟩)
      (known : before.registry.definitions.find? id ≠ none)
      (advanced : before.advance call = some after)

def Younger (start machine : Machine) (pool : Pool) : Prop :=
  ∃ since, machine.events = since ++ start.events ∧ Built since pool

structure Since (start machine : Machine) (since : List Event) : Prop where
  events : machine.events = since ++ start.events
  opens : ∀ {call : Nat} {request : Request} {definition : Definition} {key : PoolKey}
    {cell : Nat}, machine.calls[call]? = some ⟨request, .opening definition key cell⟩ →
    start.registry.cells.length ≤ cell → .opening definition key ∈ since
  held : ∀ {cell : Nat} {pool : Pool}, start.registry.cells.length ≤ cell →
    machine.registry.content cell = some pool → Built since pool

theorem Kept.since {machine : Machine} (kept : Kept machine) : Since machine machine [] where
  events := rfl
  opens present outside :=
    absurd (kept.fits present).1.inside (Nat.not_lt_of_le outside)
  held outside filled := absurd (lt_of_content filled) (Nat.not_lt_of_le outside)

theorem Since.step {start before after : Machine} {since : List Event} (kept : Kept before)
    (steps : Steps before after) (later : Since start before since) :
    ∃ since, Since start after since := by
  cases steps with
  | invokes =>
    refine ⟨since, later.events, ?_, later.held⟩
    intro call request definition key cell present outside
    rcases invoked_cases present with earlier | ⟨-, equal⟩
    · exact later.opens earlier outside
    · cases equal
  | reorders => exact ⟨since, later.events, later.opens, later.held⟩
  | @moves moving request stage next registry events present _ move =>
    refine ⟨events ++ since, ?_, ?_, ?_⟩
    · rw [moved, later.events, List.append_assoc]
    · intro call asked definition key cell found outside
      rcases moved_cases found with ⟨-, equal⟩ | ⟨-, earlier⟩
      · cases equal
        rcases move.opening_inv with ⟨-, -, -, -, rfl⟩
        exact List.mem_cons_self
      · exact List.mem_append_right _ (later.opens earlier outside)
    · intro cell pool outside filled
      rcases move.content_cases filled with filled | ⟨definition, key, rfl, rfl, rfl⟩
      · exact (later.held outside filled).trans (List.sublist_append_right ..)
      · exact (kept.fits present).1.built (later.opens present outside)

private theorem registry_of_advance {before after : Machine} {call : Nat} {request : Request}
    (present : before.calls[call]? = some ⟨request, .entering⟩)
    (advanced : before.advance call = some after) :
    after.registry = (enter before.registry request).1 := by
  rw [advance, present] at advanced
  dsimp only at advanced
  split at advanced
  · cases advanced
  · cases advanced
    rfl

theorem Withdraws.connection_ne {id : String} {before after : Machine}
    (withdraws : Withdraws id before after) {key : PoolKey} {cell : Nat}
    (placed : (key, cell) ∈ after.registry.places) : key.connection ≠ id := by
  cases withdraws with
  | @updates call definition present named known advanced =>
    subst named
    rw [registry_of_advance present advanced, enter, Registry.replace] at placed
    cases found : before.registry.definitions.find? definition.id with
    | none => exact absurd found known
    | some old =>
      rw [found] at placed
      exact connection_ne_of_drained placed
  | removes present known advanced =>
    rw [registry_of_advance present advanced, enter, Registry.forget] at placed
    cases found : before.registry.definitions.find? id with
    | none => exact absurd found known
    | some old =>
      rw [found] at placed
      exact connection_ne_of_drained placed

theorem Withdraws.reachable {id : String} {before after : Machine}
    (withdraws : Withdraws id before after) (reachable : Reachable before) : Reachable after := by
  cases withdraws with
  | updates _ _ _ advanced => exact .step (.advance _) reachable advanced
  | removes _ _ advanced => exact .step (.advance _) reachable advanced

theorem Serves.younger {id : String} {database : Option String} {pool : Pool}
    {earlier changed moment : Machine} {actions : List Action} (reachable : Reachable earlier)
    (withdraws : Withdraws id earlier changed) (course : changed.run actions = some moment)
    (serves : Serves moment id database pool) : Younger changed moment pool := by
  have start := (withdraws.reachable reachable).kept
  -- Along the course the cells that are not new keep their places or lose them.
  have later : Kept moment ∧ Evolves changed.registry moment.registry ∧
      ∃ since, Since changed moment since := by
    apply run_keeps ?_ course
    · exact ⟨start, .refl, [], start.since⟩
    · rintro before after steps ⟨kept, evolves, since, later⟩
      exact ⟨kept.step steps, evolves.trans (steps.evolves kept), later.step kept steps⟩
  rcases later with ⟨-, evolves, since, later⟩
  rcases serves with ⟨definition, cell, -, placed, filled, -⟩
  have new : changed.registry.cells.length ≤ cell := by
    apply Nat.le_of_not_lt
    intro inside
    exact withdraws.connection_ne (evolves.placed placed inside).1 rfl
  exact ⟨since, later.events, later.held new filled⟩

/-! ### The last move of a request -/

section LastMove

variable {registry after : Registry} {request : Request} {stage next : Stage}
  {events : List Event}

theorem Move.pool_inv (move : Move registry request stage after next events) {pool : Pool}
    (answers : next = .finished (.pool pool)) :
    ∃ key cell created, stage = .checking key cell pool created ∧
      registry.isCurrent key cell = true := by
  cases move with
  | returns current =>
    cases answers
    exact ⟨_, _, _, rfl, current⟩
  | ends => cases request <;> cases answers
  | _ => cases answers

theorem Move.notFound_inv (move : Move registry request stage after next events) {id : String}
    (answers : next = .finished (.failed (.connectionNotFound id))) :
    connection? request = some id ∧ registry.definitions.find? id = none ∨
      .refused (.connectionNotFound id) ∈ events := by
  cases move with
  | misses asked unknown =>
    cases answers
    exact .inl ⟨asked, unknown⟩
  | fails failure =>
    cases answers
    exact .inr (List.mem_singleton_self _)
  | ends => cases request <;> cases answers
  | _ => cases answers

end LastMove

theorem Kept.serves {machine : Machine} (kept : Kept machine) {call : Nat} {id : String}
    {database : Option String} {key : PoolKey} {cell : Nat} {pool : Pool} {created : Bool}
    (present : machine.calls[call]? =
      some ⟨.get id database, .checking key cell pool created⟩)
    (current : machine.registry.isCurrent key cell = true) : Serves machine id database pool := by
  rcases kept.fits present with ⟨⟨definition, holds⟩, filled⟩
  have placed := (isCurrent_iff kept.tidy.keys).mp current
  have known := (holds.placed placed).2
  rcases holds.asked with ⟨_, _, equal, rfl⟩
  cases equal
  rcases kept.live placed filled with ⟨same, live⟩
  rw [known] at same
  cases same
  exact ⟨_, cell, known, placed, filled, live⟩

/-- What a request of a pool answers was true while it was under way.

1. The pool that it returns stood, at some moment between its beginning and its end, in the cell of
   what was asked, was opened with the definition that the connection had then, and was not closed.
   If a definition of the connection was replaced or forgotten before the request began, the opening
   of the pool began after that.
2. If it says that there is no such connection, then at some moment there was none, unless the
   server side says so. -/
theorem get_answers_moment {before after : Machine} (reachable : Reachable before) {id : String}
    {database : Option String} {actions : List Action} {answer : Answer}
    (course : before.run (.invoke (.get id database) :: actions) = some after)
    (answered :
      after.calls[before.calls.length]? = some ⟨.get id database, .finished answer⟩) :
    (∀ pool, answer = .pool pool →
      ∃ moment,
        During before (.invoke (.get id database) :: actions) before.calls.length moment ∧
        Serves moment id database pool ∧
        ∀ earlier changed middle, Reachable earlier → Withdraws id earlier changed →
          changed.run middle = some before → Younger changed moment pool) ∧
    ((∀ other, .refused (.connectionNotFound other) ∉ after.events) →
      ∀ other, answer = .failed (.connectionNotFound other) → other = id ∧
        ∃ moment,
          During before (.invoke (.get id database) :: actions) before.calls.length moment ∧
          moment.registry.definitions.find? id = none) := by
  have unfinished : ∀ request answer,
      before.calls[before.calls.length]? ≠ some ⟨request, .finished answer⟩ := by
    intro request answer
    simp
  rcases exists_last_move course unfinished answered with
    ⟨moment, stage, registry, events, passes, present, move, known⟩
  have during : During before (.invoke (.get id database) :: actions) before.calls.length
      moment :=
    ⟨passes, _, stage, present, move.stage_ne_finished⟩
  rcases passes with ⟨first, -, begun⟩
  constructor
  · rintro pool rfl
    rcases move.pool_inv rfl with ⟨key, cell, created, rfl, current⟩
    have serves := (reachable.run begun).kept.serves present current
    refine ⟨moment, during, serves, ?_⟩
    intro earlier changed middle origin withdraws reaches
    have whole : changed.run (middle ++ first) = some moment := by
      rw [run_append, reaches]
      exact begun
    exact serves.younger origin withdraws whole
  · rintro unrefused other rfl
    rcases move.notFound_inv rfl with ⟨asked, unknown⟩ | refused
    · cases asked
      exact ⟨rfl, moment, during, unknown⟩
    · exact absurd (known refused) (unrefused other)

def servedOnce : List Action := [
  .invoke (.register (shop "old")), .advance 0,
  .invoke (.get "shop" none), .advance 1, .advance 1, .advance 1, .openEnds 1 none, .advance 1,
  .invoke (.update (shop "new"))]

def replaced : List Action := [.close 2 true, .advance 2]

def servedAgain : List Action := [
  .invoke (.get "shop" none), .advance 3, .advance 3, .advance 3, .openEnds 3 none, .advance 3]

theorem get_answers_moment_replaced : ∃ earlier changed before after,
    (idle .empty).run servedOnce = some earlier ∧ Withdraws "shop" earlier changed ∧
    changed.run replaced = some before ∧ before.run servedAgain = some after ∧
    ∃ moment, During before servedAgain 3 moment ∧
      Serves moment "shop" none ⟨1, shop "new", some "new"⟩ ∧
      Younger changed moment ⟨1, shop "new", some "new"⟩ := by
  have possible : (((idle .empty).run servedOnce).bind fun earlier =>
      (earlier.advance 2).bind fun changed => (changed.run replaced).bind fun before =>
        before.run servedAgain).isSome := rfl
  simp only [Option.isSome_iff_exists, Option.bind_eq_some_iff] at possible
  rcases possible with ⟨after, earlier, first, changed, advanced, before, ends, again⟩
  have reachable : Reachable earlier := Reachable.start.run first
  have withdraws : Withdraws "shop" earlier changed := by
    cases first
    exact .updates rfl rfl nofun advanced
  have reaches : Reachable before := (withdraws.reachable reachable).run ends
  have calls : before.calls.length = 3 := by
    cases first
    cases advanced
    cases ends
    rfl
  have answered : after.calls[before.calls.length]? =
      some ⟨.get "shop" none, .finished (.pool ⟨1, shop "new", some "new"⟩)⟩ := by
    rw [calls]
    cases first
    cases advanced
    cases ends
    cases again
    rfl
  rcases (get_answers_moment reaches again answered).1 _ rfl with
    ⟨moment, during, serves, younger⟩
  rw [calls] at during
  exact ⟨earlier, changed, before, after, first, withdraws, ends, again, moment, during, serves,
    younger earlier changed replaced reachable withdraws ends⟩

end SqlGateway.Registry.Machine
