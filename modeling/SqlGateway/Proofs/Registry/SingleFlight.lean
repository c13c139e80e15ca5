import SqlGateway.Proofs.Registry.Freshness
import SqlGateway.Proofs.Registry.Stages

/-!
# One pool for all requests of a key

As long as nobody takes the cell of a key out of the registry, the requests of the key share one
cell. One after another they may try to open a pool for it; a request whose try fails says so, and
the others go on. Once a try succeeds, all that are left return this pool: `single_flight`.
-/

namespace SqlGateway.Registry

def Stage.key? : Stage → Option PoolKey
  | .reserving _ key | .waiting _ key _ | .opening _ key _ | .checking key _ _ _ => some key
  | .entering | .discarding _ | .closing .. | .finished _ => none

def Stage.cell? : Stage → Option Nat
  | .waiting _ _ cell | .opening _ _ cell | .checking _ cell _ _ => some cell
  | .entering | .reserving .. | .discarding _ | .closing .. | .finished _ => none

namespace Machine

def opened (key : PoolKey) (events : List Event) : List Pool :=
  events.filterMap fun
    | .opened pool => if pool.key = key then some pool else none
    | .opening .. | .refused _ | .closing _ => none

def connects (key : PoolKey) (events : List Event) : Nat :=
  events.countP fun
    | .opening _ other => other = key
    | .opened _ | .refused _ | .closing _ => false

/-! ## Courses that leave a key alone -/

/-- No action of a course takes the cell of a key out of the registry. -/
def Undisturbed (actions : List Action) (key : PoolKey) : Prop :=
  ∀ earlier action before after, earlier ++ [action] <+: actions →
    (idle .empty).run earlier = some before → before.step action = some after →
    ∀ cell, (key, cell) ∈ before.registry.places → (key, cell) ∈ after.registry.places

/-- At some moment of a course, a call is a request of the pool of a key. -/
def Seeks (actions : List Action) (key : PoolKey) (call : Nat) : Prop :=
  ∃ moment stage, Passes (idle .empty) actions moment ∧ moment.stage? call = some stage ∧
    stage.key? = some key

/-- Behind the first actions of a course, the server side refuses the pool that a call opens for a
key. -/
def FailsAt (actions : List Action) (key : PoolKey) (earlier : List Action) (call : Nat)
    (failure : Failure) : Prop :=
  earlier ++ [.openEnds call (some failure)] <+: actions ∧
    ∃ moment definition cell, (idle .empty).run earlier = some moment ∧
      moment.stage? call = some (.opening definition key cell)

theorem Undisturbed.of_prefix {actions more : List Action} {key : PoolKey}
    (undisturbed : Undisturbed actions key) (isPrefix : more <+: actions) :
    Undisturbed more key := by
  intro earlier action before after within
  exact undisturbed earlier action before after (within.trans isPrefix)

theorem FailsAt.append {actions more : List Action} {key : PoolKey} {earlier : List Action}
    {call : Nat} {failure : Failure} (fails : FailsAt actions key earlier call failure) :
    FailsAt (actions ++ more) key earlier call failure :=
  ⟨fails.1.trans (List.prefix_append ..), fails.2⟩

/-! ## The cell of a key -/

/-- The requests of a key have its cell, at most one pool was opened for it, and this pool stands in
the cell. -/
structure Single (key : PoolKey) (machine : Machine) : Prop where
  placed : ∀ {call stage cell}, machine.stage? call = some stage → stage.key? = some key →
    stage.cell? = some cell → (key, cell) ∈ machine.registry.places
  once : (opened key machine.events).length ≤ 1
  held : ∀ {pool}, pool ∈ opened key machine.events →
    ∃ cell, (key, cell) ∈ machine.registry.places ∧ machine.registry.content cell = some pool

theorem single_idle (key : PoolKey) : Single key (idle .empty) where
  placed present := by simp [stage?, idle] at present
  once := Nat.zero_le _
  held member := by simp [opened, idle] at member

theorem opened_append (key : PoolKey) (events past : List Event) :
    opened key (events ++ past) = opened key events ++ opened key past :=
  List.filterMap_append

theorem mem_opened {key : PoolKey} {events : List Event} {pool : Pool} :
    pool ∈ opened key events ↔ .opened pool ∈ events ∧ pool.key = key := by
  rw [opened, List.mem_filterMap]
  constructor
  · rintro ⟨event, member, made⟩
    cases event with
    | opened other =>
      dsimp only at made
      split at made
      · next same =>
        cases made
        exact ⟨member, same⟩
      · cases made
    | opening | refused | closing => cases made
  · rintro ⟨member, same⟩
    exact ⟨.opened pool, member, if_pos same⟩

section Move

variable {registry after : Registry} {request : Request} {stage next : Stage}
  {events past : List Event} {key : PoolKey}

theorem Move.key_cases (move : Move registry request stage after next events) {cell : Nat}
    (about : next.key? = some key) (own : next.cell? = some cell) :
    stage.key? = some key ∧ stage.cell? = some cell ∨ (key, cell) ∈ after.places := by
  cases move with
  | finds _ _ placed =>
    cases about
    cases own
    exact .inr placed
  | reserves =>
    cases about
    cases own
    exact .inr (mem_reserve registry _)
  | joins | begins | opens => exact .inl ⟨about, own⟩
  | lacks => cases own
  | _ => cases about

theorem Move.opened_cases (key : PoolKey) (fits : Fits registry past request stage)
    (move : Move registry request stage after next events) :
    opened key events = [] ∨
      ∃ definition cell, stage = .opening definition key cell ∧
        after = (registry.fill cell definition key.database).2 ∧
        opened key events = [(registry.fill cell definition key.database).1] := by
  cases move with
  | @opens definition own cell =>
    have same : Pool.key (registry.fill cell definition own.database).1 = own := by
      rw [Registry.fill, Pool.key, fits.1.named]
    by_cases equal : own = key
    · subst equal
      exact .inr ⟨definition, cell, rfl, rfl, by simp [opened, same]⟩
    · left
      simp [opened, same, equal]
  | _ => exact .inl rfl

/-- A request whose cell is not lost goes on with its key, or returns the pool of the cell, or
fails at opening one. -/
theorem Move.seeker_cases (about : stage.key? = some key)
    (current : ∀ {cell pool created}, stage = .checking key cell pool created →
      registry.isCurrent key cell = true)
    (move : Move registry request stage after next events) :
    next.key? = some key ∨
      (∃ cell pool created, stage = .checking key cell pool created ∧
        next = .finished (.pool pool)) ∨
      ∃ definition cell failure, stage = .opening definition key cell ∧
        next = .finished (.failed failure) := by
  cases move with
  | reserves | joins | begins | opens => exact .inl about
  | returns =>
    cases about
    exact .inr (.inl ⟨_, _, _, rfl, rfl⟩)
  | fails failure =>
    cases about
    exact .inr (.inr ⟨_, _, failure, rfl, rfl⟩)
  | loses lost | retries lost =>
    cases about
    rw [current rfl] at lost
    cases lost
  | _ => cases about

end Move

section Steps

variable {before after : Machine} {key : PoolKey}

theorem cell_unique {registry : Registry} (tidy : Tidy registry) {left right : Nat}
    (first : (key, left) ∈ registry.places) (second : (key, right) ∈ registry.places) :
    left = right :=
  (Prod.mk.inj (List.inj_on_of_nodup_map tidy.keys first second rfl)).2

theorem Single.opened_eq_nil (single : Single key before) (kept : Kept before) {cell : Nat}
    (placed : (key, cell) ∈ before.registry.places)
    (empty : before.registry.content cell = none) : opened key before.events = [] := by
  rw [List.eq_nil_iff_forall_not_mem]
  intro pool member
  rcases single.held member with ⟨other, otherPlaced, filled⟩
  rw [cell_unique kept.tidy otherPlaced placed, empty] at filled
  cases filled

theorem Single.mem_opened (single : Single key before) (kept : Kept before) {call cell : Nat}
    {pool : Pool} {created : Bool}
    (checks : before.stage? call = some (.checking key cell pool created)) :
    pool ∈ opened key before.events := by
  rcases stage?_eq_some_iff.mp checks with ⟨request, found⟩
  rcases kept.fits found with ⟨-, filled⟩
  rcases kept.live (single.placed checks rfl rfl) filled with ⟨known, live⟩
  have same : pool.key = key := by rw [Pool.key, kept.tidy.named known, live.database]
  exact Machine.mem_opened.mpr ⟨live.opened.subset List.mem_cons_self, same⟩

theorem Single.alone (single : Single key before) (kept : Kept before) {left right : Nat}
    {first second : Definition} {leftCell rightCell : Nat}
    (leftOpens : before.stage? left = some (.opening first key leftCell))
    (rightOpens : before.stage? right = some (.opening second key rightCell)) : left = right := by
  have same := cell_unique kept.tidy (single.placed leftOpens rfl rfl)
    (single.placed rightOpens rfl rfl)
  subst same
  rcases stage?_eq_some_iff.mp leftOpens with ⟨_, leftFound⟩
  rcases stage?_eq_some_iff.mp rightOpens with ⟨_, rightFound⟩
  exact kept.alone leftFound rfl rightFound rfl

theorem Steps.opened_subset (steps : Steps before after) (key : PoolKey) :
    opened key before.events ⊆ opened key after.events := by
  intro pool member
  rcases Machine.mem_opened.mp member with ⟨made, same⟩
  exact Machine.mem_opened.mpr ⟨steps.events_suffix.subset made, same⟩

theorem Single.step (kept : Kept before) (steps : Steps before after)
    (stays : ∀ cell, (key, cell) ∈ before.registry.places → (key, cell) ∈ after.registry.places)
    (single : Single key before) : Single key after := by
  have evolves := steps.evolves kept
  have held {pool : Pool} (member : pool ∈ opened key before.events) :
      ∃ cell, (key, cell) ∈ after.registry.places ∧ after.registry.content cell = some pool := by
    rcases single.held member with ⟨cell, placed, filled⟩
    exact ⟨cell, stays cell placed, evolves.content filled⟩
  cases steps with
  | invokes request =>
    refine ⟨?_, single.once, held⟩
    intro call stage cell present about own
    rcases stage?_eq_some_iff.mp present with ⟨asked, found⟩
    rcases invoked_cases found with earlier | ⟨-, equal⟩
    · exact single.placed (stage?_eq_some_iff.mpr ⟨asked, earlier⟩) about own
    · cases equal
      cases about
  | reorders places same =>
    refine ⟨?_, single.once, held⟩
    intro call stage cell present about own
    exact stays cell (single.placed present about own)
  | @moves moving request stage next registry events present _ move =>
    have fits := kept.fits present
    have here := stage?_eq_some_iff.mpr ⟨request, present⟩
    have placed {call : Nat} {reached : Stage} {cell : Nat}
        (found : (before.moved moving registry request next events).stage? call = some reached)
        (about : reached.key? = some key) (own : reached.cell? = some cell) :
        (key, cell) ∈ registry.places := by
      rcases stage?_eq_some_iff.mp found with ⟨asked, found⟩
      rcases moved_cases found with ⟨-, equal⟩ | ⟨-, earlier⟩
      · cases equal
        rcases move.key_cases about own with ⟨wasAbout, wasOwn⟩ | placed
        · exact stays cell (single.placed here wasAbout wasOwn)
        · exact placed
      · exact stays cell (single.placed (stage?_eq_some_iff.mpr ⟨asked, earlier⟩) about own)
    have split : opened key (before.moved moving registry request next events).events =
        opened key events ++ opened key before.events := opened_append key events before.events
    rcases move.opened_cases key fits with none | ⟨definition, cell, rfl, rfl, opens⟩
    · rw [none, List.nil_append] at split
      refine ⟨placed, ?_, ?_⟩
      · rw [split]
        exact single.once
      · intro pool member
        rw [split] at member
        exact held member
    · have own := single.placed here rfl rfl
      rw [opens, single.opened_eq_nil kept own (kept.opens present).1] at split
      refine ⟨placed, ?_, ?_⟩
      · rw [split]
        exact Nat.le_refl 1
      · intro pool member
        rw [split] at member
        cases List.mem_singleton.mp member
        exact ⟨cell, stays cell own, content_fill_self _ _ fits.1.inside⟩

end Steps

/-! ## Undisturbed courses -/

section Course

variable {actions : List Action} {key : PoolKey} {machine : Machine}

theorem single_of_undisturbed (undisturbed : Undisturbed actions key)
    (course : (idle .empty).run actions = some machine) : Single key machine := by
  apply Passes.keeps (Passes.start (idle .empty) actions) _ _ course
  · intro earlier reached
    exact single_idle key
  · intro earlier action before after within reached steps single
    exact single.step (Reachable.start.run reached).kept (steps_of_step steps)
      (undisturbed earlier action before after within reached steps)

theorem placed_of_passes (undisturbed : Undisturbed actions key)
    (course : (idle .empty).run actions = some machine) {moment : Machine}
    (passes : Passes (idle .empty) actions moment) {cell : Nat}
    (placed : (key, cell) ∈ moment.registry.places) : (key, cell) ∈ machine.registry.places := by
  apply passes.keeps _ _ course
  · intro earlier reached
    exact placed
  · intro earlier action before after within reached steps there
    exact undisturbed earlier action before after within reached steps cell there

theorem single_of_passes (undisturbed : Undisturbed actions key) {moment : Machine}
    (passes : Passes (idle .empty) actions moment) : Single key moment ∧ Kept moment := by
  rcases passes with ⟨earlier, isPrefix, reached⟩
  exact ⟨single_of_undisturbed (undisturbed.of_prefix isPrefix) reached,
    (Reachable.start.run reached).kept⟩

theorem exists_shared_cell (undisturbed : Undisturbed actions key)
    (course : (idle .empty).run actions = some machine) :
    ∃ cell, ∀ moment call stage, Passes (idle .empty) actions moment →
      moment.stage? call = some stage → stage.key? = some key →
      ∀ own ∈ stage.cell?, own = cell := by
  have tidy := (Reachable.start.run course).kept.tidy
  have placed {moment : Machine} {call : Nat} {stage : Stage} {own : Nat}
      (passes : Passes (idle .empty) actions moment) (present : moment.stage? call = some stage)
      (about : stage.key? = some key) (found : stage.cell? = some own) :
      (key, own) ∈ machine.registry.places :=
    placed_of_passes undisturbed course passes
      ((single_of_passes undisturbed passes).1.placed present about found)
  by_cases some : ∃ cell, (key, cell) ∈ machine.registry.places
  · rcases some with ⟨cell, there⟩
    refine ⟨cell, ?_⟩
    intro moment call stage passes present about own found
    exact cell_unique tidy (placed passes present about found) there
  · refine ⟨0, ?_⟩
    intro moment call stage passes present about own found
    exact absurd ⟨own, placed passes present about found⟩ some

/-- What has become of a request of a key. -/
inductive Outcome (actions : List Action) (key : PoolKey) (machine : Machine) (call : Nat) :
    Prop where
  | seeking {stage : Stage} (present : machine.stage? call = some stage)
      (about : stage.key? = some key)
  | served {pool : Pool} (present : machine.stage? call = some (.finished (.pool pool)))
      (member : pool ∈ opened key machine.events)
  | failed {earlier : List Action} {failure : Failure}
      (present : machine.stage? call = some (.finished (.failed failure)))
      (fails : FailsAt actions key earlier call failure)

theorem Outcome.step {action : Action} {after : Machine} {call : Nat}
    (course : (idle .empty).run actions = some machine) (single : Single key machine)
    (steps : machine.step action = some after) (outcome : Outcome actions key machine call) :
    Outcome (actions ++ [action]) key after call := by
  have kept := (Reachable.start.run course).kept
  have taken := steps_of_step steps
  cases outcome with
  | served present member =>
    exact .served (taken.stage?_of_finished present) (taken.opened_subset key member)
  | failed present fails => exact .failed (taken.stage?_of_finished present) fails.append
  | @seeking stage present about =>
    -- Either the request is where it was, or it is the one that moves.
    rcases taken.stage?_cases present with
      same | ⟨request, next, registry, events, found, reached, move⟩
    · exact .seeking same about
    · have current {cell : Nat} {pool : Pool} {created : Bool}
          (checks : stage = .checking key cell pool created) :
          machine.registry.isCurrent key cell = true := by
        subst checks
        exact (isCurrent_iff kept.tidy.keys).mpr (single.placed present rfl rfl)
      rcases move.seeker_cases about current with
        seeks | ⟨cell, pool, created, rfl, rfl⟩ | ⟨definition, cell, failure, rfl, rfl⟩
      · exact .seeking reached seeks
      · exact .served reached (taken.opened_subset key (single.mem_opened kept present))
      · rw [openEnds_of_finished steps present reached]
        exact .failed reached ⟨List.prefix_rfl, machine, definition, cell, course, present⟩

theorem Outcome.finished_cases {call : Nat} {answer : Answer}
    (outcome : Outcome actions key machine call)
    (finished : machine.stage? call = some (.finished answer)) :
    (∃ pool, answer = .pool pool ∧ pool ∈ opened key machine.events) ∨
      ∃ earlier failure, answer = .failed failure ∧ FailsAt actions key earlier call failure := by
  cases outcome with
  | seeking present about =>
    rw [finished] at present
    cases present
    cases about
  | @served pool present member =>
    rw [finished] at present
    cases present
    exact .inl ⟨pool, rfl, member⟩
  | @failed earlier failure present fails =>
    rw [finished] at present
    cases present
    exact .inr ⟨earlier, failure, rfl, fails⟩

theorem outcome_of_seeks (undisturbed : Undisturbed actions key)
    (course : (idle .empty).run actions = some machine) {call : Nat}
    (seeks : Seeks actions key call) : Outcome actions key machine call := by
  rcases seeks with ⟨moment, stage, passes, present, about⟩
  apply passes.keeps _ _ course
  · intro earlier reached
    exact .seeking present about
  · intro earlier action before after within reached steps outcome
    have remaining := undisturbed.of_prefix ((List.prefix_append earlier [action]).trans within)
    exact outcome.step reached (single_of_undisturbed remaining reached) steps

/-! ## Refused pools -/

section Refusals

variable {earlier : List Action} {call : Nat} {failure : Failure}

theorem FailsAt.step (course : (idle .empty).run actions = some machine)
    (fails : FailsAt actions key earlier call failure) :
    ∃ before after rest definition cell, (idle .empty).run earlier = some before ∧
      before.stage? call = some (.opening definition key cell) ∧
      before.step (.openEnds call (some failure)) = some after ∧
      (idle .empty).run (earlier ++ [.openEnds call (some failure)]) = some after ∧
      after.run rest = some machine := by
  rcases fails with ⟨isPrefix, before, definition, cell, first, opens⟩
  rcases exists_run_of_prefix course isPrefix with ⟨after, rest, reached, later⟩
  have steps := reached
  rw [run_concat, first, Option.bind_some] at steps
  exact ⟨before, after, rest, definition, cell, first, opens, steps, reached, later⟩

theorem FailsAt.finished (course : (idle .empty).run actions = some machine)
    (fails : FailsAt actions key earlier call failure) :
    machine.stage? call = some (.finished (.failed failure)) := by
  rcases fails.step course with ⟨before, after, rest, definition, cell, -, opens, steps, -, later⟩
  exact stage?_of_finished_run later (after_refusal steps opens).2.1

theorem FailsAt.not_later {later : List Action} {other : Failure}
    (fails : FailsAt later key earlier call failure)
    (again : FailsAt actions key later call other) : False := by
  rcases again with ⟨-, moment, definition, cell, reached, opens⟩
  have ended := fails.finished reached
  rw [opens] at ended
  cases ended

theorem FailsAt.unique {later : List Action} {other : Failure}
    (first : FailsAt actions key earlier call failure)
    (second : FailsAt actions key later call other) : earlier = later := by
  have within {left right : List Action} {leftFailure rightFailure : Failure}
      (one : FailsAt actions key left call leftFailure)
      (two : FailsAt actions key right call rightFailure)
      (isPrefix : left ++ [.openEnds call (some leftFailure)] <+:
        right ++ [.openEnds call (some rightFailure)]) : left = right := by
    rcases List.prefix_concat_iff.mp isPrefix with equal | before
    · exact (List.append_inj' equal rfl).1
    · exact (FailsAt.not_later ⟨before, one.2⟩ two).elim
  rcases List.prefix_or_prefix_of_prefix first.1 second.1 with isPrefix | isPrefix
  · exact within first second isPrefix
  · exact (within second first isPrefix).symm

/-- After a refusal every call that waits for the cell may try to open a pool itself. -/
theorem FailsAt.retried (undisturbed : Undisturbed actions key)
    (course : (idle .empty).run actions = some machine)
    (fails : FailsAt actions key earlier call failure) {before : Machine}
    (reached : (idle .empty).run earlier = some before) {other : Nat} {definition : Definition}
    {cell : Nat} (waits : before.stage? other = some (.waiting definition key cell)) :
    ∃ after later,
      (idle .empty).run (earlier ++ [.openEnds call (some failure)]) = some after ∧
      after.advance other = some later ∧
      later.stage? other = some (.opening definition key cell) := by
  rcases fails.step course with
    ⟨moment, after, rest, own, ownCell, first, opens, steps, behind, -⟩
  rw [reached] at first
  cases first
  have start : Undisturbed earlier key :=
    undisturbed.of_prefix ((List.prefix_append ..).trans fails.1)
  have single := single_of_undisturbed start reached
  have kept := (Reachable.start.run reached).kept
  have same : ownCell = cell :=
    cell_unique kept.tidy (single.placed opens rfl rfl) (single.placed waits rfl rfl)
  subst same
  have apart : other ≠ call := by
    rintro rfl
    rw [opens] at waits
    cases waits
  rcases after_refusal steps opens with ⟨registry, -, others⟩
  rcases stage?_eq_some_iff.mp opens with ⟨_, found⟩
  have inside := (kept.fits found).1.inside
  rw [← others other apart] at waits
  have empty : after.registry.content ownCell = none := by
    rw [registry, content_setBusy]
    exact (kept.opens found).1
  have free : after.registry.isBusy ownCell = false := by
    rw [registry, isBusy_setBusy_self inside]
  rcases exists_advance_of_free waits empty free with ⟨next, advanced, opening⟩
  exact ⟨after, next, behind, advanced, opening⟩

end Refusals

/-! ## Courses without refusals -/

/-- At most one pool was asked for, and it has come or is still being opened. -/
def Attempted (key : PoolKey) (machine : Machine) : Prop :=
  connects key machine.events = 0 ∨
    connects key machine.events = 1 ∧
      (opened key machine.events ≠ [] ∨
        ∃ call definition cell, machine.stage? call = some (.opening definition key cell))

theorem connects_append (key : PoolKey) (events past : List Event) :
    connects key (events ++ past) = connects key events + connects key past :=
  List.countP_append

theorem Steps.connects_cases (key : PoolKey) {before after : Machine} (steps : Steps before after) :
    connects key after.events = connects key before.events ∨
      connects key after.events = connects key before.events + 1 ∧
        ∃ call definition cell,
          before.stage? call = some (.waiting definition key cell) ∧
          after.stage? call = some (.opening definition key cell) ∧
          before.registry.content cell = none ∧ before.registry.isBusy cell = false := by
  cases steps with
  | invokes | reorders => exact .inl rfl
  | @moves call request stage next registry events present _ move =>
    have split : connects key (before.moved call registry request next events).events =
        connects key events + connects key before.events :=
      connects_append key events before.events
    cases move with
    | @begins definition own cell empty free =>
      by_cases same : own = key
      · subst same
        have one : connects own [.opening definition own] = 1 := by simp [connects]
        right
        refine ⟨by omega, call, definition, cell, ?_, ?_, empty, free⟩
        · exact stage?_eq_some_iff.mpr ⟨request, present⟩
        · apply stage?_eq_some_iff.mpr
          have inside := (List.getElem?_eq_some_iff.mp present).1
          exact ⟨request, by rw [moved, List.getElem?_set_self inside]⟩
      · have none : connects key [.opening definition own] = 0 := by simp [connects, same]
        exact .inl (by omega)
    | _ => exact .inl (split.trans (Nat.zero_add _))

theorem Attempted.step {before after : Machine} (kept : Kept before) (single : Single key before)
    (later : Single key after) (steps : Steps before after)
    (unrefused : ∀ call definition cell failure,
      before.stage? call = some (.opening definition key cell) →
      after.stage? call ≠ some (.finished (.failed failure)))
    (attempted : Attempted key before) : Attempted key after := by
  rcases steps.connects_cases key with
    same | ⟨more, call, definition, cell, waits, opens, empty, free⟩
  · rw [Attempted, same]
    refine attempted.imp_right fun ⟨one, state⟩ => ⟨one, ?_⟩
    rcases state with some | ⟨call, definition, cell, opens⟩
    · rcases List.exists_mem_of_ne_nil _ some with ⟨pool, member⟩
      exact .inl (List.ne_nil_of_mem (steps.opened_subset key member))
    · rcases steps.stage?_cases opens with
        still | ⟨request, next, registry, events, found, reached, move⟩
      · exact .inr ⟨call, definition, cell, still⟩
      · cases move with
        | opens => exact .inl (List.ne_nil_of_mem (later.mem_opened (kept.step steps) reached))
        | fails failure => exact absurd reached (unrefused call definition cell failure opens)
  · -- Nobody has asked before, for else the cell would be filled or busy.
    have placed := single.placed waits rfl rfl
    rcases attempted with none | ⟨-, some | ⟨other, _, otherCell, otherOpens⟩⟩
    · exact .inr ⟨by omega, .inr ⟨call, definition, cell, opens⟩⟩
    · exact absurd (single.opened_eq_nil kept placed empty) some
    · rw [cell_unique kept.tidy placed (single.placed otherOpens rfl rfl)] at free
      rcases stage?_eq_some_iff.mp otherOpens with ⟨request, found⟩
      rw [(kept.opens found).2] at free
      cases free

theorem attempted_of_unrefused (undisturbed : Undisturbed actions key)
    (course : (idle .empty).run actions = some machine)
    (unrefused : ∀ earlier call failure, ¬FailsAt actions key earlier call failure) :
    Attempted key machine := by
  apply Passes.keeps (Passes.start (idle .empty) actions) _ _ course
  · intro earlier reached
    exact .inl rfl
  · intro earlier action before after within reached steps attempted
    have start := undisturbed.of_prefix ((List.prefix_append earlier [action]).trans within)
    have whole := run_concat_eq_some_iff.mpr ⟨before, reached, steps⟩
    apply attempted.step (Reachable.start.run reached).kept (single_of_undisturbed start reached)
      (single_of_undisturbed (undisturbed.of_prefix within) whole) (steps_of_step steps)
    intro call definition cell failure opens finished
    apply unrefused earlier call failure
    rw [openEnds_of_finished steps opens finished] at within
    exact ⟨within, before, definition, cell, reached, opens⟩

theorem Attempted.connects_le (attempted : Attempted key machine) :
    connects key machine.events ≤ 1 := by
  rcases attempted with none | ⟨one, -⟩
  · rw [none]
    exact Nat.zero_le 1
  · exact Nat.le_of_eq one

theorem connects_pos (kept : Kept machine) {pool : Pool}
    (member : pool ∈ opened key machine.events) : 0 < connects key machine.events := by
  rcases mem_opened.mp member with ⟨made, same⟩
  rcases kept.records.kept made with ⟨cell, filled⟩
  have asked := (kept.records.held filled).subset (List.mem_cons_of_mem _ List.mem_cons_self)
  exact List.countP_pos_iff.mpr ⟨_, asked, by simp [same]⟩

end Course

/-! ## Requests that take nothing -/

def takesNothing : Request → Bool
  | .register _ | .get .. => true
  | .update _ | .remove _ | .removeAll _ | .evict .. | .closeAll => false

theorem Move.places_subset {registry after : Registry} {request : Request} {stage next : Stage}
    {events : List Event} (takes : takesNothing request = true)
    (move : Move registry request stage after next events) :
    registry.places ⊆ after.places := by
  cases move with
  | replaces asked | forgets asked =>
    rw [asked] at takes
    cases takes
  | takes asked =>
    cases request with
    | register | get => cases asked
    | update | remove | removeAll | evict | closeAll => cases takes
  | @reserves definition key =>
    rcases reserve_cases registry key with ⟨cell, -, same⟩ | ⟨-, -, added, -⟩
    · rw [same]
      exact List.Subset.refl _
    · rw [added]
      exact List.subset_append_left ..
  | _ => exact List.Subset.refl _

theorem undisturbed_of_requests {actions : List Action}
    (takes : ∀ request, .invoke request ∈ actions → takesNothing request = true)
    (key : PoolKey) : Undisturbed actions key := by
  intro earlier action before after isPrefix reached steps cell placed
  cases steps_of_step steps with
  | invokes => exact placed
  | reorders _ same => exact same.symm.subset placed
  | moves present _ move =>
    have member := List.mem_map_of_mem (f := Call.request) (List.mem_of_getElem? present)
    have invoked := isPrefix.subset (List.mem_append_left _ (invoke_mem_of_run reached _ member))
    exact move.places_subset (takes _ invoked) placed

/-! ## Everything together -/

/-- The requests of a key in a course share one flight. -/
structure SingleFlight (actions : List Action) (key : PoolKey) (machine : Machine) : Prop where
  /-- All requests of the key use one cell. -/
  shared : ∃ cell, ∀ moment call stage, Passes (idle .empty) actions moment →
    moment.stage? call = some stage → stage.key? = some key → ∀ own ∈ stage.cell?, own = cell
  /-- At no moment two calls open a pool for the key. -/
  alone : ∀ moment left right first second leftCell rightCell,
    Passes (idle .empty) actions moment →
    moment.stage? left = some (.opening first key leftCell) →
    moment.stage? right = some (.opening second key rightCell) → left = right
  once : (opened key machine.events).length ≤ 1
  /-- A request of the key returns the one pool that was opened for it. -/
  served : ∀ call pool, Seeks actions key call →
    machine.stage? call = some (.finished (.pool pool)) → opened key machine.events = [pool]
  /-- The call that was refused a pool returns the failure. -/
  refused : ∀ earlier call failure, FailsAt actions key earlier call failure →
    machine.stage? call = some (.finished (.failed failure))
  /-- A request of the key returns no failure but that of its own one refusal. -/
  own : ∀ call failure, Seeks actions key call →
    machine.stage? call = some (.finished (.failed failure)) →
    ∃! earlier, FailsAt actions key earlier call failure
  /-- After a refusal every call that waits for the cell may open a pool next. -/
  retried : ∀ earlier call failure before other definition cell,
    FailsAt actions key earlier call failure → (idle .empty).run earlier = some before →
    before.stage? other = some (.waiting definition key cell) →
    ∃ after later, (idle .empty).run (earlier ++ [.openEnds call (some failure)]) = some after ∧
      after.advance other = some later ∧
      later.stage? other = some (.opening definition key cell)
  /-- Without refusals one pool is asked for. -/
  unrefused : (∀ earlier call failure, ¬FailsAt actions key earlier call failure) →
    connects key machine.events ≤ 1 ∧
      ∀ call answer, Seeks actions key call → machine.stage? call = some (.finished answer) →
        connects key machine.events = 1

section Main

variable {actions : List Action} {key : PoolKey} {machine : Machine}

theorem eq_singleton_of_mem {items : List Pool} {pool : Pool} (once : items.length ≤ 1)
    (member : pool ∈ items) : items = [pool] := by
  match items, once, member with
  | [only], _, member => rw [List.mem_singleton.mp member]
  | _ :: _ :: _, once, _ => simp at once

/-- As long as nobody takes the cell of a key, its requests share one cell and open pools one after
another. At most one pool is opened, and it is what all requests return that do not fail
themselves. -/
theorem single_flight (course : (idle .empty).run actions = some machine)
    (undisturbed : Undisturbed actions key) : SingleFlight actions key machine := by
  have kept := (Reachable.start.run course).kept
  have single := single_of_undisturbed undisturbed course
  have answers {call : Nat} {answer : Answer} (seeks : Seeks actions key call)
      (finished : machine.stage? call = some (.finished answer)) :=
    (outcome_of_seeks undisturbed course seeks).finished_cases finished
  constructor
  case shared => exact exists_shared_cell undisturbed course
  case alone =>
    intro moment left right first second leftCell rightCell passes leftOpens rightOpens
    rcases single_of_passes undisturbed passes with ⟨atMoment, keptThen⟩
    exact atMoment.alone keptThen leftOpens rightOpens
  case once => exact single.once
  case served =>
    intro call pool seeks finished
    rcases answers seeks finished with ⟨other, equal, member⟩ | ⟨earlier, failure, equal, -⟩
    · cases equal
      exact eq_singleton_of_mem single.once member
    · cases equal
  case refused => exact fun earlier call failure fails => fails.finished course
  case own =>
    intro call failure seeks finished
    rcases answers seeks finished with ⟨pool, equal, -⟩ | ⟨earlier, other, equal, fails⟩
    · cases equal
    · cases equal
      exact ⟨earlier, fails, fun later again => again.unique fails⟩
  case retried =>
    intro earlier call failure before other definition cell fails reached waits
    exact fails.retried undisturbed course reached waits
  case unrefused =>
    intro unrefused
    have most := (attempted_of_unrefused undisturbed course unrefused).connects_le
    refine ⟨most, ?_⟩
    intro call answer seeks finished
    rcases answers seeks finished with ⟨pool, -, member⟩ | ⟨earlier, failure, -, fails⟩
    · exact Nat.le_antisymm most (connects_pos kept member)
    · exact absurd fails (unrefused earlier call failure)

end Main

/-- Two requests of one database, by default and by name, find no cell at the same time. The first
is refused a pool, the second opens one, and a third one joins it. -/
def raced : List Action := [
  .invoke (.register (shop "goods")), .advance 0,
  .invoke (.get "shop" none), .invoke (.get "shop" (some "goods")), .advance 1, .advance 2,
  .advance 2, .advance 1, .advance 1, .openEnds 1 (some (.internal "refused")),
  .advance 2, .openEnds 2 none, .advance 2,
  .invoke (.get "shop" none), .advance 3, .advance 3, .advance 3]

theorem single_flight_raced : ∃ machine, (idle .empty).run raced = some machine ∧
    Undisturbed raced ⟨"shop", some "goods"⟩ ∧
    SingleFlight raced ⟨"shop", some "goods"⟩ machine ∧
    machine.stage? 1 = some (.finished (.failed (.internal "refused"))) ∧
    machine.stage? 2 = some (.finished (.pool ⟨0, shop "goods", some "goods"⟩)) ∧
    machine.stage? 3 = some (.finished (.pool ⟨0, shop "goods", some "goods"⟩)) := by
  have possible : ((idle .empty).run raced).isSome := rfl
  rcases Option.isSome_iff_exists.mp possible with ⟨machine, course⟩
  have undisturbed : Undisturbed raced ⟨"shop", some "goods"⟩ := by
    apply undisturbed_of_requests
    intro request member
    simp only [raced, List.mem_cons, List.not_mem_nil, or_false, reduceCtorEq, false_or,
      Action.invoke.injEq] at member
    rcases member with rfl | rfl | rfl | rfl <;> rfl
  have flight := single_flight course undisturbed
  cases course
  exact ⟨_, rfl, undisturbed, flight, rfl, rfl, rfl⟩

end Machine

end SqlGateway.Registry
