import SqlGateway.Proofs.Registry.Cells
import SqlGateway.Proofs.Registry.Moves

/-!
# What every state keeps

Each call relies on what `Evolves` says of the registry between two of its actions, and each move
does no more than that: `Fits` is what a call may count on in its stage. The calls that read the
definitions and those that open a pool count on more, which is why others wait for them. Together
with the tidiness of the registry and the records in the events this is `Kept`, and
`Reachable.kept` says that it never breaks.
-/

namespace SqlGateway.Registry.Machine

/-- A call has the number of a cell that it looked up with a definition. As long as the cell is
placed, it is that of the key, and the definition is the one that the connection has. -/
structure Holds (registry : Registry) (request : Request) (definition : Definition)
    (key : PoolKey) (cell : Nat) : Prop where
  inside : cell < registry.cells.length
  asked : Requests request definition key
  named : definition.id = key.connection
  placed : ∀ {other}, (other, cell) ∈ registry.places →
    other = key ∧ registry.definitions.find? key.connection = some definition

/-- A cell that was taken. -/
structure Lost (registry : Registry) (cell : Nat) : Prop where
  inside : cell < registry.cells.length
  absent : ∀ {key}, (key, cell) ∉ registry.places

def Built (events : List Event) (pool : Pool) : Prop :=
  [.opened pool, .opening pool.definition pool.key].Sublist events

/-- What a call in a stage may count on, whatever the others do. -/
def Fits (registry : Registry) (events : List Event) (request : Request) : Stage → Prop
  | .entering | .finished _ => True
  | .reserving definition key => Requests request definition key
  | .waiting definition key cell => Holds registry request definition key cell
  | .opening definition key cell =>
    Holds registry request definition key cell ∧ .opening definition key ∈ events
  | .checking key cell pool _ =>
    (∃ definition, Holds registry request definition key cell) ∧
      registry.content cell = some pool
  | .discarding cell => Lost registry cell ∧ ∃ pool, registry.content cell = some pool
  | .closing cells _ => ∀ cell ∈ cells, Lost registry cell

section Evolve

variable {before after : Registry} {request : Request}

theorem Holds.evolve (evolves : Evolves before after) {definition : Definition} {key : PoolKey}
    {cell : Nat} (holds : Holds before request definition key cell) :
    Holds after request definition key cell where
  inside := Nat.lt_of_lt_of_le holds.inside evolves.length
  asked := holds.asked
  named := holds.named
  placed later := by
    rcases evolves.placed later holds.inside with ⟨earlier, same⟩
    rcases holds.placed earlier with ⟨rfl, known⟩
    exact ⟨rfl, same.trans known⟩

theorem Lost.evolve (evolves : Evolves before after) {cell : Nat} (lost : Lost before cell) :
    Lost after cell where
  inside := Nat.lt_of_lt_of_le lost.inside evolves.length
  absent later := lost.absent (evolves.placed later lost.inside).1

theorem Holds.built {registry : Registry} {definition : Definition} {key : PoolKey} {cell : Nat}
    (holds : Holds registry request definition key cell) {events : List Event}
    (began : .opening definition key ∈ events) {serial : Nat} :
    Built (.opened ⟨serial, definition, key.database⟩ :: events)
      ⟨serial, definition, key.database⟩ := by
  have same : Pool.key ⟨serial, definition, key.database⟩ = key := by
    rw [Pool.key, holds.named]
  rw [Built, same]
  exact (List.singleton_sublist.mpr began).cons_cons _

theorem Fits.evolve (evolves : Evolves before after) {events : List Event} (new : List Event)
    {stage : Stage} (fits : Fits before events request stage) :
    Fits after (new ++ events) request stage := by
  cases stage with
  | entering | finished => trivial
  | reserving definition key => exact fits
  | waiting definition key cell => exact Holds.evolve evolves fits
  | opening definition key cell =>
    exact ⟨fits.1.evolve evolves, List.mem_append_right new fits.2⟩
  | checking key cell pool created =>
    rcases fits with ⟨⟨definition, holds⟩, filled⟩
    exact ⟨⟨definition, holds.evolve evolves⟩, evolves.content filled⟩
  | discarding cell =>
    rcases fits with ⟨lost, pool, filled⟩
    exact ⟨lost.evolve evolves, pool, evolves.content filled⟩
  | closing cells closed => exact fun cell member => (fits cell member).evolve evolves

end Evolve

/-! ## What a move does to the registry -/

section Move

variable {registry after : Registry} {request : Request} {stage next : Stage}
  {events : List Event}

theorem connection_ne_of_drained {registry : Registry} {id : String} {key : PoolKey} {cell : Nat}
    (placed : (key, cell) ∈ (registry.drain id).2.places) : key.connection ≠ id := by
  rw [drain, mem_places_takeWhere] at placed
  simpa using placed.2

private theorem find?_insert_of_ne {definition : Definition} {id : String}
    (apart : id ≠ definition.id) :
    (registry.definitions.insert definition.id definition).find? id =
      registry.definitions.find? id := by
  rw [Entries.find?_insert, if_neg apart]

private theorem find?_erase_of_ne {id other : String} (apart : other ≠ id) :
    (registry.definitions.erase id).find? other = registry.definitions.find? other := by
  rw [Entries.find?_erase, if_neg apart]

private theorem connection_ne_of_unknown (tidy : Tidy registry) {id : String}
    (unknown : registry.definitions.find? id = none) {key : PoolKey} {cell : Nat}
    (placed : (key, cell) ∈ registry.places) : key.connection ≠ id := by
  rintro rfl
  rcases tidy.known placed with ⟨definition, known⟩
  rw [unknown] at known
  cases known

theorem Move.evolves (tidy : Tidy registry)
    (empty : ∀ {definition key cell}, stage = .opening definition key cell →
      registry.content cell = none)
    (move : Move registry request stage after next events) : Evolves registry after := by
  cases move with
  | registers _ unknown =>
    exact .define fun placed =>
      find?_insert_of_ne (connection_ne_of_unknown tidy unknown placed)
  | replaces =>
    exact (Evolves.takeWhere _).trans (.define fun placed =>
      find?_insert_of_ne (connection_ne_of_drained placed))
  | forgets =>
    exact (Evolves.takeWhere _).trans (.define fun placed =>
      find?_erase_of_ne (connection_ne_of_drained placed))
  | takes => exact .takeWhere _
  | reserves => exact .reserve _
  | begins | fails => exact .setBusy ..
  | opens => exact .fill (empty rfl)
  | _ => exact .refl

theorem Move.tidy (tidy : Tidy registry) {past : List Event}
    (fits : Fits registry past request stage)
    (known : ∀ {definition key}, stage = .reserving definition key →
      registry.definitions.find? key.connection = some definition)
    (move : Move registry request stage after next events) : Tidy after := by
  cases move with
  | registers _ unknown =>
    exact tidy.define (fun placed =>
      find?_insert_of_ne (connection_ne_of_unknown tidy unknown placed)) (tidy.named_insert _)
  | replaces =>
    exact (tidy.takeWhere _).define (fun placed =>
      find?_insert_of_ne (connection_ne_of_drained placed)) (tidy.named_insert _)
  | forgets =>
    refine (tidy.takeWhere _).define (fun placed =>
      find?_erase_of_ne (connection_ne_of_drained placed)) fun {id definition} known => ?_
    rw [Entries.find?_erase] at known
    split at known
    · cases known
    · exact tidy.named known
  | takes => exact tidy.takeWhere _
  | reserves => exact tidy.reserve (known rfl)
  | begins | fails => exact tidy.setBusy ..
  | opens =>
    refine tidy.fill fun placed => ?_
    rcases fits.1.placed placed with ⟨rfl, known⟩
    exact ⟨known, rfl⟩
  | _ => exact tidy

theorem Move.content_cases (move : Move registry request stage after next events) {cell : Nat}
    {pool : Pool} (filled : after.content cell = some pool) :
    registry.content cell = some pool ∨
      ∃ definition key, stage = .opening definition key cell ∧
        pool = ⟨registry.opened, definition, key.database⟩ ∧ events = [.opened pool] := by
  cases move with
  | reserves | begins | fails =>
    left
    simpa using filled
  | opens =>
    rcases content_fill_cases filled with filled | ⟨rfl, -, rfl⟩
    · exact .inl filled
    · exact .inr ⟨_, _, rfl, rfl, rfl⟩
  | _ => exact .inl filled

theorem Move.definitions_cases (move : Move registry request stage after next events) :
    after.definitions = registry.definitions ∨
      stage = .entering ∧ changesDefinitions request = true := by
  cases move with
  | registers asked | replaces asked | forgets asked =>
    subst asked
    exact .inr ⟨rfl, rfl⟩
  | reserves => exact .inl (definitions_reserve ..)
  | _ => exact .inl rfl

/-- A cell for which a pool is being opened is left alone by all but the call that does it. -/
theorem Move.keeps_opening (move : Move registry request stage after next events) {cell : Nat}
    (empty : registry.content cell = none) (busy : registry.isBusy cell = true)
    (other : ∀ definition key, stage ≠ .opening definition key cell) :
    after.content cell = none ∧ after.isBusy cell = true := by
  cases move with
  | reserves => simp [empty, busy]
  | @begins _ _ marked _ idle =>
    have apart : cell ≠ marked := by
      rintro rfl
      rw [busy] at idle
      cases idle
    rw [content_setBusy, isBusy_setBusy_of_ne registry apart]
    exact ⟨empty, busy⟩
  | @opens definition key filled =>
    have apart : cell ≠ filled := fun equal => other definition key (by rw [equal])
    rw [content_fill_of_ne _ _ apart, isBusy_fill_of_ne _ _ apart]
    exact ⟨empty, busy⟩
  | @fails definition key marked =>
    have apart : cell ≠ marked := fun equal => other definition key (by rw [equal])
    rw [content_setBusy, isBusy_setBusy_of_ne registry apart]
    exact ⟨empty, busy⟩
  | _ => exact ⟨empty, busy⟩

theorem Move.opened_inv (move : Move registry request stage after next events) {pool : Pool}
    (made : .opened pool ∈ events) :
    ∃ definition key cell, stage = .opening definition key cell ∧
      after = (registry.fill cell definition key.database).2 ∧
      pool = (registry.fill cell definition key.database).1 := by
  cases move with
  | opens => exact ⟨_, _, _, rfl, rfl, Event.opened.inj (List.mem_singleton.mp made)⟩
  | _ => simp at made

theorem Move.closing_inv (move : Move registry request stage after next events) {pool : Pool}
    (made : .closing pool ∈ events) :
    after = registry ∧ ∃ cell, registry.content cell = some pool ∧
      (stage = .discarding cell ∨ ∃ cells closed, stage = .closing (cell :: cells) closed) := by
  cases move with
  | discards filled =>
    cases List.mem_singleton.mp made
    exact ⟨rfl, _, filled, .inl rfl⟩
  | closes filled =>
    cases List.mem_singleton.mp made
    exact ⟨rfl, _, filled, .inr ⟨_, _, rfl⟩⟩
  | _ => simp at made

theorem lost_of_taken (tidy : Tidy registry) {taken : PoolKey → Bool} {cell : Nat}
    (member : cell ∈ (registry.takeWhere taken).1) : Lost (registry.takeWhere taken).2 cell := by
  rw [mem_takeWhere] at member
  rcases member with ⟨key, placed, isTaken⟩
  refine ⟨tidy.inside placed, fun {other} left => ?_⟩
  rw [mem_places_takeWhere] at left
  rw [tidy.key_unique left.1 placed, isTaken] at left
  cases left.2

theorem Move.reserving_inv {definition : Definition} {key : PoolKey}
    (move : Move registry request stage after (.reserving definition key) events) :
    after = registry ∧ registry.definitions.find? key.connection = some definition := by
  cases move with
  | lacks _ known => exact ⟨rfl, known⟩

theorem Move.opening_inv {definition : Definition} {key : PoolKey} {cell : Nat}
    (move : Move registry request stage after (.opening definition key cell) events) :
    stage = .waiting definition key cell ∧ after = registry.setBusy cell true ∧
      registry.content cell = none ∧ registry.isBusy cell = false ∧
      events = [.opening definition key] := by
  cases move with
  | begins empty idle => exact ⟨rfl, rfl, empty, idle, rfl⟩

theorem Move.fits (tidy : Tidy registry) {past : List Event}
    (fits : Fits registry past request stage)
    (known : ∀ {definition key}, stage = .reserving definition key →
      registry.definitions.find? key.connection = some definition)
    (move : Move registry request stage after next events) :
    Fits after (events ++ past) request next := by
  cases move with
  | misses | repeats | blank | registers | fails | returns | retries | discards | forsakes | ends =>
    trivial
  | replaces | forgets =>
    intro cell member
    have lost := lost_of_taken tidy member
    exact ⟨lost.inside, lost.absent⟩
  | takes => exact fun cell member => lost_of_taken tidy member
  | finds asked found placed =>
    exact {
      inside := tidy.inside placed
      asked
      named := tidy.named found
      placed := fun other => ⟨tidy.key_unique other placed, found⟩ }
  | lacks asked => exact asked
  | @reserves definition key =>
    have later := tidy.reserve (known rfl)
    have placed := mem_reserve registry key
    exact {
      inside := later.inside placed
      asked := fits
      named := tidy.named (known rfl)
      placed := fun other => ⟨later.key_unique other placed, by simpa using known rfl⟩ }
  | joins filled => exact ⟨⟨_, fits⟩, filled⟩
  | begins => exact ⟨Holds.evolve (.setBusy ..) fits, List.mem_cons_self⟩
  | opens =>
    rcases fits with ⟨holds, -⟩
    refine ⟨⟨_, ?_, holds.asked, holds.named, holds.placed⟩,
      content_fill_self _ _ holds.inside⟩
    simpa using holds.inside
  | loses lost =>
    rcases fits with ⟨⟨_, holds⟩, filled⟩
    refine ⟨⟨holds.inside, fun {other} placed => ?_⟩, _, filled⟩
    rcases holds.placed placed with ⟨rfl, -⟩
    rw [(isCurrent_iff tidy.keys).mpr placed] at lost
    cases lost
  | closes | passes => exact fun cell member => fits cell (List.mem_cons_of_mem _ member)

end Move

/-! ## What every state keeps -/

/-- The events tell which pools were opened and which were closed. -/
structure Records (registry : Registry) (events : List Event) : Prop where
  held : ∀ {cell pool}, registry.content cell = some pool → Built events pool
  kept : ∀ {pool}, .opened pool ∈ events → ∃ cell, registry.content cell = some pool
  closed : ∀ {pool}, .closing pool ∈ events → ∃ cell, registry.content cell = some pool
  unclosed : ∀ {key cell pool}, (key, cell) ∈ registry.places →
    registry.content cell = some pool → .closing pool ∉ events

structure Kept (machine : Machine) : Prop where
  tidy : Tidy machine.registry
  records : Records machine.registry machine.events
  fits : ∀ {call : Nat} {request : Request} {stage : Stage},
    machine.calls[call]? = some ⟨request, stage⟩ →
    Fits machine.registry machine.events request stage
  /-- Nobody changes a definition while a call is to make a cell for it. -/
  reads : ∀ {call : Nat} {request : Request} {definition : Definition} {key : PoolKey},
    machine.calls[call]? = some ⟨request, .reserving definition key⟩ →
    machine.registry.definitions.find? key.connection = some definition
  /-- Nobody touches a cell while a call opens the pool for it. -/
  opens : ∀ {call : Nat} {request : Request} {definition : Definition} {key : PoolKey}
    {cell : Nat}, machine.calls[call]? = some ⟨request, .opening definition key cell⟩ →
    machine.registry.content cell = none ∧ machine.registry.isBusy cell = true
  alone : ∀ {left right : Nat} {first second : Call} {definition other : Definition}
    {key otherKey : PoolKey} {cell : Nat},
    machine.calls[left]? = some first → first.stage = .opening definition key cell →
    machine.calls[right]? = some second → second.stage = .opening other otherKey cell →
    left = right

theorem Move.records {registry after : Registry} {request : Request} {stage next : Stage}
    {events past : List Event} (tidy : Tidy registry) (fits : Fits registry past request stage)
    (evolves : Evolves registry after) (records : Records registry past)
    (move : Move registry request stage after next events) : Records after (events ++ past) where
  held filled := by
    rcases move.content_cases filled with filled | ⟨definition, key, rfl, rfl, rfl⟩
    · exact (records.held filled).trans (List.sublist_append_right ..)
    · exact fits.1.built fits.2
  kept made := by
    rcases List.mem_append.mp made with made | made
    · rcases move.opened_inv made with ⟨definition, key, cell, rfl, rfl, rfl⟩
      exact ⟨cell, content_fill_self _ _ fits.1.inside⟩
    · rcases records.kept made with ⟨cell, filled⟩
      exact ⟨cell, evolves.content filled⟩
  closed made := by
    rcases List.mem_append.mp made with made | made
    · rcases move.closing_inv made with ⟨rfl, cell, filled, -⟩
      exact ⟨cell, filled⟩
    · rcases records.closed made with ⟨cell, filled⟩
      exact ⟨cell, evolves.content filled⟩
  unclosed {key cell pool} placed filled made := by
    rcases move.content_cases filled with filled | ⟨definition, other, rfl, rfl, rfl⟩
    · have earlier := (evolves.placed placed (lt_of_content filled)).1
      rcases List.mem_append.mp made with made | made
      · -- Only pools of lost cells are closed, and no other cell has this pool.
        rcases move.closing_inv made with ⟨-, closed, held, stages⟩
        rw [tidy.own held filled] at stages
        rcases stages with rfl | ⟨cells, count, rfl⟩
        · exact fits.1.absent earlier
        · exact (fits cell List.mem_cons_self).absent earlier
      · exact records.unclosed earlier filled made
    · -- The pool is new, and its serial is higher than those of the pools closed so far.
      rcases List.mem_append.mp made with made | made
      · simp at made
      · rcases records.closed made with ⟨other, held⟩
        exact Nat.lt_irrefl _ (tidy.serial held)

theorem kept_idle : Kept (idle .empty) where
  tidy := tidy_empty
  records := ⟨nofun, nofun, nofun, nofun⟩
  fits := nofun
  reads := nofun
  opens := nofun
  alone := nofun

theorem Kept.invoke {machine : Machine} (kept : Kept machine) (request : Request) :
    Kept { machine with calls := machine.calls ++ [⟨request, .entering⟩] } := by
  have earlier {call : Nat} {found : Call}
      (present : (machine.calls ++ [(⟨request, .entering⟩ : Call)])[call]? = some found)
      (further : found.stage ≠ .entering) : machine.calls[call]? = some found := by
    rcases invoked_cases present with earlier | ⟨-, rfl⟩
    · exact earlier
    · exact absurd rfl further
  exact {
    tidy := kept.tidy
    records := kept.records
    fits := fun {call asked stage} present => by
      by_cases entering : stage = .entering
      · rw [entering]
        trivial
      · exact kept.fits (earlier present entering)
    reads := fun present => kept.reads (earlier present nofun)
    opens := fun present => kept.opens (earlier present nofun)
    alone := fun left opensLeft right opensRight =>
      kept.alone (earlier left (by simp [opensLeft])) opensLeft
        (earlier right (by simp [opensRight])) opensRight }

theorem Kept.reorder {machine : Machine} (kept : Kept machine) {places : List (PoolKey × Nat)}
    (same : places.Perm machine.registry.places) :
    Kept { machine with registry := { machine.registry with places } } where
  tidy := kept.tidy.reorder same
  records :=
    ⟨kept.records.held, kept.records.kept, kept.records.closed,
      fun placed => kept.records.unclosed (same.subset placed)⟩
  fits present := (kept.fits present).evolve (.withPlaces same.subset) []
  reads := kept.reads
  opens := kept.opens
  alone := kept.alone

theorem Kept.evolves {machine : Machine} (kept : Kept machine) {call : Nat} {request : Request}
    {stage next : Stage} {registry : Registry} {events : List Event}
    (present : machine.calls[call]? = some ⟨request, stage⟩)
    (move : Move machine.registry request stage registry next events) :
    Evolves machine.registry registry := by
  refine move.evolves kept.tidy ?_
  rintro definition key cell rfl
  exact (kept.opens present).1

theorem Kept.move {machine : Machine} (kept : Kept machine) {call : Nat} {request : Request}
    {stage next : Stage} {registry : Registry} {events : List Event}
    (present : machine.calls[call]? = some ⟨request, stage⟩)
    (unread : stage = .entering → changesDefinitions request = true → machine.isRead = false)
    (move : Move machine.registry request stage registry next events) :
    Kept (machine.moved call registry request next events) := by
  have fits := kept.fits present
  have known {definition : Definition} {key : PoolKey}
      (equal : stage = .reserving definition key) :
      machine.registry.definitions.find? key.connection = some definition := by
    subst equal
    exact kept.reads present
  have evolves := kept.evolves present move
  constructor
  case tidy => exact move.tidy kept.tidy fits known
  case records => exact move.records kept.tidy fits evolves kept.records
  case fits =>
    intro other asked reached found
    rcases moved_cases found with ⟨-, equal⟩ | ⟨-, earlier⟩
    · cases equal
      exact move.fits kept.tidy fits known
    · exact (kept.fits earlier).evolve evolves events
  case reads =>
    intro other asked definition key found
    rcases moved_cases found with ⟨-, equal⟩ | ⟨-, earlier⟩
    · cases equal
      rcases move.reserving_inv with ⟨rfl, known⟩
      exact known
    · rcases move.definitions_cases with same | ⟨entering, changes⟩
      · exact same ▸ kept.reads earlier
      · have read : machine.isRead = true :=
          List.any_eq_true.mpr ⟨_, List.mem_of_getElem? earlier, rfl⟩
        rw [unread entering changes] at read
        cases read
  case opens =>
    intro other asked definition key cell found
    rcases moved_cases found with ⟨-, equal⟩ | ⟨apart, earlier⟩
    · cases equal
      rcases move.opening_inv with ⟨rfl, rfl, empty, -, -⟩
      exact ⟨(content_setBusy ..).trans empty, isBusy_setBusy_self fits.inside true⟩
    · rcases kept.opens earlier with ⟨empty, busy⟩
      refine move.keeps_opening empty busy ?_
      rintro _ _ rfl
      exact apart (kept.alone earlier rfl present rfl)
  case alone =>
    -- A call begins to open a pool only for a cell that nobody else opens one for.
    have begins {other : Nat} {first : Call} {definition otherDefinition : Definition}
        {key otherKey : PoolKey} {cell : Nat} (begins : next = .opening definition key cell)
        (earlier : machine.calls[other]? = some first)
        (opening : first.stage = .opening otherDefinition otherKey cell) : False := by
      subst begins
      rcases first with ⟨asked, _⟩
      cases opening
      rcases move.opening_inv with ⟨-, -, -, idle, -⟩
      rw [(kept.opens earlier).2] at idle
      cases idle
    intro left right first second definition other key otherKey cell leftFound opensLeft
      rightFound opensRight
    rcases moved_cases leftFound with ⟨rfl, rfl⟩ | ⟨-, leftEarlier⟩ <;>
      rcases moved_cases rightFound with ⟨rfl, rfl⟩ | ⟨-, rightEarlier⟩
    · rfl
    · exact (begins opensLeft rightEarlier opensRight).elim
    · exact (begins opensRight leftEarlier opensLeft).elim
    · exact kept.alone leftEarlier opensLeft rightEarlier opensRight

theorem Kept.step {before after : Machine} (steps : Steps before after) (kept : Kept before) :
    Kept after := by
  cases steps with
  | invokes request => exact kept.invoke request
  | reorders places same => exact kept.reorder same
  | moves present unread move => exact kept.move present unread move

theorem Steps.evolves {before after : Machine} (steps : Steps before after)
    (kept : Kept before) : Evolves before.registry after.registry := by
  cases steps with
  | invokes => exact .refl
  | reorders _ same => exact .withPlaces same.subset
  | moves present _ move => exact kept.evolves present move

theorem Reachable.kept {machine : Machine} (reachable : Reachable machine) : Kept machine := by
  induction reachable with
  | start => exact kept_idle
  | step action _ steps kept => exact kept.step (steps_of_step steps)

/-! ## Busy cells -/

/-- A move leaves a cell busy only if it was so and another opens the pool, or if it is the one that
begins to open the pool. -/
theorem Move.busy_cases {registry after : Registry} {request : Request} {stage next : Stage}
    {events : List Event} (move : Move registry request stage after next events) {cell : Nat}
    (busy : after.isBusy cell = true) :
    (registry.isBusy cell = true ∧ ∀ definition key, stage ≠ .opening definition key cell) ∨
      ∃ definition key, next = .opening definition key cell := by
  cases move with
  | reserves =>
    rw [isBusy_reserve] at busy
    exact .inl ⟨busy, by rintro _ _ ⟨⟩⟩
  | @begins definition key marked =>
    by_cases same : cell = marked
    · subst same
      exact .inr ⟨definition, key, rfl⟩
    · rw [isBusy_setBusy_of_ne registry same] at busy
      exact .inl ⟨busy, by rintro _ _ ⟨⟩⟩
  | @opens definition key filled =>
    by_cases same : cell = filled
    · subst same
      rw [isBusy_fill_self] at busy
      cases busy
    · rw [isBusy_fill_of_ne _ _ same] at busy
      exact .inl ⟨busy, fun _ _ equal => same (by cases equal; rfl)⟩
  | @fails definition key marked =>
    by_cases same : cell = marked
    · subst same
      rw [isBusy_setBusy_false] at busy
      cases busy
    · rw [isBusy_setBusy_of_ne registry same] at busy
      exact .inl ⟨busy, fun _ _ equal => same (by cases equal; rfl)⟩
  | _ => exact .inl ⟨busy, by rintro _ _ ⟨⟩⟩

theorem waiting_of_busy {before after : Machine} {action : Action} {cell : Nat}
    (steps : before.step action = some after) (idle : before.registry.isBusy cell = false)
    (busy : after.registry.isBusy cell = true) :
    ∃ (call : Nat) (request : Request) (definition : Definition) (key : PoolKey),
      action.call? = some call ∧
        before.calls[call]? = some ⟨request, .waiting definition key cell⟩ := by
  have moves {call : Nat} (acts : action.call? = some call) :
      ∃ request definition key,
        before.calls[call]? = some ⟨request, .waiting definition key cell⟩ := by
    rcases moves_of_step steps acts with @⟨request, stage, next, registry, _, present, _, move⟩
    rcases move.busy_cases busy with ⟨earlier, -⟩ | ⟨definition, key, rfl⟩
    · cases idle.symm.trans earlier
    · rcases move.opening_inv with ⟨rfl, -⟩
      exact ⟨request, definition, key, present⟩
  cases action with
  | advance call | openEnds call _ | close call _ =>
    rcases moves rfl with ⟨request, definition, key, present⟩
    exact ⟨call, request, definition, key, rfl, present⟩
  | invoke request =>
    cases steps
    cases idle.symm.trans busy
  | reorder places =>
    rw [step, reorder] at steps
    split at steps
    · cases steps
      cases idle.symm.trans busy
    · cases steps

theorem Reachable.attended {machine : Machine} (reachable : Reachable machine) {cell : Nat}
    (busy : machine.registry.isBusy cell = true) :
    ∃ (call : Nat) (request : Request) (definition : Definition) (key : PoolKey),
      machine.calls[call]? = some ⟨request, .opening definition key cell⟩ := by
  induction reachable with
  | start => cases busy
  | @step before after action _ steps attended =>
    cases steps_of_step steps with
    | invokes asked =>
      rcases attended busy with ⟨call, request, definition, key, found⟩
      refine ⟨call, request, definition, key, ?_⟩
      rw [List.getElem?_append_left (List.getElem?_eq_some_iff.mp found).1]
      exact found
    | reorders => exact attended busy
    | @moves moving asked stage next registry events present _ move =>
      rcases move.busy_cases busy with ⟨earlier, others⟩ | ⟨definition, key, rfl⟩
      · rcases attended earlier with ⟨call, request, definition, key, found⟩
        have apart : moving ≠ call := by
          rintro rfl
          rw [found] at present
          cases present
          exact others definition key rfl
        exact ⟨call, request, definition, key, by rw [moved, List.getElem?_set_ne apart, found]⟩
      · refine ⟨moving, asked, definition, key, ?_⟩
        exact calls_moved_self present _ _ _ _

end SqlGateway.Registry.Machine
