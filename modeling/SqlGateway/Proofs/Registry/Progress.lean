import SqlGateway.Proofs.Registry.Guards

/-!
# Nobody waits forever for another

A call that waits for the server side holds no guard, so it keeps nobody from going on. All others
wait in an order: for the pools, for the definitions, for a permit. Those who hold the pools wait
for nobody, those who hold the definitions wait for the pools only, and a permit that is taken
belongs to a call that waits for the server side. So if some party is not at its end, one can act.

Main statement: `never_stuck`.
-/

namespace SqlGateway.Registry.Guarded

variable {state : Guarded} {party : Party} {call : Nat}

/-! ## Waiting for the server side -/

theorem awaitsServer_iff : state.awaitsServer call = true ↔
    state.phases (.call call) = .closing ∨
      ∃ stage, state.machine.stage? call = some stage ∧ stage.isOpening = true := by
  simp [awaitsServer, Option.any_eq_true]

theorem Sound.holds_of_awaits (sound : Sound state) (awaits : state.awaitsServer call = true)
    (guard : Guard) : (state.phases (.call call)).holds guard = none := by
  rcases awaitsServer_iff.mp awaits with closing | ⟨stage, found, opens⟩
  · rw [closing]
    cases guard <;> rfl
  · rcases Machine.stage?_eq_some_iff.mp found with ⟨request, present⟩
    rw [(sound.calls present).outside_of_opening opens]
    cases guard <;> rfl

theorem Sound.evolves {before after : Guarded} {turn : Turn} (sound : Sound before)
    (steps : before.step turn = some after) :
    Evolves before.machine.registry after.machine.registry := by
  rcases machine_of_step steps with ⟨action, moves, -⟩
  exact (Machine.steps_of_step moves).evolves sound.reachable.kept

theorem Reachable.closing_filled (reachable : Reachable state)
    (closing : state.phases (.call call) = .closing) :
    ∃ stage cell, state.machine.stage? call = some stage ∧
      Machine.closing? stage = some cell ∧ (state.machine.registry.content cell).isSome := by
  induction reachable with
  | start => cases closing
  | @step before after turn reachable steps filled =>
    have sound := reachable.sound
    have evolves := sound.evolves steps
    -- A call that was closing the pool before goes on unless its stage changes.
    have goesOn (earlier : before.phases (.call call) = .closing)
        (still : ∀ {stage cell}, before.machine.stage? call = some stage →
          Machine.closing? stage = some cell → after.machine.stage? call = some stage) :
        ∃ stage cell, after.machine.stage? call = some stage ∧
          Machine.closing? stage = some cell ∧
          (after.machine.registry.content cell).isSome := by
      rcases filled earlier with ⟨stage, cell, present, closes, held⟩
      rcases Option.isSome_iff_exists.mp held with ⟨pool, held⟩
      exact ⟨stage, cell, still present closes, closes,
        Option.isSome_iff_exists.mpr ⟨pool, evolves.content held⟩⟩
    cases turn with
    | invoke request =>
      cases steps
      apply goesOn closing
      intro stage cell present _
      rcases Machine.stage?_eq_some_iff.mp present with ⟨asked, found⟩
      rw [Machine.stage?, List.getElem?_append_left (List.getElem?_eq_some_iff.mp found).1]
      exact present
    | inquire inquiry =>
      cases steps
      exact goesOn closing fun present _ => present
    | act party =>
      have acts := acts_of_act steps
      by_cases own : .call call = party
      · subst own
        cases acts with
        | closes _ present closes held => exact ⟨_, _, present, closes, held⟩
        | proceeds outside _ _ performed =>
          rw [(perform_frame performed).1, outside] at closing
          cases closing
        | _ =>
          rw [phases_setPhase_self] at closing
          cases closing
      · apply goesOn ((acts.frame.phases own).symm.trans closing)
        intro stage cell present _
        rw [Machine.stage?, acts.frame.calls own]
        exact present
    | openEnds other failure =>
      rcases Option.map_eq_some_iff.mp steps with ⟨machine, ended, rfl⟩
      apply goesOn closing
      intro stage cell present closes
      by_contra left
      have own : (Machine.Action.openEnds other failure).call? = some call :=
        Machine.call?_of_stage?_ne ended present left
      cases own
      rw [Machine.openEnds, present] at ended
      cases stage with
      | opening => cases closes
      | _ => cases ended
    | closeEnds other succeeds =>
      rcases closeEnds_inv steps with ⟨-, machine, closed, rfl⟩
      by_cases own : Party.call call = .call other
      · rw [own, phases_setPhase_self] at closing
        cases closing
      · apply goesOn ((assign_of_ne before.phases .outside own).symm.trans closing)
        intro stage cell present _
        by_contra left
        have acts : (Machine.Action.close other succeeds).call? = some call :=
          Machine.call?_of_stage?_ne closed present left
        cases acts
        exact own rfl
    | reorder places =>
      rcases Option.map_eq_some_iff.mp steps with ⟨machine, reordered, rfl⟩
      apply goesOn closing
      intro stage cell present _
      by_contra left
      have own : (Machine.Action.reorder places).call? = some call :=
        Machine.call?_of_stage?_ne reordered present left
      cases own

theorem exists_answer (reachable : Reachable state) (awaits : state.awaitsServer call = true) :
    ∃ turn next, (turn = .openEnds call none ∨ turn = .closeEnds call true) ∧
      state.step turn = some next := by
  rcases awaitsServer_iff.mp awaits with closing | ⟨stage, found, opens⟩
  · rcases reachable.closing_filled closing with ⟨stage, cell, present, closes, filled⟩
    have possible : (state.machine.close call true).isSome := by
      rw [Machine.close_isSome present, closes]
      exact filled
    rcases Option.isSome_iff_exists.mp possible with ⟨machine, closed⟩
    exact ⟨.closeEnds call true, { state with machine }.setPhase (.call call) .outside, .inr rfl,
      by rw [step, if_pos closing, closed]; rfl⟩
  · have possible : (state.machine.openEnds call none).isSome := by
      cases stage with
      | opening definition key cell =>
        rw [Machine.openEnds, found]
        rfl
      | _ => cases opens
    rcases Option.isSome_iff_exists.mp possible with ⟨machine, opened⟩
    exact ⟨.openEnds call none, { state with machine }, .inl rfl, by rw [step, opened]; rfl⟩

/-! ## Sections -/

theorem Sound.perform_isSome (sound : Sound state) {request : Request} {stage : Stage}
    (present : state.machine.calls[call]? = some ⟨request, stage⟩)
    (guarded : stage.isSection = true)
    (holds : (state.phases (.call call)).holds .definitions = stage.definitionsMode request) :
    (state.perform (.call call)).isSome := by
  rw [perform, Option.isSome_map, Machine.advance_isSome present]
  cases stage with
  | reserving | checking => rfl
  | entering =>
    cases changes : Machine.changesDefinitions request with
    | false => simp [Machine.isFree, changes]
    | true =>
      -- Who changes the definitions holds them alone, so nobody else reads them.
      have writes : Stage.entering.definitionsMode request = some .write := by
        cases request <;> first | rfl | cases changes
      have unread : state.machine.isRead = false := by
        rw [Machine.isRead, Bool.eq_false_iff]
        intro read
        rcases List.any_eq_true.mp read with ⟨found, member, reads⟩
        rcases List.getElem?_of_mem member with ⟨other, place⟩
        have reader := (sound.calls place).holds_of_reads reads
        have alone := (sound.tied .definitions).alone
          ((sound.tied .definitions).held.mpr (holds.trans writes))
          ((sound.tied .definitions).held.mpr reader)
        cases alone
        cases (holds.trans writes).symm.trans reader
      simp [Machine.isFree, changes, unread]
  | waiting | opening | discarding | closing | finished => cases guarded

theorem Sound.act_of_holdsPools (sound : Sound state) {outer : Option Mode} {mode : Mode}
    {done : Bool} (phase : state.phases party = .holdsPools outer mode done) :
    (state.act party).isSome := by
  unfold act
  rw [phase]
  cases done with
  | true => cases outer <;> rfl
  | false =>
    cases party with
    | inquiry number => rfl
    | call call =>
      have inside := sound.inside (by rw [phase]; nofun)
      have present := List.getElem?_eq_getElem inside
      have fits := sound.calls present
      rw [phase] at fits
      have performs := sound.perform_isSome present fits.2 (by rw [phase, fits.1]; rfl)
      simpa using performs

theorem Sound.act_of_holdsDefinitions (sound : Sound state) {mode : Mode} {done : Bool}
    (phase : state.phases party = .holdsDefinitions mode done) : (state.act party).isSome := by
  unfold act
  rw [phase]
  cases done with
  | true => rfl
  | false =>
    dsimp only
    cases needs : state.poolsMode party with
    | some inner => rfl
    | none =>
      cases party with
      | inquiry number => rfl
      | call call =>
        have inside := sound.inside (by rw [phase]; nofun)
        have present := List.getElem?_eq_getElem inside
        have fits := sound.calls present
        rw [phase] at fits
        have guarded : state.machine.calls[call].stage.isSection = true :=
          isSection_of_definitionsMode fits
        have performs := sound.perform_isSome present guarded (by rw [phase]; exact fits.symm)
        simpa using performs

/-! ## Waiting for a guard or a permit -/

theorem Sound.act_of_first (sound : Sound state) {guard : Guard} {mode : Mode}
    {queue : List (Party × Mode)} (free : (state.locks guard).holders = [])
    (first : (state.locks guard).queue = (party, mode) :: queue) : (state.act party).isSome := by
  have takes := Lock.take_of_free free first
  have asks : (state.phases party).asks guard = some mode :=
    (sound.tied guard).asked.mp (by simp [first])
  unfold act
  cases phase : state.phases party with
  | asksDefinitions mode =>
    rw [phase] at asks
    cases guard with
    | definitions => simpa [take] using takes
    | pools => cases asks
  | asksPools outer mode =>
    rw [phase] at asks
    cases guard with
    | definitions => cases asks
    | pools => simpa [take] using takes
  | _ =>
    rw [phase] at asks
    cases guard <;> cases asks

theorem Sound.exists_act_of_queue (sound : Sound state) {guard : Guard}
    (free : (state.locks guard).holders = []) (waiting : (state.locks guard).queue ≠ []) :
    ∃ party, state.phases party ≠ .outside ∧ (state.act party).isSome := by
  rcases List.exists_cons_of_ne_nil waiting with ⟨⟨party, mode⟩, queue, first⟩
  refine ⟨party, ?_, sound.act_of_first free first⟩
  have asks : (state.phases party).asks guard = some mode :=
    (sound.tied guard).asked.mp (by simp [first])
  intro outside
  rw [outside] at asks
  cases guard <;> cases asks

theorem Sound.exists_waiter (sound : Sound state)
    (phase : state.phases (.call call) = .asksPermit) : ∃ cell, (call, cell) ∈ state.waiters := by
  have inside := sound.inside (by rw [phase]; nofun)
  have present := List.getElem?_eq_getElem inside
  have fits := sound.calls present
  rw [phase] at fits
  rcases fits with ⟨definition, key, cell, waits⟩
  refine ⟨cell, sound.waiters.mpr ⟨phase, definition, key, ?_⟩⟩
  rw [← waits]
  exact Machine.stage?_eq_some_iff.mpr ⟨_, present⟩

theorem Sound.act_of_waiter (sound : Sound state) {cell : Nat}
    (waits : (call, cell) ∈ state.waiters)
    (admitted : (state.machine.registry.content cell).isSome ∨
      state.waiters.find? (fun waiter => waiter.2 = cell) = some (call, cell) ∧
        state.machine.registry.isBusy cell = false) : (state.act (.call call)).isSome := by
  rcases sound.waiters.mp waits with ⟨asks, definition, key, stage⟩
  rcases Machine.stage?_eq_some_iff.mp stage with ⟨request, present⟩
  have performs : (state.perform (.call call)).isSome := by
    rw [perform, Option.isSome_map, Machine.advance_isSome present]
    rcases admitted with filled | ⟨-, free⟩
    · simp [Machine.isFree, filled]
    · simp [Machine.isFree, free]
  have enters : (state.machine.registry.content cell).isSome ∨
      state.waiters.find? (fun waiter => waiter.2 = cell) = some (call, cell) :=
    admitted.imp_right And.left
  unfold act
  rw [asks]
  simp only [permit, stage, if_pos enters, Option.isSome_map]
  exact performs

theorem Sound.exists_act_of_permit (sound : Sound state)
    (answered : ∀ call, state.awaitsServer call = false)
    (phase : state.phases (.call call) = .asksPermit) :
    ∃ party, state.phases party ≠ .outside ∧ (state.act party).isSome := by
  rcases sound.exists_waiter phase with ⟨cell, listed⟩
  have someone : (state.waiters.find? fun waiter => waiter.2 = cell).isSome := by
    rw [List.find?_isSome]
    exact ⟨(call, cell), listed, by simp⟩
  rcases Option.isSome_iff_exists.mp someone with ⟨⟨first, place⟩, found⟩
  have same : place = cell := by simpa using List.find?_some found
  subst same
  -- A permit that is taken belongs to a call that opens the pool.
  have free : state.machine.registry.isBusy place = false := by
    rw [Bool.eq_false_iff]
    intro busy
    rcases sound.reachable.attended busy with ⟨opener, asked, _, _, opens⟩
    have awaits : state.awaitsServer opener = true :=
      awaitsServer_iff.mpr (.inr ⟨_, Machine.stage?_eq_some_iff.mpr ⟨asked, opens⟩, rfl⟩)
    rw [answered opener] at awaits
    cases awaits
  have waits := List.mem_of_find?_eq_some found
  refine ⟨.call first, ?_, sound.act_of_waiter waits (.inr ⟨found, free⟩)⟩
  rw [(sound.waiters.mp waits).1]
  nofun

/-! ## Outside the guards -/

theorem needs_guard {question : Question} (unanswered : question.finding = none) :
    question.definitionsMode ≠ none ∨ question.poolsMode ≠ none := by
  rcases question with ⟨inquiry, finding⟩
  cases unanswered
  cases inquiry with
  | definition | list => exact .inl nofun
  | poolCount => exact .inr nofun

theorem goOn_isSome {request : Request} {stage : Stage}
    (present : state.machine.calls[call]? = some ⟨request, stage⟩)
    (unguarded : stage.definitionsMode request = none)
    (apart : stage.poolsMode state.machine.registry request = none)
    (unfinished : stage.isFinished = false) (closed : stage.isOpening = false) :
    (state.goOn call).isSome := by
  have performs (free : state.machine.isFree request stage = true) :
      (state.perform (.call call)).isSome := by
    rw [perform, Option.isSome_map, Machine.advance_isSome present]
    exact free
  have found : state.machine.stage? call = some stage :=
    Machine.stage?_eq_some_iff.mpr ⟨request, present⟩
  cases stage with
  | entering =>
    have unchanging : Machine.changesDefinitions request = false := by
      cases request <;> first | rfl | cases unguarded
    simp only [goOn, found]
    exact performs (by simp [Machine.isFree, unchanging])
  | waiting definition key cell =>
    simp only [goOn, found]
    split
    · next filled => exact performs (by simp [Machine.isFree, filled])
    · rfl
  | discarding cell =>
    simp only [goOn, found]
    split
    · rfl
    · next empty => exact performs (by simpa [Machine.isFree] using empty)
  | closing cells count =>
    cases cells with
    | nil =>
      simp only [goOn, found]
      exact performs rfl
    | cons cell cells =>
      simp only [goOn, found]
      split
      · rfl
      · next empty => exact performs (by simpa [Machine.isFree] using empty)
  | reserving => cases unguarded
  | checking => cases apart
  | opening => cases closed
  | finished => cases unfinished

theorem act_of_outside (outside : state.phases party = .outside)
    (running : state.isRunning party = true)
    (answered : ∀ call, party = .call call → state.awaitsServer call = false) :
    (state.act party).isSome := by
  unfold act
  rw [outside]
  dsimp only
  cases first : state.definitionsMode party with
  | some mode => simp [approach, first]
  | none =>
    cases second : state.poolsMode party with
    | some mode => simp [approach, first, second]
    | none =>
      simp only [approach, first, second]
      cases party with
      | inquiry number =>
        rw [isRunning, outside] at running
        cases asked : state.questions[number]? with
        | none => simp [asked] at running
        | some question =>
          rw [definitionsMode, asked] at first
          rw [poolsMode, asked] at second
          have unanswered : question.finding = none := by simpa [asked] using running
          rcases needs_guard unanswered with needs | needs
          · exact absurd first needs
          · exact absurd second needs
      | call call =>
        have going : state.machine.isRunning call = true := by
          simpa [isRunning, outside] using running
        rw [Machine.isRunning, Option.any_eq_true] at going
        rcases going with ⟨stage, found, unfinished⟩
        rcases Machine.stage?_eq_some_iff.mp found with ⟨request, present⟩
        rw [definitionsMode_call present] at first
        rw [poolsMode_call present] at second
        have closed : stage.isOpening = false := by
          rw [Bool.eq_false_iff]
          intro opens
          have awaits := awaitsServer_iff.mpr (.inr ⟨stage, found, opens⟩)
          rw [answered call rfl] at awaits
          cases awaits
        exact goOn_isSome present first second (by simpa using unfinished) closed

theorem act_of_rest (rests : state.isRunning party = false) : state.act party = none := by
  unfold isRunning at rests
  rcases Bool.or_eq_false_iff.mp rests with ⟨outside, ended⟩
  have outside : state.phases party = .outside := by simpa using outside
  unfold act
  rw [outside]
  cases party with
  | inquiry number =>
    cases asked : state.questions[number]? with
    | none => simp [approach, definitionsMode, poolsMode, asked]
    | some question =>
      rcases question with ⟨inquiry, finding⟩
      cases finding with
      | none => simp [asked] at ended
      | some finding =>
        simp [approach, definitionsMode, poolsMode, asked, Question.definitionsMode,
          Question.poolsMode]
  | call call =>
    cases found : state.machine.calls[call]? with
    | none =>
      simp [approach, definitionsMode, poolsMode, goOn, perform, Machine.stage?, Machine.advance,
        found]
    | some present =>
      rcases present with ⟨request, stage⟩
      have here := Machine.stage?_eq_some_iff.mpr ⟨request, found⟩
      cases stage with
      | finished answer =>
        simp [approach, definitionsMode_call found, poolsMode_call found, Stage.definitionsMode,
          Stage.poolsMode, goOn, here, perform, Machine.advance, found]
      | _ => simp [Machine.isRunning, here, Stage.isFinished] at ended

/-! ## Who is next -/

theorem Sound.queue_ne_nil (sound : Sound state) {guard : Guard}
    (free : (state.locks guard).holders = [])
    (involved : (state.phases party).holds guard ≠ none ∨ (state.phases party).asks guard ≠ none) :
    (state.locks guard).queue ≠ [] := by
  rcases involved with holds | asks
  · rcases Option.ne_none_iff_exists'.mp holds with ⟨mode, holds⟩
    have member := (sound.tied guard).held.mpr holds
    rw [free] at member
    cases member
  · rcases Option.ne_none_iff_exists'.mp asks with ⟨mode, asks⟩
    exact List.ne_nil_of_mem ((sound.tied guard).asked.mpr asks)

/-- If anybody has to do with the pools, one of them can act: those who hold them, or else the first
who waits for them. -/
theorem Sound.exists_act_of_pools (sound : Sound state)
    (involved : (state.phases party).holds .pools ≠ none ∨
      (state.phases party).asks .pools ≠ none) :
    ∃ party, state.phases party ≠ .outside ∧ (state.act party).isSome := by
  by_cases free : (state.locks .pools).holders = []
  · exact sound.exists_act_of_queue free (sound.queue_ne_nil free involved)
  · rcases List.exists_mem_of_ne_nil _ free with ⟨⟨holder, mode⟩, member⟩
    have holds := (sound.tied .pools).held.mp member
    cases phase : state.phases holder with
    | holdsPools outer mode done =>
      exact ⟨holder, by rw [phase]; nofun, sound.act_of_holdsPools phase⟩
    | _ =>
      rw [phase] at holds
      cases holds

/-- The same for the definitions. Those who hold them and wait for the pools leave it to those who
hold the pools. -/
theorem Sound.exists_act_of_definitions (sound : Sound state)
    (involved : (state.phases party).holds .definitions ≠ none ∨
      (state.phases party).asks .definitions ≠ none) :
    ∃ party, state.phases party ≠ .outside ∧ (state.act party).isSome := by
  by_cases free : (state.locks .definitions).holders = []
  · exact sound.exists_act_of_queue free (sound.queue_ne_nil free involved)
  · rcases List.exists_mem_of_ne_nil _ free with ⟨⟨holder, mode⟩, member⟩
    have holds := (sound.tied .definitions).held.mp member
    cases phase : state.phases holder with
    | holdsDefinitions mode done =>
      exact ⟨holder, by rw [phase]; nofun, sound.act_of_holdsDefinitions phase⟩
    | asksPools outer mode =>
      exact sound.exists_act_of_pools (.inr (by rw [phase]; exact nofun))
    | holdsPools outer mode done =>
      exact sound.exists_act_of_pools (.inl (by rw [phase]; exact nofun))
    | _ =>
      rw [phase] at holds
      cases holds

/-- If some party is not at its end and none waits for the server side, then one can act. -/
theorem Sound.exists_act (sound : Sound state) (running : state.isRunning party = true)
    (answered : ∀ call, state.awaitsServer call = false) :
    ∃ party, state.isRunning party = true ∧ (state.act party).isSome := by
  have busy (found : ∃ party, state.phases party ≠ .outside ∧ (state.act party).isSome) :
      ∃ party, state.isRunning party = true ∧ (state.act party).isSome := by
    rcases found with ⟨party, apart, acts⟩
    exact ⟨party, by simp [isRunning, apart], acts⟩
  cases phase : state.phases party with
  | outside => exact ⟨party, running, act_of_outside phase running fun call _ => answered call⟩
  | asksDefinitions mode =>
    exact busy (sound.exists_act_of_definitions (.inr (by rw [phase]; exact nofun)))
  | holdsDefinitions mode done =>
    exact busy (sound.exists_act_of_definitions (.inl (by rw [phase]; exact nofun)))
  | asksPools outer mode =>
    exact busy (sound.exists_act_of_pools (.inr (by rw [phase]; exact nofun)))
  | holdsPools outer mode done =>
    exact busy (sound.exists_act_of_pools (.inl (by rw [phase]; exact nofun)))
  | asksPermit =>
    cases party with
    | inquiry number => exact absurd phase sound.inquiries.1
    | call call => exact busy (sound.exists_act_of_permit answered phase)
  | closing =>
    cases party with
    | inquiry number => exact absurd phase sound.inquiries.2
    | call call =>
      have awaits := awaitsServer_iff.mpr (.inl phase)
      rw [answered call] at awaits
      cases awaits

/-- No guard is held while the server side opens or closes a pool, and if some call or inquiry is
not at its end, then one that is not can take a step, or the server side has to answer. -/
theorem never_stuck {state : Guarded} (reachable : Reachable state) :
    (∀ call, state.awaitsServer call = true →
      ∀ guard mode, (.call call, mode) ∉ (state.locks guard).holders) ∧
    ((∃ party, state.isRunning party = true) → (∀ call, state.awaitsServer call = false) →
      ∃ party next, state.isRunning party = true ∧ state.step (.act party) = some next) := by
  have sound := reachable.sound
  constructor
  · intro call awaits guard mode holds
    have held := (sound.tied guard).held.mp holds
    rw [sound.holds_of_awaits awaits guard] at held
    cases held
  · rintro ⟨party, running⟩ answered
    rcases sound.exists_act running answered with ⟨able, runs, acts⟩
    rcases Option.isSome_iff_exists.mp acts with ⟨next, acted⟩
    exact ⟨able, next, runs, acted⟩

/-- One call holds the pools, a second holds the definitions and waits for the pools, a third waits
for the definitions behind it, and an inquiry waits for the pools too. -/
def crowd : List Turn := [
  .invoke (.register (Machine.shop "old")), .act (.call 0), .act (.call 0), .act (.call 0),
  .act (.call 0), .invoke (.removeAll "shop"), .act (.call 1), .act (.call 1),
  .invoke (.update (Machine.shop "new")), .act (.call 2), .act (.call 2), .act (.call 2),
  .invoke (.get "shop" none), .act (.call 3), .inquire .poolCount, .act (.inquiry 0)]

def connection : List Turn :=
  [.invoke (.register (Machine.shop "old")), .act (.call 0), .act (.call 0), .act (.call 0),
    .act (.call 0), .invoke (.get "shop" none)] ++ List.replicate 13 (.act (.call 1))

theorem awaitsServer_of_absent {state : Guarded} (sound : Sound state) {call : Nat}
    (absent : state.machine.calls.length ≤ call) : state.awaitsServer call = false := by
  rw [awaitsServer, sound.absent absent, Machine.stage?, List.getElem?_eq_none absent]
  rfl

theorem never_stuck_crowd : ∃ crowded connecting,
    start.run crowd = some crowded ∧ start.run connection = some connecting ∧
    crowded.phases (.call 2) = .asksPools (some .write) .write ∧
    crowded.phases (.call 3) = .asksDefinitions .read ∧
    (∃ party next, crowded.isRunning party = true ∧ crowded.step (.act party) = some next) ∧
    connecting.awaitsServer 1 = true ∧
    ∀ guard mode, (.call 1, mode) ∉ (connecting.locks guard).holders := by
  have possible : (start.run crowd).isSome ∧ (start.run connection).isSome := ⟨rfl, rfl⟩
  rcases possible with ⟨first, second⟩
  rcases Option.isSome_iff_exists.mp first with ⟨crowded, first⟩
  rcases Option.isSome_iff_exists.mp second with ⟨connecting, second⟩
  have reachable : Reachable crowded := Reachable.start.run first
  have calls : crowded.machine.calls.length = 4 := by
    cases first
    rfl
  have waits : crowded.phases (.call 2) = .asksPools (some .write) .write ∧
      crowded.phases (.call 3) = .asksDefinitions .read := by
    cases first
    exact ⟨rfl, rfl⟩
  have answered : ∀ call, crowded.awaitsServer call = false := by
    have known : (List.range 4).all (fun call => !crowded.awaitsServer call) = true := by
      cases first
      rfl
    intro call
    by_cases inside : call < 4
    · simpa using List.all_eq_true.mp known call (List.mem_range.mpr inside)
    · exact awaitsServer_of_absent reachable.sound (by omega)
  have runs : crowded.isRunning (.call 2) = true := by simp [isRunning, waits.1]
  have awaits : connecting.awaitsServer 1 = true := by
    cases second
    rfl
  exact ⟨crowded, connecting, first, second, waits.1, waits.2,
    (never_stuck reachable).2 ⟨.call 2, runs⟩ answered, awaits,
    (never_stuck (Reachable.start.run second)).1 1 awaits⟩

end SqlGateway.Registry.Guarded
