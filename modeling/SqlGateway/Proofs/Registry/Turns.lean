import SqlGateway.Proofs.Registry.Progress

/-!
# What one turn does

A turn is that of one party, and leaves the phases and the calls of all others as they are. The
lines before the guards and before the permits only grow at their ends, and only the party whose
turn it is leaves them. Two numbers go down with the turns of a party: `Phase.toReturn` until it
gives the definitions back, and `Phase.toMove` until its stage changes.
-/

namespace SqlGateway.Registry

/-! ## Lines -/

/-- A line grows at its end, and those leave it who move, if anybody does. -/
def Queues {α : Type} (before after : List α) (moves : α → Prop) : Prop :=
  ∃ (stays : α → Bool) (more : List α), after = before.filter stays ++ more ∧
    ∀ who, ¬moves who → stays who = true

namespace Queues

variable {α : Type} {before after : List α} {moves : α → Prop} {who : α}

theorem same (equal : after = before) : Queues before after moves :=
  ⟨fun _ => true, [], by simp [equal], fun _ _ => rfl⟩

theorem grows {more : List α} (equal : after = before ++ more) : Queues before after moves :=
  ⟨fun _ => true, more, by simp [equal], fun _ _ => rfl⟩

theorem head {rest : List α} (queues : Queues before after moves) (first : before = who :: rest)
    (apart : ¬moves who) : ∃ behind, after = who :: behind := by
  rcases queues with ⟨stays, more, rfl, still⟩
  exact ⟨rest.filter stays ++ more, by simp [first, still who apart]⟩

end Queues

/-! ## Phases -/

inductive Phase.Next : Phase → Phase → Prop where
  | asksDefinitions (mode : Mode) : Next .outside (.asksDefinitions mode)
  | asksPools (mode : Mode) : Next .outside (.asksPools none mode)
  | asksPermit : Next .outside .asksPermit
  | closes : Next .outside .closing
  | proceeds : Next .outside .outside
  | takesDefinitions (mode : Mode) : Next (.asksDefinitions mode) (.holdsDefinitions mode false)
  | goesIn (mode inner : Mode) :
      Next (.holdsDefinitions mode false) (.asksPools (some mode) inner)
  | performsDefinitions (mode : Mode) :
      Next (.holdsDefinitions mode false) (.holdsDefinitions mode true)
  | takesPools (outer : Option Mode) (mode : Mode) :
      Next (.asksPools outer mode) (.holdsPools outer mode false)
  | performsPools (outer : Option Mode) (mode : Mode) :
      Next (.holdsPools outer mode false) (.holdsPools outer mode true)
  | leavesPools (mode : Mode) : Next (.holdsPools none mode true) .outside
  | goesBack (outer mode : Mode) (done : Bool) :
      Next (.holdsPools (some outer) mode true) (.holdsDefinitions outer done)
  | leavesDefinitions (mode : Mode) : Next (.holdsDefinitions mode true) .outside
  | enters : Next .asksPermit .outside

namespace Phase

variable {phase next : Phase} {guard : Guard} {mode : Mode}

theorem ne_outside_of_asks (asks : phase.asks guard = some mode) : phase ≠ .outside := by
  rintro rfl
  cases guard <;> cases asks

theorem ne_closing_of_asks (asks : phase.asks guard = some mode) : phase ≠ .closing := by
  rintro rfl
  cases guard <;> cases asks

theorem Next.asks_eq_none (step : phase.Next next) (asks : phase.asks guard = some mode) :
    next.asks guard = none := by
  cases step <;> cases guard <;> first | rfl | cases asks

/-- How many turns a party takes until it gives the definitions back. A request that finds no cell
goes to the pools a second time. -/
def toReturn (reserving : Bool) : Phase → Nat
  | .holdsDefinitions _ true => 1
  | .holdsPools _ _ true => if reserving then 7 else 2
  | .holdsPools _ _ false => if reserving then 3 else 8
  | .asksPools .. => if reserving then 4 else 9
  | .holdsDefinitions _ false => if reserving then 5 else 10
  | .outside | .asksDefinitions _ | .asksPermit | .closing => 0

/-- How many turns a call takes at most until its stage changes. -/
def toMove : Phase → Nat
  | .asksPermit | .closing | .holdsPools _ _ false => 1
  | .asksPools .. => 2
  | .holdsDefinitions _ false => 3
  | .asksDefinitions _ => 4
  | .outside => 5
  | .holdsDefinitions _ true => 6
  | .holdsPools _ _ true => 7

end Phase

namespace Guarded

theorem Acts.next {before after : Guarded} {party : Party} (acts : Acts before party after) :
    (before.phases party).Next (after.phases party) := by
  cases acts with
  | asksDefinitions outside =>
    rw [outside, phases_setPhase_self]
    exact .asksDefinitions _
  | asksPools outside =>
    rw [outside, phases_setPhase_self]
    exact .asksPools _
  | takesDefinitions asks =>
    rw [asks, phases_setPhase_self]
    exact .takesDefinitions _
  | goesIn holds =>
    rw [holds, phases_setPhase_self]
    exact .goesIn ..
  | takesPools asks =>
    rw [asks, phases_setPhase_self]
    exact .takesPools ..
  | performsDefinitions holds =>
    rw [holds, phases_setPhase_self]
    exact .performsDefinitions _
  | performsPools holds =>
    rw [holds, phases_setPhase_self]
    exact .performsPools ..
  | leavesDefinitions holds =>
    rw [holds, phases_setPhase_self]
    exact .leavesDefinitions _
  | leavesPools holds =>
    rw [holds, phases_setPhase_self]
    exact .leavesPools _
  | goesBack holds =>
    rw [holds, phases_setPhase_self]
    exact .goesBack ..
  | waits outside =>
    rw [outside, phases_setPhase_self]
    exact .asksPermit
  | closes outside =>
    rw [outside, phases_setPhase_self]
    exact .closes
  | enters waits =>
    rw [waits, phases_setPhase_self]
    exact .enters
  | proceeds outside _ _ performed =>
    rw [(perform_frame performed).1, outside]
    exact .proceeds

@[simp] theorem isReserving_setPhase (state : Guarded) (party other : Party) (phase : Phase) :
    (state.setPhase party phase).isReserving other = state.isReserving other := by
  cases other <;> rfl

@[simp] theorem isReserving_setLock (state : Guarded) (guard : Guard) (lock : Lock)
    (other : Party) : (state.setLock guard lock).isReserving other = state.isReserving other := by
  cases other <;> rfl

theorem isReserving_of_perform {before next : Guarded} {party : Party}
    (performed : before.perform party = some next) (reserving : before.isReserving party = true) :
    next.isReserving party = false := by
  cases party with
  | inquiry number => cases reserving
  | call call =>
    rcases perform_inv performed with ⟨request, earlier, stage, found, reached, reads, -⟩
    rw [isReserving, Machine.stage?_eq_some_iff.mpr ⟨request, found⟩] at reserving
    rw [isReserving, Machine.stage?_eq_some_iff.mpr ⟨request, reached⟩]
    apply Bool.eq_false_iff.mpr
    intro again
    have modes := (reads again).2
    rw [poolsMode_call found] at modes
    cases earlier with
    | reserving => cases modes
    | _ => cases reserving

theorem Acts.toReturn_lt {before after : Guarded} {party : Party} (acts : Acts before party after)
    (holds : (before.phases party).holds .definitions ≠ none) :
    (after.phases party).holds .definitions = none ∨
      (after.phases party).toReturn (after.isReserving party) <
        (before.phases party).toReturn (before.isReserving party) := by
  cases acts with
  | asksDefinitions is | asksPools is | takesDefinitions is | leavesPools is | waits is
  | closes is | proceeds is | enters is =>
    rw [is] at holds
    exact absurd rfl holds
  | goesIn is | takesPools is | goesBack is =>
    right
    rw [is, phases_setPhase_self]
    cases reserving : before.isReserving party <;>
      simp [ask, release, reserving, Phase.toReturn]
  | performsDefinitions is =>
    right
    rw [is, phases_setPhase_self]
    simp only [Phase.toReturn]
    split <;> omega
  | performsPools is performed =>
    right
    rw [is, phases_setPhase_self, isReserving_setPhase]
    cases reserving : before.isReserving party with
    | true => simp [Phase.toReturn, isReserving_of_perform performed reserving]
    | false =>
      simp only [Phase.toReturn]
      split <;> simp
  | leavesDefinitions =>
    left
    rw [phases_setPhase_self]
    rfl

theorem Acts.toMove_lt {before after : Guarded} {call : Nat}
    (acts : Acts before (.call call) after) :
    after.machine.stage? call ≠ before.machine.stage? call ∨
      (after.phases (.call call)).toMove < (before.phases (.call call)).toMove := by
  have moves {next : Guarded} (performed : before.perform (.call call) = some next) :
      next.machine.stage? call ≠ before.machine.stage? call := by
    rcases perform_call_inv performed with ⟨machine, advanced, rfl⟩
    exact (Machine.moves_of_advance advanced).stage?_ne
  cases acts with
  | performsDefinitions _ _ performed | performsPools _ performed | proceeds _ _ _ performed
  | enters _ _ _ performed =>
    have moved := moves performed
    exact .inl moved
  | asksDefinitions is | asksPools is | takesDefinitions is | goesIn is | takesPools is
  | leavesDefinitions is | leavesPools is | waits is | closes is =>
    right
    rw [is, phases_setPhase_self]
    simp [Phase.toMove]
  | goesBack is =>
    right
    rw [is, phases_setPhase_self]
    cases before.isReserving (.call call) <;> simp [Phase.toMove]

/-! ## What the turns of others do -/

section Others

variable {before after : Guarded} {turn : Turn} {party : Party} {call : Nat}

theorem phase_of_others (steps : before.step turn = some after)
    (apart : turn.party? ≠ some party) : after.phases party = before.phases party := by
  cases turn with
  | invoke | inquire =>
    cases steps
    rfl
  | act other =>
    exact (acts_of_act steps).frame.phases fun equal => apart (by rw [equal]; rfl)
  | openEnds | reorder =>
    rcases Option.map_eq_some_iff.mp steps with ⟨machine, -, rfl⟩
    rfl
  | closeEnds other succeeds =>
    rcases closeEnds_inv steps with ⟨-, machine, -, rfl⟩
    exact assign_of_ne _ _ fun equal => apart (by rw [equal]; rfl)

theorem call_of_others {found : Call} (steps : before.step turn = some after)
    (apart : turn.party? ≠ some (.call call))
    (present : before.machine.calls[call]? = some found) :
    after.machine.calls[call]? = some found := by
  rcases machine_of_step steps with ⟨action, moves, own⟩
  exact Machine.call_of_others moves (fun acts => apart (own call acts)) present

theorem isReserving_of_others (sound : Sound before) (steps : before.step turn = some after)
    (apart : turn.party? ≠ some party) (inside : before.phases party ≠ .outside) :
    after.isReserving party = before.isReserving party := by
  cases party with
  | inquiry number => rfl
  | call call =>
    have present := List.getElem?_eq_getElem (sound.inside inside)
    rw [isReserving, isReserving, Machine.stage?, Machine.stage?, present,
      call_of_others steps apart present]

/-- A turn leaves a lock as it is, or is that of one who asks for it, takes it or gives it back. -/
theorem lock_of_step (steps : before.step turn = some after) (guard : Guard) :
    after.locks guard = before.locks guard ∨ ∃ party, turn.party? = some party ∧
      ((∃ mode, after.locks guard = (before.locks guard).ask party mode) ∨
        (before.locks guard).take party = some (after.locks guard) ∨
        after.locks guard = (before.locks guard).release party) := by
  cases turn with
  | invoke | inquire =>
    cases steps
    exact .inl rfl
  | openEnds | reorder =>
    rcases Option.map_eq_some_iff.mp steps with ⟨machine, -, rfl⟩
    exact .inl rfl
  | closeEnds =>
    rcases closeEnds_inv steps with ⟨-, machine, -, rfl⟩
    exact .inl rfl
  | act party =>
    -- One lock changes, the other is as it was.
    have change {named : Guard} {lock : Lock} {phase : Phase}
        (how : (∃ mode, lock = (before.locks named).ask party mode) ∨
          (before.locks named).take party = some lock ∨
          lock = (before.locks named).release party) :
        ((before.setLock named lock).setPhase party phase).locks guard = before.locks guard ∨
          ∃ other, (Turn.act party).party? = some other ∧
            ((∃ mode, ((before.setLock named lock).setPhase party phase).locks guard =
                (before.locks guard).ask other mode) ∨
              (before.locks guard).take other =
                some (((before.setLock named lock).setPhase party phase).locks guard) ∨
              ((before.setLock named lock).setPhase party phase).locks guard =
                (before.locks guard).release other) := by
      by_cases same : guard = named
      · subst same
        refine .inr ⟨party, rfl, ?_⟩
        simpa [setPhase, setLock] using how
      · exact .inl (if_neg same)
    cases acts_of_act steps with
    | performsDefinitions _ _ performed | performsPools _ performed | enters _ _ _ performed
    | proceeds _ _ _ performed => exact .inl (congrFun (perform_frame performed).2.1 guard)
    | waits | closes => exact .inl rfl
    | asksDefinitions | asksPools | goesIn => exact change (.inl ⟨_, rfl⟩)
    | takesDefinitions _ taken | takesPools _ taken => exact change (.inr (.inl taken))
    | leavesDefinitions | leavesPools | goesBack => exact change (.inr (.inr rfl))

theorem waiters_of_step (steps : before.step turn = some after) :
    after.waiters = before.waiters ∨ ∃ call, turn.party? = some (.call call) ∧
      ((∃ cell, after.waiters = before.waiters ++ [(call, cell)]) ∨
        after.waiters = before.waiters.filter fun waiter => waiter.1 ≠ call) := by
  cases turn with
  | invoke | inquire =>
    cases steps
    exact .inl rfl
  | openEnds | reorder =>
    rcases Option.map_eq_some_iff.mp steps with ⟨machine, -, rfl⟩
    exact .inl rfl
  | closeEnds =>
    rcases closeEnds_inv steps with ⟨-, machine, -, rfl⟩
    exact .inl rfl
  | act party =>
    cases acts_of_act steps with
    | performsDefinitions _ _ performed | performsPools _ performed | proceeds _ _ _ performed =>
      exact .inl (perform_frame performed).2.2.1
    | @waits call cell => exact .inr ⟨call, rfl, .inl ⟨cell, rfl⟩⟩
    | @enters call _ _ _ next _ _ _ performed =>
      refine .inr ⟨call, rfl, .inr ?_⟩
      rw [setPhase, (perform_frame performed).2.2.1]
    | _ => exact .inl rfl

theorem stage?_ne_or_toMove_lt (steps : before.step turn = some after)
    (own : turn.party? = some (.call call)) :
    after.machine.stage? call ≠ before.machine.stage? call ∨
      (after.phases (.call call)).toMove < (before.phases (.call call)).toMove := by
  cases turn with
  | act party =>
    cases own
    exact (acts_of_act steps).toMove_lt
  | openEnds =>
    cases own
    rcases Option.map_eq_some_iff.mp steps with ⟨machine, ended, rfl⟩
    exact .inl (Machine.moves_of_openEnds ended).stage?_ne
  | closeEnds =>
    cases own
    rcases closeEnds_inv steps with ⟨-, machine, closed, rfl⟩
    exact .inl (Machine.moves_of_close closed).stage?_ne
  | invoke | inquire | reorder => cases own

/-! ### The lines -/

theorem queues_of_step (sound : Sound before) (steps : before.step turn = some after)
    (guard : Guard) :
    Queues (before.locks guard).queue (after.locks guard).queue
      fun who => turn.party? = some who.1 := by
  rcases lock_of_step steps guard with same | ⟨party, own, ⟨mode, changed⟩ | taken | changed⟩
  · exact .same (by rw [same])
  · exact .grows (by rw [changed, Lock.ask])
  · -- The first leaves the line, and nobody stands there twice.
    rcases Lock.take_eq_some taken with ⟨mode, rest, place, -, later⟩
    have once := (sound.tied guard).once
    rw [place, List.map_cons, List.nodup_cons] at once
    refine ⟨fun who => who.1 ≠ party, [], ?_, ?_⟩
    · have stay : rest.filter (fun who => who.1 ≠ party) = rest := by
        apply List.filter_eq_self.mpr
        intro who member
        have apart : who.1 ≠ party := fun equal =>
          once.1 (List.mem_map.mpr ⟨who, member, equal⟩)
        simpa using apart
      simpa [later, place] using stay.symm
    · intro who apart
      have other : who.1 ≠ party := fun equal => apart (own.trans (equal ▸ rfl))
      simpa using other
  · exact .same (by rw [changed, Lock.release])

def line (state : Guarded) (cell : Nat) : List (Nat × Nat) :=
  state.waiters.filter fun waiter => waiter.2 = cell

theorem mem_line {state : Guarded} {waiter : Nat × Nat} {cell : Nat} :
    waiter ∈ state.line cell ↔ waiter ∈ state.waiters ∧ waiter.2 = cell := by
  simp [line]

theorem find?_of_line {state : Guarded} {waiter : Nat × Nat} {cell : Nat}
    {rest : List (Nat × Nat)} (first : state.line cell = waiter :: rest) :
    state.waiters.find? (fun waiter => waiter.2 = cell) = some waiter := by
  rw [← List.head?_filter, ← line, first, List.head?_cons]

theorem lines_of_step (steps : before.step turn = some after) (cell : Nat) :
    Queues (before.line cell) (after.line cell) fun who => turn.party? = some (.call who.1) := by
  rcases waiters_of_step steps with same | ⟨call, own, ⟨place, changed⟩ | changed⟩
  · exact .same (by rw [line, line, same])
  · apply Queues.grows
    rw [line, line, changed, List.filter_append]
  · refine ⟨fun who => who.1 ≠ call, [], ?_, ?_⟩
    · rw [line, line, changed, List.append_nil, List.filter_comm]
    · intro who apart
      have other : who.1 ≠ call := fun equal => apart (own.trans (equal ▸ rfl))
      simpa using other

/-! ### The server side -/

theorem act_of_opening (sound : Sound before) {request : Request} {definition : Definition}
    {key : PoolKey} {cell : Nat}
    (opens : before.machine.calls[call]? = some ⟨request, .opening definition key cell⟩) :
    before.act (.call call) = none := by
  have outside := (sound.calls opens).outside_of_opening rfl
  have stuck : (before.perform (.call call)).isSome = false := by
    rw [perform, Option.isSome_map, Machine.advance_isSome opens]
    rfl
  unfold act
  rw [outside]
  simp only [approach, definitionsMode_call opens, poolsMode_call opens, Stage.definitionsMode,
    Stage.poolsMode, goOn, Machine.stage?_eq_some_iff.mpr ⟨request, opens⟩]
  simpa using stuck

theorem turn_of_opening (sound : Sound before) (steps : before.step turn = some after)
    {request : Request} {definition : Definition} {key : PoolKey} {cell : Nat}
    (opens : before.machine.calls[call]? = some ⟨request, .opening definition key cell⟩)
    (own : turn.party? = some (.call call)) : ∃ failure, turn = .openEnds call failure := by
  cases turn with
  | act party =>
    cases own
    rw [step, act_of_opening sound opens] at steps
    cases steps
  | openEnds =>
    cases own
    exact ⟨_, rfl⟩
  | closeEnds =>
    cases own
    cases ((sound.calls opens).outside_of_opening rfl).symm.trans (closeEnds_inv steps).1
  | invoke | inquire | reorder => cases own

theorem turn_of_closing (sound : Sound before) (steps : before.step turn = some after)
    (closing : before.phases (.call call) = .closing)
    (own : turn.party? = some (.call call)) : ∃ succeeds, turn = .closeEnds call succeeds := by
  cases turn with
  | act party =>
    cases own
    rw [step, act, closing] at steps
    cases steps
  | openEnds =>
    cases own
    rcases Option.map_eq_some_iff.mp steps with ⟨machine, ended, -⟩
    rcases Machine.opening_of_openEnds ended with ⟨request, definition, key, cell, present⟩
    cases ((sound.calls present).outside_of_opening rfl).symm.trans closing
  | closeEnds =>
    cases own
    exact ⟨_, rfl⟩
  | invoke | inquire | reorder => cases own

/-- A free cell that is empty becomes busy only by the turn of the first who waits for it. -/
theorem first_of_busy (sound : Sound before) (steps : before.step turn = some after) {cell : Nat}
    (idle : before.machine.registry.isBusy cell = false)
    (empty : before.machine.registry.content cell = none)
    (busy : after.machine.registry.isBusy cell = true) :
    ∃ call, turn.party? = some (.call call) ∧
      before.waiters.find? (fun waiter => waiter.2 = cell) = some (call, cell) := by
  rcases machine_of_step steps with ⟨action, moves, own⟩
  rcases Machine.waiting_of_busy moves idle busy with
    ⟨call, request, definition, key, acts, present⟩
  refine ⟨call, own call acts, ?_⟩
  have whose := own call acts
  have fits := sound.calls present
  have moved : after.machine ≠ before.machine := by
    intro same
    rw [same, idle] at busy
    cases busy
  cases turn with
  | act party =>
    cases whose
    cases acts_of_act steps with
    | performsDefinitions is =>
      rw [is] at fits
      cases fits
    | performsPools is =>
      rw [is] at fits
      cases fits.2
    | proceeds _ _ filled =>
      have held := filled (Machine.stage?_eq_some_iff.mpr ⟨request, present⟩)
      rw [empty] at held
      cases held
    | enters _ stage admitted =>
      cases stage.symm.trans (Machine.stage?_eq_some_iff.mpr ⟨request, present⟩)
      rcases admitted with held | first
      · rw [empty] at held
        cases held
      · exact first
    | _ => exact absurd rfl moved
  | openEnds =>
    cases whose
    rcases Option.map_eq_some_iff.mp steps with ⟨machine, ended, -⟩
    rcases Machine.opening_of_openEnds ended with ⟨_, _, _, _, opens⟩
    cases opens.symm.trans present
  | closeEnds =>
    cases whose
    rw [(closeEnds_inv steps).1] at fits
    cases fits
  | invoke | inquire | reorder => cases whose

end Others

end Guarded

end SqlGateway.Registry
