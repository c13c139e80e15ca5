import SqlGateway.Proofs.Registry.Locks
import SqlGateway.Proofs.Registry.Upkeep
import SqlGateway.Proofs.Registry.Stages

/-!
# Who holds the guards

`Acts` lists what a party can do by itself. Between two of its actions a party stands in a phase,
and its stage fits the phase: a call that is to make a cell holds the definitions, and one that
opens or closes a pool holds nothing. `Sound` says this of all parties, together with what the
locks and the permits know of them, and each step of the whole is a step of `Machine` or none.
-/

namespace SqlGateway.Registry

/-! ## The stages of a phase -/

def Stage.isSection : Stage → Bool
  | .entering | .reserving .. | .checking .. => true
  | .waiting .. | .opening .. | .discarding _ | .closing .. | .finished _ => false

def Phase.Fits (request : Request) (stage : Stage) : Phase → Prop
  | .outside => Machine.readsDefinitions stage = false
  | .asksDefinitions mode => stage = .entering ∧ stage.definitionsMode request = some mode
  | .holdsDefinitions mode false => stage.definitionsMode request = some mode
  | .holdsDefinitions _ true =>
    Machine.readsDefinitions stage = false ∧ stage.isOpening = false
  | .asksPools outer _ | .holdsPools outer _ false =>
    stage.definitionsMode request = outer ∧ stage.isSection = true
  | .holdsPools outer _ true =>
    (Machine.readsDefinitions stage = true → outer = some .read) ∧ stage.isOpening = false
  | .asksPermit => ∃ definition key cell, stage = .waiting definition key cell
  | .closing => (Machine.closing? stage).isSome

section Fits

variable {request : Request} {stage : Stage} {phase : Phase}

theorem Phase.Fits.holds_of_reads (fits : phase.Fits request stage)
    (reads : Machine.readsDefinitions stage = true) : phase.holds .definitions = some .read := by
  cases stage with
  | reserving definition key =>
    cases phase with
    | holdsDefinitions mode done =>
      cases done with
      | false => exact Eq.symm fits
      | true => cases reads.symm.trans fits.1
    | asksPools outer mode => exact fits.1.symm
    | holdsPools outer mode done =>
      cases done with
      | false => exact fits.1.symm
      | true => exact fits.1 reads
    | outside => cases reads.symm.trans fits
    | asksDefinitions mode => cases fits.1
    | asksPermit =>
      rcases fits with ⟨_, _, _, equal⟩
      cases equal
    | closing => cases fits
  | _ => cases reads

theorem Phase.Fits.outside_of_opening (fits : phase.Fits request stage)
    (opens : stage.isOpening = true) : phase = .outside := by
  cases stage with
  | opening definition key cell =>
    cases phase with
    | outside => rfl
    | holdsDefinitions mode done =>
      cases done with
      | false => cases fits
      | true => cases fits.2
    | asksPools outer mode => cases fits.2
    | holdsPools outer mode done => cases done <;> cases fits.2
    | asksDefinitions mode => cases fits.1
    | asksPermit =>
      rcases fits with ⟨_, _, _, equal⟩
      cases equal
    | closing => cases fits
  | _ => cases opens

theorem isSection_of_poolsMode {registry : Registry} {mode : Mode}
    (needs : stage.poolsMode registry request = some mode) : stage.isSection = true := by
  cases stage with
  | entering | reserving | checking => rfl
  | waiting | opening | discarding | closing | finished => cases needs

theorem isSection_of_definitionsMode {mode : Mode}
    (needs : stage.definitionsMode request = some mode) : stage.isSection = true := by
  cases stage with
  | entering | reserving => rfl
  | waiting | opening | checking | discarding | closing | finished => cases needs

theorem entering_of_definitionsMode {mode : Mode}
    (needs : stage.definitionsMode request = some mode)
    (blind : Machine.readsDefinitions stage = false) : stage = .entering := by
  cases stage with
  | entering => rfl
  | reserving => cases blind
  | waiting | opening | checking | discarding | closing | finished => cases needs

end Fits

/-! ## The sections of a call -/

namespace Machine

variable {before after : Machine} {call : Nat} {request : Request} {stage : Stage}

theorem enter_reads {registry : Registry}
    (reads : readsDefinitions (enter registry request).2 = true) :
    Stage.entering.definitionsMode request = some .read ∧
      Stage.entering.poolsMode registry request = some .read := by
  cases request with
  | get id database =>
    rw [enter] at reads
    split at reads
    · cases reads
    · next named =>
      rw [Registry.definition] at reads
      cases known : registry.definitions.find? id with
      | none => simp [known, readsDefinitions] at reads
      | some definition => simp [Stage.definitionsMode, Stage.poolsMode, named, known]
  | register definition =>
    rw [enter] at reads
    split at reads <;> cases reads
  | update definition =>
    rw [enter] at reads
    split at reads <;> cases reads
  | remove id =>
    rw [enter] at reads
    split at reads <;> cases reads
  | removeAll | evict | closeAll => cases reads

theorem stage?_of_advance_entering (present : before.calls[call]? = some ⟨request, .entering⟩)
    (advanced : before.advance call = some after) :
    after.stage? call = some (enter before.registry request).2 := by
  rw [advance, present] at advanced
  dsimp only at advanced
  split at advanced
  · cases advanced
  · cases advanced
    exact stage?_setStage_self (stage?_eq_some_iff.mpr ⟨request, present⟩)

/-- A section leads to a stage that reads the definitions only from the first section, and to the
opening of a pool only from the wait for its cell. -/
theorem advance_inv (present : before.calls[call]? = some ⟨request, stage⟩)
    (advanced : before.advance call = some after) :
    ∃ next, after.calls[call]? = some ⟨request, next⟩ ∧
      (readsDefinitions next = true → stage.definitionsMode request = some .read ∧
        stage.poolsMode before.registry request = some .read) ∧
      (next.isOpening = true → ∃ definition key cell, stage = .waiting definition key cell) := by
  rcases moves_of_advance advanced with @⟨_, _, next, registry, events, found, unread, move⟩
  rw [present] at found
  cases found
  have later := calls_moved_self present registry request next events
  refine ⟨next, later, ?_, ?_⟩
  · intro reads
    cases move with
    | lacks =>
      have stage := stage?_of_advance_entering present advanced
      rw [stage?_eq_some_iff.mpr ⟨request, later⟩, Option.some.injEq] at stage
      rw [stage] at reads
      exact enter_reads reads
    | _ => cases reads
  · intro opens
    cases move with
    | begins => exact ⟨_, _, _, rfl⟩
    | _ => cases opens

end Machine

namespace Guarded

/-! ## What a party can do -/

def Turn.party? : Turn → Option Party
  | .act party => some party
  | .openEnds call _ | .closeEnds call _ => some (.call call)
  | .invoke _ | .inquire _ | .reorder _ => none

/-- What a party does by itself. -/
inductive Acts (before : Guarded) : Party → Guarded → Prop where
  | asksDefinitions {party : Party} {mode : Mode} (outside : before.phases party = .outside)
      (needs : before.definitionsMode party = some mode) :
      Acts before party
        ((before.ask .definitions party mode).setPhase party (.asksDefinitions mode))
  | asksPools {party : Party} {mode : Mode} (outside : before.phases party = .outside)
      (skips : before.definitionsMode party = none)
      (needs : before.poolsMode party = some mode) :
      Acts before party ((before.ask .pools party mode).setPhase party (.asksPools none mode))
  | takesDefinitions {party : Party} {mode : Mode} {lock : Lock}
      (asks : before.phases party = .asksDefinitions mode)
      (taken : (before.locks .definitions).take party = some lock) :
      Acts before party
        ((before.setLock .definitions lock).setPhase party (.holdsDefinitions mode false))
  | goesIn {party : Party} {mode inner : Mode}
      (holds : before.phases party = .holdsDefinitions mode false)
      (needs : before.poolsMode party = some inner) :
      Acts before party
        ((before.ask .pools party inner).setPhase party (.asksPools (some mode) inner))
  | takesPools {party : Party} {outer : Option Mode} {mode : Mode} {lock : Lock}
      (asks : before.phases party = .asksPools outer mode)
      (taken : (before.locks .pools).take party = some lock) :
      Acts before party ((before.setLock .pools lock).setPhase party (.holdsPools outer mode false))
  | performsDefinitions {party : Party} {mode : Mode} {next : Guarded}
      (holds : before.phases party = .holdsDefinitions mode false)
      (skips : before.poolsMode party = none) (performed : before.perform party = some next) :
      Acts before party (next.setPhase party (.holdsDefinitions mode true))
  | performsPools {party : Party} {outer : Option Mode} {mode : Mode} {next : Guarded}
      (holds : before.phases party = .holdsPools outer mode false)
      (performed : before.perform party = some next) :
      Acts before party (next.setPhase party (.holdsPools outer mode true))
  | leavesDefinitions {party : Party} {mode : Mode}
      (holds : before.phases party = .holdsDefinitions mode true) :
      Acts before party ((before.release .definitions party).setPhase party .outside)
  | leavesPools {party : Party} {mode : Mode}
      (holds : before.phases party = .holdsPools none mode true) :
      Acts before party ((before.release .pools party).setPhase party .outside)
  | goesBack {party : Party} {outer mode : Mode}
      (holds : before.phases party = .holdsPools (some outer) mode true) :
      Acts before party ((before.release .pools party).setPhase party
        (.holdsDefinitions outer (!before.isReserving party)))
  | waits {call cell : Nat} {definition : Definition} {key : PoolKey}
      (outside : before.phases (.call call) = .outside)
      (stage : before.machine.stage? call = some (.waiting definition key cell)) :
      Acts before (.call call)
        ({ before with waiters := before.waiters ++ [(call, cell)] }.setPhase (.call call)
          .asksPermit)
  | closes {call cell : Nat} {stage : Stage} (outside : before.phases (.call call) = .outside)
      (present : before.machine.stage? call = some stage)
      (closes : Machine.closing? stage = some cell)
      (filled : (before.machine.registry.content cell).isSome) :
      Acts before (.call call) (before.setPhase (.call call) .closing)
  | proceeds {call : Nat} {next : Guarded} (outside : before.phases (.call call) = .outside)
      (skips : before.definitionsMode (.call call) = none)
      (filled : ∀ {definition key cell},
        before.machine.stage? call = some (.waiting definition key cell) →
        (before.machine.registry.content cell).isSome)
      (performed : before.perform (.call call) = some next) : Acts before (.call call) next
  | enters {call cell : Nat} {definition : Definition} {key : PoolKey} {next : Guarded}
      (waits : before.phases (.call call) = .asksPermit)
      (stage : before.machine.stage? call = some (.waiting definition key cell))
      (admitted : (before.machine.registry.content cell).isSome ∨
        before.waiters.find? (fun waiter => waiter.2 = cell) = some (call, cell))
      (performed : before.perform (.call call) = some next) :
      Acts before (.call call)
        ({ next with waiters := next.waiters.filter fun waiter => waiter.1 ≠ call }.setPhase
          (.call call) .outside)

section Inversion

variable {before after : Guarded} {party : Party} {call : Nat}

theorem acts_of_goOn (outside : before.phases (.call call) = .outside)
    (skips : before.definitionsMode (.call call) = none)
    (went : before.goOn call = some after) : Acts before (.call call) after := by
  unfold goOn at went
  split at went
  · next stage =>
    split at went
    · next filled =>
      refine .proceeds outside skips ?_ went
      intro definition key cell waits
      cases stage.symm.trans waits
      exact filled
    · cases went
      exact .waits outside stage
  · next cell stage =>
    split at went
    · next filled =>
      cases went
      exact .closes outside stage rfl filled
    · exact .proceeds outside skips (fun waits => nomatch stage.symm.trans waits) went
  · next cell cells count stage =>
    split at went
    · next filled =>
      cases went
      exact .closes outside stage rfl filled
    · exact .proceeds outside skips (fun waits => nomatch stage.symm.trans waits) went
  · next elsewhere _ _ =>
    exact .proceeds outside skips (fun waits => absurd waits (elsewhere _ _ _)) went

theorem acts_of_approach (outside : before.phases party = .outside)
    (approached : before.approach party = some after) : Acts before party after := by
  unfold approach at approached
  split at approached
  · next needs =>
    cases approached
    exact .asksDefinitions outside needs
  · next skips needs =>
    cases approached
    exact .asksPools outside skips needs
  · next skips _ =>
    cases party with
    | call call => exact acts_of_goOn outside skips approached
    | inquiry number => cases approached

theorem acts_of_permit (waits : before.phases (.call call) = .asksPermit)
    (permitted : before.permit call = some after) : Acts before (.call call) after := by
  rw [permit] at permitted
  split at permitted
  · next definition key cell stage =>
    split at permitted
    · next admitted =>
      rcases Option.map_eq_some_iff.mp permitted with ⟨next, performed, rfl⟩
      exact .enters waits stage admitted performed
    · cases permitted
  · cases permitted

theorem acts_of_act (acted : before.act party = some after) : Acts before party after := by
  unfold act at acted
  split at acted
  · next outside => exact acts_of_approach outside acted
  · next mode asks =>
    rw [take, Option.map_map] at acted
    rcases Option.map_eq_some_iff.mp acted with ⟨lock, taken, rfl⟩
    exact .takesDefinitions asks taken
  · next mode holds =>
    split at acted
    · next inner needs =>
      cases acted
      exact .goesIn holds needs
    · next skips =>
      rcases Option.map_eq_some_iff.mp acted with ⟨next, performed, rfl⟩
      exact .performsDefinitions holds skips performed
  · next mode holds =>
    cases acted
    exact .leavesDefinitions holds
  · next outer mode asks =>
    rw [take, Option.map_map] at acted
    rcases Option.map_eq_some_iff.mp acted with ⟨lock, taken, rfl⟩
    exact .takesPools asks taken
  · next outer mode holds =>
    rcases Option.map_eq_some_iff.mp acted with ⟨next, performed, rfl⟩
    exact .performsPools holds performed
  · next mode holds =>
    cases acted
    exact .leavesPools holds
  · next outer mode holds =>
    cases acted
    exact .goesBack holds
  · next waits =>
    cases party with
    | call call => exact acts_of_permit waits acted
    | inquiry number => cases acted
  · cases acted

end Inversion

/-! ## What every state keeps -/

structure Sound (state : Guarded) : Prop where
  reachable : state.machine.Reachable
  tied : ∀ guard, Lock.Tied guard (state.locks guard) state.phases
  calls : ∀ {call request stage}, state.machine.calls[call]? = some ⟨request, stage⟩ →
    (state.phases (.call call)).Fits request stage
  /-- Calls that are still to be made have no guards. -/
  absent : ∀ {call}, state.machine.calls.length ≤ call → state.phases (.call call) = .outside
  inquiries : ∀ {number}, state.phases (.inquiry number) ≠ .asksPermit ∧
    state.phases (.inquiry number) ≠ .closing
  waiters : ∀ {call cell}, (call, cell) ∈ state.waiters ↔
    state.phases (.call call) = .asksPermit ∧
      ∃ definition key, state.machine.stage? call = some (.waiting definition key cell)

/-- What an action of a party leaves alone. -/
structure Frame (before after : Guarded) (party : Party) : Prop where
  phases : ∀ {other}, other ≠ party → after.phases other = before.phases other
  calls : ∀ {other}, .call other ≠ party →
    after.machine.calls[other]? = before.machine.calls[other]?
  length : after.machine.calls.length = before.machine.calls.length
  waiters : ∀ {other cell}, .call other ≠ party →
    ((other, cell) ∈ after.waiters ↔ (other, cell) ∈ before.waiters)

@[simp] theorem phases_setPhase_self (state : Guarded) (party : Party) (phase : Phase) :
    (state.setPhase party phase).phases party = phase :=
  assign_self ..

section Keep

variable {before after next : Guarded} {party : Party} {call : Nat}

theorem Sound.inside (sound : Sound before) (busy : before.phases (.call call) ≠ .outside) :
    call < before.machine.calls.length := by
  apply Nat.lt_of_not_le
  intro outside
  exact busy (sound.absent outside)

/-- An action of a party breaks nothing if it breaks nothing for the party itself. -/
theorem Sound.frame (sound : Sound before) (frame : Frame before after party)
    (reachable : after.machine.Reachable)
    (tied : ∀ guard, Lock.Tied guard (after.locks guard) after.phases)
    (fits : ∀ {call request stage}, party = .call call →
      after.machine.calls[call]? = some ⟨request, stage⟩ →
      (after.phases party).Fits request stage)
    (inside : ∀ {call}, party = .call call → call < before.machine.calls.length)
    (inquires : ∀ {number}, party = .inquiry number →
      after.phases party ≠ .asksPermit ∧ after.phases party ≠ .closing)
    (waits : ∀ {call cell}, party = .call call →
      ((call, cell) ∈ after.waiters ↔ after.phases party = .asksPermit ∧
        ∃ definition key, after.machine.stage? call = some (.waiting definition key cell))) :
    Sound after where
  reachable := reachable
  tied := tied
  calls := by
    intro other request stage present
    by_cases own : .call other = party
    · subst own
      exact fits rfl present
    · rw [frame.phases own]
      rw [frame.calls own] at present
      exact sound.calls present
  absent := by
    intro other outside
    rw [frame.length] at outside
    have apart : .call other ≠ party := by
      rintro rfl
      exact absurd (inside rfl) (Nat.not_lt_of_le outside)
    rw [frame.phases apart]
    exact sound.absent outside
  inquiries := by
    intro number
    by_cases own : .inquiry number = party
    · subst own
      exact inquires rfl
    · rw [frame.phases own]
      exact sound.inquiries
  waiters := by
    intro other cell
    by_cases own : .call other = party
    · subst own
      exact waits rfl
    · rw [frame.waiters own, frame.phases own, Machine.stage?, frame.calls own]
      exact sound.waiters

/-! ### The sections -/

theorem perform_call_inv (performed : before.perform (.call call) = some next) :
    ∃ machine, before.machine.advance call = some machine ∧ next = { before with machine } := by
  rcases Option.map_eq_some_iff.mp performed with ⟨machine, advanced, rfl⟩
  exact ⟨machine, advanced, rfl⟩

theorem frame_of_moves {machine : Machine} (moves : Machine.Moves before.machine call machine) :
    Frame before { before with machine } (.call call) := by
  rcases moves with @⟨_, _, _, _, _, _, _, _⟩
  refine ⟨fun _ => rfl, ?_, List.length_set, fun _ => Iff.rfl⟩
  intro other apart
  have apart : call ≠ other := by
    rintro rfl
    exact apart rfl
  exact List.getElem?_set_ne apart

theorem perform_frame (performed : before.perform party = some next) :
    next.phases = before.phases ∧ next.locks = before.locks ∧ next.waiters = before.waiters ∧
      Frame before next party := by
  cases party with
  | inquiry number =>
    cases performed
    exact ⟨rfl, rfl, rfl, fun _ => rfl, fun _ => rfl, rfl, fun _ => Iff.rfl⟩
  | call call =>
    rcases perform_call_inv performed with ⟨machine, advanced, rfl⟩
    exact ⟨rfl, rfl, rfl, frame_of_moves (Machine.moves_of_advance advanced)⟩

theorem perform_machine (performed : before.perform party = some next) :
    next.machine = before.machine ∨
      ∃ call, party = .call call ∧ before.machine.advance call = some next.machine := by
  cases party with
  | inquiry number =>
    cases performed
    exact .inl rfl
  | call call =>
    rcases perform_call_inv performed with ⟨machine, advanced, rfl⟩
    exact .inr ⟨call, rfl, advanced⟩

/-! ### Actions -/

theorem Frame.refl (state : Guarded) (party : Party) : Frame state state party :=
  ⟨fun _ => rfl, fun _ => rfl, rfl, fun _ => Iff.rfl⟩

theorem Frame.setPhase (frame : Frame before next party) (phase : Phase) :
    Frame before (next.setPhase party phase) party where
  phases apart := (assign_of_ne next.phases phase apart).trans (frame.phases apart)
  calls := frame.calls
  length := frame.length
  waiters := frame.waiters

theorem Frame.setLock (frame : Frame before next party) (guard : Guard) (lock : Lock) :
    Frame before (next.setLock guard lock) party :=
  ⟨frame.phases, frame.calls, frame.length, frame.waiters⟩

theorem Acts.frame (acts : Acts before party after) : Frame before after party := by
  cases acts with
  | asksDefinitions | asksPools | takesDefinitions | goesIn | takesPools | leavesDefinitions
  | leavesPools | goesBack => exact ((Frame.refl ..).setLock ..).setPhase _
  | performsDefinitions _ _ performed | performsPools _ performed =>
    exact (perform_frame performed).2.2.2.setPhase _
  | closes => exact (Frame.refl ..).setPhase _
  | proceeds _ _ _ performed => exact (perform_frame performed).2.2.2
  | @waits call cell =>
    apply Frame.setPhase
    refine ⟨fun _ => rfl, fun _ => rfl, rfl, ?_⟩
    intro other place apart
    have apart : other ≠ call := fun equal => apart (by rw [equal])
    simp [apart]
  | @enters call cell _ _ next _ _ _ performed =>
    rcases perform_frame performed with ⟨-, -, waiters, frame⟩
    apply Frame.setPhase
    refine ⟨frame.phases, frame.calls, frame.length, ?_⟩
    intro other place apart
    have apart : other ≠ call := fun equal => apart (by rw [equal])
    simp [waiters, apart]

theorem Acts.inside (sound : Sound before) (acts : Acts before (.call call) after) :
    call < before.machine.calls.length := by
  have present {found : Option Call} (is : before.machine.calls[call]? = found)
      (some : found ≠ none) : call < before.machine.calls.length := by
    apply Nat.lt_of_not_le
    intro outside
    exact some (is.symm.trans (List.getElem?_eq_none outside))
  have busy {phase : Phase} (is : before.phases (.call call) = phase)
      (apart : phase ≠ .outside) : call < before.machine.calls.length :=
    sound.inside (is ▸ apart)
  cases acts with
  | takesDefinitions holds | goesIn holds | takesPools holds | performsDefinitions holds
  | performsPools holds | leavesDefinitions holds | leavesPools holds | goesBack holds
  | enters holds => exact busy holds nofun
  | asksDefinitions _ needs =>
    rcases Option.bind_eq_some_iff.mp needs with ⟨found, is, -⟩
    exact present is nofun
  | asksPools _ _ needs =>
    rcases Option.bind_eq_some_iff.mp needs with ⟨found, is, -⟩
    exact present is nofun
  | waits _ stage | closes _ stage =>
    rcases Machine.stage?_eq_some_iff.mp stage with ⟨request, is⟩
    exact present is nofun
  | proceeds _ _ _ performed =>
    rcases perform_call_inv performed with ⟨machine, advanced, -⟩
    rcases Machine.moves_of_advance advanced with @⟨_, _, _, _, _, is, _, _⟩
    exact present is nofun

theorem Sound.tied_setLock (sound : Sound before) {guard : Guard} {lock : Lock} {phase : Phase}
    (here : Lock.Tied guard lock (assign before.phases party phase))
    (holds : phase.holds guard.other = (before.phases party).holds guard.other)
    (asks : phase.asks guard.other = (before.phases party).asks guard.other) (other : Guard) :
    Lock.Tied other (((before.setLock guard lock).setPhase party phase).locks other)
      ((before.setLock guard lock).setPhase party phase).phases := by
  by_cases same : other = guard
  · subst same
    simpa [setPhase, setLock] using here
  · have rest := Guard.eq_other same
    subst rest
    simpa [setPhase, setLock, same] using (sound.tied guard.other).same holds asks

theorem Acts.tied (sound : Sound before) (acts : Acts before party after) (guard : Guard) :
    Lock.Tied guard (after.locks guard) after.phases := by
  -- A phase that asks and holds the same as the one before it fits the same locks.
  have same {next : Guarded} {phase : Phase} (locks : next.locks = before.locks)
      (phases : next.phases = before.phases)
      (holds : ∀ guard, phase.holds guard = (before.phases party).holds guard)
      (asks : ∀ guard, phase.asks guard = (before.phases party).asks guard) :
      Lock.Tied guard ((next.setPhase party phase).locks guard)
        (next.setPhase party phase).phases := by
    rw [setPhase, locks, phases]
    exact (sound.tied guard).same (holds guard) (asks guard)
  cases acts with
  | asksDefinitions outside =>
    apply sound.tied_setLock _ (by rw [outside]; rfl) (by rw [outside]; rfl)
    exact (sound.tied .definitions).ask (by rw [outside]; rfl) (by rw [outside]; rfl) rfl
  | asksPools outside =>
    apply sound.tied_setLock _ (by rw [outside]; rfl) (by rw [outside]; rfl)
    exact (sound.tied .pools).ask (by rw [outside]; rfl) (by rw [outside]; rfl) rfl
  | takesDefinitions asks taken =>
    apply sound.tied_setLock _ (by rw [asks]; rfl) (by rw [asks]; rfl)
    exact (sound.tied .definitions).take taken (by rw [asks]; rfl) (by rw [asks]; rfl) rfl rfl
  | goesIn holds =>
    apply sound.tied_setLock _ (by rw [holds]; rfl) (by rw [holds]; rfl)
    exact (sound.tied .pools).ask (by rw [holds]; rfl) (by rw [holds]; rfl) rfl
  | takesPools asks taken =>
    apply sound.tied_setLock _ (by rw [asks]; rfl) (by rw [asks]; rfl)
    exact (sound.tied .pools).take taken (by rw [asks]; rfl) (by rw [asks]; rfl) rfl rfl
  | leavesDefinitions holds =>
    apply sound.tied_setLock _ (by rw [holds]; rfl) (by rw [holds]; rfl)
    exact (sound.tied .definitions).release rfl (by rw [holds]; rfl)
  | leavesPools holds | goesBack holds =>
    apply sound.tied_setLock _ (by rw [holds]; rfl) (by rw [holds]; rfl)
    exact (sound.tied .pools).release rfl (by rw [holds]; rfl)
  | performsDefinitions holds _ performed | performsPools holds performed =>
    rcases perform_frame performed with ⟨phases, locks, -, -⟩
    apply same locks phases <;> intro guard <;> rw [holds] <;> cases guard <;> rfl
  | waits outside | closes outside =>
    apply same rfl rfl <;> intro guard <;> rw [outside] <;> cases guard <;> rfl
  | enters waits _ _ performed =>
    rcases perform_frame performed with ⟨phases, locks, -, -⟩
    apply same locks phases <;> intro guard <;> rw [waits] <;> cases guard <;> rfl
  | proceeds _ _ _ performed =>
    rcases perform_frame performed with ⟨phases, locks, -, -⟩
    rw [locks, phases]
    exact sound.tied guard

theorem definitionsMode_call {request : Request} {stage : Stage}
    (present : before.machine.calls[call]? = some ⟨request, stage⟩) :
    before.definitionsMode (.call call) = stage.definitionsMode request := by
  rw [definitionsMode, present]
  rfl

theorem poolsMode_call {request : Request} {stage : Stage}
    (present : before.machine.calls[call]? = some ⟨request, stage⟩) :
    before.poolsMode (.call call) = stage.poolsMode before.machine.registry request := by
  rw [poolsMode, present]
  rfl

theorem perform_inv (performed : before.perform (.call call) = some next) :
    ∃ request earlier stage, before.machine.calls[call]? = some ⟨request, earlier⟩ ∧
      next.machine.calls[call]? = some ⟨request, stage⟩ ∧
      (Machine.readsDefinitions stage = true →
        before.definitionsMode (.call call) = some .read ∧
          before.poolsMode (.call call) = some .read) ∧
      (stage.isOpening = true → ∃ definition key cell, earlier = .waiting definition key cell) := by
  rcases perform_call_inv performed with ⟨machine, advanced, rfl⟩
  rcases id (Machine.moves_of_advance advanced) with @⟨request, earlier, _, _, _, found, _, _⟩
  rcases Machine.advance_inv found advanced with ⟨stage, present, reads, opens⟩
  refine ⟨request, earlier, stage, found, present, ?_, opens⟩
  rw [definitionsMode_call found, poolsMode_call found]
  exact reads

theorem Acts.fits (sound : Sound before) (acts : Acts before (.call call) after)
    {request : Request} {stage : Stage}
    (present : after.machine.calls[call]? = some ⟨request, stage⟩) :
    (after.phases (.call call)).Fits request stage := by
  cases acts with
  | asksDefinitions outside needs =>
    have found : before.machine.calls[call]? = some ⟨request, stage⟩ := present
    have blind := sound.calls found
    rw [outside] at blind
    rw [definitionsMode_call found] at needs
    rw [phases_setPhase_self]
    exact ⟨entering_of_definitionsMode needs blind, needs⟩
  | asksPools outside skips needs =>
    have found : before.machine.calls[call]? = some ⟨request, stage⟩ := present
    rw [definitionsMode_call found] at skips
    rw [poolsMode_call found] at needs
    rw [phases_setPhase_self]
    exact ⟨skips, isSection_of_poolsMode needs⟩
  | takesDefinitions asks =>
    have found : before.machine.calls[call]? = some ⟨request, stage⟩ := present
    have fits := sound.calls found
    rw [asks] at fits
    rw [phases_setPhase_self]
    exact fits.2
  | goesIn holds needs =>
    have found : before.machine.calls[call]? = some ⟨request, stage⟩ := present
    have fits := sound.calls found
    rw [holds] at fits
    rw [poolsMode_call found] at needs
    rw [phases_setPhase_self]
    exact ⟨fits, isSection_of_poolsMode needs⟩
  | takesPools asks =>
    have found : before.machine.calls[call]? = some ⟨request, stage⟩ := present
    have fits := sound.calls found
    rw [asks] at fits
    rw [phases_setPhase_self]
    exact fits
  | performsDefinitions holds skips performed =>
    rcases perform_inv performed with ⟨asked, first, next, found, reached, reads, opens⟩
    have fits := sound.calls found
    rw [holds] at fits
    cases reached.symm.trans present
    rw [phases_setPhase_self]
    constructor
    · rw [Bool.eq_false_iff]
      intro reading
      cases skips.symm.trans (reads reading).2
    · rw [Bool.eq_false_iff]
      intro opening
      rcases opens opening with ⟨definition, key, cell, rfl⟩
      cases fits
  | performsPools holds performed =>
    rcases perform_inv performed with ⟨asked, first, next, found, reached, reads, opens⟩
    have fits := sound.calls found
    rw [holds] at fits
    cases reached.symm.trans present
    rw [phases_setPhase_self]
    constructor
    · intro reading
      rw [definitionsMode_call found] at reads
      exact fits.1.symm.trans (reads reading).1
    · rw [Bool.eq_false_iff]
      intro opening
      rcases opens opening with ⟨definition, key, cell, rfl⟩
      cases fits.2
  | leavesDefinitions holds =>
    have found : before.machine.calls[call]? = some ⟨request, stage⟩ := present
    have fits := sound.calls found
    rw [holds] at fits
    rw [phases_setPhase_self]
    exact fits.1
  | leavesPools holds =>
    have found : before.machine.calls[call]? = some ⟨request, stage⟩ := present
    have fits := sound.calls found
    rw [holds] at fits
    rw [phases_setPhase_self]
    apply Bool.eq_false_iff.mpr
    intro reading
    cases fits.1 reading
  | goesBack holds =>
    have found : before.machine.calls[call]? = some ⟨request, stage⟩ := present
    have fits := sound.calls found
    rw [holds] at fits
    have reserving : before.isReserving (.call call) = Machine.readsDefinitions stage := by
      rw [isReserving, Machine.stage?_eq_some_iff.mpr ⟨request, found⟩]
      rfl
    rw [phases_setPhase_self, reserving]
    cases reading : Machine.readsDefinitions stage with
    | false => exact ⟨reading, fits.2⟩
    | true =>
      cases stage with
      | reserving definition key => exact (fits.1 reading).symm
      | _ => cases reading
  | waits outside waiting =>
    rcases Machine.stage?_eq_some_iff.mp waiting with ⟨asked, found⟩
    cases found.symm.trans present
    rw [phases_setPhase_self]
    exact ⟨_, _, _, rfl⟩
  | closes outside found closing =>
    rcases Machine.stage?_eq_some_iff.mp found with ⟨asked, found⟩
    cases found.symm.trans present
    rw [phases_setPhase_self]
    exact Option.isSome_iff_exists.mpr ⟨_, closing⟩
  | proceeds outside skips _ performed =>
    rcases perform_inv performed with ⟨asked, first, next, found, reached, reads, opens⟩
    cases reached.symm.trans present
    rw [(perform_frame performed).1, outside]
    apply Bool.eq_false_iff.mpr
    intro reading
    cases skips.symm.trans (reads reading).1
  | enters waits waiting _ performed =>
    rcases perform_inv performed with ⟨asked, first, next, found, reached, reads, opens⟩
    rcases Machine.stage?_eq_some_iff.mp waiting with ⟨_, same⟩
    cases reached.symm.trans present
    cases found.symm.trans same
    rw [definitionsMode_call found] at reads
    rw [phases_setPhase_self]
    apply Bool.eq_false_iff.mpr
    intro reading
    cases (reads reading).1

theorem Acts.waits_iff (sound : Sound before) (acts : Acts before (.call call) after) {cell : Nat} :
    (call, cell) ∈ after.waiters ↔ after.phases (.call call) = .asksPermit ∧
      ∃ definition key, after.machine.stage? call = some (.waiting definition key cell) := by
  have unlisted {phase : Phase} (is : before.phases (.call call) = phase)
      (apart : phase ≠ .asksPermit) (place : Nat) : (call, place) ∉ before.waiters := by
    intro listed
    exact apart (is.symm.trans (sound.waiters.mp listed).1)
  have neither {next : Guarded} {phase : Phase} (absent : (call, cell) ∉ next.waiters)
      (apart : phase ≠ .asksPermit) :
      (call, cell) ∈ (next.setPhase (.call call) phase).waiters ↔
        (next.setPhase (.call call) phase).phases (.call call) = .asksPermit ∧
          ∃ definition key, (next.setPhase (.call call) phase).machine.stage? call =
            some (.waiting definition key cell) := by
    rw [phases_setPhase_self]
    exact iff_of_false absent fun both => apart both.1
  cases acts with
  | asksDefinitions is | asksPools is | takesDefinitions is | goesIn is | takesPools is
  | leavesDefinitions is | leavesPools is | goesBack is | closes is =>
    exact neither (unlisted is nofun cell) nofun
  | performsDefinitions is _ performed | performsPools is performed =>
    refine neither ?_ nofun
    rw [(perform_frame performed).2.2.1]
    exact unlisted is nofun cell
  | proceeds is _ _ performed =>
    rcases perform_frame performed with ⟨phases, -, waiters, -⟩
    rw [waiters, phases, is]
    exact iff_of_false (unlisted is nofun cell) fun both => nomatch both.1
  | @waits _ place definition key is stage =>
    rw [phases_setPhase_self]
    have listed : (call, cell) ∈ before.waiters ++ [(call, place)] ↔ cell = place := by
      simp [unlisted is nofun]
    rw [setPhase, listed, stage]
    simp [eq_comm]
  | enters =>
    refine neither ?_ nofun
    simp

theorem Acts.machine (acts : Acts before party after) :
    after.machine = before.machine ∨
      ∃ call, party = .call call ∧ before.machine.advance call = some after.machine := by
  cases acts with
  | performsDefinitions _ _ performed | performsPools _ performed | enters _ _ _ performed =>
    have moves := perform_machine performed
    exact moves
  | proceeds _ _ _ performed => exact perform_machine performed
  | _ => exact .inl rfl

theorem Acts.sound (sound : Sound before) (acts : Acts before party after) : Sound after := by
  have reachable : after.machine.Reachable := by
    rcases acts.machine with same | ⟨call, -, advanced⟩
    · rw [same]
      exact sound.reachable
    · exact .step (.advance call) sound.reachable advanced
  apply sound.frame acts.frame reachable (acts.tied sound)
  · rintro call request stage rfl present
    exact acts.fits sound present
  · rintro call rfl
    exact acts.inside sound
  · rintro number rfl
    cases acts with
    | _ =>
      rw [phases_setPhase_self]
      exact ⟨nofun, nofun⟩
  · rintro call cell rfl
    exact acts.waits_iff sound

end Keep

/-! ### Steps -/

section Steps

variable {before after : Guarded}

theorem sound_start : Sound start where
  reachable := .start
  tied := Lock.tied_free
  calls := nofun
  absent _ := rfl
  inquiries := ⟨nofun, nofun⟩
  waiters := iff_of_false nofun fun both => nomatch both.1

theorem Sound.invoke (sound : Sound before) (request : Request) :
    Sound { before with
      machine := { before.machine with
        calls := before.machine.calls ++ [⟨request, .entering⟩] } } where
  reachable := .step (.invoke request) sound.reachable rfl
  tied := sound.tied
  calls := by
    intro call asked stage present
    rcases Machine.invoked_cases present with earlier | ⟨rfl, equal⟩
    · exact sound.calls earlier
    · cases equal
      rw [sound.absent (Nat.le_refl _)]
      rfl
  absent := by
    intro call outside
    rw [List.length_append] at outside
    exact sound.absent (Nat.le_of_add_right_le outside)
  inquiries := sound.inquiries
  waiters := by
    intro call cell
    rw [sound.waiters]
    apply and_congr_right
    intro waits
    have inside := sound.inside (by rw [waits]; nofun)
    rw [Machine.stage?, Machine.stage?, List.getElem?_append_left inside]

theorem Sound.answer (sound : Sound before) {call : Nat} (action : Machine.Action)
    {machine : Machine} (steps : before.machine.step action = some machine)
    (acts : action.call? = some call)
    (outside : before.phases (.call call) = .outside ∨ before.phases (.call call) = .closing)
    (blind : ∀ {request stage}, machine.calls[call]? = some ⟨request, stage⟩ →
      Machine.readsDefinitions stage = false) :
    Sound ({ before with machine }.setPhase (.call call) .outside) := by
  have moves := Machine.moves_of_step steps acts
  apply sound.frame ((frame_of_moves moves).setPhase .outside)
    (.step action sound.reachable steps)
  · intro guard
    apply (sound.tied guard).same <;> rcases outside with is | is <;> rw [is] <;>
      cases guard <;> rfl
  · rintro _ request stage ⟨⟩ present
    rw [phases_setPhase_self]
    exact blind present
  · rintro _ ⟨⟩
    rcases moves with @⟨_, _, _, _, _, present, _, _⟩
    exact (List.getElem?_eq_some_iff.mp present).1
  · rintro number ⟨⟩
  · rintro _ cell ⟨⟩
    rw [phases_setPhase_self]
    apply iff_of_false _ fun both => nomatch both.1
    intro listed
    rcases outside with is | is <;> cases is.symm.trans (sound.waiters.mp listed).1

theorem Sound.openEnds (sound : Sound before) {call : Nat} {failure : Option Failure}
    {machine : Machine} (ended : before.machine.openEnds call failure = some machine) :
    Sound { before with machine } := by
  rcases Machine.opening_of_openEnds ended with ⟨request, definition, key, cell, present⟩
  have outside := (sound.calls present).outside_of_opening rfl
  rcases id (Machine.moves_of_openEnds ended) with @⟨_, _, next, registry, events, found, _, move⟩
  cases present.symm.trans found
  have whole := sound.answer (.openEnds call failure) ended rfl (.inl outside) <| by
    intro asked stage found
    rcases Machine.moved_cases found with ⟨-, equal⟩ | ⟨apart, -⟩
    · cases equal
      cases move <;> rfl
    · exact absurd rfl apart
  have same : assign before.phases (.call call) .outside = before.phases := by
    funext other
    by_cases equal : other = .call call
    · rw [equal, assign_self, outside]
    · exact assign_of_ne _ _ equal
  rw [setPhase, same] at whole
  exact whole

theorem closeEnds_inv {call : Nat} {succeeds : Bool}
    (steps : before.step (.closeEnds call succeeds) = some after) :
    before.phases (.call call) = .closing ∧ ∃ machine,
      before.machine.close call succeeds = some machine ∧
        after = { before with machine }.setPhase (.call call) .outside := by
  rw [Guarded.step] at steps
  split at steps
  · next closing =>
    rcases Option.map_eq_some_iff.mp steps with ⟨machine, closed, rfl⟩
    exact ⟨closing, machine, closed, rfl⟩
  · cases steps

theorem Sound.step (sound : Sound before) {turn : Turn} (steps : before.step turn = some after) :
    Sound after := by
  cases turn with
  | invoke request =>
    cases steps
    exact sound.invoke request
  | inquire inquiry =>
    cases steps
    exact ⟨sound.reachable, sound.tied, sound.calls, sound.absent, sound.inquiries, sound.waiters⟩
  | act party => exact (acts_of_act steps).sound sound
  | openEnds call failure =>
    rcases Option.map_eq_some_iff.mp steps with ⟨machine, ended, rfl⟩
    exact sound.openEnds ended
  | closeEnds call succeeds =>
    rcases closeEnds_inv steps with ⟨closing, machine, closed, rfl⟩
    apply sound.answer (.close call succeeds) closed rfl (.inr closing)
    intro request stage found
    rcases id (Machine.moves_of_close closed) with @⟨_, first, _, _, _, present, _, move⟩
    have fits := sound.calls present
    rw [closing] at fits
    rcases Machine.moved_cases found with ⟨-, equal⟩ | ⟨apart, -⟩
    · cases equal
      cases move with
      | lacks => cases fits
      | _ => rfl
    · exact absurd rfl apart
  | reorder places =>
    rcases Option.map_eq_some_iff.mp steps with ⟨machine, reordered, rfl⟩
    have reachable : machine.Reachable := .step (.reorder places) sound.reachable reordered
    rw [Machine.reorder] at reordered
    split at reordered
    · cases reordered
      exact ⟨reachable, sound.tied, sound.calls, sound.absent, sound.inquiries, sound.waiters⟩
    · cases reordered

/-- What happens under the guards is what happens without them: each step is one of the machine,
perhaps one that changes nothing, and it moves the call whose turn it is or none. -/
theorem machine_of_step {turn : Turn} (steps : before.step turn = some after) :
    ∃ action, before.machine.step action = some after.machine ∧
      ∀ call, action.call? = some call → turn.party? = some (.call call) := by
  have still (same : after.machine = before.machine) :
      before.machine.step (.reorder before.machine.registry.places) = some after.machine := by
    rw [same]
    simp [Machine.step, Machine.reorder, List.isPerm_iff]
  -- An action of no call is nobody's turn.
  have unmoved {action : Machine.Action} (moves : action.call? = none) :
      ∀ call, action.call? = some call → turn.party? = some (.call call) := by
    intro call own
    cases moves.symm.trans own
  cases turn with
  | invoke request =>
    cases steps
    exact ⟨.invoke request, rfl, unmoved rfl⟩
  | inquire inquiry =>
    cases steps
    exact ⟨_, still rfl, unmoved rfl⟩
  | act party =>
    rcases (acts_of_act steps).machine with same | ⟨call, rfl, advanced⟩
    · exact ⟨_, still same, unmoved rfl⟩
    · refine ⟨.advance call, advanced, ?_⟩
      rintro _ ⟨⟩
      rfl
  | openEnds call failure =>
    rcases Option.map_eq_some_iff.mp steps with ⟨machine, ended, rfl⟩
    refine ⟨.openEnds call failure, ended, ?_⟩
    rintro _ ⟨⟩
    rfl
  | closeEnds call succeeds =>
    rcases closeEnds_inv steps with ⟨-, machine, closed, rfl⟩
    refine ⟨.close call succeeds, closed, ?_⟩
    rintro _ ⟨⟩
    rfl
  | reorder places =>
    rcases Option.map_eq_some_iff.mp steps with ⟨machine, reordered, rfl⟩
    exact ⟨.reorder places, reordered, unmoved rfl⟩

theorem Reachable.sound {state : Guarded} (reachable : Reachable state) : Sound state := by
  induction reachable with
  | start => exact sound_start
  | step turn _ steps sound => exact sound.step steps

theorem Reachable.run {turns : List Turn} (reachable : Reachable before)
    (course : before.run turns = some after) : Reachable after := by
  induction turns generalizing before with
  | nil =>
    cases course
    exact reachable
  | cons turn turns induction =>
    rcases Option.bind_eq_some_iff.mp course with ⟨moment, steps, rest⟩
    exact induction (.step turn reachable steps) rest

end Steps

end Guarded

end SqlGateway.Registry
