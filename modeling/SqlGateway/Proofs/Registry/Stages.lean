import SqlGateway.Proofs.Registry.Moves

/-!
# Stages of calls

An action of a machine is about one call at most, and sets the stage of this call. All other calls
stay where they are, and a call that has finished stays so too. The stage of a call also tells
whether the call can go on: `isFree` says when it has nobody to wait for.
-/

namespace SqlGateway.Registry.Machine

section Stages

variable {machine before after : Machine} {call other : Nat} {stage : Stage}

theorem stage?_setStage_of_ne (apart : other ≠ call) :
    (machine.setStage call stage).stage? other = machine.stage? other := by
  have apart : call ≠ other := fun equal => apart equal.symm
  simp [stage?, setStage, apart]

theorem stage?_setStage_self {found : Stage} (present : machine.stage? call = some found) :
    (machine.setStage call stage).stage? call = some stage := by
  rcases stage?_eq_some_iff.mp present with ⟨request, found⟩
  simp [stage?, setStage, found]

theorem Moves.stage?_of_ne (moves : Moves before call after) (apart : other ≠ call) :
    after.stage? other = before.stage? other := by
  cases moves with
  | intro =>
    rw [stage?, moved, List.getElem?_set_ne (fun equal => apart equal.symm), ← stage?]

theorem Moves.stage?_ne (moves : Moves before call after) :
    after.stage? call ≠ before.stage? call := by
  rcases moves with @⟨request, stage, next, registry, events, present, -, move⟩
  have later := calls_moved_self present registry request next events
  rw [stage?_eq_some_iff.mpr ⟨request, later⟩, stage?_eq_some_iff.mpr ⟨request, present⟩]
  exact fun same => move.stage_ne (Option.some.inj same)

theorem calls_of_step {action : Action} (steps : before.step action = some after) :
    (∃ request, action = .invoke request ∧
      after.calls = before.calls ++ [⟨request, .entering⟩]) ∨
    (∃ call, action.call? = some call ∧ Moves before call after) ∨
    after.calls = before.calls := by
  cases action with
  | invoke request =>
    cases steps
    exact .inl ⟨request, rfl, rfl⟩
  | advance | openEnds | close => exact .inr (.inl ⟨_, rfl, moves_of_step steps rfl⟩)
  | reorder places =>
    rw [step, reorder] at steps
    split at steps
    · cases steps
      exact .inr (.inr rfl)
    · cases steps

theorem call_of_others {action : Action} {found : Call} (steps : before.step action = some after)
    (apart : action.call? ≠ some call) (present : before.calls[call]? = some found) :
    after.calls[call]? = some found := by
  rcases calls_of_step steps with ⟨request, -, calls⟩ | ⟨moving, acts, moves⟩ | calls
  · rw [calls, List.getElem?_append_left (List.getElem?_eq_some_iff.mp present).1]
    exact present
  · cases moves with
    | intro =>
      have other : moving ≠ call := by
        rintro rfl
        exact apart acts
      rw [moved, List.getElem?_set_ne other]
      exact present
  · rw [calls]
    exact present

theorem exists_stage_of_step {action : Action} {request : Request} {stage : Stage}
    (steps : before.step action = some after)
    (present : before.calls[call]? = some ⟨request, stage⟩) :
    ∃ next, after.calls[call]? = some ⟨request, next⟩ := by
  by_cases own : action.call? = some call
  · rcases moves_of_step steps own with @⟨_, _, next, _, _, found, _, _⟩
    rw [present] at found
    cases found
    exact ⟨next, calls_moved_self present _ _ _ _⟩
  · exact ⟨stage, call_of_others steps own present⟩

theorem call?_of_stage?_ne {action : Action} (steps : before.step action = some after)
    (present : before.stage? call = some stage) (left : after.stage? call ≠ some stage) :
    action.call? = some call := by
  rcases stage?_eq_some_iff.mp present with ⟨request, found⟩
  rcases calls_of_step steps with ⟨_, -, calls⟩ | ⟨moving, acts, moves⟩ | calls
  · rw [stage?, calls, List.getElem?_append_left (List.getElem?_eq_some_iff.mp found).1] at left
    exact absurd present left
  · by_cases same : call = moving
    · rw [same]
      exact acts
    · rw [moves.stage?_of_ne same] at left
      exact absurd present left
  · rw [stage?, calls] at left
    exact absurd present left

theorem openEnds_of_finished {action : Action} {definition : Definition} {key : PoolKey}
    {cell : Nat} {failure : Failure} (steps : before.step action = some after)
    (opens : before.stage? call = some (.opening definition key cell))
    (finished : after.stage? call = some (.finished (.failed failure))) :
    action = .openEnds call (some failure) := by
  rcases stage?_eq_some_iff.mp opens with ⟨request, present⟩
  have acts := call?_of_stage?_ne steps opens (by simp [finished])
  cases action with
  | invoke | reorder => cases acts
  | advance =>
    cases acts
    rw [step, advance, present] at steps
    cases steps
  | close =>
    cases acts
    rw [step, close, opens] at steps
    cases steps
  | openEnds moving outcome =>
    cases acts
    rw [step, openEnds, opens] at steps
    cases outcome with
    | none =>
      cases steps
      cases (stage?_setStage_self opens).symm.trans finished
    | some refusal =>
      cases steps
      cases (stage?_setStage_self opens).symm.trans finished
      rfl

/-- The refusal of a pool ends the call that tried to open it, and nothing else but that its cell is
free again. -/
theorem after_refusal {definition : Definition} {key : PoolKey} {cell : Nat} {failure : Failure}
    (steps : before.step (.openEnds call (some failure)) = some after)
    (opens : before.stage? call = some (.opening definition key cell)) :
    after.registry = before.registry.setBusy cell false ∧
      after.stage? call = some (.finished (.failed failure)) ∧
      ∀ other, other ≠ call → after.stage? other = before.stage? other := by
  rw [step, openEnds, opens] at steps
  cases steps
  refine ⟨rfl, stage?_setStage_self opens, ?_⟩
  intro other apart
  exact stage?_setStage_of_ne apart

theorem Steps.stage?_cases (steps : Steps before after)
    (present : before.stage? call = some stage) :
    after.stage? call = some stage ∨
      ∃ request next registry events, before.calls[call]? = some ⟨request, stage⟩ ∧
        after.stage? call = some next ∧
        Move before.registry request stage registry next events := by
  rcases stage?_eq_some_iff.mp present with ⟨request, found⟩
  have inside := (List.getElem?_eq_some_iff.mp found).1
  cases steps with
  | invokes =>
    left
    exact stage?_eq_some_iff.mpr ⟨request, by rw [List.getElem?_append_left inside, found]⟩
  | reorders => exact .inl present
  | @moves moving asked _ next registry events moves _ move =>
    by_cases same : moving = call
    · subst same
      rw [found] at moves
      cases moves
      right
      refine ⟨request, next, registry, events, found, ?_, move⟩
      exact stage?_eq_some_iff.mpr ⟨request, by rw [moved, List.getElem?_set_self inside]⟩
    · left
      exact stage?_eq_some_iff.mpr ⟨request, by rw [moved, List.getElem?_set_ne same, found]⟩

theorem exists_advance_of_free {definition : Definition} {key : PoolKey} {cell : Nat}
    (waits : machine.stage? call = some (.waiting definition key cell))
    (empty : machine.registry.content cell = none) (free : machine.registry.isBusy cell = false) :
    ∃ after, machine.advance call = some after ∧
      after.stage? call = some (.opening definition key cell) := by
  rcases stage?_eq_some_iff.mp waits with ⟨request, present⟩
  rw [advance, present]
  simp only [empty, free, Bool.false_eq_true, if_false]
  exact ⟨_, rfl, stage?_setStage_self waits⟩

theorem Steps.stage?_of_finished {answer : Answer} (steps : Steps before after)
    (finished : before.stage? call = some (.finished answer)) :
    after.stage? call = some (.finished answer) := by
  rcases steps.stage?_cases finished with same | ⟨request, next, registry, events, -, -, move⟩
  · exact same
  · exact absurd rfl (move.stage_ne_finished answer)

theorem stage?_of_finished_run {before after : Machine} {call : Nat} {answer : Answer}
    {rest : List Action} (course : before.run rest = some after)
    (finished : before.stage? call = some (.finished answer)) :
    after.stage? call = some (.finished answer) := by
  have keeps {before after : Machine} (steps : Steps before after)
      (finished : before.stage? call = some (.finished answer)) :
      after.stage? call = some (.finished answer) := steps.stage?_of_finished finished
  exact run_keeps keeps course finished

end Stages

/-! ## What can happen -/

def isFree (machine : Machine) (request : Request) : Stage → Bool
  | .entering => !(changesDefinitions request && machine.isRead)
  | .reserving .. | .checking .. | .closing [] _ => true
  | .waiting _ _ cell =>
    (machine.registry.content cell).isSome || !machine.registry.isBusy cell
  | .discarding cell | .closing (cell :: _) _ => (machine.registry.content cell).isNone
  | .opening .. | .finished _ => false

def closing? : Stage → Option Nat
  | .discarding cell | .closing (cell :: _) _ => some cell
  | .entering | .reserving .. | .waiting .. | .opening .. | .checking .. | .closing [] _
  | .finished _ => none

section Possible

variable {machine : Machine} {call : Nat} {request : Request} {stage : Stage}

theorem advance_isSome (present : machine.calls[call]? = some ⟨request, stage⟩) :
    (machine.advance call).isSome = machine.isFree request stage := by
  rw [advance, present]
  cases stage with
  | entering =>
    cases changes : changesDefinitions request <;> cases read : machine.isRead <;>
      simp [isFree, changes, read]
  | waiting definition key cell =>
    cases filled : machine.registry.content cell <;>
      cases busy : machine.registry.isBusy cell <;> simp [isFree, filled, busy]
  | checking key cell pool created =>
    cases current : machine.registry.isCurrent key cell <;> cases created <;>
      simp [isFree, current]
  | discarding cell =>
    cases filled : machine.registry.content cell <;> simp [isFree, filled]
  | closing cells closed =>
    cases cells with
    | nil => rfl
    | cons cell cells => cases filled : machine.registry.content cell <;> simp [isFree, filled]
  | reserving | opening | finished => rfl

theorem close_isSome (present : machine.stage? call = some stage) (succeeds : Bool) :
    (machine.close call succeeds).isSome =
      ((closing? stage).any fun cell => (machine.registry.content cell).isSome) := by
  rw [close, present]
  cases stage with
  | discarding => simp [closing?]
  | closing cells closed => cases cells <;> simp [closing?]
  | _ => rfl

theorem opening_of_openEnds {after : Machine} {failure : Option Failure}
    (ended : machine.openEnds call failure = some after) :
    ∃ request definition key cell,
      machine.calls[call]? = some ⟨request, .opening definition key cell⟩ := by
  rw [openEnds] at ended
  split at ended
  · next definition key cell found =>
    rcases stage?_eq_some_iff.mp found with ⟨request, present⟩
    exact ⟨request, definition, key, cell, present⟩
  · cases ended

end Possible

/-! ## What was asked -/

theorem Moves.requests {before after : Machine} {call : Nat} (moves : Moves before call after) :
    after.calls.map Call.request = before.calls.map Call.request := by
  cases moves with
  | intro present =>
    rcases List.getElem?_eq_some_iff.mp present with ⟨inside, found⟩
    apply List.ext_getElem
    · simp [moved]
    · intro place _ _
      by_cases same : call = place
      · subst same
        simp [moved, found]
      · simp [moved, same]

theorem invoke_mem_of_run {actions : List Action} {machine : Machine}
    (course : (idle .empty).run actions = some machine) :
    ∀ request ∈ machine.calls.map Call.request, .invoke request ∈ actions := by
  apply Passes.keeps (Passes.start (idle .empty) actions) _ _ course
  · intro earlier reached request member
    cases member
  · intro earlier action before after _ _ steps invoked request member
    rw [List.mem_append]
    rcases calls_of_step steps with ⟨_, rfl, calls⟩ | ⟨call, -, moves⟩ | calls
    · rw [calls, List.map_append, List.mem_append] at member
      rcases member with old | new
      · exact .inl (invoked request old)
      · cases List.mem_singleton.mp new
        exact .inr (List.mem_singleton_self _)
    · rw [moves.requests] at member
      exact .inl (invoked request member)
    · rw [calls] at member
      exact .inl (invoked request member)

end SqlGateway.Registry.Machine
