import SqlGateway.Proofs.Registry.SingleFlight

/-!
# The rounds of a request

A request of a pool goes round: it looks up its cell, gets the pool of the cell, and starts again if
the cell was taken meanwhile. What a course costs a request is counted step by step: the rounds that
it begins, the pools that it begins to open, and the cells of its connection that others take while
it runs.

A request is worth a round as long as it holds a cell that is still placed, or is to get one. When
others take this cell the worth is gone, and the cell counts as taken; when the request starts again
the worth is back, and the round counts. This is `Budget`, and no step breaks it.
-/

namespace SqlGateway.Registry

theorem isPlaced_iff {registry : Registry} {cell : Nat} :
    registry.isPlaced cell = true ↔ ∃ key, (key, cell) ∈ registry.places := by
  simp [isPlaced]

@[simp] theorem isPlaced_setBusy (registry : Registry) (marked : Nat) (busy : Bool) (cell : Nat) :
    (registry.setBusy marked busy).isPlaced cell = registry.isPlaced cell := rfl

@[simp] theorem isPlaced_fill (registry : Registry) (filled : Nat) (definition : Definition)
    (database : Option String) (cell : Nat) :
    (registry.fill filled definition database).2.isPlaced cell = registry.isPlaced cell := rfl

namespace Stage

/-- The round that a request is in, unless the round is known to have failed. -/
def worth (registry : Registry) : Stage → Nat
  | .entering | .discarding _ | .closing .. => 0
  | .reserving .. | .finished _ => 1
  | .waiting _ _ cell | .opening _ _ cell | .checking _ cell _ _ =>
    (registry.isPlaced cell).toNat

def unopened : Stage → Nat
  | .reserving .. | .waiting .. => 1
  | .entering | .opening .. | .checking .. | .discarding _ | .closing .. | .finished _ => 0

end Stage

namespace Machine

/-! ## What is counted -/

def tally (count : Machine → Action → Machine → Nat) (machine : Machine) : List Action → Nat
  | [] => 0
  | action :: actions =>
    match machine.step action with
    | none => 0
    | some after => count machine action after + tally count after actions

def rounds (call : Nat) (before : Machine) (action : Action) (_ : Machine) : Nat :=
  if action.call? = some call ∧ before.stage? call = some .entering then 1 else 0

def connections (call : Nat) (_ : Machine) (action : Action) (after : Machine) : Nat :=
  if action.call? = some call ∧ (after.stage? call).any Stage.isOpening then 1 else 0

/-- Counts the cells of a connection that another than a call takes while the call is running. -/
def removals (call : Nat) (id : String) (before : Machine) (action : Action) (after : Machine) :
    Nat :=
  if action.call? ≠ some call ∧ before.isRunning call then
    before.registry.places.countP fun place =>
      place.1.connection = id ∧ place ∉ after.registry.places
  else 0

theorem tally_concat {count : Machine → Action → Machine → Nat} {before moment after : Machine}
    {actions : List Action} {action : Action} (course : before.run actions = some moment)
    (steps : moment.step action = some after) :
    tally count before (actions ++ [action]) =
      tally count before actions + count moment action after := by
  induction actions generalizing before with
  | nil =>
    cases course
    simp [tally, steps]
  | cons first actions induction =>
    rw [run, List.foldlM_cons, Option.bind_eq_bind, Option.bind_eq_some_iff] at course
    rcases course with ⟨between, begins, course⟩
    rw [List.cons_append, tally, tally, begins]
    simp only
    rw [induction course]
    omega

/-! ## The balance of a request -/

/-- The rounds that a request has begun are covered by the cells that others took and by what the
request is worth; and it has opened no more than one pool a round. -/
structure Budget (registry : Registry) (stage : Stage) (begun opened taken : Nat) : Prop where
  covered : begun ≤ taken + stage.worth registry
  single : opened + stage.unopened ≤ begun

section Worth

variable {registry : Registry} {request : Request} {stage : Stage} {past : List Event} {cell : Nat}

theorem worth_le_one (registry : Registry) (stage : Stage) : stage.worth registry ≤ 1 := by
  cases stage with
  | waiting | opening | checking => exact Bool.toNat_le _
  | _ => simp [Stage.worth]

theorem worth_of_cell? (own : stage.cell? = some cell) :
    stage.worth registry = (registry.isPlaced cell).toNat := by
  cases stage with
  | waiting | opening | checking =>
    cases own
    rfl
  | _ => cases own

theorem worth_of_placed (own : stage.cell? = some cell) {key : PoolKey}
    (placed : (key, cell) ∈ registry.places) : stage.worth registry = 1 := by
  rw [worth_of_cell? own, isPlaced_iff.mpr ⟨key, placed⟩]
  rfl

theorem Fits.connection {id : String} {database : Option String}
    (fits : Fits registry past (.get id database) stage) {key : PoolKey}
    (own : stage.cell? = some cell) (placed : (key, cell) ∈ registry.places) :
    key.connection = id := by
  have holds : ∃ definition key, Holds registry (.get id database) definition key cell := by
    cases stage with
    | waiting definition key found =>
      cases own
      exact ⟨definition, key, fits⟩
    | opening definition key found =>
      cases own
      exact ⟨definition, key, fits.1⟩
    | checking key found pool created =>
      cases own
      rcases fits.1 with ⟨definition, holds⟩
      exact ⟨definition, key, holds⟩
    | _ => cases own
  rcases holds with ⟨definition, found, holds⟩
  rcases holds.placed placed with ⟨rfl, -⟩
  rcases holds.asked with ⟨_, _, equal, rfl⟩
  cases equal
  rfl

theorem Kept.isPlaced_of_lost {machine : Machine} (kept : Kept machine) {call : Nat}
    {key : PoolKey} {pool : Pool} {created : Bool}
    (present : machine.calls[call]? = some ⟨request, .checking key cell pool created⟩)
    (lost : machine.registry.isCurrent key cell = false) :
    machine.registry.isPlaced cell = false := by
  rcases kept.fits present with ⟨⟨definition, holds⟩, -⟩
  rw [Bool.eq_false_iff, Ne, isPlaced_iff]
  rintro ⟨other, placed⟩
  rcases holds.placed placed with ⟨rfl, -⟩
  rw [(isCurrent_iff kept.tidy.keys).mpr placed] at lost
  cases lost

end Worth

/-! ## What a step does to the balance -/

section Step

variable {before after : Machine} {call : Nat} {id : String} {database : Option String}

theorem worth_le_of_taken {action : Action} {stage : Stage} (kept : Kept before)
    (present : before.calls[call]? = some ⟨.get id database, stage⟩)
    (apart : action.call? ≠ some call) :
    stage.worth before.registry ≤
      stage.worth after.registry + removals call id before action after := by
  cases own : stage.cell? with
  | none =>
    cases stage with
    | waiting | opening | checking => cases own
    | _ => exact Nat.le_add_right ..
  | some cell =>
    by_cases still : after.registry.isPlaced cell = true
    · have least : 1 ≤ stage.worth after.registry := by
        rw [worth_of_cell? own, still]
        exact Nat.le_refl 1
      have most := worth_le_one before.registry stage
      omega
    by_cases earlier : before.registry.isPlaced cell = true
    · -- The cell was taken in this step, and counts.
      rcases isPlaced_iff.mp earlier with ⟨key, placed⟩
      have gone : (key, cell) ∉ after.registry.places := fun there =>
        still (isPlaced_iff.mpr ⟨key, there⟩)
      have runs : before.isRunning call = true := by
        rw [isRunning, stage?_eq_some_iff.mpr ⟨_, present⟩]
        cases stage with
        | finished => cases own
        | _ => rfl
      have counted : 0 < removals call id before action after := by
        rw [removals, if_pos ⟨apart, runs⟩, List.countP_pos_iff]
        refine ⟨(key, cell), placed, ?_⟩
        simpa using ⟨(kept.fits present).connection own placed, gone⟩
      have most := worth_le_one before.registry stage
      omega
    · rw [worth_of_cell? own, Bool.eq_false_iff.mpr earlier]
      exact Nat.zero_le _

theorem Budget.move {stage next : Stage} {registry : Registry} {events : List Event}
    {begun opened taken : Nat} (kept : Kept before)
    (present : before.calls[call]? = some ⟨.get id database, stage⟩)
    (move : Move before.registry (.get id database) stage registry next events)
    (budget : Budget before.registry stage begun opened taken) :
    Budget registry next (begun + if stage = .entering then 1 else 0)
      (opened + next.isOpening.toNat) taken := by
  rcases budget with ⟨covered, single⟩
  cases move with
  | repeats asked | registers asked | replaces asked | forgets asked | takes asked => cases asked
  | misses | blank | lacks =>
    constructor <;> simp [Stage.worth, Stage.unopened, Stage.isOpening] at * <;> omega
  | finds _ _ placed =>
    constructor
    · rw [worth_of_placed rfl placed]
      exact Nat.add_le_add_right covered 1
    · exact Nat.add_le_add_right single 1
  | @reserves definition key =>
    constructor
    · rw [worth_of_placed rfl (mem_reserve before.registry key)]
      exact covered
    · exact single
  | joins =>
    exact ⟨covered, Nat.le_of_succ_le single⟩
  | begins | opens => exact ⟨covered, single⟩
  | fails | returns | ends =>
    have most := worth_le_one before.registry
    exact ⟨Nat.le_trans covered (Nat.add_le_add_left (most _) taken), single⟩
  | loses lost | retries lost =>
    rw [Stage.worth, kept.isPlaced_of_lost present lost] at covered
    exact ⟨covered, single⟩
  | discards | forsakes | closes | passes => exact ⟨covered, single⟩

theorem Budget.step {action : Action} {stage : Stage} {begun opened taken : Nat}
    (kept : Kept before) (steps : before.step action = some after)
    (present : before.calls[call]? = some ⟨.get id database, stage⟩)
    (budget : Budget before.registry stage begun opened taken) :
    ∃ next, after.calls[call]? = some ⟨.get id database, next⟩ ∧
      Budget after.registry next (begun + rounds call before action after)
        (opened + connections call before action after)
        (taken + removals call id before action after) := by
  have here : before.stage? call = some stage := stage?_eq_some_iff.mpr ⟨_, present⟩
  by_cases own : action.call? = some call
  · rcases moves_of_step steps own with @⟨request, _, next, registry, events, found, unread, move⟩
    rw [present] at found
    cases found
    have later := calls_moved_self present registry (.get id database) next events
    have there := stage?_eq_some_iff.mpr ⟨_, later⟩
    refine ⟨next, later, ?_⟩
    have opens : connections call before action
        (before.moved call registry (.get id database) next events) = next.isOpening.toNat := by
      cases opening : next.isOpening <;> simp [connections, own, there, opening]
    rw [rounds, opens, removals, here]
    simpa [own, moved] using budget.move kept present move
  · refine ⟨stage, call_of_others steps own present, ?_, ?_⟩
    · have worth : stage.worth before.registry ≤
          stage.worth after.registry + removals call id before action after :=
        worth_le_of_taken kept present own
      have covered := budget.covered
      simp only [rounds, own, false_and, if_false]
      omega
    · simpa [rounds, connections, own] using budget.single

theorem budget_of_run (reachable : Reachable before) {actions : List Action}
    (course : before.run (.invoke (.get id database) :: actions) = some after) :
    ∃ stage, after.calls[before.calls.length]? = some ⟨.get id database, stage⟩ ∧
      Budget after.registry stage
        (tally (rounds before.calls.length) before (.invoke (.get id database) :: actions))
        (tally (connections before.calls.length) before (.invoke (.get id database) :: actions))
        (tally (removals before.calls.length id) before
          (.invoke (.get id database) :: actions)) := by
  induction actions using List.reverseRecOn generalizing after with
  | nil =>
    cases course
    refine ⟨.entering, by simp, ?_⟩
    simp only [tally, step, rounds, connections, removals, Action.call?]
    exact ⟨Nat.zero_le _, Nat.zero_le _⟩
  | append_singleton actions action induction =>
    rw [← List.cons_append] at course ⊢
    rcases run_concat_eq_some_iff.mp course with ⟨moment, earlier, steps⟩
    rcases induction earlier with ⟨stage, present, budget⟩
    rw [tally_concat earlier steps, tally_concat earlier steps, tally_concat earlier steps]
    exact budget.step (reachable.run earlier).kept steps present

end Step

end Machine

end SqlGateway.Registry
