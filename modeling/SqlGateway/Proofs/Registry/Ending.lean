import SqlGateway.Proofs.Registry.Fairness
import SqlGateway.Proofs.Registry.Rounds

/-!
# The end of a request

A request of a pool goes round again only when another takes its cell, so it has no more rounds, and
opens no more pools, than one and the number of cells that others take. When they take no more, each
thing that the request does brings it nearer to its end, which `Stage.rank` measures, and it goes on
doing things as everybody's turn comes.

Main statement: `get_rounds_bounded`.
-/

namespace SqlGateway.Registry

namespace Machine

/-! ## Each action brings a request nearer to its end -/

section Rank

variable {before after : Machine} {call : Nat} {id : String} {database : Option String}
  {stage next : Stage}

theorem rank_le_of_worth_le {earlier later : Registry}
    (kept : stage.worth earlier ≤ stage.worth later) : stage.rank later ≤ stage.rank earlier := by
  cases stage with
  | waiting definition key cell | opening definition key cell | checking key cell pool created =>
    simp only [Stage.worth] at kept
    simp only [Stage.rank]
    cases placed : earlier.isPlaced cell <;> cases still : later.isPlaced cell <;>
      simp [placed, still] at *
  | _ => exact Nat.le_refl _

theorem rank_lt_of_move (kept : Kept before) {registry : Registry} {events : List Event}
    (present : before.calls[call]? = some ⟨.get id database, stage⟩)
    (move : Move before.registry (.get id database) stage registry next events) :
    next.rank registry < stage.rank before.registry := by
  cases move with
  | repeats asked | registers asked | replaces asked | forgets asked | takes asked => cases asked
  | finds _ _ placed =>
    simp [Stage.rank, isPlaced_iff.mpr ⟨_, placed⟩]
  | @reserves definition key =>
    simp [Stage.rank, isPlaced_iff.mpr ⟨_, mem_reserve before.registry key⟩]
  | @joins definition key cell | @begins definition key cell | @opens definition key cell =>
    simp only [Stage.rank, isPlaced_setBusy, isPlaced_fill]
    by_cases placed : before.registry.isPlaced cell = true <;> simp [placed]
  | fails | returns =>
    simp only [Stage.rank]
    split <;> omega
  | loses lost | retries lost =>
    simp [Stage.rank, kept.isPlaced_of_lost present lost]
  | _ => simp [Stage.rank]

end Rank

theorem rank_le_of_others {before after : Machine} {action : Action} {call bound : Nat}
    {id : String} {database : Option String} {stage : Stage} (kept : Kept before)
    (apart : action.call? ≠ some call) (none : removals call id before action after = 0)
    (present : before.calls[call]? = some ⟨.get id database, stage⟩)
    (near : stage.rank before.registry ≤ bound) : stage.rank after.registry ≤ bound := by
  apply Nat.le_trans (rank_le_of_worth_le _) near
  apply Nat.le_trans (worth_le_of_taken kept present apart)
  rw [none]
  exact Nat.le_refl _

end Machine

namespace Guarded

/-! ## Every request ends -/

namespace Endless

/-- From some moment on, no cell of a connection is taken by another than a call while the call is
running. -/
def Settles (course : Endless) (call : Nat) (id : String) : Prop :=
  ∃ last, ∀ moment ≥ last, ∀ action,
    (course.states moment).machine.step action = some (course.states (moment + 1)).machine →
    Machine.removals call id (course.states moment).machine action
      (course.states (moment + 1)).machine = 0

variable {course : Endless} {call : Nat} {id : String} {database : Option String}

/-- A request that others leave in peace ends: by induction on what it has left to do. -/
theorem exists_end_of_rank (just : course.Just) (answered : course.Answered)
    (first : Reachable (course.states 0)) (bound : Nat) {start : Nat} {stage : Stage}
    (settled : ∀ moment ≥ start, ∀ action,
      (course.states moment).machine.step action = some (course.states (moment + 1)).machine →
      Machine.removals call id (course.states moment).machine action
        (course.states (moment + 1)).machine = 0)
    (present : (course.states start).machine.calls[call]? = some ⟨.get id database, stage⟩)
    (near : stage.rank (course.states start).machine.registry ≤ bound) :
    ∃ moment answer, (course.states moment).machine.stage? call = some (.finished answer) ∧
      (course.states moment).phases (.call call) = .outside := by
  induction bound using Nat.strongRecOn generalizing start stage with
  | ind bound induction =>
    have kept (moment : Nat) := (course.reachable first moment).sound.reachable.kept
    rcases exists_first
      (fun state : Guarded => state.machine.calls[call]? = some ⟨.get id database, stage⟩ ∧
        stage.rank state.machine.registry ≤ bound)
      ⟨present, near⟩
      (fun moment after apart still => by
        rcases machine_of_step (course.steps moment) with ⟨action, steps, -⟩
        have others : action.call? ≠ some call := fun own =>
          apart (.inl (Machine.moves_of_step steps own).stage?_ne)
        exact ⟨Machine.call_of_others steps others still.1,
          Machine.rank_le_of_others (kept moment) others (settled moment after action steps)
            still.1 still.2⟩)
      (just.exists_change answered first start call) with
      ⟨moment, after, changed | ended, still, near⟩
    · rcases machine_of_step (course.steps moment) with ⟨action, steps, -⟩
      have here := Machine.stage?_eq_some_iff.mpr ⟨_, still⟩
      have own := Machine.call?_of_stage?_ne steps here (here ▸ changed)
      have moves := Machine.moves_of_step steps own
      generalize reached : (course.states (moment + 1)).machine = next at moves
      rcases moves with @⟨request, _, later, registry, events, found, -, move⟩
      rw [still] at found
      cases found
      have less := Machine.rank_lt_of_move (kept moment) still move
      have moved : (course.states (moment + 1)).machine.calls[call]? =
          some ⟨.get id database, later⟩ := by
        rw [reached]
        exact Machine.calls_moved_self still _ _ _ _
      have nearer : later.rank (course.states (moment + 1)).machine.registry ≤
          later.rank registry := by
        rw [reached]
        exact Nat.le_refl _
      exact induction (later.rank registry) (by omega)
        (fun further above => settled further (by omega)) moved nearer
    · have here := Machine.stage?_eq_some_iff.mpr ⟨_, still⟩
      have rests : (course.states moment).phases (.call call) = .outside ∧
          stage.isFinished = true := by
        simpa [isRunning, Machine.isRunning, here] using ended
      cases stage with
      | finished answer => exact ⟨moment, answer, here, rests.1⟩
      | _ => cases rests.2

theorem exists_end (just : course.Just) (answered : course.Answered)
    (first : Reachable (course.states 0)) (begins : course.turns 0 = .invoke (.get id database))
    (new : call = (course.states 0).machine.calls.length) (settles : course.Settles call id) :
    ∃ moment answer, (course.states moment).machine.stage? call = some (.finished answer) ∧
      (course.states moment).phases (.call call) = .outside := by
  rcases settles with ⟨last, settled⟩
  have there (moment : Nat) : ∃ stage,
      (course.states (moment + 1)).machine.calls[call]? = some ⟨.get id database, stage⟩ := by
    induction moment with
    | zero =>
      have steps := course.steps 0
      rw [begins, step, Machine.step, Option.map_some, Option.some.injEq] at steps
      exact ⟨.entering, by rw [← steps, new]; simp⟩
    | succ moment induction =>
      rcases induction with ⟨stage, present⟩
      rcases machine_of_step (course.steps (moment + 1)) with ⟨action, steps, -⟩
      exact Machine.exists_stage_of_step steps present
  rcases there last with ⟨stage, present⟩
  exact exists_end_of_rank just answered first _
    (fun moment after => settled moment (Nat.le_of_succ_le after)) present (Nat.le_refl _)

/-! ### A course that comes to rest -/

section Rest

variable {before after : Guarded} {turns : List Turn}

theorem exists_run_take (run : before.run turns = some after) (moment : Nat) :
    ∃ state, before.run (turns.take moment) = some state := by
  rw [← List.take_append_drop moment turns, Guarded.run, List.foldlM_append] at run
  rcases Option.bind_eq_some_iff.mp run with ⟨state, here, -⟩
  exact ⟨state, here⟩

def ofRun (run : before.run turns = some after) : Endless where
  states moment := (before.run (turns.take moment)).getD after
  turns moment := turns[moment]?.getD (.reorder after.machine.registry.places)
  steps moment := by
    by_cases inside : moment < turns.length
    · rw [List.getElem?_eq_getElem inside]
      rcases exists_run_take run (moment + 1) with ⟨next, later⟩
      rw [later]
      rw [← List.take_append_getElem inside, Guarded.run, List.foldlM_append] at later
      rcases Option.bind_eq_some_iff.mp later with ⟨here, earlier, steps⟩
      rw [List.foldlM_cons] at steps
      rcases Option.bind_eq_some_iff.mp steps with ⟨reached, steps, done⟩
      cases done
      rw [Guarded.run, earlier]
      exact steps
    · have past : turns.length ≤ moment := Nat.le_of_not_lt inside
      rw [List.take_of_length_le past, List.take_of_length_le (Nat.le_succ_of_le past),
        List.getElem?_eq_none past, run]
      simp [step, Machine.reorder, List.isPerm_iff]

variable (run : before.run turns = some after)
  (rests : ∀ party, after.isRunning party = false)

theorem states_ofRun {moment : Nat} (past : turns.length ≤ moment) :
    (ofRun run).states moment = after := by
  simp [ofRun, List.take_of_length_le past, run]

include rests

theorem just_ofRun : (ofRun run).Just := by
  intro party start able
  have acts := able (max start turns.length) (Nat.le_max_left ..)
  rw [states_ofRun run (Nat.le_max_right ..), act_of_rest (rests party)] at acts
  cases acts

theorem settles_ofRun (call : Nat) (id : String) : (ofRun run).Settles call id := by
  refine ⟨turns.length, fun moment past action _ => ?_⟩
  have still : after.machine.isRunning call = false := by
    have rest := rests (.call call)
    rw [isRunning, Bool.or_eq_false_iff] at rest
    exact rest.2
  simp [Machine.removals, states_ofRun run past, still]

theorem exists_turn_ofRun (Holds : Guarded → Prop) {start call : Nat}
    (here : Holds ((ofRun run).states start))
    (keeps : ∀ moment ≥ start, ((ofRun run).turns moment).party? ≠ some (.call call) →
      Holds ((ofRun run).states moment) → Holds ((ofRun run).states (moment + 1)))
    (running : ∀ {state}, Holds state → state.isRunning (.call call) = true) :
    ∃ moment ≥ start, ((ofRun run).turns moment).party? = some (.call call) ∧
      Holds ((ofRun run).states moment) := by
  apply exists_first Holds here keeps
  by_contra! never
  have always : ∀ moment ≥ start, Holds ((ofRun run).states moment) :=
    Nat.le_induction here fun moment after => keeps moment after (never moment after)
  have last := running (always (max start turns.length) (Nat.le_max_left ..))
  rw [states_ofRun run (Nat.le_max_right ..), rests] at last
  cases last

theorem answered_ofRun (first : Reachable before) : (ofRun run).Answered := by
  have reachable (moment : Nat) : Reachable ((ofRun run).states moment) :=
    reachable (by simpa [ofRun, Guarded.run] using first) moment
  constructor
  case connects =>
    intro start call definition key cell opens
    rcases Machine.stage?_eq_some_iff.mp opens with ⟨request, present⟩
    rcases exists_turn_ofRun run rests
      (fun state => state.machine.calls[call]? = some ⟨request, .opening definition key cell⟩)
      present
      (fun moment _ apart still => call_of_others ((ofRun run).steps moment) apart still)
      (fun still => by
        simp [isRunning, Machine.isRunning, Machine.stage?_eq_some_iff.mpr ⟨request, still⟩,
          Stage.isFinished]) with ⟨moment, after, turn, still⟩
    exact ⟨moment, after,
      turn_of_opening (reachable moment).sound ((ofRun run).steps moment) still turn⟩
  case closes =>
    intro start call closing
    rcases exists_turn_ofRun run rests (fun state => state.phases (.call call) = .closing) closing
      (fun moment _ apart is => (phase_of_others ((ofRun run).steps moment) apart).trans is)
      (fun is => by simp [isRunning, is]) with ⟨moment, after, turn, is⟩
    exact ⟨moment, after,
      turn_of_closing (reachable moment).sound ((ofRun run).steps moment) is turn⟩

end Rest

end Endless

/-- What a request of a pool costs is bounded by what others take from it.

1. At any time it has begun no more rounds, and has begun to open no more pools, than one and the
   number of cells of its connection that others took since it was made.
2. It ends when no more of these cells are taken, if the server side answers and nobody who can act
   is left out for good. -/
theorem get_rounds_bounded (id : String) (database : Option String) :
    (∀ before : Machine, before.Reachable → ∀ actions after,
      before.run (.invoke (.get id database) :: actions) = some after →
      Machine.tally (Machine.rounds before.calls.length) before
          (.invoke (.get id database) :: actions) ≤
        1 + Machine.tally (Machine.removals before.calls.length id) before
          (.invoke (.get id database) :: actions) ∧
      Machine.tally (Machine.connections before.calls.length) before
          (.invoke (.get id database) :: actions) ≤
        1 + Machine.tally (Machine.removals before.calls.length id) before
          (.invoke (.get id database) :: actions)) ∧
    ∀ course : Endless, Reachable (course.states 0) →
      course.turns 0 = .invoke (.get id database) → course.Just → course.Answered →
      course.Settles (course.states 0).machine.calls.length id →
      ∃ moment answer,
        (course.states moment).machine.stage? (course.states 0).machine.calls.length =
          some (.finished answer) ∧
        (course.states moment).phases (.call (course.states 0).machine.calls.length) =
          .outside := by
  constructor
  · intro before reachable actions after course
    rcases Machine.budget_of_run reachable course with ⟨stage, -, budget⟩
    have worth := Machine.worth_le_one after.registry stage
    have covered := budget.covered
    have single := budget.single
    omega
  · intro course first begins just answered settles
    exact course.exists_end just answered first begins rfl settles

def registration : List Turn :=
  .invoke (.register (Machine.shop "old")) :: List.replicate 4 (.act (.call 0))

/-- The cell of a request is taken while the request opens a pool, and it goes round twice. -/
def twoRounds : List Turn :=
  [.invoke (.get "shop" none)] ++ List.replicate 13 (.act (.call 1)) ++
  [.invoke (.update (Machine.shop "new"))] ++ List.replicate 9 (.act (.call 2)) ++
  [.openEnds 1 none] ++ List.replicate 5 (.act (.call 1)) ++ [.closeEnds 1 true] ++
  List.replicate 13 (.act (.call 1)) ++ [.openEnds 1 none] ++ List.replicate 4 (.act (.call 1))

def twoRoundsActions : List Machine.Action := [
  .advance 1, .advance 1, .advance 1,
  .invoke (.update (Machine.shop "new")), .advance 2, .advance 2, .advance 2,
  .openEnds 1 none, .advance 1, .close 1 true, .advance 1, .advance 1, .advance 1,
  .openEnds 1 none, .advance 1]

theorem get_rounds_bounded_twoRounds : ∃ before after ready,
    (Machine.idle .empty).run [.invoke (.register (Machine.shop "old")), .advance 0] =
      some before ∧
    before.run (.invoke (.get "shop" none) :: twoRoundsActions) = some after ∧
    Machine.tally (Machine.removals 1 "shop") before
      (.invoke (.get "shop" none) :: twoRoundsActions) = 1 ∧
    Machine.tally (Machine.rounds 1) before
      (.invoke (.get "shop" none) :: twoRoundsActions) = 2 ∧
    Machine.tally (Machine.rounds 1) before
      (.invoke (.get "shop" none) :: twoRoundsActions) ≤ 1 + 1 ∧
    Machine.tally (Machine.connections 1) before
      (.invoke (.get "shop" none) :: twoRoundsActions) ≤ 1 + 1 ∧
    start.run registration = some ready ∧ ready.machine = before ∧
    ∃ course : Endless, course.states 0 = ready ∧ course.Just ∧ course.Answered ∧
      course.Settles 1 "shop" ∧
      ∃ moment answer, (course.states moment).machine.stage? 1 = some (.finished answer) ∧
        (course.states moment).phases (.call 1) = .outside := by
  have possible : (((Machine.idle .empty).run
      [.invoke (.register (Machine.shop "old")), .advance 0]).bind fun before =>
        before.run (.invoke (.get "shop" none) :: twoRoundsActions)).isSome := rfl
  have guarded : ((start.run registration).bind fun ready => ready.run twoRounds).isSome := rfl
  simp only [Option.isSome_iff_exists, Option.bind_eq_some_iff] at possible guarded
  rcases possible with ⟨after, before, first, course⟩
  rcases guarded with ⟨ended, ready, begins, run⟩
  have reachable : before.Reachable := Machine.Reachable.start.run first
  have calls : before.calls.length = 1 := by
    cases first
    rfl
  have taken : Machine.tally (Machine.removals 1 "shop") before
      (.invoke (.get "shop" none) :: twoRoundsActions) = 1 := by
    cases first
    rfl
  have began : Machine.tally (Machine.rounds 1) before
      (.invoke (.get "shop" none) :: twoRoundsActions) = 2 := by
    cases first
    rfl
  have same : ready.machine = before := by
    cases first
    cases begins
    rfl
  have bounds := (get_rounds_bounded "shop" none).1 before reachable twoRoundsActions after course
  rw [calls, taken] at bounds
  have sound : Sound ended := ((Reachable.start.run begins).run run).sound
  have asked : ended.machine.calls.length = 3 ∧ ended.questions = [] ∧
      ∀ number, ended.phases (.inquiry number) = .outside := by
    cases begins
    cases run
    exact ⟨rfl, rfl, fun _ => rfl⟩
  have known : (List.range 3).all (fun call => !ended.isRunning (.call call)) = true := by
    cases begins
    cases run
    rfl
  have rests : ∀ party, ended.isRunning party = false := by
    rintro (call | number)
    · by_cases inside : call < 3
      · simpa using List.all_eq_true.mp known call (List.mem_range.mpr inside)
      · have absent : ended.machine.calls.length ≤ call := by omega
        simp [isRunning, Machine.isRunning, Machine.stage?, sound.absent absent,
          List.getElem?_eq_none absent]
    · simp [isRunning, asked.2.1, asked.2.2 number]
  have one : ((Endless.ofRun run).states 0).machine.calls.length = 1 := by
    have initial : (Endless.ofRun run).states 0 = ready := rfl
    rw [initial, same, calls]
  have ends := (get_rounds_bounded "shop" none).2 (.ofRun run) (Reachable.start.run begins) rfl
  rw [one] at ends
  have just := Endless.just_ofRun run rests
  have answered := Endless.answered_ofRun run rests (Reachable.start.run begins)
  have settles := Endless.settles_ofRun run rests 1 "shop"
  exact ⟨before, after, ready, first, course, taken, began, bounds.1, bounds.2, begins, same,
    .ofRun run, rfl, just, answered, settles, ends just answered settles⟩

end Guarded

end SqlGateway.Registry
