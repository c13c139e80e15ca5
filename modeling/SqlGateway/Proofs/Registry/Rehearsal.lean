import Mathlib.Data.List.Nodup
import Mathlib.Data.List.Perm.Subperm
import SqlGateway.Proofs.Registry.Rounds
import SqlGateway.Registry.Rehearsal

/-!
# Rehearsals come to rest

A rehearsal makes moves of the machine and nothing else, so its machine is reachable. Each move
lowers the effort that is left, whoever makes it, and wakes no more calls than there are; so the
turns that `quiesce` allows are enough for all calls to run as far as they can. Main statement:
`rests_of_rehearsed`.
-/

namespace SqlGateway.Registry

namespace Machine

/-! ## Each move lowers the effort -/

section Effort

variable {before after : Machine} {call : Nat} {registry later : Registry} {request : Request}
  {stage next other : Stage} {events : List Event}

theorem length_takeWhere (registry : Registry) (taken : PoolKey → Bool) :
    (registry.takeWhere taken).2.places.length + (registry.takeWhere taken).1.length =
      registry.places.length := by
  rw [Registry.takeWhere, List.length_map, Nat.add_comm]
  exact (List.length_eq_length_filter_add _).symm

theorem length_reserve_le (registry : Registry) (key : PoolKey) :
    (registry.reserve key).2.places.length ≤ registry.places.length + 1 := by
  rcases Registry.reserve_cases registry key with ⟨cell, -, same⟩ | ⟨-, -, places, -⟩
  · rw [same]
    exact Nat.le_succ _
  · rw [places, List.length_append]
    exact Nat.le_refl _

theorem rank_lt_of_moves (kept : Kept before)
    (present : before.calls[call]? = some ⟨request, stage⟩)
    (move : Move before.registry request stage later next events) :
    later.places.length + next.rank later <
      before.registry.places.length + stage.rank before.registry := by
  cases move with
  | @replaces definition =>
    have length := length_takeWhere before.registry fun key => key.connection = definition.id
    simp only [Registry.drain, Stage.rank]
    omega
  | @forgets id =>
    have length := length_takeWhere before.registry fun key => key.connection = id
    simp only [Registry.drain, Stage.rank]
    omega
  | @takes taken =>
    have length := length_takeWhere before.registry taken
    simp only [Stage.rank]
    omega
  | finds _ _ placed =>
    simp [Stage.rank, isPlaced_iff.mpr ⟨_, placed⟩]
  | @reserves definition key =>
    have length := length_reserve_le before.registry key
    simp only [Stage.rank, isPlaced_iff.mpr ⟨_, mem_reserve before.registry key⟩, if_true]
    omega
  | @joins definition key cell | @begins definition key cell | @opens definition key cell =>
    simp only [Stage.rank, isPlaced_setBusy, isPlaced_fill]
    by_cases placed : before.registry.isPlaced cell = true <;> simp [placed]
  | fails | returns =>
    simp only [Stage.rank]
    split <;> simp
  | loses lost | retries lost =>
    simp [Stage.rank, kept.isPlaced_of_lost present lost]
  | _ => simp [Stage.rank]

theorem rank_eq_of_move (move : Move registry request stage later next events) :
    stage.rank later = stage.rank registry := by
  cases move <;> rfl

theorem mayTake_of_move (move : Move registry request stage later next events)
    (may : Call.mayTake ⟨request, next⟩ = true) : Call.mayTake ⟨request, stage⟩ = true := by
  cases request with
  | get => cases may
  | register | update | remove | removeAll | evict | closeAll =>
    cases move <;> first | rfl | cases may

theorem placed_or_takes (move : Move registry request stage later next events) :
    (∀ cell, registry.isPlaced cell = true → later.isPlaced cell = true) ∨
      Call.mayTake ⟨request, stage⟩ = true ∧ Call.mayTake ⟨request, next⟩ = false := by
  cases move with
  | replaces asked | forgets asked =>
    subst asked
    exact .inr ⟨rfl, rfl⟩
  | takes asked =>
    cases request with
    | register | update | remove | get => cases asked
    | removeAll | evict | closeAll => exact .inr ⟨rfl, rfl⟩
  | @reserves definition key =>
    refine .inl fun cell placed => ?_
    rcases reserve_cases registry key with ⟨found, -, same⟩ | ⟨-, -, places, -⟩
    · rwa [same]
    · rcases isPlaced_iff.mp placed with ⟨other, there⟩
      exact isPlaced_iff.mpr ⟨other, places ▸ List.mem_append_left _ there⟩
  | _ => exact .inl fun cell placed => placed

theorem rank_le_of_placed
    (placed : ∀ cell, registry.isPlaced cell = true → later.isPlaced cell = true) :
    stage.rank later ≤ stage.rank registry := by
  cases stage with
  | waiting definition key cell | opening definition key cell | checking key cell pool created =>
    have keeps := placed cell
    simp only [Stage.rank]
    by_cases there : registry.isPlaced cell = true
    · simp [there, keeps there]
    · simp only [there]
      split <;> simp
  | _ => exact Nat.le_refl _

/-- A call whose cell is taken goes round again. -/
theorem rank_le_add (registry later : Registry) (stage : Stage) :
    stage.rank later ≤ stage.rank registry + 7 := by
  cases stage with
  | waiting | opening | checking =>
    simp only [Stage.rank]
    split <;> split <;> omega
  | _ => exact Nat.le_add_right _ _

theorem sum_effort_le (calls : List Call) (count : Nat) {more : Nat}
    (each : ∀ stage : Stage, stage.rank later ≤ stage.rank registry + more) :
    (calls.map (Call.effort later count)).sum ≤
      (calls.map (Call.effort registry count)).sum + more * calls.length := by
  induction calls with
  | nil => exact Nat.le_refl 0
  | cons call calls induction =>
    have first : Call.effort later count call ≤ Call.effort registry count call + more := by
      have := each call.stage
      rw [Call.effort, Call.effort]
      omega
    simp only [List.map_cons, List.sum_cons, List.length_cons, Nat.mul_succ]
    omega

theorem effort_eq (machine : Machine) :
    machine.effort = machine.registry.places.length +
      (machine.calls.map (Call.effort machine.registry machine.calls.length)).sum := by
  rw [effort]
  generalize machine.calls.length = count
  induction machine.calls with
  | nil => rfl
  | cons call calls induction =>
    rw [List.foldr_cons, List.map_cons, List.sum_cons, induction]
    omega

theorem effort_lt_of_moves (kept : Kept before) (moves : Moves before call after) :
    after.effort < before.effort := by
  cases moves with
  | @intro request stage next later events present unread move =>
    have own := rank_lt_of_moves kept present move
    have sum := sum_moved present (Call.effort later before.calls.length) ⟨request, next⟩
    have found : Call.effort later before.calls.length ⟨request, stage⟩ =
        Call.effort before.registry before.calls.length ⟨request, stage⟩ := by
      rw [Call.effort, Call.effort, rank_eq_of_move move]
    rw [effort_eq, effort_eq, moved, List.length_set]
    rw [found, Call.effort, Call.effort] at sum
    -- A call that takes cells has saved what this costs the others.
    rcases placed_or_takes move with placed | ⟨may, mayNot⟩
    · have same : ∀ stage : Stage, stage.rank later ≤ stage.rank before.registry + 0 :=
        fun _ => rank_le_of_placed placed
      have others := sum_effort_le before.calls before.calls.length same
      have fewer : (if Call.mayTake ⟨request, next⟩ then 7 * before.calls.length else 0) ≤
          if Call.mayTake ⟨request, stage⟩ then 7 * before.calls.length else 0 := by
        split
        · next may => exact Nat.le_of_eq (if_pos (mayTake_of_move move may)).symm
        · exact Nat.zero_le _
      simp only at *
      omega
    · have others := sum_effort_le before.calls before.calls.length
        (rank_le_add before.registry later)
      rw [if_pos may, if_neg (by simp [mayNot])] at sum
      simp only at *
      omega

end Effort

end Machine

namespace Rehearsal

/-! ## What a rehearsal keeps -/

/-- The machine of a rehearsal is one of those that calls lead to, and no call waits twice. -/
structure Sound (rehearsal : Rehearsal) : Prop where
  reachable : Machine.Reachable rehearsal.machine
  once : (rehearsal.atCell.map Prod.fst).Nodup
  known : ∀ waiting ∈ rehearsal.atCell, waiting.1 < rehearsal.machine.calls.length

def Rests (rehearsal : Rehearsal) (call : Nat) : Prop :=
  ∀ action, (rehearsal.move call).1 = some action → rehearsal.machine.step action = none

/-- What a move changes around the machine. A call goes to wait only where it did not yet, and no
more calls are woken than wait. -/
structure Around (before : Rehearsal) (call : Nat) (action : Option Machine.Action)
    (after : Rehearsal) : Prop where
  machine : after.machine = before.machine
  acts : ∀ made ∈ action, made.call? = some call
  atCell : after.atCell.Sublist before.atCell ∨ call < before.machine.calls.length ∧
    (∀ waiting ∈ before.atCell, waiting.1 ≠ call) ∧
      ∃ cell, after.atCell = before.atCell ++ [(call, cell)]
  ready : ∃ woken, after.ready = before.ready ++ woken ∧ woken.length ≤ before.atCell.length ∧
    (action = none → woken = [])

section Move

variable {before after : Rehearsal} {call : Nat} {action : Option Machine.Action}

theorem around_same (acts : ∀ made ∈ action, made.call? = some call) :
    Around before call action before :=
  ⟨rfl, acts, .inl (List.Sublist.refl _), [], (List.append_nil _).symm, Nat.zero_le _, fun _ => rfl⟩

theorem around_leaveCell (call : Nat) :
    Around before call (some (.advance call)) (before.leaveCell call) :=
  ⟨rfl, by rintro _ ⟨⟩; rfl, .inl List.filter_sublist, [], (List.append_nil _).symm, Nat.zero_le _,
    fun _ => rfl⟩

theorem Around.comeToGate (around : Around before call action after) :
    Around before call action (after.comeToGate call) := by
  unfold Rehearsal.comeToGate
  split
  · exact ⟨around.machine, around.acts, around.atCell, around.ready⟩
  · split
    · exact ⟨around.machine, around.acts, around.atCell, around.ready⟩
    · exact ⟨around.machine, around.acts, around.atCell, around.ready⟩

theorem known_of_stage {stage : Stage} (found : before.machine.stage? call = some stage) :
    call < before.machine.calls.length := by
  rcases Machine.stage?_eq_some_iff.mp found with ⟨request, present⟩
  exact (List.getElem?_eq_some_iff.mp present).1

theorem around_waits (known : call < before.machine.calls.length)
    (absent : ∀ waiting ∈ before.atCell, waiting.1 ≠ call) (cell : Nat) :
    Around before call none { before with atCell := before.atCell ++ [(call, cell)] } where
  machine := rfl
  acts := by
    rintro made ⟨⟩
  atCell := .inr ⟨known, absent, cell, rfl⟩
  ready := ⟨[], (List.append_nil _).symm, Nat.zero_le _, fun _ => rfl⟩

theorem around_wakes (failure : Option Failure) (admitted : List Nat)
    (failing : List (String × Nat)) {cell : Nat} {woken : List Nat}
    (waited : woken.Sublist (before.waitersOf cell)) :
    Around before call (some (.openEnds call failure))
      { before with admitted, failing, ready := before.ready ++ woken } where
  machine := rfl
  acts := by
    rintro made ⟨⟩
    rfl
  atCell := .inl (List.Sublist.refl _)
  ready := by
    refine ⟨woken, rfl, ?_, nofun⟩
    apply Nat.le_trans waited.length_le
    rw [waitersOf, List.length_map]
    exact List.length_filter_le ..

theorem around_move (moved : before.move call = (action, after)) :
    Around before call action after := by
  have acts : ∀ made ∈ some (Machine.Action.advance call), made.call? = some call := by
    rintro _ ⟨⟩
    rfl
  have rests : ∀ made ∈ (none : Option Machine.Action), made.call? = some call := by
    intro made none
    cases none
  have closes : ∀ {succeeds : Bool}, ∀ made ∈ some (Machine.Action.close call succeeds),
      made.call? = some call := by
    rintro succeeds _ ⟨⟩
    rfl
  unfold move at moved
  -- Stage by stage, in the order of `move`.
  split at moved
  · cases moved
    exact around_same rests
  · cases moved
    exact around_same rests
  · cases moved
    exact around_same acts
  · cases moved
    exact around_same acts
  · cases moved
    exact around_same acts
  · next definition key cell found =>
    split at moved
    · cases moved
      exact around_leaveCell call
    · split at moved
      · cases moved
        exact (around_leaveCell call).comeToGate
      · split at moved
        · cases moved
          exact around_same rests
        · next absent =>
          cases moved
          refine around_waits (known_of_stage found) (fun waiting member same => absent ?_) cell
          exact List.any_eq_true.mpr ⟨waiting, member, decide_eq_true same⟩
  · next definition key cell found =>
    split at moved
    · dsimp only at moved
      split at moved
      · cases moved
        exact around_wakes _ _ _ (List.take_sublist 1 (before.waitersOf cell))
      · cases moved
        exact around_wakes _ _ _ (List.Sublist.refl (before.waitersOf cell))
    · cases moved
      exact around_same rests
  · split at moved
    · cases moved
      exact around_same closes
    · cases moved
      exact around_same acts
  · split at moved
    · cases moved
      exact around_same closes
    · cases moved
      exact around_same acts
  · cases moved
    exact around_same acts

theorem isFirst_waiting (rehearsal : Rehearsal) (call cell : Nat)
    (behind : rehearsal.isFirst call cell = false) :
    isFirst { rehearsal with atCell := rehearsal.atCell ++ [(call, cell)] } call cell = false := by
  have waiters : waitersOf { rehearsal with atCell := rehearsal.atCell ++ [(call, cell)] } cell =
      rehearsal.waitersOf cell ++ [call] := by
    simp [waitersOf]
  rw [isFirst] at behind ⊢
  rw [waiters]
  cases before : rehearsal.waitersOf cell with
  | nil => simp [before] at behind
  | cons first rest => simpa [before] using behind

theorem move_eq_none (moved : before.move call = (none, after)) : (after.move call).1 = none := by
  have again := moved
  unfold move at moved
  -- Only a call that comes to wait for a cell changes anything on its way to no move.
  split at moved
  · cases moved
    rw [again]
  · cases moved
    rw [again]
  · cases moved
  · cases moved
  · cases moved
  · next definition key cell found =>
    split at moved
    · cases moved
    · next empty =>
      split at moved
      · cases moved
      · next busy =>
        split at moved
        · cases moved
          rw [again]
        · cases moved
          have still : ¬(!before.machine.registry.isBusy cell &&
              isFirst { before with atCell := before.atCell ++ [(call, cell)] } call cell) =
                true := by
            rw [Bool.and_eq_true, not_and] at busy ⊢
            intro idle
            rw [isFirst_waiting before call cell (Bool.eq_false_iff.mpr (busy idle))]
            decide
          unfold move
          simp only [found, if_neg empty, if_neg still]
          split <;> rfl
  · split at moved
    · dsimp only at moved
      split at moved <;> cases moved
    · cases moved
      rw [again]
  · split at moved <;> cases moved
  · split at moved <;> cases moved
  · cases moved

end Move

/-! ## Turns -/

section Turn

variable {rehearsal : Rehearsal} {call : Nat}

theorem Sound.length_le (sound : Sound rehearsal) :
    rehearsal.atCell.length ≤ rehearsal.machine.calls.length := by
  have inside : rehearsal.atCell.map Prod.fst ⊆ List.range rehearsal.machine.calls.length := by
    intro waiting member
    rcases List.mem_map.mp member with ⟨entry, entered, rfl⟩
    exact List.mem_range.mpr (sound.known entry entered)
  simpa using (List.subperm_of_subset sound.once inside).length_le

theorem sound_of_around {before after : Rehearsal} {action : Option Machine.Action}
    (sound : Sound before) (around : Around before call action after) : Sound after := by
  refine ⟨around.machine ▸ sound.reachable, ?_, ?_⟩
  · rcases around.atCell with fewer | ⟨-, absent, cell, entered⟩
    · exact sound.once.sublist (fewer.map _)
    · rw [entered, List.map_append, List.map_singleton, List.nodup_append]
      refine ⟨sound.once, List.nodup_singleton _, ?_⟩
      intro first member second isCall same
      rcases List.mem_map.mp member with ⟨waiting, there, rfl⟩
      exact absent waiting there (same.trans (List.mem_singleton.mp isCall))
  · rw [around.machine]
    rcases around.atCell with fewer | ⟨known, -, cell, entered⟩
    · exact fun waiting member => sound.known waiting (fewer.subset member)
    · intro waiting member
      rw [entered, List.mem_append, List.mem_singleton] at member
      rcases member with there | rfl
      · exact sound.known waiting there
      · exact known

/-- A turn keeps the rehearsal sound, and its moves pay for the calls that they wake. -/
structure Turn (before after : Rehearsal) : Prop where
  sound : Sound after
  length : after.machine.calls.length = before.machine.calls.length
  turns : after.turns ≤ before.turns

theorem Turn.trans {first second third : Rehearsal} (one : Turn first second)
    (two : Turn second third) : Turn first third :=
  ⟨two.sound, two.length.trans one.length, Nat.le_trans two.turns one.turns⟩

theorem turn_of_rest {before after : Rehearsal} (sound : Sound before)
    (around : Around before call none after) : Turn before after := by
  rcases around.ready with ⟨woken, ready, -, none⟩
  rw [none rfl, List.append_nil] at ready
  have same : after.turns = before.turns := by rw [turns, turns, around.machine, ready]
  exact ⟨sound_of_around sound around, by rw [around.machine], Nat.le_of_eq same⟩

theorem turn_of_step {before after : Rehearsal} {action : Machine.Action} {machine : Machine}
    (sound : Sound before) (around : Around before call (some action) after)
    (steps : after.machine.step action = some machine) :
    Turn before { after with machine } ∧ machine.effort < before.machine.effort := by
  rw [around.machine] at steps
  have moves := Machine.moves_of_step steps (around.acts action rfl)
  have effort := Machine.effort_lt_of_moves sound.reachable.kept moves
  have length : machine.calls.length = before.machine.calls.length := by
    cases moves
    exact List.length_set
  have later := sound_of_around sound around
  refine ⟨⟨⟨.step action sound.reachable steps, later.once, ?_⟩, length, ?_⟩, effort⟩
  · intro waiting member
    rw [length, ← around.machine]
    exact later.known waiting member
  · rcases around.ready with ⟨woken, ready, fewer, -⟩
    have paid := Nat.mul_le_mul_left before.machine.calls.length effort
    have waiting := sound.length_le
    rw [Nat.mul_succ] at paid
    simp only [turns, length, ready, List.length_append]
    omega

theorem turn_runCall (fuel : Nat) (sound : Sound rehearsal) :
    Turn rehearsal (runCall call fuel rehearsal) := by
  induction fuel generalizing rehearsal with
  | zero => exact ⟨sound, rfl, Nat.le_refl _⟩
  | succ fuel induction =>
    rw [runCall]
    split
    · next waiting moved => exact turn_of_rest sound (around_move moved)
    · next action after moved =>
      split
      · exact ⟨sound, rfl, Nat.le_refl _⟩
      · next machine steps =>
        have turn := (turn_of_step sound (around_move moved) steps).1
        exact turn.trans (induction turn.sound)

/-- A turn that is allowed as many moves as there is effort left ends only when the call rests. -/
theorem rests_runCall {fuel : Nat} (sound : Sound rehearsal)
    (enough : rehearsal.machine.effort ≤ fuel) : Rests (runCall call fuel rehearsal) call := by
  induction fuel generalizing rehearsal with
  | zero =>
    -- Nothing is left to do, so there is no move.
    intro action made
    rw [runCall] at made
    cases moved : rehearsal.move call with
    | mk first after =>
      rw [moved] at made
      subst made
      have around := around_move moved
      rw [runCall, ← around.machine]
      cases steps : after.machine.step action with
      | none => rfl
      | some machine =>
        have less := (turn_of_step sound around steps).2
        omega
  | succ fuel induction =>
    rw [runCall]
    split
    · next waiting moved =>
      intro action made
      rw [move_eq_none moved] at made
      cases made
    · next action after moved =>
      split
      · next refused =>
        intro made same
        rw [moved] at same
        cases same
        rwa [← (around_move moved).machine]
      · next machine steps =>
        have turn := turn_of_step sound (around_move moved) steps
        exact induction turn.1.sound (Nat.le_of_lt_succ (Nat.lt_of_lt_of_le turn.2 enough))

end Turn

/-! ## Settlements -/

theorem sound_settle (fuel : Nat) {rehearsal : Rehearsal} (sound : Sound rehearsal) :
    Sound (settle fuel rehearsal) := by
  induction fuel generalizing rehearsal with
  | zero => exact sound
  | succ fuel induction =>
    rw [settle]
    split
    · exact sound
    · next call ready _ =>
      have popped : Sound { rehearsal with ready } := ⟨sound.reachable, sound.once, sound.known⟩
      exact induction (turn_runCall _ popped).sound

/-- The turns that are allowed are enough. -/
theorem ready_settle {fuel : Nat} {rehearsal : Rehearsal} (sound : Sound rehearsal)
    (enough : rehearsal.turns ≤ fuel) : (settle fuel rehearsal).ready = [] := by
  induction fuel generalizing rehearsal with
  | zero =>
    rw [settle]
    rw [turns] at enough
    exact List.eq_nil_of_length_eq_zero (by omega)
  | succ fuel induction =>
    rw [settle]
    split
    · next none => exact none
    · next call ready next =>
      have popped : Sound { rehearsal with ready } := ⟨sound.reachable, sound.once, sound.known⟩
      have turn := @turn_runCall { rehearsal with ready } call rehearsal.machine.effort popped
      apply induction turn.sound
      apply Nat.le_trans turn.turns
      rw [turns, next, List.length_cons] at enough
      change ready.length + rehearsal.machine.calls.length * rehearsal.machine.effort ≤ fuel
      omega

inductive Rehearsed (failing : List (String × Nat)) (stuck : List String) : Rehearsal → Prop
  | start : Rehearsed failing stuck (.start failing stuck)
  | invoke {rehearsal : Rehearsal} (earlier : Rehearsed failing stuck rehearsal)
      (request : Request) : Rehearsed failing stuck (rehearsal.invoke request).2
  | setGate {rehearsal : Rehearsal} (earlier : Rehearsed failing stuck rehearsal) (gated : Bool) :
      Rehearsed failing stuck (rehearsal.setGate gated)
  | release {rehearsal : Rehearsal} (earlier : Rehearsed failing stuck rehearsal) (count : Nat) :
      Rehearsed failing stuck (rehearsal.release count)

theorem sound_of_rehearsed {failing : List (String × Nat)} {stuck : List String}
    {rehearsal : Rehearsal} (rehearsed : Rehearsed failing stuck rehearsal) :
    Sound rehearsal ∧ rehearsal.ready = [] := by
  induction rehearsed with
  | start => exact ⟨⟨.start, List.nodup_nil, List.forall_mem_nil _⟩, rfl⟩
  | @invoke rehearsal _ request induction =>
    have invoked : Sound { rehearsal with
        machine := { rehearsal.machine with
          calls := rehearsal.machine.calls ++ [⟨request, .entering⟩] }
        ready := rehearsal.ready ++ [rehearsal.machine.calls.length] } := by
      refine ⟨.step (.invoke request) induction.1.reachable rfl, induction.1.once, ?_⟩
      intro waiting member
      rw [List.length_append]
      exact Nat.lt_add_right _ (induction.1.known waiting member)
    exact ⟨sound_settle _ invoked, ready_settle invoked (Nat.le_refl _)⟩
  | setGate _ gated induction =>
    exact ⟨⟨induction.1.reachable, induction.1.once, induction.1.known⟩, induction.2⟩
  | @release rehearsal _ count induction =>
    have released : Sound { rehearsal with
        permits := rehearsal.permits + count -
          (rehearsal.atGate.take (rehearsal.permits + count)).length
        atGate := rehearsal.atGate.drop (rehearsal.permits + count)
        admitted := rehearsal.admitted ++ rehearsal.atGate.take (rehearsal.permits + count)
        ready := rehearsal.ready ++ rehearsal.atGate.take (rehearsal.permits + count) } :=
      ⟨induction.1.reachable, induction.1.once, induction.1.known⟩
    exact ⟨sound_settle _ released, ready_settle released (Nat.le_refl _)⟩

/-- The machine of a rehearsal is reachable, and after each request no call is left to go on. -/
theorem rests_of_rehearsed {failing : List (String × Nat)} {stuck : List String}
    {rehearsal : Rehearsal} (rehearsed : Rehearsed failing stuck rehearsal) :
    Machine.Reachable rehearsal.machine ∧ rehearsal.ready = [] :=
  ⟨(sound_of_rehearsed rehearsed).1.reachable, (sound_of_rehearsed rehearsed).2⟩

end Rehearsal

end SqlGateway.Registry
