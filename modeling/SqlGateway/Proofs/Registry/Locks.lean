import Mathlib.Data.List.Nodup
import SqlGateway.Registry.Guards

/-!
# Locks and phases

The phase of a party says which guards it holds and for which it waits, and each lock says the same
of its parties. `Lock.Tied` is this agreement, with what the order of service and the modes give: a
party waits in one place, and one who writes is alone. Asking, taking and giving back keep it.
-/

namespace SqlGateway.Registry

def Guard.other : Guard → Guard
  | .definitions => .pools
  | .pools => .definitions

theorem Guard.eq_other {guard other : Guard} (apart : other ≠ guard) : other = guard.other := by
  cases guard <;> cases other <;> first | rfl | exact absurd rfl apart

namespace Phase

def holds : Guard → Phase → Option Mode
  | .definitions, .holdsDefinitions mode _ => some mode
  | .definitions, .asksPools outer _ | .definitions, .holdsPools outer _ _ => outer
  | .definitions, .outside | .definitions, .asksDefinitions _ | .definitions, .asksPermit
  | .definitions, .closing => none
  | .pools, .holdsPools _ mode _ => some mode
  | .pools, .outside | .pools, .asksDefinitions _ | .pools, .holdsDefinitions ..
  | .pools, .asksPools .. | .pools, .asksPermit | .pools, .closing => none

def asks : Guard → Phase → Option Mode
  | .definitions, .asksDefinitions mode | .pools, .asksPools _ mode => some mode
  | .definitions, .outside | .definitions, .holdsDefinitions .. | .definitions, .asksPools ..
  | .definitions, .holdsPools .. | .definitions, .asksPermit | .definitions, .closing
  | .pools, .outside | .pools, .asksDefinitions _ | .pools, .holdsDefinitions ..
  | .pools, .holdsPools .. | .pools, .asksPermit | .pools, .closing => none

end Phase

@[simp] theorem assign_self (phases : Party → Phase) (party : Party) (phase : Phase) :
    assign phases party phase party = phase :=
  if_pos rfl

theorem assign_of_ne (phases : Party → Phase) {party other : Party} (phase : Phase)
    (apart : other ≠ party) : assign phases party phase other = phases other :=
  if_neg apart

theorem read_assign {α : Type} (read : Phase → α) {phases : Party → Phase} {party : Party}
    {phase : Phase} (same : read phase = read (phases party)) (other : Party) :
    read (assign phases party phase other) = read (phases other) := by
  by_cases equal : other = party
  · rw [equal, assign_self, same]
  · rw [assign_of_ne _ _ equal]

namespace Lock

/-- A lock agrees with the phases of all parties. -/
structure Tied (guard : Guard) (lock : Lock) (phases : Party → Phase) : Prop where
  held : ∀ {party mode}, (party, mode) ∈ lock.holders ↔ (phases party).holds guard = some mode
  asked : ∀ {party mode}, (party, mode) ∈ lock.queue ↔ (phases party).asks guard = some mode
  once : (lock.queue.map Prod.fst).Nodup
  alone : ∀ {left right mode}, (left, .write) ∈ lock.holders → (right, mode) ∈ lock.holders →
    left = right

theorem tied_free (guard : Guard) : Tied guard free fun _ => .outside := by
  constructor <;> cases guard <;> simp [free, Phase.holds, Phase.asks]

theorem take_eq_some {lock later : Lock} {party : Party} (taken : lock.take party = some later) :
    ∃ mode queue, lock.queue = (party, mode) :: queue ∧ lock.admits mode = true ∧
      later = ⟨(party, mode) :: lock.holders, queue⟩ := by
  rw [take] at taken
  split at taken
  · cases taken
  · next first mode queue found =>
    split at taken
    · next fits =>
      cases taken
      rcases fits with ⟨rfl, admits⟩
      exact ⟨mode, queue, found, admits, rfl⟩
    · cases taken

theorem take_of_free {lock : Lock} {party : Party} {mode : Mode} {queue : List (Party × Mode)}
    (free : lock.holders = []) (first : lock.queue = (party, mode) :: queue) :
    (lock.take party).isSome := by
  have admits : lock.admits mode = true := by cases mode <;> simp [Lock.admits, free]
  simp [take, first, admits]

section Tied

variable {guard : Guard} {lock : Lock} {phases : Party → Phase} {party : Party} {phase : Phase}
  {mode : Mode}

theorem Tied.same (tied : Tied guard lock phases)
    (holds : phase.holds guard = (phases party).holds guard)
    (asks : phase.asks guard = (phases party).asks guard) :
    Tied guard lock (assign phases party phase) where
  held := by
    intro other how
    rw [read_assign (Phase.holds guard) holds]
    exact tied.held
  asked := by
    intro other how
    rw [read_assign (Phase.asks guard) asks]
    exact tied.asked
  once := tied.once
  alone := tied.alone

theorem Tied.ask (tied : Tied guard lock phases) (idle : (phases party).asks guard = none)
    (holds : phase.holds guard = (phases party).holds guard)
    (asks : phase.asks guard = some mode) :
    Tied guard (lock.ask party mode) (assign phases party phase) where
  held := by
    intro other how
    rw [read_assign (Phase.holds guard) holds]
    exact tied.held
  asked := by
    intro other how
    rw [Lock.ask, List.mem_append, List.mem_singleton, Prod.mk.injEq, tied.asked]
    by_cases equal : other = party
    · subst equal
      rw [assign_self, idle, asks]
      simp [eq_comm]
    · rw [assign_of_ne _ _ equal]
      simp [equal]
  once := by
    rw [Lock.ask, List.map_append, List.nodup_append]
    refine ⟨tied.once, by simp, ?_⟩
    rintro other member last lastMember rfl
    rcases List.mem_map.mp member with ⟨⟨_, how⟩, waits, rfl⟩
    cases List.mem_singleton.mp lastMember
    rw [tied.asked, idle] at waits
    cases waits
  alone := tied.alone

theorem Tied.take (tied : Tied guard lock phases) {later : Lock}
    (taken : lock.take party = some later) (waited : (phases party).asks guard = some mode)
    (free : (phases party).holds guard = none) (holds : phase.holds guard = some mode)
    (asks : phase.asks guard = none) : Tied guard later (assign phases party phase) := by
  rcases take_eq_some taken with ⟨how, queue, first, admits, rfl⟩
  have same : how = mode := by
    have here : (party, how) ∈ lock.queue := by simp [first]
    rw [tied.asked, waited] at here
    exact (Option.some.inj here).symm
  subst same
  have once := tied.once
  rw [first, List.map_cons, List.nodup_cons] at once
  have gone (mode : Mode) : (party, mode) ∉ queue := fun member =>
    once.1 (List.mem_map.mpr ⟨_, member, rfl⟩)
  constructor
  case held =>
    intro other mode
    rw [List.mem_cons, Prod.mk.injEq, tied.held]
    by_cases equal : other = party
    · subst equal
      rw [assign_self, free, holds]
      simp [eq_comm]
    · rw [assign_of_ne _ _ equal]
      simp [equal]
  case asked =>
    intro other mode
    by_cases equal : other = party
    · subst equal
      rw [assign_self, asks]
      simp [gone]
    · rw [assign_of_ne _ _ equal, ← tied.asked, first]
      simp [equal]
  case once => exact once.2
  case alone =>
    -- One who writes comes to nobody, and nobody but readers comes to one who reads.
    intro left right mode writes other
    cases how with
    | write =>
      have nobody : lock.holders = [] := by simpa [Lock.admits] using admits
      simp only [nobody, List.mem_singleton, Prod.mk.injEq] at writes other
      rw [writes.1, other.1]
    | read =>
      have readers : ∀ holder ∈ lock.holders, holder.2 = .read := by
        simpa [Lock.admits] using admits
      rcases List.mem_cons.mp writes with equal | earlier
      · cases equal
      · cases readers _ earlier

theorem Tied.release (tied : Tied guard lock phases) (holds : phase.holds guard = none)
    (asks : phase.asks guard = (phases party).asks guard) :
    Tied guard (lock.release party) (assign phases party phase) where
  held := by
    intro other how
    rw [Lock.release, List.mem_filter, tied.held]
    by_cases equal : other = party
    · subst equal
      rw [assign_self, holds]
      simp
    · rw [assign_of_ne _ _ equal]
      simp [equal]
  asked := by
    intro other how
    rw [read_assign (Phase.asks guard) asks]
    exact tied.asked
  once := tied.once
  alone left right :=
    tied.alone (List.mem_filter.mp left).1 (List.mem_filter.mp right).1

end Tied

end Lock

end SqlGateway.Registry
