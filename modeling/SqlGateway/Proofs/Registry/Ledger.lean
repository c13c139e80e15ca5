import SqlGateway.Proofs.Registry.Upkeep

/-!
# The closings that are owed

A pool whose cell was taken out of the registry has to be closed. Two calls can be in charge of
that: the one that took the cell, and the one that opened the pool and does not find its cell in the
registry. The ledger of a state counts how often each of them still owes the closing of a pool. For
a pool that is no longer in the registry, what was closed and what is owed come to one or two, and
no action changes the sum.
-/

namespace SqlGateway.Registry.Machine

/-- How many closings of the pool in a cell a call owes because it took the cell. -/
def owedByTaker (cell : Nat) : Stage → Nat
  | .closing cells _ => cells.count cell
  | _ => 0

def owedByOpener (cell : Nat) : Stage → Nat
  | .checking _ own _ created => if created && own = cell then 1 else 0
  | .discarding own => if own = cell then 1 else 0
  | _ => 0

def total (owed : Stage → Nat) (calls : List Call) : Nat :=
  (calls.map fun call => owed call.stage).sum

def owedByTakers (machine : Machine) (cell : Nat) : Nat :=
  total (owedByTaker cell) machine.calls

def owedByOpeners (machine : Machine) (cell : Nat) : Nat :=
  total (owedByOpener cell) machine.calls

def closings (events : List Event) (pool : Pool) : Nat := events.count (.closing pool)

def placings (registry : Registry) (cell : Nat) : Nat :=
  (registry.places.map Prod.snd).count cell

/-! ## Sums over the calls -/

section Total

variable {owed : Stage → Nat} {calls : List Call}

theorem total_invoked (call : Call) :
    total owed (calls ++ [call]) = total owed calls + owed call.stage := by
  simp [total]

theorem total_moved {call : Nat} {found : Call} (present : calls[call]? = some found)
    (next : Call) :
    total owed (calls.set call next) + owed found.stage =
      total owed calls + owed next.stage :=
  sum_moved present (fun call => owed call.stage) next

theorem total_eq_zero (none : ∀ call ∈ calls, owed call.stage = 0) : total owed calls = 0 := by
  induction calls with
  | nil => rfl
  | cons head tail induction =>
    have rest := induction fun call member => none call (List.mem_cons_of_mem _ member)
    have first := none head List.mem_cons_self
    simp only [total, List.map_cons, List.sum_cons] at rest ⊢
    omega

theorem total_pos_iff : 0 < total owed calls ↔ ∃ call ∈ calls, 0 < owed call.stage := by
  induction calls with
  | nil => simp [total]
  | cons head tail induction =>
    have split : total owed (head :: tail) = owed head.stage + total owed tail := by
      simp [total]
    rw [split, Nat.add_pos_iff_pos_or_pos, induction]
    simp

end Total

/-! ## Places -/

section Placings

variable {registry : Registry} {cell : Nat}

theorem placings_eq_zero_iff :
    placings registry cell = 0 ↔ ∀ key, (key, cell) ∉ registry.places := by
  rw [placings, List.count_eq_zero, List.mem_map]
  constructor
  · intro absent key placed
    exact absent ⟨_, placed, rfl⟩
  · rintro absent ⟨⟨key, number⟩, placed, rfl⟩
    exact absent key placed

theorem exists_place (placed : placings registry cell ≠ 0) :
    ∃ key, (key, cell) ∈ registry.places := by
  simpa [placings_eq_zero_iff] using placed

theorem placings_le_one (tidy : Tidy registry) : placings registry cell ≤ 1 :=
  List.nodup_iff_count_le_one.mp tidy.numbers cell

theorem placings_takeWhere (taken : PoolKey → Bool) :
    placings (registry.takeWhere taken).2 cell + (registry.takeWhere taken).1.count cell =
      placings registry cell := by
  simp only [placings, Registry.takeWhere]
  induction registry.places with
  | nil => rfl
  | cons place places induction =>
    cases isTaken : taken place.1 <;>
      simp only [isTaken, List.filter_cons, List.map_cons, List.count_cons, Bool.not_true,
        Bool.not_false, if_true, if_false, Bool.false_eq_true] <;>
      omega

end Placings

/-! ## What a move does to the ledger -/

section Move

variable {registry after : Registry} {request : Request} {stage next : Stage}
  {events : List Event} (cell : Nat)

theorem Move.placings_cases (move : Move registry request stage after next events) :
    placings after cell + owedByTaker cell next =
        placings registry cell + owedByTaker cell stage ∨
      after = registry ∧ owedByTaker cell next ≤ owedByTaker cell stage ∨
      registry.cells.length ≤ cell ∧ owedByTaker cell stage = 0 ∧
        owedByTaker cell next = 0 := by
  cases move with
  | @replaces definition =>
    exact .inl (placings_takeWhere fun key => key.connection = definition.id)
  | @forgets id => exact .inl (placings_takeWhere fun key => key.connection = id)
  | @takes taken => exact .inl (placings_takeWhere taken)
  | @reserves definition key =>
    rcases reserve_cases registry key with ⟨_, -, same⟩ | ⟨-, -, added, -⟩
    · rw [same]
      exact .inl rfl
    · by_cases new : cell = registry.cells.length
      · exact .inr (.inr ⟨Nat.le_of_eq new.symm, rfl, rfl⟩)
      · left
        have apart : registry.cells.length ≠ cell := fun equal => new equal.symm
        simp [placings, added, owedByTaker, apart]
  | closes | passes =>
    right
    left
    exact ⟨rfl, List.count_le_count_cons⟩
  | _ => exact .inl rfl

theorem Move.opener_cases (move : Move registry request stage after next events) :
    owedByOpener cell next ≤ owedByOpener cell stage ∨
      ∃ definition key, stage = .opening definition key cell ∧
        after = (registry.fill cell definition key.database).2 ∧ owedByOpener cell next = 1 := by
  cases move with
  | @opens definition key own =>
    by_cases same : own = cell
    · subst same
      exact .inr ⟨definition, key, rfl, rfl, by simp [owedByOpener]⟩
    · left
      simp [owedByOpener, same]
  | loses => exact .inl (Nat.le_of_eq (by simp [owedByOpener]))
  | _ => exact .inl (Nat.zero_le _)

private theorem closings_of_filled (tidy : Tidy registry) {pool other : Pool} {own cell : Nat}
    (filled : registry.content cell = some pool) (found : registry.content own = some other) :
    closings [.closing other] pool = if own = cell then 1 else 0 := by
  split
  · next same =>
    rw [same, filled] at found
    cases found
    simp [closings]
  · next apart =>
    have different : other ≠ pool := by
      rintro rfl
      exact apart (tidy.own found filled)
    simp [closings, different]

theorem Move.settles (tidy : Tidy registry) {cell : Nat} {pool : Pool}
    (filled : registry.content cell = some pool) (unplaced : placings registry cell = 0)
    (empty : ∀ {definition key own}, stage = .opening definition key own →
      registry.content own = none)
    (move : Move registry request stage after next events) :
    closings events pool + owedByTaker cell next + owedByOpener cell next =
      owedByTaker cell stage + owedByOpener cell stage := by
  have untaken (taken : PoolKey → Bool) :
      closings [] pool + owedByTaker cell (.closing (registry.takeWhere taken).1 0) + 0 = 0 := by
    have split : _ = placings registry cell := placings_takeWhere taken
    simp only [closings, owedByTaker, List.count_nil]
    omega
  have apart {own : Nat} (none : registry.content own = none) : own ≠ cell := by
    rintro rfl
    rw [filled] at none
    cases none
  cases move with
  | @replaces definition => exact untaken fun key => key.connection = definition.id
  | @forgets id => exact untaken fun key => key.connection = id
  | @takes taken => exact untaken taken
  | opens => simp [owedByTaker, owedByOpener, closings, apart (empty rfl)]
  | @returns key own held created current =>
    have elsewhere : own ≠ cell := by
      rintro rfl
      have placed := (isCurrent_iff tidy.keys).mp current
      exact placings_eq_zero_iff.mp unplaced key placed
    simp [owedByTaker, owedByOpener, closings, elsewhere]
  | loses => simp [owedByTaker, owedByOpener, closings]
  | discards found =>
    rw [closings_of_filled tidy filled found]
    simp [owedByTaker, owedByOpener]
  | forsakes none => simp [owedByTaker, owedByOpener, closings, apart none]
  | closes found =>
    rw [closings_of_filled tidy filled found]
    simp only [owedByTaker, owedByOpener, List.count_cons, beq_iff_eq]
    omega
  | passes none => simp [owedByTaker, owedByOpener, closings, apart none]
  | _ => rfl

end Move

/-! ## The ledger -/

/-- Every cell has at most one taker, and none while it stands in the registry; and it has at most
one opener, and none while it is empty. -/
structure Ledger (machine : Machine) : Prop where
  takers : ∀ cell, placings machine.registry cell + owedByTakers machine cell ≤ 1
  openers : ∀ cell, owedByOpeners machine cell ≤ 1
  unopened : ∀ {cell}, machine.registry.content cell = none → owedByOpeners machine cell = 0

def balance (machine : Machine) (cell : Nat) (pool : Pool) : Nat :=
  closings machine.events pool + owedByTakers machine cell + owedByOpeners machine cell

theorem ledger_idle : Ledger (idle .empty) where
  takers _ := Nat.zero_le _
  openers _ := Nat.zero_le _
  unopened _ := rfl

theorem Kept.owedByTakers_eq_zero {machine : Machine} (kept : Kept machine) {cell : Nat}
    (outside : machine.registry.cells.length ≤ cell) : owedByTakers machine cell = 0 := by
  apply total_eq_zero
  rintro ⟨request, stage⟩ member
  rcases List.mem_iff_getElem?.mp member with ⟨call, present⟩
  have fits := kept.fits present
  cases stage with
  | closing cells closed =>
    apply List.count_eq_zero.mpr
    intro taken
    exact Nat.not_lt_of_le outside (fits cell taken).inside
  | _ => rfl

theorem Kept.closings_eq_zero {machine : Machine} (kept : Kept machine) {cell : Nat} {pool : Pool}
    (filled : machine.registry.content cell = some pool)
    (placed : placings machine.registry cell ≠ 0) : closings machine.events pool = 0 := by
  rcases exists_place placed with ⟨key, placed⟩
  exact List.count_eq_zero.mpr (kept.records.unclosed placed filled)

theorem placings_evolves {before after : Registry} (evolves : Evolves before after) {cell : Nat}
    {pool : Pool} (filled : before.content cell = some pool)
    (unplaced : placings before cell = 0) : placings after cell = 0 := by
  rw [placings_eq_zero_iff] at unplaced ⊢
  intro key placed
  exact unplaced key (evolves.placed placed (lt_of_content filled)).1

section Moved

variable {machine : Machine} {call : Nat} {request : Request} {stage next : Stage}
  {registry : Registry} {events : List Event} (kept : Kept machine)
  (present : machine.calls[call]? = some ⟨request, stage⟩)
  (move : Move machine.registry request stage registry next events)

section

include present

theorem owedByTakers_moved (cell : Nat) :
    owedByTakers (machine.moved call registry request next events) cell +
        owedByTaker cell stage =
      owedByTakers machine cell + owedByTaker cell next :=
  total_moved present ⟨request, next⟩

theorem owedByOpeners_moved (cell : Nat) :
    owedByOpeners (machine.moved call registry request next events) cell +
        owedByOpener cell stage =
      owedByOpeners machine cell + owedByOpener cell next :=
  total_moved present ⟨request, next⟩

end

theorem closings_moved (pool : Pool) :
    closings (machine.moved call registry request next events).events pool =
      closings events pool + closings machine.events pool :=
  List.count_append

include kept present move

theorem Kept.balance_moved {cell : Nat} {pool : Pool}
    (filled : machine.registry.content cell = some pool)
    (unplaced : placings machine.registry cell = 0) :
    balance (machine.moved call registry request next events) cell pool =
      balance machine cell pool := by
  have empty {definition : Definition} {key : PoolKey} {own : Nat}
      (opens : stage = .opening definition key own) : machine.registry.content own = none := by
    subst opens
    exact (kept.opens present).1
  have settles := move.settles kept.tidy filled unplaced empty
  have takers : owedByTakers (machine.moved call registry request next events) cell + _ = _ :=
    owedByTakers_moved present cell
  have openers : owedByOpeners (machine.moved call registry request next events) cell + _ = _ :=
    owedByOpeners_moved present cell
  rw [balance, closings_moved, balance]
  omega

variable (ledger : Ledger machine)

include ledger

theorem Ledger.owed_moved {cell : Nat} {pool : Pool} (filled : registry.content cell = some pool)
    (unplaced : placings registry cell = 0)
    (new : machine.registry.content cell = some pool → placings machine.registry cell ≠ 0) :
    closings (machine.moved call registry request next events).events pool = 0 ∧
      1 ≤ owedByTakers (machine.moved call registry request next events) cell +
        owedByOpeners (machine.moved call registry request next events) cell := by
  rw [closings_moved]
  rcases move.content_cases filled with earlier | ⟨definition, key, rfl, opened, logged⟩
  · -- The cell was in the registry, so this very move has taken it.
    have placed := new earlier
    have apart : registry ≠ machine.registry := by
      rintro rfl
      exact placed unplaced
    have unclosed := kept.closings_eq_zero earlier placed
    have silent : closings events pool = 0 :=
      List.count_eq_zero.mpr fun made => apart (move.closing_inv made).1
    have one := ledger.takers cell
    have takers : owedByTakers (machine.moved call registry request next events) cell + _ = _ :=
      owedByTakers_moved present cell
    rcases move.placings_cases cell with taken | ⟨same, -⟩ | ⟨outside, -⟩
    · constructor <;> omega
    · exact absurd same apart
    · exact absurd (lt_of_content earlier) (Nat.not_lt_of_le outside)
  · -- The pool has just been opened, by a call that owes it from now on.
    have unclosed : closings machine.events pool = 0 := by
      apply List.count_eq_zero.mpr
      intro made
      rcases kept.records.closed made with ⟨other, held⟩
      have earlier := kept.tidy.serial held
      rw [opened] at earlier
      exact Nat.lt_irrefl _ earlier
    have silent : closings events pool = 0 := by
      rw [logged]
      simp [closings]
    have openers :
        owedByOpeners (machine.moved call registry request next events) cell + 0 = _ :=
      owedByOpeners_moved present cell
    have owes : owedByOpener cell next = 1 := by
      cases move with
      | opens => simp [owedByOpener]
      | fails => cases logged
    omega

theorem Ledger.takers_moved (tidy : Tidy registry) (cell : Nat) :
    placings registry cell +
      owedByTakers (machine.moved call registry request next events) cell ≤ 1 := by
  have before := ledger.takers cell
  have takers : owedByTakers (machine.moved call registry request next events) cell + _ = _ :=
    owedByTakers_moved present cell
  rcases move.placings_cases cell with taken | ⟨rfl, less⟩ | ⟨outside, nothing, none⟩
  · omega
  · omega
  · -- A new cell stands in the registry, and nobody can have taken it.
    have nobody := kept.owedByTakers_eq_zero outside
    have once : placings registry cell ≤ 1 := placings_le_one tidy
    omega

theorem Ledger.openers_moved (cell : Nat) :
    owedByOpeners (machine.moved call registry request next events) cell ≤ 1 ∧
      (registry.content cell = none →
        owedByOpeners (machine.moved call registry request next events) cell = 0) := by
  have before := ledger.openers cell
  have openers : owedByOpeners (machine.moved call registry request next events) cell + _ = _ :=
    owedByOpeners_moved present cell
  rcases move.opener_cases cell with less | ⟨definition, key, rfl, rfl, owes⟩
  · refine ⟨by omega, ?_⟩
    intro empty
    have unopened : owedByOpeners machine cell = 0 := by
      apply ledger.unopened
      cases filled : machine.registry.content cell with
      | none => rfl
      | some pool =>
        rw [(kept.evolves present move).content filled] at empty
        cases empty
    omega
  · -- The cell was empty, and its opener is the first to owe it.
    have unopened := ledger.unopened (kept.opens present).1
    refine ⟨by omega, ?_⟩
    rw [content_fill_self definition key.database (kept.fits present).1.inside]
    exact nofun

end Moved

/-! ## What every step does to the ledger -/

section Steps

variable {before after : Machine}

theorem owedByTakers_invoked (request : Request) (cell : Nat) :
    owedByTakers { before with calls := before.calls ++ [⟨request, .entering⟩] } cell =
      owedByTakers before cell :=
  total_invoked _

theorem owedByOpeners_invoked (request : Request) (cell : Nat) :
    owedByOpeners { before with calls := before.calls ++ [⟨request, .entering⟩] } cell =
      owedByOpeners before cell :=
  total_invoked _

theorem placings_reorder {registry : Registry} {places : List (PoolKey × Nat)}
    (same : places.Perm registry.places) (cell : Nat) :
    placings { registry with places } cell = placings registry cell :=
  (same.map Prod.snd).count_eq cell

theorem Ledger.step (steps : Steps before after) (kept : Kept before) (ledger : Ledger before) :
    Ledger after := by
  cases steps with
  | invokes request =>
    constructor
    case takers =>
      intro cell
      rw [owedByTakers_invoked]
      exact ledger.takers cell
    case openers =>
      intro cell
      rw [owedByOpeners_invoked]
      exact ledger.openers cell
    case unopened =>
      intro cell empty
      rw [owedByOpeners_invoked]
      exact ledger.unopened empty
  | reorders places same =>
    refine ⟨?_, ledger.openers, ledger.unopened⟩
    intro cell
    rw [placings_reorder same]
    exact ledger.takers cell
  | moves present unread move =>
    have later := kept.move present unread move
    exact {
      takers := ledger.takers_moved kept present move later.tidy
      openers := fun cell => (ledger.openers_moved kept present move cell).1
      unopened := fun {cell} => (ledger.openers_moved kept present move cell).2 }

theorem Steps.balance_eq (steps : Steps before after) (kept : Kept before) {cell : Nat}
    {pool : Pool} (filled : before.registry.content cell = some pool)
    (unplaced : placings before.registry cell = 0) :
    balance after cell pool = balance before cell pool := by
  cases steps with
  | invokes request => rw [balance, owedByTakers_invoked, owedByOpeners_invoked, balance]
  | reorders => rfl
  | moves present _ move => exact kept.balance_moved present move filled unplaced

theorem Steps.owed (steps : Steps before after) (kept : Kept before) (ledger : Ledger before)
    {cell : Nat} {pool : Pool} (filled : after.registry.content cell = some pool)
    (unplaced : placings after.registry cell = 0)
    (new : before.registry.content cell = some pool → placings before.registry cell ≠ 0) :
    closings after.events pool = 0 ∧
      1 ≤ owedByTakers after cell + owedByOpeners after cell := by
  cases steps with
  | invokes => exact absurd unplaced (new filled)
  | reorders places same =>
    rw [placings_reorder same] at unplaced
    exact absurd unplaced (new filled)
  | moves present _ move => exact ledger.owed_moved kept present move filled unplaced new

end Steps

theorem Reachable.ledger {machine : Machine} (reachable : Reachable machine) :
    Ledger machine := by
  induction reachable with
  | start => exact ledger_idle
  | step action reachable steps ledger => exact ledger.step (steps_of_step steps) reachable.kept

/-- A pool that is no longer in the registry is closed or owed once or twice. -/
theorem Reachable.balance_bounds {machine : Machine} (reachable : Reachable machine) {cell : Nat}
    {pool : Pool} (filled : machine.registry.content cell = some pool)
    (unplaced : placings machine.registry cell = 0) :
    1 ≤ balance machine cell pool ∧ balance machine cell pool ≤ 2 := by
  induction reachable with
  | start => cases filled
  | @step before after action reachable steps induction =>
    have steps := steps_of_step steps
    by_cases earlier : before.registry.content cell = some pool ∧
        placings before.registry cell = 0
    · rw [steps.balance_eq reachable.kept earlier.1 earlier.2]
      exact induction earlier.1 earlier.2
    · have ledger := reachable.ledger.step steps reachable.kept
      have takers := ledger.takers cell
      have openers := ledger.openers cell
      have owed := steps.owed reachable.kept reachable.ledger filled unplaced fun held placed =>
        earlier ⟨held, placed⟩
      rw [balance]
      omega

end SqlGateway.Registry.Machine
