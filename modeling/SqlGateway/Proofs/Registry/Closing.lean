import SqlGateway.Proofs.Registry.Ledger

/-!
# Who closes a pool

When all calls are at their ends nobody owes the closing of a pool, so that no pool is left open:
`placed_or_closed`. But a pool can be contested: the one call has taken its cell, and the other one,
which opened the pool, has yet to look for the cell. Neither knows of the other, and both close the
pool. These pools and no others are closed twice: `closed_twice_iff_contested`.
-/

namespace SqlGateway.Registry.Machine

/-! ## No pool is left open -/

def Quiet (machine : Machine) : Prop :=
  ∀ call ∈ machine.calls, ∃ answer, call.stage = .finished answer

theorem Quiet.total_eq_zero {machine : Machine} (quiet : Quiet machine) {owed : Stage → Nat}
    (finished : ∀ answer, owed (.finished answer) = 0) : total owed machine.calls = 0 := by
  apply Machine.total_eq_zero
  intro call member
  rcases quiet call member with ⟨answer, ends⟩
  rw [ends]
  exact finished answer

theorem Quiet.balance_eq {machine : Machine} (quiet : Quiet machine) (cell : Nat) (pool : Pool) :
    balance machine cell pool = closings machine.events pool := by
  rw [balance, owedByTakers, owedByOpeners, quiet.total_eq_zero fun _ => rfl,
    quiet.total_eq_zero fun _ => rfl]
  rfl

/-- When no call is under way, every pool that was ever opened stands in the registry or has been
closed. -/
theorem placed_or_closed {machine : Machine} (reachable : Reachable machine)
    (quiet : Quiet machine) {pool : Pool} (opened : .opened pool ∈ machine.events) :
    (∃ key cell, (key, cell) ∈ machine.registry.places ∧
      machine.registry.content cell = some pool) ∨ .closing pool ∈ machine.events := by
  rcases reachable.kept.records.kept opened with ⟨cell, filled⟩
  by_cases unplaced : placings machine.registry cell = 0
  · right
    have owed := (reachable.balance_bounds filled unplaced).1
    rw [quiet.balance_eq] at owed
    exact List.count_pos_iff.mp owed
  · left
    rcases exists_place unplaced with ⟨key, placed⟩
    exact ⟨key, cell, placed, filled⟩

/-- The connection changes while a pool is opened for it; afterwards the old pool is closed and the
new one stands in the registry. -/
def settled : List Action := [
  .invoke (.register (shop "old")), .advance 0,
  .invoke (.get "shop" none), .advance 1, .advance 1, .advance 1,
  .invoke (.update (shop "new")), .advance 2, .advance 2, .advance 2,
  .openEnds 1 none, .advance 1, .close 1 false, .advance 1, .advance 1, .advance 1,
  .openEnds 1 none, .advance 1]

theorem placed_or_closed_settled : ∃ machine, (idle .empty).run settled = some machine ∧
    Quiet machine ∧ .opened ⟨0, shop "old", some "old"⟩ ∈ machine.events ∧
    ((∃ key cell, (key, cell) ∈ machine.registry.places ∧
      machine.registry.content cell = some ⟨0, shop "old", some "old"⟩) ∨
      .closing ⟨0, shop "old", some "old"⟩ ∈ machine.events) := by
  have possible : ((idle .empty).run settled).isSome := rfl
  rcases Option.isSome_iff_exists.mp possible with ⟨machine, course⟩
  have calls : machine.calls = [
      ⟨.register (shop "old"), .finished .done⟩,
      ⟨.get "shop" none, .finished (.pool ⟨1, shop "new", some "new"⟩)⟩,
      ⟨.update (shop "new"), .finished .done⟩] := by
    cases course
    rfl
  have quiet : Quiet machine := by
    rw [Quiet, calls]
    simp
  have opened : .opened ⟨0, shop "old", some "old"⟩ ∈ machine.events := by
    cases course
    decide
  exact ⟨machine, course, quiet, opened,
    placed_or_closed (Reachable.start.run course) quiet opened⟩

/-! ## Pools that are closed twice -/

/-- The cell of a pool was taken by a call that has not come to it yet, and the call that opened the
pool is to close it too, or has yet to see whether its cell is in the registry. -/
def Contested (machine : Machine) (pool : Pool) : Prop :=
  ∃ cell, machine.registry.content cell = some pool ∧
    (∃ call ∈ machine.calls, ∃ cells closed, call.stage = .closing cells closed ∧
      cell ∈ cells) ∧
    ∃ call ∈ machine.calls, (∃ key held, call.stage = .checking key cell held true) ∨
      call.stage = .discarding cell

theorem owedByTaker_pos_iff {cell : Nat} {stage : Stage} :
    0 < owedByTaker cell stage ↔
      ∃ cells closed, stage = .closing cells closed ∧ cell ∈ cells := by
  cases stage with
  | closing cells closed => simp [owedByTaker, List.count_pos_iff]
  | _ => simp [owedByTaker]

theorem owedByOpener_pos_iff {cell : Nat} {stage : Stage} :
    0 < owedByOpener cell stage ↔
      (∃ key held, stage = .checking key cell held true) ∨ stage = .discarding cell := by
  cases stage with
  | checking key own held created =>
    cases created <;> by_cases same : own = cell <;> simp [owedByOpener, same]
  | discarding own => by_cases same : own = cell <;> simp [owedByOpener, same]
  | _ => simp [owedByOpener]

theorem contested_iff {machine : Machine} {pool : Pool} :
    Contested machine pool ↔
      ∃ cell, machine.registry.content cell = some pool ∧ 0 < owedByTakers machine cell ∧
        0 < owedByOpeners machine cell := by
  simp only [Contested, owedByTakers, owedByOpeners, total_pos_iff, owedByTaker_pos_iff,
    owedByOpener_pos_iff]

/-- While a pool was not contested, one call alone owes its closing or has closed it. -/
def Sole (machine : Machine) (pool : Pool) : Prop :=
  ∀ cell, machine.registry.content cell = some pool → placings machine.registry cell = 0 →
    balance machine cell pool = 1

theorem Sole.step {before after : Machine} {pool : Pool} (reachable : Reachable before)
    (steps : Steps before after) (ledger : Ledger after) (sole : Sole before pool) :
    Contested after pool ∨ Sole after pool := by
  by_cases contested : Contested after pool
  · exact .inl contested
  · right
    intro cell filled unplaced
    by_cases earlier : before.registry.content cell = some pool ∧
        placings before.registry cell = 0
    · rw [steps.balance_eq reachable.kept earlier.1 earlier.2]
      exact sole cell earlier.1 earlier.2
    · have takers := ledger.takers cell
      have openers := ledger.openers cell
      have owed := steps.owed reachable.kept reachable.ledger filled unplaced fun held placed =>
        earlier ⟨held, placed⟩
      have either : owedByTakers after cell = 0 ∨ owedByOpeners after cell = 0 := by
        rw [contested_iff] at contested
        by_contra both
        exact contested ⟨cell, filled, by omega, by omega⟩
      rw [balance]
      omega

theorem Reachable.closings_le_balance {machine : Machine} (reachable : Reachable machine)
    {pool : Pool} (closed : closings machine.events pool ≠ 0) :
    ∃ cell, machine.registry.content cell = some pool ∧ placings machine.registry cell = 0 ∧
      closings machine.events pool ≤ balance machine cell pool := by
  have made : .closing pool ∈ machine.events :=
    List.count_pos_iff.mp (Nat.pos_of_ne_zero closed)
  rcases reachable.kept.records.closed made with ⟨cell, filled⟩
  refine ⟨cell, filled, ?_, ?_⟩
  · by_contra placed
    exact closed (reachable.kept.closings_eq_zero filled placed)
  · rw [balance]
    omega

/-- A course passes through a state in which a pool is contested, or one call alone is in charge of
the pool. -/
theorem contested_or_sole {actions : List Action} {machine : Machine}
    (course : (idle .empty).run actions = some machine) (pool : Pool) :
    (∃ moment, Passes (idle .empty) actions moment ∧ Contested moment pool) ∨
      Sole machine pool := by
  induction actions using List.reverseRecOn generalizing machine with
  | nil =>
    right
    cases course
    intro cell filled
    cases filled
  | append_singleton actions action induction =>
    rcases exists_of_run_concat course with ⟨last, earlier, steps⟩
    have reachable := Reachable.start.run earlier
    rcases induction earlier with ⟨moment, passes, contested⟩ | sole
    · exact .inl ⟨moment, passes.append _, contested⟩
    · rcases sole.step reachable steps (reachable.ledger.step steps reachable.kept) with
        contested | sole
      · exact .inl ⟨machine, .last course, contested⟩
      · exact .inr sole

theorem balance_of_contested {moment machine : Machine} {actions : List Action} {pool : Pool}
    (reachable : Reachable moment) (contested : Contested moment pool)
    (course : moment.run actions = some machine) :
    ∃ cell, balance machine cell pool = 2 := by
  rcases contested_iff.mp contested with ⟨cell, filled, taken, opened⟩
  have takers := reachable.ledger.takers cell
  have unplaced : placings moment.registry cell = 0 := by omega
  have start : balance moment cell pool = 2 := by
    have bounds := reachable.balance_bounds filled unplaced
    rw [balance] at bounds ⊢
    omega
  have later : Kept machine ∧ machine.registry.content cell = some pool ∧
      placings machine.registry cell = 0 ∧ balance machine cell pool = 2 := by
    apply run_keeps ?_ course
    · exact ⟨reachable.kept, filled, unplaced, start⟩
    · rintro before after steps ⟨kept, filled, unplaced, two⟩
      have evolves := steps.evolves kept
      have gone := placings_evolves evolves filled unplaced
      refine ⟨kept.step steps, evolves.content filled, gone, ?_⟩
      rw [steps.balance_eq kept filled unplaced]
      exact two
  exact ⟨cell, later.2.2.2⟩

/-- A pool is closed at most twice, and more than once only if it was contested before. If it was,
it has been closed twice when all calls are at their ends. -/
theorem closed_twice_iff_contested {actions : List Action} {machine : Machine}
    (course : (idle .empty).run actions = some machine) (pool : Pool) :
    closings machine.events pool ≤ 2 ∧
    (1 < closings machine.events pool →
      ∃ moment, Passes (idle .empty) actions moment ∧ Contested moment pool) ∧
    (Quiet machine →
      (∃ moment, Passes (idle .empty) actions moment ∧ Contested moment pool) →
      closings machine.events pool = 2) := by
  have reachable := Reachable.start.run course
  refine ⟨?_, ?_, ?_⟩
  · by_cases closed : closings machine.events pool = 0
    · omega
    · rcases reachable.closings_le_balance closed with ⟨cell, filled, unplaced, less⟩
      have bounds := reachable.balance_bounds filled unplaced
      omega
  · intro twice
    have closed : closings machine.events pool ≠ 0 := by omega
    rcases reachable.closings_le_balance closed with ⟨cell, filled, unplaced, less⟩
    rcases contested_or_sole course pool with contested | sole
    · exact contested
    · have one := sole cell filled unplaced
      omega
  · rintro quiet ⟨moment, passes, contested⟩
    rcases passes.run course with ⟨rest, onwards⟩
    rcases passes with ⟨first, -, begun⟩
    rcases balance_of_contested (Reachable.start.run begun) contested onwards with ⟨cell, two⟩
    rw [quiet.balance_eq] at two
    exact two

/-- The connection changes after a pool was opened for it, and before the call that opened the pool
has checked its cell. -/
def contesting : List Action := [
  .invoke (.register (shop "old")), .advance 0,
  .invoke (.get "shop" none), .advance 1, .advance 1, .advance 1, .openEnds 1 none,
  .invoke (.update (shop "new")), .advance 2]

def closingTwice : List Action := [
  .close 2 true, .advance 2, .advance 1, .close 1 true,
  .advance 1, .advance 1, .advance 1, .openEnds 1 none, .advance 1]

/-- It does happen that a pool is closed twice. -/
theorem not_closed_at_most_once :
    ¬∀ machine pool, Reachable machine → closings machine.events pool ≤ 1 := by
  intro once
  have possible : ((idle .empty).run (contesting ++ closingTwice)).isSome := rfl
  rcases Option.isSome_iff_exists.mp possible with ⟨machine, course⟩
  have twice : closings machine.events ⟨0, shop "old", some "old"⟩ = 2 := by
    cases course
    decide
  have bound := once machine ⟨0, shop "old", some "old"⟩ (Reachable.start.run course)
  omega

theorem closed_twice_iff_contested_contesting : ∃ machine,
    (idle .empty).run (contesting ++ closingTwice) = some machine ∧ Quiet machine ∧
    closings machine.events ⟨0, shop "old", some "old"⟩ = 2 ∧
    ∃ moment, Passes (idle .empty) (contesting ++ closingTwice) moment ∧
      Contested moment ⟨0, shop "old", some "old"⟩ := by
  have possible : ((idle .empty).run (contesting ++ closingTwice)).isSome := rfl
  rcases Option.isSome_iff_exists.mp possible with ⟨machine, course⟩
  have calls : machine.calls = [
      ⟨.register (shop "old"), .finished .done⟩,
      ⟨.get "shop" none, .finished (.pool ⟨1, shop "new", some "new"⟩)⟩,
      ⟨.update (shop "new"), .finished .done⟩] := by
    cases course
    rfl
  have quiet : Quiet machine := by
    rw [Quiet, calls]
    simp
  have twice : closings machine.events ⟨0, shop "old", some "old"⟩ = 2 := by
    cases course
    decide
  have contested := (closed_twice_iff_contested course ⟨0, shop "old", some "old"⟩).2.1
  exact ⟨machine, course, quiet, twice, contested (by omega)⟩

end SqlGateway.Registry.Machine
