import SqlGateway.Proofs.Registry.Cells
import SqlGateway.Server.Pools

/-!
# Asking for a pool

A session is ready for a connection when its registry is tidy and holds the connection's definition.
A pool that is asked for in such a session is the one under its key, opened with the definition and
on the key's database; if there is none yet, one is opened, or refused by the server. Either way the
session stays ready: `opens_pool`.
-/

namespace SqlGateway

variable {σ : Type}

structure Session.Ready (session : Session σ) (connection : String) (definition : Definition) :
    Prop where
  tidy : session.registry.Tidy
  known : session.registry.definitions.find? connection = some definition

def Session.Holds (session : Session σ) (key : PoolKey) (pool : Pool) : Prop :=
  ∃ cell, (key, cell) ∈ session.registry.places ∧ session.registry.content cell = some pool

theorem Session.Ready.of_holds {session : Session σ} {key : PoolKey} {definition : Definition}
    {pool : Pool} (ready : session.Ready key.connection definition)
    (holds : session.Holds key pool) :
    pool.definition = definition ∧ pool.database = key.database := by
  rcases holds with ⟨cell, placed, filled⟩
  rcases ready.tidy.current placed filled with ⟨known, database⟩
  rw [ready.known, Option.some.injEq] at known
  exact ⟨known.symm, database⟩

namespace Gateway

theorem ready_register {definition : Definition} {session after : Session σ}
    (tidy : session.registry.Tidy)
    (registered : (register definition).on session = (.ok (), after)) :
    after.Ready definition.id definition := by
  rw [register, on_ofSession, Registry.register] at registered
  cases fresh : session.registry.definitions.find? definition.id with
  | some found => simp [fresh] at registered
  | none =>
    simp only [fresh, Prod.mk.injEq, true_and] at registered
    subst registered
    constructor
    · apply tidy.define
      · intro key cell placed
        rcases tidy.known placed with ⟨other, known⟩
        rw [Entries.find?_insert, if_neg]
        intro same
        rw [same, fresh] at known
        cases known
      · exact tidy.named_insert definition
    · rw [Entries.find?_insert, if_pos rfl]

variable (backend : Backend σ) (definition : Definition)

inductive Opens (key : PoolKey) (before : Session σ) : Except Failure Pool × Session σ → Prop
  | refused {failure : Failure} {servers : σ} {after : Session σ}
      (refusal : backend.connect definition key.database before.servers =
        (.error failure, servers))
      (ready : after.Ready key.connection definition)
      (traffic : after.traffic = .connecting definition key :: before.traffic) :
      Opens key before (.error failure, after)
  | opened {pool : Pool} {after : Session σ} (ready : after.Ready key.connection definition)
      (holds : after.Holds key pool)
      (traffic : after.traffic = before.traffic ∨
        after.traffic = .connecting definition key :: before.traffic) :
      Opens key before (.ok pool, after)

variable {definition}

theorem opens_pool {connection : String} {session : Session σ}
    (ready : session.Ready connection definition) {database : Option String}
    (usable : database ≠ some "") :
    Opens backend definition ⟨connection, definition.effectiveDatabase database⟩ session
      ((pool backend connection database).on session) := by
  let key : PoolKey := ⟨connection, definition.effectiveDatabase database⟩
  let cell := (session.registry.reserve key).1
  let reserved := (session.registry.reserve key).2
  have looked : session.registry.lookUp connection database =
      .ok (definition, key, cell, reserved) := by
    rw [Registry.lookUp, ready.known]
  have tidy : reserved.Tidy := ready.tidy.reserve ready.known
  have known : reserved.definitions.find? connection = some definition := by
    rw [Registry.definitions_reserve]
    exact ready.known
  have placed : (key, cell) ∈ reserved.places := Registry.mem_reserve session.registry key
  rw [pool, on_ofSession, if_neg usable, looked]
  cases filled : reserved.content cell with
  | some pool =>
    simp only [filled]
    exact .opened ⟨tidy, known⟩ ⟨cell, placed, filled⟩ (.inl rfl)
  | none =>
    simp only [filled]
    rw [fillCell, on_ofSession]
    rcases answer : backend.connect definition key.database session.servers with
      ⟨failure | ⟨⟨⟩⟩, servers⟩
    · exact .refused answer ⟨tidy, known⟩ rfl
    · have served : ∀ {other}, (other, cell) ∈ reserved.places →
          reserved.definitions.find? other.connection = some definition ∧
            key.database = other.database := by
        intro other alsoPlaced
        rw [tidy.key_unique alsoPlaced placed]
        exact ⟨known, rfl⟩
      refine .opened ⟨tidy.fill served, known⟩ ⟨cell, placed, ?_⟩ (.inr rfl)
      exact Registry.content_fill_self definition key.database (tidy.inside placed)

end Gateway

end SqlGateway
