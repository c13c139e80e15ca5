import SqlGateway.Gateway.Databases
import SqlGateway.Proofs.Server.Conservation
import SqlGateway.Proofs.Server.Statements
import SqlGateway.Server.Script

/-!
# Dropping a database

The pool on a database is closed before anything else is done to drop it. The statement then goes
through the pool of the connection's default database, or of the engine's maintenance database if
the default one is to go. Where this leaves no other database, a new pool is opened on the one that
goes, and it stays in the registry: `drops_dropDatabase` says that this is the only such case.
-/

namespace SqlGateway

variable {σ : Type}

/-- No other database stands in for the one to drop: it is the default one, and the engine has no
maintenance database or this is it. -/
def Definition.NoStandIn (definition : Definition) (name : String) : Prop :=
  definition.database = some name ∧
    (definition.engine.maintenanceDatabase = none ∨
      definition.engine.maintenanceDatabase = some name)

/-- How a database is dropped: the pools that are closed, and what passes later. -/
structure Drops (connection : String) (definition : Definition) (name : String)
    (before : Session σ) (closed : List Pool) (later : List Traffic)
    (outcome : Except Failure Unit × Session σ) : Prop where
  traffic : outcome.2.traffic = later ++ (closed.map .closing ++ before.traffic)
  closed : ∀ pool, pool ∈ closed ↔ before.Holds ⟨connection, some name⟩ pool
  batches : ∀ pool sql, .batch pool sql ∈ later →
    sql = Sql.dropDatabase definition.engine name ∧ pool.key.connection = connection ∧
      (pool.key.database = some name ↔ definition.NoStandIn name)
  succeeds : outcome.1 = .ok () →
    (∃ pool, .batch pool (Sql.dropDatabase definition.engine name) ∈ later) ∧
      ((∃ pool, outcome.2.Holds ⟨connection, some name⟩ pool) ↔ definition.NoStandIn name)

namespace Gateway

variable (backend : Backend σ)

/-! ## The database in between -/

theorem administrationDatabase_ne_empty (definition : Definition) (name : String) :
    administrationDatabase definition name ≠ some "" := by
  rw [administrationDatabase]
  split
  · cases definition.engine <;> decide
  · exact nofun

theorem effectiveDatabase_administration (definition : Definition) (name : String) :
    definition.effectiveDatabase (administrationDatabase definition name) = some name ↔
      definition.NoStandIn name := by
  rw [administrationDatabase, Definition.NoStandIn, Definition.effectiveDatabase]
  by_cases default : definition.database = some name
  · rw [if_pos default, default]
    cases definition.engine.maintenanceDatabase <;> simp
  · rw [if_neg default]
    simp [default]

/-! ## The statement -/

theorem on_endSessions (pool : Pool) (name : String) (session : Session σ) :
    ∃ asked : List Traffic,
      ((endSessions backend pool name).on session).2.registry = session.registry ∧
      ((endSessions backend pool name).on session).2.traffic = asked ++ session.traffic ∧
      ∀ other sql, .batch other sql ∉ asked := by
  rw [endSessions]
  split
  · rw [snd_on_bind_pure, fetch, snd_on_statement]
    exact ⟨[_], rfl, rfl, by simp⟩
  · exact ⟨[], rfl, rfl, by simp⟩
  · exact ⟨[], rfl, rfl, by simp⟩

theorem snd_on_command (pool : Pool) (sql : String) (session : Session σ) :
    ((command backend pool sql).on session).2 =
      { session with servers := (backend.batch pool sql session.servers).2 }.log
        (.batch pool sql) :=
  snd_on_batch backend brokenLine (fun _ => ()) pool sql session

def dropThrough (name : String) (pool : Pool) : Gateway σ Unit := do
  endSessions backend pool name
  command backend pool (Sql.dropDatabase pool.engine name)

theorem on_dropThrough (name : String) (pool : Pool) (session : Session σ) :
    ∃ sent : List Traffic,
      ((dropThrough backend name pool).on session).2.registry = session.registry ∧
      ((dropThrough backend name pool).on session).2.traffic = sent ++ session.traffic ∧
      (∀ other sql, .batch other sql ∈ sent →
        other = pool ∧ sql = Sql.dropDatabase pool.engine name) ∧
      (((dropThrough backend name pool).on session).1 = .ok () →
        .batch pool (Sql.dropDatabase pool.engine name) ∈ sent) := by
  rcases on_endSessions backend pool name session with ⟨asked, registry, traffic, queries⟩
  rw [dropThrough, on_bind]
  split
  · next after ended =>
    rw [ended] at registry traffic
    rw [snd_on_command]
    refine ⟨.batch pool (Sql.dropDatabase pool.engine name) :: asked, registry, ?_, ?_, ?_⟩
    · exact congrArg (.batch pool (Sql.dropDatabase pool.engine name) :: ·) traffic
    · intro other sql member
      rcases List.mem_cons.mp member with ⟨⟨⟩⟩ | member
      · exact ⟨rfl, rfl⟩
      · exact absurd member (queries other sql)
    · exact fun _ => List.mem_cons_self
  · next failure after ended =>
    rw [ended] at registry traffic
    refine ⟨asked, registry, traffic, ?_, nofun⟩
    intro other sql member
    exact absurd member (queries other sql)

/-! ## The whole -/

variable {connection : String} {definition : Definition} {session : Session σ}

def evicted (connection name : String) (session : Session σ) : Session σ :=
  (dismiss backend (fun key => key = ⟨connection, some name⟩) session.registry.definitions
    session).2

theorem on_dropDatabase (known : session.registry.definitions.find? connection = some definition)
    {name : String} (valid : Sql.checkName name = .ok ()) :
    (dropDatabase backend connection name).on session =
      (pool backend connection (administrationDatabase definition name) >>=
        dropThrough backend name).on (evicted backend connection name session) := by
  have checked : (Gateway.lift (Sql.checkName name)).on session = (.ok (), session) := by
    rw [on_lift, valid]
  have found : (Gateway.ask fun registry => registry.definition connection).on session =
      (.ok definition, session) := by
    rw [ask, on_ofSession, Registry.definition, known]
  rw [dropDatabase, on_bind_of_ok _ checked, on_bind_of_ok _ found]
  exact on_bind_of_ok _ rfl

theorem ready_evicted (ready : session.Ready connection definition) (name : String) :
    (evicted backend connection name session).Ready connection definition := by
  constructor
  · have asked : Dismisses session.registry (.evict connection (some name))
        (fun key => key = ⟨connection, some name⟩) session.registry.definitions := .takes rfl
    rw [evicted, registry_dismiss]
    exact asked.tidy ready.tidy
  · rw [evicted, registry_dismiss]
    exact ready.known

theorem not_holds_evicted (name : String) (pool : Pool) :
    ¬(evicted backend connection name session).Holds ⟨connection, some name⟩ pool := by
  intro holds
  have untaken := ((holds_dismiss backend _ _ session _ pool).mp holds).2
  exact of_decide_eq_false untaken rfl

theorem traffic_evicted (ready : session.Ready connection definition) (name : String) :
    ∃ closed : List Pool,
      (evicted backend connection name session).traffic =
        closed.map .closing ++ session.traffic ∧
      ∀ pool, pool ∈ closed ↔ session.Holds ⟨connection, some name⟩ pool := by
  rcases closings_dismiss backend ready.tidy (fun key => key = ⟨connection, some name⟩)
    session.registry.definitions with ⟨closed, traffic, -, members⟩
  exact ⟨closed, traffic, by simpa using members⟩

variable {backend}

theorem Provides.traffic {key : PoolKey} {outcome : Except Failure Pool × Session σ}
    (provided : Provides backend definition key session outcome) :
    ∃ asked : List Traffic, outcome.2.traffic = asked ++ session.traffic ∧
      ∀ other sql, .batch other sql ∉ asked := by
  cases provided with
  | finds => exact ⟨[], rfl, by simp⟩
  | fails => exact ⟨[_], rfl, by simp⟩
  | opens => exact ⟨[_], rfl, by simp⟩

section Provided

variable {key : PoolKey} {pool : Pool} {after : Session σ}
  (ready : session.Ready key.connection definition)
  (provided : Provides backend definition key session (.ok pool, after))

include ready provided

theorem Provides.built : pool.definition = definition ∧ pool.database = key.database := by
  cases provided with
  | finds holds => exact ready.of_holds holds
  | opens => exact ⟨rfl, rfl⟩

theorem Provides.holds (other : PoolKey) (held : Pool) :
    after.Holds other held ↔ session.Holds other held ∨ other = key ∧ held = pool := by
  cases provided with
  | finds holds =>
    constructor
    · exact .inl
    · rintro (there | ⟨rfl, rfl⟩)
      · exact there
      · exact holds
  | opens vacant => exact holds_opened ready.tidy ready.known _ vacant other held

end Provided

/-- The pools on the database are closed first. The statement is sent later, through a pool that is
on this database only if no other one stands in; and when it succeeded, a pool is left on the
database in this case only. -/
theorem drops_dropDatabase (ready : session.Ready connection definition) {name : String}
    (valid : Sql.checkName name = .ok ()) :
    ∃ closed later, Drops connection definition name session closed later
      ((dropDatabase backend connection name).on session) := by
  let used : PoolKey :=
    ⟨connection, definition.effectiveDatabase (administrationDatabase definition name)⟩
  have standsIn : used.database = some name ↔ definition.NoStandIn name :=
    effectiveDatabase_administration definition name
  have between := ready_evicted backend ready name
  rcases traffic_evicted backend ready name with ⟨closed, closings, members⟩
  have provided : Provides backend definition used _ _ := provides_pool backend between.tidy
    between.known (administrationDatabase_ne_empty definition name)
  rcases provided.traffic with ⟨asked, traffic, pools⟩
  rw [closings] at traffic
  rw [on_dropDatabase backend ready.known valid, on_bind]
  generalize (pool backend connection (administrationDatabase definition name)).on
    (evicted backend connection name session) = outcome at provided traffic
  rcases outcome with ⟨failure | pool, opened⟩
  · refine ⟨closed, asked, traffic, members, ?_, nofun⟩
    intro other sql member
    exact absurd member (pools other sql)
  · rcases on_dropThrough backend name pool opened with ⟨sent, registry, sending, batches, succeeds⟩
    rcases provided.built between with ⟨built, database⟩
    have engine : pool.engine = definition.engine := congrArg Definition.engine built
    rw [engine] at batches succeeds
    refine ⟨closed, sent ++ asked, ?traffic, members, ?batches, fun done => ⟨?_, ?left⟩⟩
    case traffic => rw [sending, traffic, List.append_assoc]
    case batches =>
      intro other sql member
      rcases List.mem_append.mp member with member | member
      · rcases batches other sql member with ⟨rfl, rfl⟩
        refine ⟨rfl, ?_, ?_⟩
        · rw [Pool.key, built]
          exact ready.tidy.named ready.known
        · rw [Pool.key, database, standsIn]
      · exact absurd member (pools other sql)
    · exact ⟨pool, List.mem_append_left _ (succeeds done)⟩
    case left =>
      rw [← standsIn]
      simp only [Session.Holds, registry]
      constructor
      · rintro ⟨held, there⟩
        rcases (provided.holds between _ held).mp there with there | ⟨same, -⟩
        · exact absurd there (not_holds_evicted backend name held)
        · exact congrArg PoolKey.database same.symm
      · intro same
        have own : (⟨connection, some name⟩ : PoolKey) = used := by rw [← same]
        exact ⟨pool, (provided.holds between _ pool).mpr (.inr ⟨own, rfl⟩)⟩

/-! ## Two default databases -/

def connected (definition : Definition) : Session Script.State :=
  (made (Script.backend ⟨.up, .granted, 1000⟩ 1) ⟨[], []⟩
    [.get definition.id none, .register definition]).2

/-- On PostgreSQL the maintenance database stands in for the default one. -/
theorem drops_dropDatabase_app :
    let definition : Definition := ⟨"c", .postgres, "h", none, none, none, some "app", false, false,
      false, .standard⟩
    (connected definition).Ready "c" definition ∧ Sql.checkName "app" = .ok () ∧
      ∃ closed later, Drops "c" definition "app" (connected definition) closed later
        ((dropDatabase (Script.backend ⟨.up, .granted, 1000⟩ 1) "c" "app").on
          (connected definition)) := by
  intro definition
  have ready : (connected definition).Ready "c" definition := ⟨tidy_made .., rfl⟩
  have valid : Sql.checkName "app" = .ok () := by decide
  exact ⟨ready, valid, drops_dropDatabase ready valid⟩

/-- On MySQL nothing does: the statement goes through a new pool on the database that it drops, and
this pool stays. -/
theorem dropDatabase_through_dropped :
    let definition : Definition := ⟨"c", .mySql, "h", none, none, none, some "shop", false, false,
      false, .standard⟩
    let (outcome, after) :=
      (dropDatabase (Script.backend ⟨.up, .granted, 1000⟩ 1) "c" "shop").on (connected definition)
    (connected definition).Ready "c" definition ∧ Sql.checkName "shop" = .ok () ∧ outcome = .ok () ∧
      ∃ pool : Pool, pool.key = ⟨"c", some "shop"⟩ ∧
        .batch pool (Sql.dropDatabase .mySql "shop") ∈ after.traffic ∧
        after.Holds ⟨"c", some "shop"⟩ pool := by
  refine ⟨⟨tidy_made .., rfl⟩, by decide, rfl, ⟨1, _, some "shop"⟩, rfl, ?sent, 1, ?held, rfl⟩
  case sent => exact List.mem_cons_self
  case held => exact List.mem_singleton_self _

end Gateway

end SqlGateway
