import SqlGateway.Parameter
import SqlGateway.Query.Batch
import SqlGateway.Registry.Basic

/-!
# The server side

A `Backend` answers what the gateway asks of servers: to open and close pools, to run a batch or a
statement with bound parameters, and to describe the columns of a statement. Its state may change
with every answer, so it can stand for real servers as well as for scripted ones.
-/

namespace SqlGateway

inductive Ending where
  | complete
  | failed (failure : Failure)
  /-- Nothing more comes. -/
  | silent
deriving DecidableEq, Repr

structure Reply where
  items : List BatchItem
  ending : Ending
deriving DecidableEq, Repr

structure Backend (σ : Type) where
  /-- Opens a pool on a database. -/
  connect : Definition → Option String → σ → Except Failure Unit × σ
  /-- Closes a pool; false if that fails. -/
  close : Pool → σ → Bool × σ
  /-- Runs a batch as plain text. -/
  batch : Pool → String → σ → Reply × σ
  /-- Runs one statement with parameters. -/
  execute : Pool → String → List Parameter → σ → Reply × σ
  /-- The names of the columns that a text would return, if it can be told. -/
  describe : Pool → String → σ → Option (List String) × σ
  /-- How many seconds a batch or an update may take. -/
  querySeconds : Nat

/-- Servers that refuse every pool, so that nothing else is ever asked of them. -/
def Backend.offline (refusal : PoolKey → Failure) : Backend Unit where
  connect := fun definition database _ => (.error (refusal ⟨definition.id, database⟩), ())
  close := fun _ _ => (true, ())
  batch := fun _ _ _ => (⟨[], .silent⟩, ())
  execute := fun _ _ _ _ => (⟨[], .silent⟩, ())
  describe := fun _ _ _ => (none, ())
  querySeconds := 0

inductive Traffic where
  | connecting (definition : Definition) (key : PoolKey)
  | closing (pool : Pool)
  | batch (pool : Pool) (sql : String)
  | statement (pool : Pool) (sql : String) (parameters : List Parameter)
deriving DecidableEq

/-- The registry, the servers, and what passed so far, the latest first. -/
structure Session (σ : Type) where
  registry : Registry
  servers : σ
  traffic : List Traffic

namespace Session

def start {σ : Type} (servers : σ) : Session σ := ⟨.empty, servers, []⟩

def log {σ : Type} (session : Session σ) (traffic : Traffic) : Session σ :=
  { session with traffic := traffic :: session.traffic }

end Session

/-- An operation of the gateway: it fails or gives a result, and changes the session. -/
abbrev Gateway (σ : Type) := ExceptT Failure (StateM (Session σ))

namespace Gateway

variable {σ : Type}

def ofSession {α : Type} (operation : Session σ → Except Failure α × Session σ) : Gateway σ α :=
  ExceptT.mk operation

def on {α : Type} (operation : Gateway σ α) (session : Session σ) : Except Failure α × Session σ :=
  operation.run session

def lift {α : Type} (result : Except Failure α) : Gateway σ α := ofSession fun session =>
  (result, session)

def ask {α : Type} (question : Registry → Except Failure α) : Gateway σ α :=
  ofSession fun session => (question session.registry, session)

section Steps

variable {α β : Type}

theorem on_ofSession (operation : Session σ → Except Failure α × Session σ)
    (session : Session σ) : (ofSession operation).on session = operation session :=
  rfl

theorem on_lift (result : Except Failure α) (session : Session σ) :
    (lift result).on session = (result, session) :=
  rfl

theorem on_bind (first : Gateway σ α) (rest : α → Gateway σ β) (session : Session σ) :
    (first >>= rest).on session =
      match first.on session with
      | (.ok value, after) => (rest value).on after
      | (.error failure, after) => (.error failure, after) := by
  change (match first.on session with
    | (outcome, after) => (ExceptT.bindCont rest outcome).run after) = _
  rcases first.on session with ⟨failure | value, after⟩
  · rfl
  · rfl

variable {first : Gateway σ α} {session after : Session σ}

theorem on_bind_of_ok {value : α} (rest : α → Gateway σ β)
    (ran : first.on session = (.ok value, after)) :
    (first >>= rest).on session = (rest value).on after := by
  rw [on_bind, ran]

theorem exists_of_on_bind {rest : α → Gateway σ β} {result : β} {done : Session σ}
    (ran : (first >>= rest).on session = (.ok result, done)) :
    ∃ value between, first.on session = (.ok value, between) ∧
      (rest value).on between = (.ok result, done) := by
  rw [on_bind] at ran
  split at ran
  · next value between found => exact ⟨value, between, found, ran⟩
  · cases ran

theorem on_bind_of_error {failure : Failure} (rest : α → Gateway σ β)
    (ran : first.on session = (.error failure, after)) :
    (first >>= rest).on session = (.error failure, after) := by
  rw [on_bind, ran]

end Steps

end Gateway

end SqlGateway
