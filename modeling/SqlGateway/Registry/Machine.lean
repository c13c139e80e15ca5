import SqlGateway.Registry.Basic

/-!
# Concurrent calls of the registry

Any number of calls run at once. A call goes from stage to stage, and each action moves one call by
one section: a section of the registry, the start or the end of opening a pool, or the closing of a
pool. Which call moves, whether a pool can be opened and whether one can be closed is left open.
`Reachable` is the set of states that any such course can lead to.

A request of a pool looks up its cell and waits for it. The first call that finds the cell empty
and not busy opens a pool for it. When the pool is there, the call checks that the cell is still in
the registry; if it is not, the call that opened the pool closes it, and the request starts again.

Two things are guarded, the definitions and the cells. A section that changes definitions also takes
cells, once, so nobody can see the one change without the other and it is one action. A request that
finds no cell for its key makes one in a second section: it lets go of the cells in between and goes
on reading the definitions, so that nobody may change definitions until then.
-/

namespace SqlGateway.Registry

inductive Request where
  | register (definition : Definition)
  | update (definition : Definition)
  | remove (id : String)
  | get (id : String) (database : Option String)
  | removeAll (id : String)
  | evict (id : String) (database : Option String)
  | closeAll
deriving DecidableEq

inductive Answer where
  | done
  | pool (pool : Pool)
  | closed (count : Nat)
  | evicted (closed : Bool)
  | failed (failure : Failure)
deriving DecidableEq

/-- How far a call has come. -/
inductive Stage where
  | entering
  /-- Found no cell and is to make one; goes on reading the definitions. -/
  | reserving (definition : Definition) (key : PoolKey)
  /-- Waits for a cell that was looked up with a definition. -/
  | waiting (definition : Definition) (key : PoolKey) (cell : Nat)
  /-- Opens a pool for a cell. -/
  | opening (definition : Definition) (key : PoolKey) (cell : Nat)
  /-- Has a pool and is to check its cell; `created` says whether this call opened it. -/
  | checking (key : PoolKey) (cell : Nat) (pool : Pool) (created : Bool)
  /-- Is to close the pool of a cell that was lost, and to start again. -/
  | discarding (cell : Nat)
  /-- Is to close the pools of cells that were taken. -/
  | closing (cells : List Nat) (closed : Nat)
  | finished (answer : Answer)
deriving DecidableEq

namespace Stage

def isOpening : Stage → Bool
  | .opening .. => true
  | .entering | .reserving .. | .waiting .. | .checking .. | .discarding _ | .closing ..
  | .finished _ => false

def isFinished : Stage → Bool
  | .finished _ => true
  | .entering | .reserving .. | .waiting .. | .opening .. | .checking .. | .discarding _
  | .closing .. => false

/-- How many actions a call has left at most, if its cell is not taken any more. A cell that it is
to make counts as one. -/
def rank (registry : Registry) : Stage → Nat
  | .finished _ => 0
  | .checking _ cell _ _ => if registry.isPlaced cell then 1 else 8
  | .opening _ _ cell => if registry.isPlaced cell then 2 else 9
  | .waiting _ _ cell => if registry.isPlaced cell then 3 else 10
  | .reserving .. => 5
  | .entering => 6
  | .discarding _ => 7
  | .closing cells _ => cells.length + 1

end Stage

structure Call where
  request : Request
  stage : Stage
deriving DecidableEq

/-- What the registry asks of the server side, in order. -/
inductive Event where
  | opening (definition : Definition) (key : PoolKey)
  | opened (pool : Pool)
  | refused (failure : Failure)
  | closing (pool : Pool)
deriving DecidableEq

structure Machine where
  registry : Registry
  calls : List Call
  /-- The events so far, the latest first. -/
  events : List Event

namespace Machine

def idle (registry : Registry) : Machine := ⟨registry, [], []⟩

def stage? (machine : Machine) (call : Nat) : Option Stage :=
  machine.calls[call]?.map Call.stage

def isRunning (machine : Machine) (call : Nat) : Bool :=
  (machine.stage? call).any fun stage => !stage.isFinished

def changesDefinitions : Request → Bool
  | .register _ | .update _ | .remove _ => true
  | .get .. | .removeAll _ | .evict .. | .closeAll => false

/-- Whether a call reads the definitions beyond its section. -/
def readsDefinitions : Stage → Bool
  | .reserving .. => true
  | _ => false

/-- Whether some call reads the definitions, so that nobody may change them. -/
def isRead (machine : Machine) : Bool :=
  machine.calls.any fun call => readsDefinitions call.stage

def setStage (machine : Machine) (call : Nat) (stage : Stage) : Machine :=
  { machine with calls := machine.calls.modify call fun call => { call with stage } }

def log (machine : Machine) (event : Event) : Machine :=
  { machine with events := event :: machine.events }

def closedAnswer (request : Request) (closed : Nat) : Answer :=
  match request with
  | .removeAll _ | .closeAll => .closed closed
  | .evict .. => .evicted (0 < closed)
  | .register _ | .update _ | .remove _ | .get .. => .done

/-- The registry and the stage of a call after its first section. -/
def enter (registry : Registry) : Request → Registry × Stage
  | .register definition =>
    match registry.register definition with
    | .error failure => (registry, .finished (.failed failure))
    | .ok registry => (registry, .finished .done)
  | .update definition =>
    match registry.replace definition with
    | .error failure => (registry, .finished (.failed failure))
    | .ok (cells, registry) => (registry, .closing cells 0)
  | .remove id =>
    match registry.forget id with
    | .error failure => (registry, .finished (.failed failure))
    | .ok (cells, registry) => (registry, .closing cells 0)
  | .get id database =>
    if database = some "" then (registry, .finished (.failed (.input .emptyDatabase)))
    else
      match registry.definition id with
      | .error failure => (registry, .finished (.failed failure))
      | .ok definition =>
        let key : PoolKey := ⟨id, definition.effectiveDatabase database⟩
        match registry.place? key with
        | some cell => (registry, .waiting definition key cell)
        | none => (registry, .reserving definition key)
  | .removeAll id =>
    let (cells, registry) := registry.drain id
    (registry, .closing cells 0)
  | .evict id database =>
    let (cells, registry) := registry.takeKey ⟨id, database⟩
    (registry, .closing cells 0)
  | .closeAll =>
    let (cells, registry) := registry.takeAll
    (registry, .closing cells 0)

inductive Action where
  /-- A new call. -/
  | invoke (request : Request)
  /-- The next section of a call, or the start of opening a pool. -/
  | advance (call : Nat)
  /-- The end of opening a pool, with the failure if there is one. -/
  | openEnds (call : Nat) (failure : Option Failure)
  /-- The closing of the next pool of a call, and whether it succeeds. -/
  | close (call : Nat) (succeeds : Bool)
  /-- The places change their order: they are taken in no order that anyone may rely on. -/
  | reorder (places : List (PoolKey × Nat))

def advance (machine : Machine) (call : Nat) : Option Machine :=
  match machine.calls[call]? with
  | none => none
  | some ⟨request, stage⟩ =>
    match stage with
    | .entering =>
      if changesDefinitions request && machine.isRead then none
      else
        let (registry, stage) := enter machine.registry request
        some ({ machine with registry }.setStage call stage)
    | .reserving definition key =>
      let (cell, registry) := machine.registry.reserve key
      some ({ machine with registry }.setStage call (.waiting definition key cell))
    | .waiting definition key cell =>
      match machine.registry.content cell with
      | some pool => some (machine.setStage call (.checking key cell pool false))
      | none =>
        if machine.registry.isBusy cell then none
        else
          some (({ machine with registry := machine.registry.setBusy cell true }.setStage call
            (.opening definition key cell)).log (.opening definition key))
    | .checking key cell pool created =>
      if machine.registry.isCurrent key cell then
        some (machine.setStage call (.finished (.pool pool)))
      else if created then some (machine.setStage call (.discarding cell))
      else some (machine.setStage call .entering)
    | .discarding cell =>
      match machine.registry.content cell with
      | some _ => none
      | none => some (machine.setStage call .entering)
    | .closing [] closed =>
      some (machine.setStage call (.finished (closedAnswer request closed)))
    | .closing (cell :: cells) closed =>
      match machine.registry.content cell with
      | some _ => none
      | none => some (machine.setStage call (.closing cells closed))
    | .opening .. | .finished _ => none

def openEnds (machine : Machine) (call : Nat) (failure : Option Failure) : Option Machine :=
  match machine.stage? call with
  | some (.opening definition key cell) =>
    match failure with
    | none =>
      let (pool, registry) := machine.registry.fill cell definition key.database
      some (({ machine with registry }.setStage call (.checking key cell pool true)).log
        (.opened pool))
    | some failure =>
      some (({ machine with registry := machine.registry.setBusy cell false }.setStage call
        (.finished (.failed failure))).log (.refused failure))
  | _ => none

def close (machine : Machine) (call : Nat) (succeeds : Bool) : Option Machine :=
  match machine.stage? call with
  | some (.closing (cell :: cells) closed) =>
    (machine.registry.content cell).map fun pool =>
      (machine.setStage call (.closing cells (if succeeds then closed + 1 else closed))).log
        (.closing pool)
  | some (.discarding cell) =>
    (machine.registry.content cell).map fun pool =>
      (machine.setStage call .entering).log (.closing pool)
  | _ => none

def reorder (machine : Machine) (places : List (PoolKey × Nat)) : Option Machine :=
  if places.isPerm machine.registry.places then
    some { machine with registry := { machine.registry with places } }
  else none

def step (machine : Machine) : Action → Option Machine
  | .invoke request => some { machine with calls := machine.calls ++ [⟨request, .entering⟩] }
  | .advance call => machine.advance call
  | .openEnds call failure => machine.openEnds call failure
  | .close call succeeds => machine.close call succeeds
  | .reorder places => machine.reorder places

def run (machine : Machine) (actions : List Action) : Option Machine :=
  actions.foldlM step machine

/-- The states that a registry can come to from the empty one. -/
inductive Reachable : Machine → Prop where
  | start : Reachable (idle .empty)
  | step {before after : Machine} (action : Action) (reachable : Reachable before)
      (steps : before.step action = some after) : Reachable after

end Machine

end SqlGateway.Registry
