import SqlGateway.Connection.Definition
import SqlGateway.Registry.Guards

/-!
# The server side of the registry

A connector says what comes of opening and of closing a pool. With a connector, a course depends on
nothing but what is asked of the registry and on who goes on when. A `Cue` says that much;
`Connector.turn?` adds the answer of the server side.
-/

namespace SqlGateway.Registry

/-- What comes of opening and of closing pools, given the events so far, the latest first. -/
structure Connector where
  connect : List Event → Definition → Option String → Except Failure Unit
  /-- False if closing the pool fails. -/
  close : List Event → Pool → Bool

/-- One step of a course, without what the server side answers. -/
inductive Cue where
  | invoke (request : Request)
  | inquire (inquiry : Inquiry)
  | act (party : Party)
  /-- The server side comes to the end of opening a pool. -/
  | openEnds (call : Nat)
  /-- The server side comes to the end of closing a pool. -/
  | closeEnds (call : Nat)
  | reorder (places : List (PoolKey × Nat))

def Machine.nextClosing? (machine : Machine) (call : Nat) : Option Pool :=
  match machine.stage? call with
  | some (.discarding cell) | some (.closing (cell :: _) _) => machine.registry.content cell
  | _ => none

namespace Connector

/-- The connector of a driver that has some seconds to open a pool. Its pools always close. -/
def ofDriver (seconds : Nat) (attempt : List Event → Definition → Option String → Attempt) :
    Connector where
  connect events definition database :=
    (attempt events definition database).outcome seconds definition
  close _ _ := true

variable (connector : Connector)

def failure? (events : List Event) (definition : Definition) (key : PoolKey) : Option Failure :=
  match connector.connect events definition key.database with
  | .error failure => some failure
  | .ok () => none

def turn? (state : Guarded) : Cue → Option Guarded.Turn
  | .invoke request => some (.invoke request)
  | .inquire inquiry => some (.inquire inquiry)
  | .act party => some (.act party)
  | .openEnds call =>
    match state.machine.stage? call with
    | some (.opening definition key _) =>
      some (.openEnds call (connector.failure? state.machine.events definition key))
    | _ => none
  | .closeEnds call =>
    (state.machine.nextClosing? call).map fun pool =>
      .closeEnds call (connector.close state.machine.events pool)
  | .reorder places => some (.reorder places)

def step (state : Guarded) (cue : Cue) : Option Guarded :=
  (connector.turn? state cue).bind state.step

def run (cues : List Cue) : Option Guarded := cues.foldlM connector.step Guarded.start

end Connector

end SqlGateway.Registry
