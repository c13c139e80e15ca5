import SqlGateway.Registry.Machine

/-!
# Rehearsing calls against a gate

A rehearsal runs the calls of a registry in turn: each call runs until it has to wait, and those
that can go on again go on in the order in which they were woken. Opening a pool waits at a gate
while the gate is in use; each permit lets one opening pass, first come first served. How many
openings of a key fail, and which pools fail to close, is given beforehand. A program that tries the
registry out drives it so.

A rehearsal only makes moves of the `Machine`. The moves that a call is allowed in its turn and the
turns of a settlement are counted by the effort that is left, which each move lowers.
-/

namespace SqlGateway.Registry

/-! ## What is left to do -/

def Call.mayTake (call : Call) : Bool :=
  match call.request, call.stage with
  | .get .., _ | _, .closing .. | _, .finished _ => false
  | _, _ => true

/-- How many actions a call has left at most. A call that takes cells sets each of the others back
by up to seven. -/
def Call.effort (registry : Registry) (calls : Nat) (call : Call) : Nat :=
  call.stage.rank registry + if call.mayTake then 7 * calls else 0

/-- How many actions all calls have left at most. Every place costs the closing of its pool. -/
def Machine.effort (machine : Machine) : Nat :=
  machine.calls.foldr
    (fun call others => call.effort machine.registry machine.calls.length + others)
    machine.registry.places.length

/-! ## Turns -/

structure Rehearsal where
  machine : Machine
  /-- How many more openings fail, by the text of the key. -/
  failing : List (String × Nat)
  /-- The labels of the pools that fail to close. -/
  stuck : List String
  gated : Bool
  permits : Nat
  /-- The calls that wait at the gate, the first first. -/
  atGate : List Nat
  /-- The calls that may pass the gate: it was open when they came, or they were let through. -/
  admitted : List Nat
  /-- The calls that wait for a cell, in order, with the cell. -/
  atCell : List (Nat × Nat)
  /-- The calls that can go on, the next first. -/
  ready : List Nat

namespace Rehearsal

def start (failing : List (String × Nat)) (stuck : List String) : Rehearsal where
  machine := .idle .empty
  failing
  stuck
  gated := false
  permits := 0
  atGate := []
  admitted := []
  atCell := []
  ready := []

/-- The name that a pool goes by. The pools of SQL Server are not told apart. -/
def label (pool : Pool) : String :=
  match pool.engine with
  | .sqlServer => "<mssql>"
  | .postgres | .mySql => pool.key.text

def waitersOf (rehearsal : Rehearsal) (cell : Nat) : List Nat :=
  (rehearsal.atCell.filter fun waiting => waiting.2 = cell).map Prod.fst

/-- Whether a call may open the pool of a cell that is neither filled nor busy: nobody came
before it. -/
def isFirst (rehearsal : Rehearsal) (call cell : Nat) : Bool :=
  match rehearsal.waitersOf cell with
  | [] => true
  | first :: _ => first = call

def leaveCell (rehearsal : Rehearsal) (call : Nat) : Rehearsal :=
  { rehearsal with atCell := rehearsal.atCell.filter fun waiting => waiting.1 ≠ call }

/-- The call comes to the gate: it passes if the gate is not in use or a permit is left. -/
def comeToGate (rehearsal : Rehearsal) (call : Nat) : Rehearsal :=
  if !rehearsal.gated then { rehearsal with admitted := call :: rehearsal.admitted }
  else if 0 < rehearsal.permits then
    { rehearsal with
      permits := rehearsal.permits - 1
      admitted := call :: rehearsal.admitted }
  else { rehearsal with atGate := rehearsal.atGate ++ [call] }

def refusal (key : PoolKey) : Failure := .connection ("cannot connect " ++ key.text) "try again"

def takeFailure (key : String) : List (String × Nat) → Bool × List (String × Nat)
  | [] => (false, [])
  | (name, count) :: rest =>
    if name = key then (0 < count, (name, count - 1) :: rest)
    else
      let (fails, rest) := takeFailure key rest
      (fails, (name, count) :: rest)

/-- The next move of a call and what it changes around the machine, unless the call has to wait or
is at its end. A call that has to wait is entered where it waits. -/
def move (rehearsal : Rehearsal) (call : Nat) : Option Machine.Action × Rehearsal :=
  match rehearsal.machine.stage? call with
  | none | some (.finished _) => (none, rehearsal)
  | some .entering | some (.reserving ..) | some (.checking ..) =>
    (some (.advance call), rehearsal)
  | some (.waiting _ _ cell) =>
    if (rehearsal.machine.registry.content cell).isSome then
      (some (.advance call), rehearsal.leaveCell call)
    else if !rehearsal.machine.registry.isBusy cell && rehearsal.isFirst call cell then
      (some (.advance call), (rehearsal.leaveCell call).comeToGate call)
    else if rehearsal.atCell.any fun waiting => waiting.1 = call then (none, rehearsal)
    else (none, { rehearsal with atCell := rehearsal.atCell ++ [(call, cell)] })
  | some (.opening _ key cell) =>
    if rehearsal.admitted.contains call then
      let rehearsal := { rehearsal with admitted := rehearsal.admitted.filter (· ≠ call) }
      let (fails, failing) := takeFailure key.text rehearsal.failing
      let rehearsal := { rehearsal with failing }
      if fails then
        (some (.openEnds call (some (refusal key))),
          { rehearsal with ready := rehearsal.ready ++ (rehearsal.waitersOf cell).take 1 })
      else
        (some (.openEnds call none),
          { rehearsal with ready := rehearsal.ready ++ rehearsal.waitersOf cell })
    else (none, rehearsal)
  | some (.discarding cell) | some (.closing (cell :: _) _) =>
    match rehearsal.machine.registry.content cell with
    | some pool => (some (.close call !(rehearsal.stuck.contains (label pool))), rehearsal)
    | none => (some (.advance call), rehearsal)
  | some (.closing [] _) => (some (.advance call), rehearsal)

def runCall (call : Nat) : Nat → Rehearsal → Rehearsal
  | 0, rehearsal => rehearsal
  | fuel + 1, rehearsal =>
    match rehearsal.move call with
    | (none, waiting) => waiting
    | (some action, moved) =>
      match moved.machine.step action with
      | none => rehearsal
      | some machine => runCall call fuel { moved with machine }

def settle : Nat → Rehearsal → Rehearsal
  | 0, rehearsal => rehearsal
  | fuel + 1, rehearsal =>
    match rehearsal.ready with
    | [] => rehearsal
    | call :: ready =>
      settle fuel (runCall call rehearsal.machine.effort { rehearsal with ready })

/-- How many turns are left at most: those of the calls that can go on, and after each move those of
all calls. -/
def turns (rehearsal : Rehearsal) : Nat :=
  rehearsal.ready.length + rehearsal.machine.calls.length * rehearsal.machine.effort

/-- Lets all calls run as far as they can. -/
def quiesce (rehearsal : Rehearsal) : Rehearsal := settle rehearsal.turns rehearsal

def invoke (rehearsal : Rehearsal) (request : Request) : Nat × Rehearsal :=
  let call := rehearsal.machine.calls.length
  match rehearsal.machine.step (.invoke request) with
  | none => (call, rehearsal)
  | some machine =>
    (call, quiesce { rehearsal with machine, ready := rehearsal.ready ++ [call] })

def answer? (rehearsal : Rehearsal) (call : Nat) : Option Answer :=
  match rehearsal.machine.stage? call with
  | some (.finished answer) => some answer
  | _ => none

def setGate (rehearsal : Rehearsal) (gated : Bool) : Rehearsal := { rehearsal with gated }

/-- Gives permits to the calls at the gate and keeps those that are left. -/
def release (rehearsal : Rehearsal) (count : Nat) : Rehearsal :=
  let permits := rehearsal.permits + count
  let through := rehearsal.atGate.take permits
  quiesce { rehearsal with
    permits := permits - through.length
    atGate := rehearsal.atGate.drop permits
    admitted := rehearsal.admitted ++ through
    ready := rehearsal.ready ++ through }

def since (rehearsal earlier : Rehearsal) : List Event :=
  (rehearsal.machine.events.take
    (rehearsal.machine.events.length - earlier.machine.events.length)).reverse

end Rehearsal

end SqlGateway.Registry
