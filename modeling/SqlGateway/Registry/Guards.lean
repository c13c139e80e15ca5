import SqlGateway.Registry.Machine

/-!
# The guards of the registry

The definitions and the pools each have a guard, which many may hold to read or one may hold to
write. A cell has a permit, which the call takes that is to open the pool of the cell. Those who
wait for a guard or for a permit are served in the order in which they came.

A section of a call is one step of `Machine`. Here a call first asks for the guards of the section,
the definitions before the pools, waits for each of them, and gives them back when the section is
over. It reads the definitions before it knows whether it needs the pools. A request that has found
no cell gives back the pools, asks for them again to write, and holds the definitions all the while.
Inquiries only look at the registry; they are no calls of `Machine`, but they take part in the
waiting.
-/

namespace SqlGateway.Registry

inductive Guard where
  | definitions
  | pools
deriving DecidableEq

inductive Mode where
  | read
  | write
deriving DecidableEq

inductive Party where
  | call (number : Nat)
  | inquiry (number : Nat)
deriving DecidableEq

/-! ## Locks -/

/-- Those who hold a guard, and those who wait for it, the first first. -/
structure Lock where
  holders : List (Party × Mode)
  queue : List (Party × Mode)

namespace Lock

def free : Lock := ⟨[], []⟩

def admits (lock : Lock) : Mode → Bool
  | .read => lock.holders.all fun holder => holder.2 = .read
  | .write => lock.holders.isEmpty

def ask (lock : Lock) (party : Party) (mode : Mode) : Lock :=
  { lock with queue := lock.queue ++ [(party, mode)] }

def take (lock : Lock) (party : Party) : Option Lock :=
  match lock.queue with
  | [] => none
  | (first, mode) :: queue =>
    if first = party ∧ lock.admits mode then some ⟨(first, mode) :: lock.holders, queue⟩
    else none

def release (lock : Lock) (party : Party) : Lock :=
  { lock with holders := lock.holders.filter fun holder => holder.1 ≠ party }

end Lock

/-! ## Inquiries -/

inductive Inquiry where
  | definition (id : String)
  | list
  | poolCount

inductive Finding where
  | definition (result : Except Failure Definition)
  | list (summaries : List ConnectionSummary)
  | poolCount (count : Nat)

def Inquiry.find (registry : Registry) : Inquiry → Finding
  | .definition id => .definition (registry.definition id)
  | .list => .list registry.list
  | .poolCount => .poolCount registry.poolCount

structure Question where
  inquiry : Inquiry
  finding : Option Finding

/-! ## What a section needs -/

def Stage.definitionsMode (request : Request) : Stage → Option Mode
  | .entering =>
    match request with
    | .register _ | .update _ | .remove _ => some .write
    | .get _ database => if database = some "" then none else some .read
    | .removeAll _ | .evict .. | .closeAll => none
  | .reserving .. => some .read
  | .waiting .. | .opening .. | .checking .. | .discarding _ | .closing .. | .finished _ => none

/-- How the pools are held in the next section of a call. A call that finds no definition leaves
the pools alone. -/
def Stage.poolsMode (registry : Registry) (request : Request) : Stage → Option Mode
  | .entering =>
    match request with
    | .register _ => none
    | .update definition =>
      if (registry.definitions.find? definition.id).isSome then some .write else none
    | .remove id => if (registry.definitions.find? id).isSome then some .write else none
    | .get id database =>
      if database = some "" then none
      else if (registry.definitions.find? id).isSome then some .read
      else none
    | .removeAll _ | .evict .. | .closeAll => some .write
  | .reserving .. => some .write
  | .checking .. => some .read
  | .waiting .. | .opening .. | .discarding _ | .closing .. | .finished _ => none

namespace Question

def definitionsMode (question : Question) : Option Mode :=
  match question.finding, question.inquiry with
  | none, .definition _ | none, .list => some .read
  | none, .poolCount | some _, _ => none

def poolsMode (question : Question) : Option Mode :=
  match question.finding, question.inquiry with
  | none, .poolCount => some .read
  | none, .definition _ | none, .list | some _, _ => none

end Question

/-! ## States -/

/-- Where a party stands with the guards. While it has to do with the pools, `outer` says how it
holds the definitions; `done` says that its section is over. -/
inductive Phase where
  | outside
  | asksDefinitions (mode : Mode)
  | holdsDefinitions (mode : Mode) (done : Bool)
  | asksPools (outer : Option Mode) (mode : Mode)
  | holdsPools (outer : Option Mode) (mode : Mode) (done : Bool)
  /-- Waits for the permit of its cell. -/
  | asksPermit
  /-- Waits for the server side to close a pool. -/
  | closing
deriving DecidableEq

def assign (phases : Party → Phase) (party : Party) (phase : Phase) : Party → Phase :=
  fun other => if other = party then phase else phases other

structure Guarded where
  machine : Machine
  questions : List Question
  phases : Party → Phase
  locks : Guard → Lock
  /-- The calls that wait for the permits of cells, the first first. -/
  waiters : List (Nat × Nat)

namespace Guarded

def start : Guarded where
  machine := .idle .empty
  questions := []
  phases _ := .outside
  locks _ := .free
  waiters := []

def setPhase (state : Guarded) (party : Party) (phase : Phase) : Guarded :=
  { state with phases := assign state.phases party phase }

def setLock (state : Guarded) (guard : Guard) (lock : Lock) : Guarded :=
  { state with locks := fun other => if other = guard then lock else state.locks other }

def definitionsMode (state : Guarded) : Party → Option Mode
  | .call call => state.machine.calls[call]?.bind fun found =>
    found.stage.definitionsMode found.request
  | .inquiry number => state.questions[number]?.bind Question.definitionsMode

def poolsMode (state : Guarded) : Party → Option Mode
  | .call call => state.machine.calls[call]?.bind fun found =>
    found.stage.poolsMode state.machine.registry found.request
  | .inquiry number => state.questions[number]?.bind Question.poolsMode

/-! ## Steps -/

def ask (state : Guarded) (guard : Guard) (party : Party) (mode : Mode) : Guarded :=
  state.setLock guard ((state.locks guard).ask party mode)

def take (state : Guarded) (guard : Guard) (party : Party) : Option Guarded :=
  ((state.locks guard).take party).map (state.setLock guard)

def release (state : Guarded) (guard : Guard) (party : Party) : Guarded :=
  state.setLock guard ((state.locks guard).release party)

def perform (state : Guarded) : Party → Option Guarded
  | .call call => (state.machine.advance call).map fun machine => { state with machine }
  | .inquiry number =>
    some { state with
      questions := state.questions.modify number fun question =>
        { question with finding := some (question.inquiry.find state.machine.registry) } }

def isReserving (state : Guarded) : Party → Bool
  | .call call => (state.machine.stage? call).any Machine.readsDefinitions
  | .inquiry _ => false

/-- A call that needs no guard waits for the pool of its cell, closes a pool, or goes on. -/
def goOn (state : Guarded) (call : Nat) : Option Guarded :=
  match state.machine.stage? call with
  | some (.waiting _ _ cell) =>
    if (state.machine.registry.content cell).isSome then state.perform (.call call)
    else
      some ({ state with waiters := state.waiters ++ [(call, cell)] }.setPhase (.call call)
        .asksPermit)
  | some (.discarding cell) | some (.closing (cell :: _) _) =>
    if (state.machine.registry.content cell).isSome then
      some (state.setPhase (.call call) .closing)
    else state.perform (.call call)
  | _ => state.perform (.call call)

def approach (state : Guarded) (party : Party) : Option Guarded :=
  match state.definitionsMode party, state.poolsMode party with
  | some mode, _ =>
    some ((state.ask .definitions party mode).setPhase party (.asksDefinitions mode))
  | none, some mode => some ((state.ask .pools party mode).setPhase party (.asksPools none mode))
  | none, none =>
    match party with
    | .call call => state.goOn call
    | .inquiry _ => none

/-- A call that waits for a permit goes on when the pool is there, or when the permit is free and
nobody has waited longer. -/
def permit (state : Guarded) (call : Nat) : Option Guarded :=
  match state.machine.stage? call with
  | some (.waiting _ _ cell) =>
    if (state.machine.registry.content cell).isSome ∨
        state.waiters.find? (fun waiter => waiter.2 = cell) = some (call, cell) then
      (state.perform (.call call)).map fun next =>
        { next with waiters := next.waiters.filter fun waiter => waiter.1 ≠ call }.setPhase
          (.call call) .outside
    else none
  | _ => none

/-- The next step that a party takes by itself, if it has nobody to wait for. -/
def act (state : Guarded) (party : Party) : Option Guarded :=
  match state.phases party with
  | .outside => state.approach party
  | .asksDefinitions mode =>
    (state.take .definitions party).map fun next =>
      next.setPhase party (.holdsDefinitions mode false)
  | .holdsDefinitions mode false =>
    match state.poolsMode party with
    | some inner =>
      some ((state.ask .pools party inner).setPhase party (.asksPools (some mode) inner))
    | none =>
      (state.perform party).map fun next => next.setPhase party (.holdsDefinitions mode true)
  | .holdsDefinitions _ true => some ((state.release .definitions party).setPhase party .outside)
  | .asksPools outer mode =>
    (state.take .pools party).map fun next => next.setPhase party (.holdsPools outer mode false)
  | .holdsPools outer mode false =>
    (state.perform party).map fun next => next.setPhase party (.holdsPools outer mode true)
  | .holdsPools none _ true => some ((state.release .pools party).setPhase party .outside)
  | .holdsPools (some outer) _ true =>
    some ((state.release .pools party).setPhase party
      (.holdsDefinitions outer (!state.isReserving party)))
  | .asksPermit =>
    match party with
    | .call call => state.permit call
    | .inquiry _ => none
  | .closing => none

inductive Turn where
  | invoke (request : Request)
  | inquire (inquiry : Inquiry)
  | act (party : Party)
  /-- The server side has opened a pool, or refused to. -/
  | openEnds (call : Nat) (failure : Option Failure)
  /-- The server side has closed a pool, or failed to. -/
  | closeEnds (call : Nat) (succeeds : Bool)
  | reorder (places : List (PoolKey × Nat))

def step (state : Guarded) : Turn → Option Guarded
  | .invoke request =>
    (state.machine.step (.invoke request)).map fun machine => { state with machine }
  | .inquire inquiry => some { state with questions := state.questions ++ [⟨inquiry, none⟩] }
  | .act party => state.act party
  | .openEnds call failure =>
    (state.machine.openEnds call failure).map fun machine => { state with machine }
  | .closeEnds call succeeds =>
    if state.phases (.call call) = .closing then
      (state.machine.close call succeeds).map fun machine =>
        { state with machine }.setPhase (.call call) .outside
    else none
  | .reorder places => (state.machine.reorder places).map fun machine => { state with machine }

def run (state : Guarded) (turns : List Turn) : Option Guarded := turns.foldlM step state

/-- The states that the registry can come to from the empty one. -/
inductive Reachable : Guarded → Prop where
  | start : Reachable start
  | step {before after : Guarded} (turn : Turn) (reachable : Reachable before)
      (steps : before.step turn = some after) : Reachable after

/-- Whether a party has not come to its end: it has not finished, or has not given back what it
holds. -/
def isRunning (state : Guarded) (party : Party) : Bool :=
  state.phases party ≠ .outside ||
    match party with
    | .call call => state.machine.isRunning call
    | .inquiry number => state.questions[number]?.any fun question => question.finding.isNone

def awaitsServer (state : Guarded) (call : Nat) : Bool :=
  state.phases (.call call) = .closing ||
    (state.machine.stage? call).any Stage.isOpening

end Guarded

end SqlGateway.Registry
