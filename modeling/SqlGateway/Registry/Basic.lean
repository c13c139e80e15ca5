import SqlGateway.Connection.Definition
import SqlGateway.Failure

/-!
# The registry of connections and pools

A registry keeps the definitions of connections, and for each pair of a connection and a database a
cell that holds the pool once it is open. Cells are numbered and never used twice: a cell that has
been taken out of the registry stays what it is for those who still hold its number, and a later
request gets a new cell.

Each function of this module is one section that runs without interruption.
-/

namespace SqlGateway

/-- The name of a pool: a connection, and the database that it selects, if any. -/
structure PoolKey where
  connection : String
  database : Option String
deriving DecidableEq, Repr

def PoolKey.text (key : PoolKey) : String :=
  key.connection ++ "/" ++ key.database.getD "<server>"

/-- An open pool: what it was opened with, and the number of pools opened before it. -/
structure Pool where
  serial : Nat
  definition : Definition
  database : Option String
deriving DecidableEq

namespace Pool

def engine (pool : Pool) : Engine := pool.definition.engine

def key (pool : Pool) : PoolKey := ⟨pool.definition.id, pool.database⟩

end Pool

/-- The place of one pool. While a request opens the pool, the cell is busy. -/
structure Cell where
  content : Option Pool
  busy : Bool
deriving DecidableEq

structure Registry where
  definitions : Entries Definition
  /-- The number of the cell of each key. -/
  places : List (PoolKey × Nat)
  cells : List Cell
  /-- How many pools have been opened. -/
  opened : Nat

namespace Registry

def empty : Registry := ⟨.empty, [], [], 0⟩

instance : Inhabited Registry := ⟨empty⟩

/-! ## Definitions -/

def definition (registry : Registry) (id : String) : Except Failure Definition :=
  match registry.definitions.find? id with
  | some definition => .ok definition
  | none => .error (.connectionNotFound id)

def register (registry : Registry) (definition : Definition) : Except Failure Registry :=
  match registry.definitions.find? definition.id with
  | some _ => .error (.input (.connectionExists definition.id))
  | none =>
    .ok { registry with
      definitions := registry.definitions.insert definition.id definition }

def list (registry : Registry) : List ConnectionSummary :=
  ((registry.definitions.toList.map Prod.snd).mergeSort fun left right =>
    decide (left.id ≤ right.id)).map ConnectionSummary.ofDefinition

/-! ## Cells -/

def place? (registry : Registry) (key : PoolKey) : Option Nat :=
  (registry.places.find? fun place => place.1 = key).map Prod.snd

def content (registry : Registry) (cell : Nat) : Option Pool :=
  registry.cells[cell]?.bind Cell.content

def isBusy (registry : Registry) (cell : Nat) : Bool :=
  (registry.cells[cell]?.map Cell.busy).getD false

/-- The cell of a key, new if there is none. -/
def reserve (registry : Registry) (key : PoolKey) : Nat × Registry :=
  match registry.place? key with
  | some cell => (cell, registry)
  | none =>
    (registry.cells.length, { registry with
      places := registry.places ++ [(key, registry.cells.length)]
      cells := registry.cells ++ [⟨none, false⟩] })

def lookUp (registry : Registry) (id : String) (database : Option String) :
    Except Failure (Definition × PoolKey × Nat × Registry) :=
  match registry.definitions.find? id with
  | none => .error (.connectionNotFound id)
  | some definition =>
    let key : PoolKey := ⟨id, definition.effectiveDatabase database⟩
    let (cell, registry) := registry.reserve key
    .ok (definition, key, cell, registry)

def setBusy (registry : Registry) (cell : Nat) (busy : Bool) : Registry :=
  { registry with cells := registry.cells.modify cell fun content => { content with busy } }

def fill (registry : Registry) (cell : Nat) (definition : Definition)
    (database : Option String) : Pool × Registry :=
  let pool : Pool := ⟨registry.opened, definition, database⟩
  (pool, { registry with
    cells := registry.cells.modify cell fun _ => ⟨some pool, false⟩
    opened := registry.opened + 1 })

/-- Whether a cell is still the one of its key. -/
def isCurrent (registry : Registry) (key : PoolKey) (cell : Nat) : Bool :=
  registry.place? key = some cell

def isPlaced (registry : Registry) (cell : Nat) : Bool :=
  cell ∈ registry.places.map Prod.snd

/-- Takes the cells of all keys with a property out of the registry. -/
def takeWhere (registry : Registry) (taken : PoolKey → Bool) : List Nat × Registry :=
  ((registry.places.filter fun place => taken place.1).map Prod.snd,
    { registry with places := registry.places.filter fun place => !taken place.1 })

def drain (registry : Registry) (id : String) : List Nat × Registry :=
  registry.takeWhere fun key => key.connection = id

def takeKey (registry : Registry) (key : PoolKey) : List Nat × Registry :=
  registry.takeWhere fun other => other = key

def takeAll (registry : Registry) : List Nat × Registry := registry.takeWhere fun _ => true

def poolCount (registry : Registry) : Nat :=
  (registry.places.filter fun place => (registry.content place.2).isSome).length

/-! ## Sections that change definitions -/

def replace (registry : Registry) (definition : Definition) :
    Except Failure (List Nat × Registry) :=
  match registry.definitions.find? definition.id with
  | none => .error (.connectionNotFound definition.id)
  | some _ =>
    let (cells, registry) := registry.drain definition.id
    .ok (cells, { registry with
      definitions := registry.definitions.insert definition.id definition })

def forget (registry : Registry) (id : String) : Except Failure (List Nat × Registry) :=
  match registry.definitions.find? id with
  | none => .error (.connectionNotFound id)
  | some _ =>
    let (cells, registry) := registry.drain id
    .ok (cells, { registry with definitions := registry.definitions.erase id })

end Registry

end SqlGateway
