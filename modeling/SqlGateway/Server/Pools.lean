import SqlGateway.Server.Backend

/-!
# Calls of the registry one after another

When no two calls overlap, a call runs through its sections at once: no cell is busy when it comes,
and none is lost while it opens a pool.
-/

namespace SqlGateway.Gateway

variable {σ : Type} (backend : Backend σ)

/-- Closes the pools in cells; how many closed without trouble. -/
def closeCells : List Nat → Session σ → Nat × Session σ
  | [], session => (0, session)
  | cell :: rest, session =>
    match session.registry.content cell with
    | none => closeCells rest session
    | some pool =>
      let (closes, servers) := backend.close pool session.servers
      let (closed, session) := closeCells rest ({ session with servers }.log (.closing pool))
      (if closes then closed + 1 else closed, session)

def register (definition : Definition) : Gateway σ Unit := .ofSession fun session =>
  match session.registry.register definition with
  | .error failure => (.error failure, session)
  | .ok registry => (.ok (), { session with registry })

def update (definition : Definition) : Gateway σ Unit := .ofSession fun session =>
  match session.registry.replace definition with
  | .error failure => (.error failure, session)
  | .ok (cells, registry) => (.ok (), (closeCells backend cells { session with registry }).2)

def remove (id : String) : Gateway σ Unit := .ofSession fun session =>
  match session.registry.forget id with
  | .error failure => (.error failure, session)
  | .ok (cells, registry) => (.ok (), (closeCells backend cells { session with registry }).2)

def fillCell (definition : Definition) (key : PoolKey) (cell : Nat) : Gateway σ Pool :=
  .ofSession fun session =>
    let (outcome, servers) := backend.connect definition key.database session.servers
    let session := { session with servers }.log (.connecting definition key)
    match outcome with
    | .error failure => (.error failure, session)
    | .ok () =>
      let (pool, registry) := session.registry.fill cell definition key.database
      (.ok pool, { session with registry })

def pool (id : String) (database : Option String) : Gateway σ Pool := .ofSession fun session =>
  if database = some "" then (.error (.input .emptyDatabase), session)
  else
    match session.registry.lookUp id database with
    | .error failure => (.error failure, session)
    | .ok (definition, key, cell, registry) =>
      match registry.content cell with
      | some pool => (.ok pool, { session with registry })
      | none => (fillCell backend definition key cell).on { session with registry }

def removeAll (id : String) : Gateway σ Nat := .ofSession fun session =>
  let (cells, registry) := session.registry.drain id
  let (closed, session) := closeCells backend cells { session with registry }
  (.ok closed, session)

/-- Closes one pool, and whether there was one that closed without trouble. -/
def evict (id : String) (database : Option String) : Gateway σ Bool := .ofSession fun session =>
  let (cells, registry) := session.registry.takeKey ⟨id, database⟩
  let (closed, session) := closeCells backend cells { session with registry }
  (.ok (0 < closed), session)

def closeAll : Gateway σ Nat := .ofSession fun session =>
  let (cells, registry) := session.registry.takeAll
  let (closed, session) := closeCells backend cells { session with registry }
  (.ok closed, session)

end SqlGateway.Gateway
