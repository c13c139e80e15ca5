import SqlGateway.Catalog.Listing
import SqlGateway.Server.Pools

/-!
# Browsing a server

What is under a node is planned from the id alone; only then is a pool asked for, and only if a
server has to answer. Columns are listed for tables and views and for nothing else.
-/

namespace SqlGateway

def Node.Path.tableOf (node : String) (path : Node.Path) : Except Failure String :=
  match path.object, path.column with
  | some (.table name), none | some (.view name), none => .ok name
  | _, _ => .error (.node node .notATable)

namespace Gateway

variable {σ : Type} (backend : Backend σ)

def list (connection : String) : Expansion → Gateway σ (List CatalogObject)
  | .databases => do listDatabases backend (← pool backend connection none)
  | .schemas database parent => do
    listSchemas backend (← pool backend connection database) parent
  | .folders parent => .lift (Expansion.folderNodes parent)
  | .objects database schema folder parent => do
    listObjects backend (← pool backend connection database) folder schema parent
  | .leaf => .lift (.ok [])

def expand (connection : String) (parent : Option String) : Gateway σ (List CatalogObject) := do
  let definition ← .ask fun registry => registry.definition connection
  let expansion ← .lift (Expansion.plan definition parent)
  list backend connection expansion

def columns (connection node : String) : Gateway σ (List CatalogObject) := do
  let definition ← .ask fun registry => registry.definition connection
  let path ← .lift (Node.Path.ofId node definition.engine.defaultSchema)
  let table ← .lift (path.tableOf node)
  let id ← .lift (Node.Id.ofText node)
  listColumns backend (← pool backend connection path.database) path.schema table id

/-- The foreign keys of a database. On MySQL a database that is asked for is the schema, unless one
is asked for itself. -/
def relationships (connection : String) (database schema : Option String) :
    Gateway σ (List Relationship) := do
  let pool ← pool backend connection database
  listRelationships backend pool
    (if pool.engine.hasDatabaseLevel then schema else schema <|> database)

def metrics (connection : String) (database : Option String) : Gateway σ DatabaseMetrics := do
  measure backend (← pool backend connection database)

end Gateway

end SqlGateway
