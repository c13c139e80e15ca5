import SqlGateway.Catalog.Hierarchy
import SqlGateway.Catalog.Queries
import SqlGateway.Catalog.Read
import SqlGateway.Server.Statements

/-!
# Listing the catalog of a pool

Names from the catalog become nodes under the node that is expanded. A name that cannot stand in a
node id is left out, so that every node that is listed can be expanded.
-/

namespace SqlGateway

namespace CatalogObject

def ofNames (parent : Option Node.Id) (kind : ObjectKind) (segment : String → Node.Segment)
    (names : List String) : List CatalogObject :=
  names.filterMap fun name =>
    match Node.Id.under parent (segment name) with
    | .ok id => some (make id name kind ((parent.map Node.Id.text).getD Node.rootId))
    | .error _ => none

def ofColumns (table : Node.Id) (columns : List CatalogColumn) : List CatalogObject :=
  columns.filterMap fun found =>
    match table.child (.column found.name) with
    | .ok id =>
      some (column id found.name table.text
        (.make found.dataType found.nullable found.fallback found.keyConstraint))
    | .error _ => none

end CatalogObject

def Node.Folder.objectKind : Node.Folder → ObjectKind
  | .tables => .table
  | .views => .view
  | .functions => .function

def Node.Folder.segment : Node.Folder → String → Node.Segment
  | .tables => .table
  | .views => .view
  | .functions => .function

namespace Gateway

variable {σ : Type} (backend : Backend σ)

/-- The databases of a server. Those of MySQL are listed as schemas, since nothing lies between a
database and its tables. -/
def listDatabases (pool : Pool) : Gateway σ (List CatalogObject) := do
  let rows ← fetch backend pool pool.engine.queries.databases []
  let names ← .lift (CatalogRows.databaseNames pool.engine rows)
  if pool.engine.hasDatabaseLevel then
    return CatalogObject.ofNames none .database .database names
  else return CatalogObject.ofNames none .schema .schema names

def listSchemas (pool : Pool) (parent : Option Node.Id) : Gateway σ (List CatalogObject) :=
  match pool.engine.queries.schemas with
  | none => .lift (.ok [])
  | some query => do
    let rows ← fetch backend pool query []
    let names ← .lift (CatalogRows.names rows)
    return CatalogObject.ofNames parent .schema .schema names

def listObjects (pool : Pool) (folder : Node.Folder) (schema : Option String)
    (parent : Node.Id) : Gateway σ (List CatalogObject) := do
  let rows ← fetch backend pool (pool.engine.queries.objects folder)
    [pool.engine.schemaParameter schema]
  let names ← .lift (CatalogRows.names rows)
  return CatalogObject.ofNames (some parent) folder.objectKind folder.segment names

def listColumns (pool : Pool) (schema : Option String) (table : String) (id : Node.Id) :
    Gateway σ (List CatalogObject) := do
  let rows ← fetch backend pool pool.engine.queries.columns
    (pool.engine.columnParameters schema table)
  let columns ← .lift (rows.mapM (CatalogRows.column pool.engine))
  if columns.isEmpty then .lift (.error (.object "Table not found or has no columns" table))
  else return CatalogObject.ofColumns id columns

/-- The declared types of the columns of a table. Only PostgreSQL needs them, to convert bound
values. -/
def columnTypes (pool : Pool) (schema : Option String) (table : String) :
    Gateway σ (Entries String) :=
  match pool.engine with
  | .postgres => do
    let rows ← fetch backend pool Queries.PostgreSql.columnTypes
      [pool.engine.schemaParameter schema, .string table]
    .lift (CatalogRows.columnTypes rows)
  | .mySql | .sqlServer => .lift (.ok .empty)

def listRelationships (pool : Pool) (schema : Option String) : Gateway σ (List Relationship) := do
  let rows ← fetch backend pool pool.engine.queries.relationships [Engine.nameParameter schema]
  .lift (rows.mapM CatalogRows.relationship)

def fetchNumber (pool : Pool) (query : String) : Gateway σ Int := do
  .lift (CatalogRows.scalar pool.engine (← fetch backend pool query []))

def measure (pool : Pool) : Gateway σ DatabaseMetrics := do
  let queries := pool.engine.queries
  let tables ← fetchNumber backend pool queries.tableCount
  let bytes ← fetchNumber backend pool queries.databaseSize
  let sessions ← fetchNumber backend pool queries.activeSessions
  let rows ← fetch backend pool queries.largestTables []
  let largest ← .lift (rows.mapM (CatalogRows.tableSize pool.engine))
  let rows ← fetch backend pool queries.tableTypes []
  let types ← .lift (rows.mapM CatalogRows.tableType)
  return {
    tables := CatalogRows.wrapped tables
    bytes := CatalogRows.size bytes
    sessions := CatalogRows.wrapped sessions
    largest, types }

end Gateway

end SqlGateway
