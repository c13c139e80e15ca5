import SqlGateway.Catalog.Listing
import SqlGateway.Server.Pools
import SqlGateway.Sql.Fragment
import SqlGateway.Sql.Quoting

/-!
# Creating and dropping databases

A database cannot be dropped while sessions use it. So its pool is closed first, the statement runs
on another database, and on PostgreSQL the sessions of others are ended.
-/

namespace SqlGateway.Gateway

variable {σ : Type} (backend : Backend σ)

def createDatabase (connection name : String) : Gateway σ Unit := do
  .lift (Sql.checkName name)
  let pool ← pool backend connection none
  command backend pool (Sql.createDatabase pool.engine name)

/-- The database from which another one is dropped: the default one, unless it is the one to
drop. -/
def administrationDatabase (definition : Definition) (name : String) : Option String :=
  if definition.database = some name then definition.engine.maintenanceDatabase else none

def endSessions (pool : Pool) (name : String) : Gateway σ Unit :=
  match pool.engine with
  | .postgres => do
    let _ ← fetch backend pool Queries.PostgreSql.endSessions [.string name]
  | .mySql | .sqlServer => .lift (.ok ())

def dropDatabase (connection name : String) : Gateway σ Unit := do
  .lift (Sql.checkName name)
  let definition ← .ask fun registry => registry.definition connection
  let _ ← evict backend connection (some name)
  let pool ← pool backend connection (administrationDatabase definition name)
  endSessions backend pool name
  command backend pool (Sql.dropDatabase pool.engine name)

end SqlGateway.Gateway
