import SqlGateway.Catalog.Listing
import SqlGateway.Change.Plan
import SqlGateway.Row.Update
import SqlGateway.Server.Pools

/-!
# Changing data and structure

Everything that can be refused is refused before a statement is sent. The changes of a table stop at
the first statement that fails, and the report says how far they came.
-/

namespace SqlGateway.Gateway

variable {σ : Type} (backend : Backend σ)

def query (connection sql : String) (database : Option String) : Gateway σ QueryResult := do
  runBatch backend (← pool backend connection database) sql

def runChange (pool : Pool) (sql : String) : Gateway σ Unit := do
  let _ ← runBatch backend pool sql

def alter (connection : String) (database : Option String) (schema table : String)
    (changes : List TableChange) : Gateway σ ChangeReport := do
  if changes = [] then return ⟨[], 0, none⟩
  let pool ← pool backend connection database
  let plan ← .lift (StatementPlan.make pool.engine schema table changes)
  .ofSession fun session =>
    let (report, session) := plan.apply (fun sql => (runChange backend pool sql).on) session
    (.ok report, session)

def updateRow (connection : String) (update : RowUpdate) : Gateway σ RowOutcome := do
  if update.updates.isEmpty then return .unchanged
  .lift update.check
  let pool ← pool backend connection update.database
  let schema := update.schema <|> pool.engine.defaultSchema
  let types ← columnTypes backend pool schema update.table
  let rows ← write backend pool (update.render pool.engine types.toList) update.parameters
  return .updated rows

end SqlGateway.Gateway
