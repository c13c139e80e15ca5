import SqlGateway.Datum.Libraries

/-!
# The JSON values of cells

Each engine has a client library of its own. A row becomes an object by column name, in which the
last of several columns of one name gives the value: `Libraries.rowEntries`, which `Row.toEntries`
applies to the rows of the server side.
-/

namespace SqlGateway

open Json (Value)

/-- The client libraries of the engines. -/
structure Libraries where
  postgres : Driver
  mySql : Driver
  sqlServer : DataDriver

namespace Libraries

variable (libraries : Libraries)

def Cell : Engine → Type
  | .postgres => libraries.postgres.Cell
  | .mySql => libraries.mySql.Cell
  | .sqlServer => ColumnData

def value : (engine : Engine) → libraries.Cell engine → Value
  | .postgres, cell => Driver.Cell.postgres cell
  | .mySql, cell => Driver.Cell.mySql cell
  | .sqlServer, data => libraries.sqlServer.value data

def rowEntries (engine : Engine) (cells : List (String × libraries.Cell engine)) : Entries Value :=
  .ofList (cells.map fun (name, cell) => (name, libraries.value engine cell))

def standard : Libraries := ⟨.standardPostgres, .standardMySql, .standard⟩

end Libraries

namespace Datum

def content? : Datum → Option Datum
  | .null => none
  | other => some other

/-- The cell that a library hands over. Only SQL Server sends data of its columns. -/
def cell (engine : Engine) (typeName : String) (datum : Datum) : Libraries.standard.Cell engine :=
  match engine, datum with
  | .postgres, datum => (⟨typeName, datum.content?⟩ : Driver.standardPostgres.Cell)
  | .mySql, datum => (⟨typeName, datum.content?⟩ : Driver.standardMySql.Cell)
  | .sqlServer, .column data => data
  | .sqlServer, _ => ColumnData.string none

def toJson (engine : Engine) (typeName : String) (datum : Datum) : Value :=
  Libraries.standard.value engine (datum.cell engine typeName)

end Datum

def Row.named (engine : Engine) (row : Row) : List (String × Libraries.standard.Cell engine) :=
  row.cells.map fun (column, datum) => (column.name, datum.cell engine column.typeName)

def Row.toEntries (engine : Engine) (row : Row) : Entries Value :=
  Libraries.standard.rowEntries engine (row.named engine)

end SqlGateway
