import SqlGateway.Catalog.Metrics
import SqlGateway.Catalog.Object
import SqlGateway.Catalog.Relationship
import SqlGateway.Datum.Basic
import SqlGateway.Failure.Driver
import SqlGateway.Text.Utf8

/-!
# Reading the rows of catalog statements

A row that lacks a name that it must have is a fault of the catalog; other columns may be missing.
-/

namespace SqlGateway

namespace Datum

def text? : Datum → Option String
  | .text characters => some characters
  | .column (.string characters) => characters
  | _ => none

def looseText? : Datum → Option String
  | .text characters => some characters
  | .binary bytes | .octets bytes => some (String.ofList (Text.Utf8.decodeLossy bytes))
  | _ => none

def integer? : Datum → Option Int
  | .integer value => some value.value
  | .column (.int64 value) => value.map IntegerType.Member.value
  | _ => none

end Datum

namespace Row

def text? (row : Row) (name : String) : Option String := (row.cell? name).bind Datum.text?

def text (row : Row) (name : String) : Except Failure String :=
  match row.text? name with
  | some text => .ok text
  | none => .error (.internal ("Unexpected NULL in catalog column " ++ name))

def integer? (row : Row) (name : String) : Option Int := (row.cell? name).bind Datum.integer?

end Row

structure CatalogColumn where
  name : String
  dataType : String
  nullable : Bool
  fallback : Option String
  /-- The primary key constraint that the column belongs to. -/
  keyConstraint : Option String
deriving DecidableEq, Repr

namespace CatalogRows

def names (rows : List Row) : Except Failure (List String) := rows.mapM fun row => row.text "name"

def firstNames (rows : List Row) : List String :=
  rows.filterMap fun row => row.cells.head?.bind fun cell => cell.2.looseText?

def databaseNames (engine : Engine) (rows : List Row) : Except Failure (List String) :=
  match engine with
  | .mySql => .ok (firstNames rows)
  | .postgres | .sqlServer => names rows

/-- The constraint of a column's primary key. MySQL marks the columns of the key, whose constraint
always has the same name. -/
def keyConstraint (engine : Engine) (row : Row) : Option String :=
  match engine with
  | .mySql => if row.text? "column_key" = some "PRI" then some "PRIMARY" else none
  | .postgres | .sqlServer => row.text? "pk_name"

def column (engine : Engine) (row : Row) : Except Failure CatalogColumn := do
  let name ← row.text "column_name"
  let dataType ← row.text "column_type"
  let nullable := row.text? "is_nullable" = some "YES"
  return ⟨name, dataType, nullable, row.text? "column_default", keyConstraint engine row⟩

def columnTypes (rows : List Row) : Except Failure (Entries String) := do
  let pairs ← rows.mapM fun row => do return (← row.text "name", ← row.text "column_type")
  return .ofList pairs

def relationship (row : Row) : Except Failure Relationship := do
  let constraint ← row.text "constraint_name"
  let sourceTable ← row.text "source_table"
  let sourceColumn ← row.text "source_column"
  let targetTable ← row.text "target_table"
  let targetColumn ← row.text "target_column"
  return {
    constraint, sourceTable, sourceColumn, targetTable, targetColumn
    sourceSchema := row.text? "source_schema"
    targetSchema := row.text? "target_schema" }

/-! ## Counts and sizes -/

/-- A whole number as one of the unsigned 64-bit type, modulo its range. -/
def wrapped (value : Int) : UInt64 := (value % UInt64.size).toNat.toUInt64

def size (value : Int) : UInt64 := value.toNat.toUInt64

def scalar (engine : Engine) (rows : List Row) : Except Failure Int :=
  let value? (row : Row) : Option Int := row.cells.head?.bind fun cell => cell.2.integer?
  match engine with
  | .sqlServer => .ok ((rows.head?.bind value?).getD 0)
  | .postgres | .mySql =>
    match rows with
    | [] => .error ClientFault.noRow.toFailure
    | row :: _ =>
      match value? row with
      | some value => .ok value
      | none =>
        .error (ClientFault.columnDecode "0"
          "unexpected null; try decoding as an `Option`").toFailure

/-- The estimated number of rows. PostgreSQL counts a table that it has not looked at as -1. -/
def rowEstimate (engine : Engine) (value : Option Int) : Option UInt64 :=
  match engine with
  | .postgres => (value.filter (0 ≤ ·)).map size
  | .mySql | .sqlServer => value.map size

def tableSize (engine : Engine) (row : Row) : Except Failure TableSize := do
  let name ← row.text "name"
  return {
    name
    schema := row.text? "schema"
    bytes := size ((row.integer? "size_bytes").getD 0)
    rows := rowEstimate engine (row.integer? "row_count") }

def tableType (row : Row) : Except Failure TableTypeCount := do
  let tableType ← row.text "table_type"
  return ⟨tableType, wrapped ((row.integer? "count").getD 0)⟩

end CatalogRows

end SqlGateway
