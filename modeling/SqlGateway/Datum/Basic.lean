import SqlGateway.Datum.ColumnData

/-!
# Cells of rows

A datum is one cell of a row as the server side hands it over. Answers to plain statements of
PostgreSQL and MySQL hold the octets of each value's text form, answers to their prepared statements
hold typed values, and those of SQL Server hold the data of its columns.
-/

namespace SqlGateway

inductive Datum where
  | null
  /-- The text form of a value. -/
  | octets (octets : List UInt8)
  | bit (value : Bool)
  | integer (value : Json.Integer)
  | float (value : Number.FloatReading)
  | text (text : String)
  | binary (octets : List UInt8)
  | column (data : ColumnData)
deriving DecidableEq, Repr

structure Column where
  name : String
  typeName : String
deriving DecidableEq, Repr

structure Row where
  cells : List (Column × Datum)
deriving DecidableEq, Repr

namespace Row

def columns (row : Row) : List Column := row.cells.map Prod.fst

def columnNames (row : Row) : List String := row.columns.map Column.name

def cell? (row : Row) (name : String) : Option Datum :=
  (row.cells.find? fun cell => cell.1.name = name).map Prod.snd

end Row

end SqlGateway
