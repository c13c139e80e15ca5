import SqlGateway.Json.Writer
import SqlGateway.Number.Binary64
import SqlGateway.Number.Rounding
import SqlGateway.Query.Result
import SqlGateway.Text.Width

/-!
# Result tables

A result is drawn as a table of columns between bars. Each column is as wide as its widest cell on
the screen; numbers stand at the right of their column and everything else at the left.
-/

namespace SqlGateway.Report

open Json (Value)

def cellChars : Value → List Char
  | .null => "NULL".toList
  | .bool value => Json.boolChars value
  | .number value => value.chars
  | .string text => text.toList
  | .array items => (Value.array items).compactChars
  | .object members => (Value.object members).compactChars

def isRight : Value → Bool
  | .number _ => true
  | _ => false

def pad (width : Nat) (right : Bool) (text : List Char) : List Char :=
  let fill := List.replicate (width - Text.Width.columns text) ' '
  if right then fill ++ text else text ++ fill

/-- The width of a column: that of its name or of its widest cell. A row without the column does
not count. -/
def columnWidth (rows : List (Entries Value)) (column : String) : Nat :=
  rows.foldl (fun width row =>
    match row.find? column with
    | some value => max width (Text.Width.columns (cellChars value))
    | none => width) (Text.Width.columns column.toList)

def separator (widths : List Nat) : List Char :=
  widths.flatMap (fun width => '+' :: List.replicate (width + 2) '-') ++ ['+', '\n']

def cell (width : Nat) (right : Bool) (text : List Char) : List Char :=
  '|' :: ' ' :: pad width right text ++ [' ']

def header (columns : List (String × Nat)) : List Char :=
  columns.flatMap (fun (column, width) => cell width false column.toList) ++ ['|', '\n']

/-- The line of a row. A column that the row lacks shows null. -/
def rowLine (columns : List (String × Nat)) (row : Entries Value) : List Char :=
  columns.flatMap (fun (column, width) =>
    let value := (row.find? column).getD .null
    cell width (isRight value) (cellChars value)) ++ ['|', '\n']

/-- A time in seconds with two places. The milliseconds are divided in binary floating-point
arithmetic. -/
def seconds (milliseconds : UInt64) : String :=
  let value := do
    let dividend ← Number.Binary64.ofNat milliseconds.toNat
    let divisor ← Number.Binary64.ofNat 1000
    dividend.div divisor
  match value with
  | some value => Number.fixed 2 value.ratio.1 value.ratio.2
  | none => ""

def table (result : QueryResult) (milliseconds : UInt64) : String :=
  if result.columns.isEmpty then
    "Query OK, " ++ toString result.rowCount.toNat ++ " rows affected (" ++
      seconds milliseconds ++ " sec)\n"
  else
    let columns := result.columns.map fun column => (column, columnWidth result.rows column)
    let separator := separator (columns.map Prod.snd)
    let drawn := separator ++ header columns ++ separator ++
      result.rows.flatMap (rowLine columns) ++ separator
    String.ofList drawn ++ toString result.rows.length ++
      (if result.rows.length = 1 then " row" else " rows") ++ " in set (" ++
      seconds milliseconds ++ " sec)\n"

end SqlGateway.Report
