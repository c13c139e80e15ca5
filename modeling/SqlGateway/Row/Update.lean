import SqlGateway.Parameter
import SqlGateway.Sql.Fragment
import SqlGateway.Sql.Quoting

/-!
# Updates of one row

A row is addressed by its key column. The new values are bound in the order of the columns, and the
value of the key last.
-/

namespace SqlGateway

open Json (Value Decoder Fields)

structure RowUpdate where
  database : Option String
  schema : Option String
  table : String
  keyColumn : String
  keyValue : Value
  updates : Entries Value
deriving DecidableEq

namespace RowUpdate

def ofKey (table keyColumn : String) (keyValue : Value) : RowUpdate :=
  ⟨none, none, table, keyColumn, keyValue, .empty⟩

def withSchema (update : RowUpdate) (schema : String) : RowUpdate :=
  { update with schema := some schema }

def withDatabase (update : RowUpdate) (database : String) : RowUpdate :=
  { update with database := some database }

def set (update : RowUpdate) (column : String) (value : Value) : RowUpdate :=
  { update with updates := update.updates.insert column value }

def check (update : RowUpdate) : Except Failure Unit := do
  Sql.checkName update.table
  Sql.checkName update.keyColumn
  Sql.checkName? update.schema
  Sql.checkNames update.updates.names

def columns (update : RowUpdate) : List String := update.updates.names

def parameters (update : RowUpdate) : List Parameter :=
  (update.updates.toList.map fun entry => Parameter.ofJson entry.2) ++
    [Parameter.ofJson update.keyValue]

/-! ## The statement -/

abbrev ColumnTypes := List (String × String)

/-- One assignment, or the comparison with the key: the column is set against the parameter with
a number. -/
def binding (engine : Engine) (types : ColumnTypes) (column : String) (number : Nat) : String :=
  Sql.quote engine column ++ " = " ++
    Sql.typedPlaceholder engine number (Entries.lookup column types)

def bindings (engine : Engine) (types : ColumnTypes) : Nat → List String → List String
  | _, [] => []
  | number, column :: rest =>
    binding engine types column number :: bindings engine types (number + 1) rest

def statement (engine : Engine) (schema : Option String) (table keyColumn : String)
    (columns : List String) (types : ColumnTypes) : String :=
  "UPDATE " ++ Sql.quoteTable engine schema table ++ " SET " ++
    ", ".intercalate (bindings engine types 1 columns) ++ " WHERE " ++
    binding engine types keyColumn (columns.length + 1)

def render (update : RowUpdate) (engine : Engine) (types : ColumnTypes) : String :=
  statement engine (update.schema <|> engine.defaultSchema) update.table update.keyColumn
    update.columns types

/-! ## JSON -/

def checks : List Json.FieldCheck := [
  Json.fieldCheck "database" (Decoder.optional Decoder.string),
  Json.fieldCheck "schema" (Decoder.optional Decoder.string),
  Json.fieldCheck "table" Decoder.string,
  Json.fieldCheck "pkColumn" Decoder.string,
  Json.fieldCheck "pkValue" Decoder.value,
  Json.fieldCheck "updates" (Decoder.entries Decoder.value)]

def ofFields (fields : Fields) : Except Json.DecodeError RowUpdate := do
  let database ← fields.get 0 "database" (Decoder.optional Decoder.string) (.anywhere none)
  let schema ← fields.get 1 "schema" (Decoder.optional Decoder.string) (.anywhere none)
  let table ← fields.get 2 "table" Decoder.string .refused
  let keyColumn ← fields.get 3 "pkColumn" Decoder.string .refused
  let keyValue ← fields.get 4 "pkValue" Decoder.value .refused
  let updates ← fields.get 5 "updates" (Decoder.entries Decoder.value) (.anywhere .empty)
  return { database, schema, table, keyColumn, keyValue, updates }

def ofJson : Decoder RowUpdate := Json.record "RowUpdate" checks ofFields

def toJson (update : RowUpdate) : Value :=
  .object [("database", .ofText? update.database), ("schema", .ofText? update.schema),
    ("table", .string update.table), ("pkColumn", .string update.keyColumn),
    ("pkValue", update.keyValue), ("updates", .ofEntries update.updates)]

end RowUpdate

inductive RowOutcome where
  /-- Nothing was to be changed, and nothing was sent. -/
  | unchanged
  | updated (rows : UInt64)
deriving DecidableEq, Repr

namespace RowOutcome

def rowCount : RowOutcome → UInt64
  | .unchanged => 0
  | .updated rows => rows

def toJson : RowOutcome → Value
  | .unchanged => .object [("status", .string "no_op")]
  | .updated rows => .object [("status", .string "updated"), ("rowCount", .ofUInt64 rows)]

end RowOutcome

end SqlGateway
