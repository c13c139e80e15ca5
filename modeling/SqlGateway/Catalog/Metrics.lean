import SqlGateway.Json.Decode

/-!
# Metrics of a database

A snapshot of how many tables a database has, how large it is, how many sessions are open, which
tables are the largest, and how many tables there are of each type.
-/

namespace SqlGateway

open Json (Value Decoder Fields)

structure TableSize where
  name : String
  schema : Option String
  bytes : UInt64
  /-- An estimate from the statistics of the catalog. -/
  rows : Option UInt64
deriving DecidableEq, Repr

namespace TableSize

def toJson (size : TableSize) : Value :=
  .object ([("name", .string size.name)] ++
    (match size.schema with
    | some schema => [("schema", .string schema)]
    | none => []) ++
    [("sizeBytes", .ofUInt64 size.bytes)] ++
    match size.rows with
    | some rows => [("rowCount", .ofUInt64 rows)]
    | none => [])

def checks : List Json.FieldCheck := [
  Json.fieldCheck "name" Decoder.string,
  Json.fieldCheck "schema" (Decoder.optional Decoder.string),
  Json.fieldCheck "sizeBytes" Decoder.uint64,
  Json.fieldCheck "rowCount" (Decoder.optional Decoder.uint64)]

def ofFields (fields : Fields) : Except Json.DecodeError TableSize := do
  let name ← fields.get 0 "name" Decoder.string .refused
  let schema ← fields.get 1 "schema" (Decoder.optional Decoder.string) (.anywhere none)
  let bytes ← fields.get 2 "sizeBytes" Decoder.uint64 .refused
  let rows ← fields.get 3 "rowCount" (Decoder.optional Decoder.uint64) (.anywhere none)
  return ⟨name, schema, bytes, rows⟩

def ofJson : Decoder TableSize := Json.record "TableSize" checks ofFields

end TableSize

structure TableTypeCount where
  tableType : String
  count : UInt64
deriving DecidableEq, Repr

namespace TableTypeCount

def toJson (entry : TableTypeCount) : Value :=
  .object [("type", .string entry.tableType), ("count", .ofUInt64 entry.count)]

def checks : List Json.FieldCheck :=
  [Json.fieldCheck "type" Decoder.string, Json.fieldCheck "count" Decoder.uint64]

def ofFields (fields : Fields) : Except Json.DecodeError TableTypeCount := do
  let tableType ← fields.get 0 "type" Decoder.string .refused
  let count ← fields.get 1 "count" Decoder.uint64 .refused
  return ⟨tableType, count⟩

def ofJson : Decoder TableTypeCount := Json.record "TableTypeCount" checks ofFields

end TableTypeCount

structure DatabaseMetrics where
  tables : UInt64
  bytes : UInt64
  sessions : UInt64
  largest : List TableSize
  types : List TableTypeCount
deriving DecidableEq, Repr

namespace DatabaseMetrics

def toJson (metrics : DatabaseMetrics) : Value :=
  .object [("tableCount", .ofUInt64 metrics.tables), ("sizeBytes", .ofUInt64 metrics.bytes),
    ("activeConnections", .ofUInt64 metrics.sessions),
    ("topTables", .array (metrics.largest.map TableSize.toJson)),
    ("tableTypes", .array (metrics.types.map TableTypeCount.toJson))]

def checks : List Json.FieldCheck := [
  Json.fieldCheck "tableCount" Decoder.uint64,
  Json.fieldCheck "sizeBytes" Decoder.uint64,
  Json.fieldCheck "activeConnections" Decoder.uint64,
  Json.fieldCheck "topTables" (Decoder.list TableSize.ofJson),
  Json.fieldCheck "tableTypes" (Decoder.list TableTypeCount.ofJson)]

def ofFields (fields : Fields) : Except Json.DecodeError DatabaseMetrics := do
  let tables ← fields.get 0 "tableCount" Decoder.uint64 .refused
  let bytes ← fields.get 1 "sizeBytes" Decoder.uint64 .refused
  let sessions ← fields.get 2 "activeConnections" Decoder.uint64 .refused
  let largest ← fields.get 3 "topTables" (Decoder.list TableSize.ofJson) .refused
  let types ← fields.get 4 "tableTypes" (Decoder.list TableTypeCount.ofJson) .refused
  return ⟨tables, bytes, sessions, largest, types⟩

def ofJson : Decoder DatabaseMetrics := Json.record "DatabaseMetrics" checks ofFields

end DatabaseMetrics

end SqlGateway
