import SqlGateway.Json.Decode

/-!
# Results of queries

A result lists its columns and its rows; a row holds the values by column name. A statement without
rows counts the rows that it affected.
-/

namespace SqlGateway

open Json (Value Decoder Fields)

structure QueryResult where
  rows : List (Entries Value)
  columns : List String
  /-- The rows returned, or those affected where none are returned. -/
  rowCount : UInt64
deriving DecidableEq

namespace QueryResult

def ofRows (columns : List String) (rows : List (Entries Value)) : QueryResult :=
  ⟨rows, columns, rows.length.toUInt64⟩

def affected (rowCount : UInt64) : QueryResult := ⟨[], [], rowCount⟩

def isEmpty (result : QueryResult) : Bool := result.rows.isEmpty

def toJson (result : QueryResult) : Value :=
  .object [("rows", .array (result.rows.map Value.ofEntries)),
    ("columns", .array (result.columns.map .string)),
    ("rowCount", .ofUInt64 result.rowCount)]

def checks : List Json.FieldCheck := [
  Json.fieldCheck "rows" (Decoder.list (Decoder.entries Decoder.value)),
  Json.fieldCheck "columns" (Decoder.list Decoder.string),
  Json.fieldCheck "rowCount" Decoder.uint64]

def ofFields (fields : Fields) : Except Json.DecodeError QueryResult := do
  let rows ← fields.get 0 "rows" (Decoder.list (Decoder.entries Decoder.value)) .refused
  let columns ← fields.get 1 "columns" (Decoder.list Decoder.string) .refused
  let rowCount ← fields.get 2 "rowCount" Decoder.uint64 .refused
  return ⟨rows, columns, rowCount⟩

def ofJson : Decoder QueryResult := Json.record "QueryResult" checks ofFields

end QueryResult

end SqlGateway
