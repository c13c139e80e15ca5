import SqlGateway.Json.Decode

/-!
# Relationships between tables

A relationship is one pair of columns of a foreign key, so that a key of several columns gives
several relationships.
-/

namespace SqlGateway

open Json (Value Decoder Fields)

structure Relationship where
  constraint : String
  sourceSchema : Option String
  sourceTable : String
  sourceColumn : String
  targetSchema : Option String
  targetTable : String
  targetColumn : String
deriving DecidableEq, Repr

namespace Relationship

def optionalMember (name : String) : Option String → List (String × Value)
  | some text => [(name, .string text)]
  | none => []

def toJson (relationship : Relationship) : Value :=
  .object ([("constraintName", .string relationship.constraint)] ++
    optionalMember "sourceSchema" relationship.sourceSchema ++
    [("sourceTable", .string relationship.sourceTable),
      ("sourceColumn", .string relationship.sourceColumn)] ++
    optionalMember "targetSchema" relationship.targetSchema ++
    [("targetTable", .string relationship.targetTable),
      ("targetColumn", .string relationship.targetColumn)])

def checks : List Json.FieldCheck := [
  Json.fieldCheck "constraintName" Decoder.string,
  Json.fieldCheck "sourceSchema" (Decoder.optional Decoder.string),
  Json.fieldCheck "sourceTable" Decoder.string,
  Json.fieldCheck "sourceColumn" Decoder.string,
  Json.fieldCheck "targetSchema" (Decoder.optional Decoder.string),
  Json.fieldCheck "targetTable" Decoder.string,
  Json.fieldCheck "targetColumn" Decoder.string]

def ofFields (fields : Fields) : Except Json.DecodeError Relationship := do
  let constraint ← fields.get 0 "constraintName" Decoder.string .refused
  let sourceSchema ←
    fields.get 1 "sourceSchema" (Decoder.optional Decoder.string) (.anywhere none)
  let sourceTable ← fields.get 2 "sourceTable" Decoder.string .refused
  let sourceColumn ← fields.get 3 "sourceColumn" Decoder.string .refused
  let targetSchema ←
    fields.get 4 "targetSchema" (Decoder.optional Decoder.string) (.anywhere none)
  let targetTable ← fields.get 5 "targetTable" Decoder.string .refused
  let targetColumn ← fields.get 6 "targetColumn" Decoder.string .refused
  return ⟨constraint, sourceSchema, sourceTable, sourceColumn, targetSchema, targetTable,
    targetColumn⟩

def ofJson : Decoder Relationship := Json.record "Relationship" checks ofFields

end Relationship

end SqlGateway
