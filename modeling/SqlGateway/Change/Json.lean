import SqlGateway.Change.Table
import SqlGateway.Json.Decode

/-!
# Changes in JSON

A change is an object with a `type` member, or an array that begins with the tag. Every tag that is
not known gives the unknown change.
-/

namespace SqlGateway

open Json (Value Decoder DecodeError Fields)

namespace ReferentialAction

def variants : List (String × ReferentialAction) := all.map fun action => (action.name, action)

def ofJson : Decoder ReferentialAction := Decoder.variant variants Decoder.isNull

def toJson (action : ReferentialAction) : Value := .string action.name

end ReferentialAction

namespace TableChange

/-- Null and the empty object both say nothing where a change names an action. -/
def isNothing : Value → Bool
  | .null | .object [] => true
  | _ => false

def actionOfJson : Decoder ReferentialAction :=
  Decoder.variant ReferentialAction.variants isNothing

/-- How one kind of change is read: its title, the checks of its fields, and the change they
make. -/
structure Shape where
  title : String
  checks : List Json.FieldCheck
  build : Fields → Except DecodeError TableChange

open Json.Decoder (string bool optional list)

def shapes : List (String × Shape) := [
  ("add_column", {
    title := "AddColumn"
    checks := [Json.fieldCheck "name" string, Json.fieldCheck "dataType" string,
      Json.fieldCheck "isNullable" bool, Json.fieldCheck "defaultValue" (optional string)]
    build := fun fields => do
      let name ← fields.get 0 "name" string .refused
      let dataType ← fields.get 1 "dataType" string .refused
      let nullable ← fields.get 2 "isNullable" bool (.anywhere true)
      let fallback ← fields.get 3 "defaultValue" (optional string) (.anywhere none)
      return .addColumn name dataType nullable fallback }),
  ("drop_column", {
    title := "DropColumn"
    checks := [Json.fieldCheck "name" string]
    build := fun fields => return .dropColumn (← fields.get 0 "name" string .refused) }),
  ("alter_column_type", {
    title := "AlterColumnType"
    checks := [Json.fieldCheck "name" string, Json.fieldCheck "dataType" string,
      Json.fieldCheck "isNullable" (optional bool)]
    build := fun fields => do
      let name ← fields.get 0 "name" string .refused
      let dataType ← fields.get 1 "dataType" string .refused
      let nullable ← fields.get 2 "isNullable" (optional bool) (.anywhere none)
      return .alterColumnType name dataType nullable }),
  ("rename_column", {
    title := "RenameColumn"
    checks := [Json.fieldCheck "name" string, Json.fieldCheck "newName" string]
    build := fun fields => do
      let name ← fields.get 0 "name" string .refused
      let newName ← fields.get 1 "newName" string .refused
      return .renameColumn name newName }),
  ("add_pk", {
    title := "AddPk"
    checks := [Json.fieldCheck "name" (optional string), Json.fieldCheck "columns" (list string)]
    build := fun fields => do
      let name ← fields.get 0 "name" (optional string) (.anywhere none)
      let columns ← fields.get 1 "columns" (list string) .refused
      return .addPrimaryKey name columns }),
  ("drop_pk", {
    title := "DropPk"
    checks := [Json.fieldCheck "name" string]
    build := fun fields => return .dropPrimaryKey (← fields.get 0 "name" string .refused) }),
  ("add_fk", {
    title := "AddFk"
    checks := [Json.fieldCheck "name" string, Json.fieldCheck "columns" (list string),
      Json.fieldCheck "refSchema" (optional string), Json.fieldCheck "refTable" string,
      Json.fieldCheck "refColumns" (list string),
      Json.fieldCheck "onDelete" (optional actionOfJson),
      Json.fieldCheck "onUpdate" (optional actionOfJson)]
    build := fun fields => do
      let name ← fields.get 0 "name" string .refused
      let columns ← fields.get 1 "columns" (list string) .refused
      let referencedSchema ← fields.get 2 "refSchema" (optional string) (.anywhere none)
      let referencedTable ← fields.get 3 "refTable" string .refused
      let referencedColumns ← fields.get 4 "refColumns" (list string) .refused
      let onDelete ← fields.get 5 "onDelete" (optional actionOfJson) (.anywhere none)
      let onUpdate ← fields.get 6 "onUpdate" (optional actionOfJson) (.anywhere none)
      return .addForeignKey {
        name, columns, referencedSchema, referencedTable, referencedColumns, onDelete,
        onUpdate } }),
  ("drop_fk", {
    title := "DropFk"
    checks := [Json.fieldCheck "name" string]
    build := fun fields => return .dropForeignKey (← fields.get 0 "name" string .refused) })]

def typeName : String := "AlterOperation"

def ofNamed (tag : String) (members : List (String × Value)) : Except DecodeError TableChange :=
  match Entries.lookup tag shapes with
  | none => .ok .unknown
  | some shape => do
    Json.checkMembers shape.checks members
    shape.build (.named members)

def ofListed (tag : String) (items : List Value) : Except DecodeError TableChange :=
  match Entries.lookup tag shapes with
  | none =>
    if items = [] then .ok .unknown
    else .error (.invalidLength items.length (Json.elements 0 ++ " in sequence"))
  | some shape => do
    let change ← shape.build (.listed items ("struct variant " ++ typeName ++ "::" ++
      shape.title ++ " with " ++ Json.elements shape.checks.length))
    if shape.checks.length < items.length then
      .error (.invalidLength items.length
        (Json.elements shape.checks.length ++ " in sequence"))
    else return change

def tagOfJson : Decoder String
  | .string tag => .ok tag
  | other => .error (.invalidType other "variant identifier")

def ofJson : Decoder TableChange
  | .object members =>
    match Entries.lookup "type" members with
    | none => .error (.missingField "type")
    | some tag => do ofNamed (← tagOfJson tag) members
  | .array [] => .error (.missingField "type")
  | .array (tag :: items) => do ofListed (← tagOfJson tag) items
  | other => .error (.invalidType other ("internally tagged enum " ++ typeName))

def texts (names : List String) : Value := .array (names.map .string)

def optionalAction : Option ReferentialAction → Value
  | some action => action.toJson
  | none => .null

def members : TableChange → List (String × Value)
  | .addColumn name dataType nullable fallback =>
    [("name", .string name), ("dataType", .string dataType), ("isNullable", .bool nullable),
      ("defaultValue", .ofText? fallback)]
  | .dropColumn name | .dropPrimaryKey name | .dropForeignKey name => [("name", .string name)]
  | .alterColumnType name dataType nullable =>
    [("name", .string name), ("dataType", .string dataType),
      ("isNullable", match nullable with | some nullable => .bool nullable | none => .null)]
  | .renameColumn name newName => [("name", .string name), ("newName", .string newName)]
  | .addPrimaryKey name columns => [("name", .ofText? name), ("columns", texts columns)]
  | .addForeignKey key =>
    [("name", .string key.name), ("columns", texts key.columns),
      ("refSchema", .ofText? key.referencedSchema), ("refTable", .string key.referencedTable),
      ("refColumns", texts key.referencedColumns), ("onDelete", optionalAction key.onDelete),
      ("onUpdate", optionalAction key.onUpdate)]
  | .unknown => []

def toJson (change : TableChange) : Value :=
  .object (("type", .string change.kind) :: change.members)

end TableChange

end SqlGateway
