import SqlGateway.Json.Decode
import SqlGateway.Node.Id

/-!
# Objects of a catalog

Everything that the hierarchy shows is an object with a node id, a name, a kind and the id of the
node above it. A column carries details.
-/

namespace SqlGateway

open Json (Value Decoder Fields)

inductive ObjectKind where
  | database
  | schema
  | folder
  | table
  | view
  | function
  | column
deriving DecidableEq, Repr

namespace ObjectKind

def all : List ObjectKind := [.database, .schema, .folder, .table, .view, .function, .column]

def name : ObjectKind → String
  | .database => "database"
  | .schema => "schema"
  | .folder => "folder"
  | .table => "table"
  | .view => "view"
  | .function => "function"
  | .column => "column"

def hasChildren : ObjectKind → Bool
  | .function | .column => false
  | .database | .schema | .folder | .table | .view => true

def variants : List (String × ObjectKind) := all.map fun kind => (kind.name, kind)

def ofJson : Decoder ObjectKind := Decoder.variant variants Decoder.isNull

end ObjectKind

structure ColumnDetails where
  dataType : String
  nullable : Bool
  fallback : Option String
  isPrimaryKey : Bool
  /-- The name by which some engines drop the primary key. -/
  keyConstraint : Option String
deriving DecidableEq, Repr

namespace ColumnDetails

/-- Details with a default expression, unless that is empty, and with the constraint of the primary
key that the column belongs to, if it belongs to one. -/
def make (dataType : String) (nullable : Bool) (fallback keyConstraint : Option String) :
    ColumnDetails where
  dataType
  nullable
  fallback := fallback.filter (· ≠ "")
  isPrimaryKey := keyConstraint.isSome
  keyConstraint

def members (details : ColumnDetails) : List (String × Value) :=
  [("dataType", .string details.dataType), ("nullable", .bool details.nullable),
    ("defaultValue", .ofText? details.fallback), ("isPrimaryKey", .bool details.isPrimaryKey),
    ("pkConstraintName", .ofText? details.keyConstraint)]

def toJson (details : ColumnDetails) : Value := .object details.members

def checks : List Json.FieldCheck := [
  Json.fieldCheck "dataType" Decoder.string,
  Json.fieldCheck "nullable" Decoder.bool,
  Json.fieldCheck "defaultValue" (Decoder.optional Decoder.string),
  Json.fieldCheck "isPrimaryKey" Decoder.bool,
  Json.fieldCheck "pkConstraintName" (Decoder.optional Decoder.string)]

def ofFields (fields : Fields) : Except Json.DecodeError ColumnDetails := do
  let dataType ← fields.get 0 "dataType" Decoder.string .refused
  let nullable ← fields.get 1 "nullable" Decoder.bool .refused
  let fallback ← fields.get 2 "defaultValue" (Decoder.optional Decoder.string) (.member none)
  let isPrimaryKey ← fields.get 3 "isPrimaryKey" Decoder.bool .refused
  let keyConstraint ←
    fields.get 4 "pkConstraintName" (Decoder.optional Decoder.string) (.member none)
  return ⟨dataType, nullable, fallback, isPrimaryKey, keyConstraint⟩

def ofJson : Decoder ColumnDetails := Json.record "ColumnDetails" checks ofFields

end ColumnDetails

structure CatalogObject where
  id : String
  name : String
  kind : ObjectKind
  /-- The id of the node above, or that of the root. -/
  parentId : String
  hasChildren : Bool
  details : Option ColumnDetails
deriving DecidableEq, Repr

namespace CatalogObject

def make (id : Node.Id) (name : String) (kind : ObjectKind) (parentId : String) :
    CatalogObject :=
  ⟨id.text, name, kind, parentId, kind.hasChildren, none⟩

def column (id : Node.Id) (name parentId : String) (details : ColumnDetails) : CatalogObject :=
  { make id name .column parentId with details := some details }

def toJson (object : CatalogObject) : Value :=
  .object ([("id", .string object.id), ("name", .string object.name),
    ("type", .string object.kind.name), ("parentId", .string object.parentId),
    ("hasChildren", .bool object.hasChildren)] ++
    match object.details with
    | some details => details.members
    | none => [])

def checks : List Json.FieldCheck := [
  Json.fieldCheck "id" Decoder.string,
  Json.fieldCheck "name" Decoder.string,
  Json.fieldCheck "type" ObjectKind.ofJson,
  Json.fieldCheck "parentId" Decoder.string,
  Json.fieldCheck "hasChildren" Decoder.bool]

/-- Reads an object; the members of its details stand among its own, and count only if together
they make up details. -/
def ofJson : Decoder CatalogObject
  | .object members => do
    Json.checkMembers checks members
    let fields := Fields.named members
    let id ← fields.get 0 "id" Decoder.string .refused
    let name ← fields.get 1 "name" Decoder.string .refused
    let kind ← fields.get 2 "type" ObjectKind.ofJson .refused
    let parentId ← fields.get 3 "parentId" Decoder.string .refused
    let hasChildren ← fields.get 4 "hasChildren" Decoder.bool .refused
    return ⟨id, name, kind, parentId, hasChildren,
      (ColumnDetails.ofJson (.object members)).toOption⟩
  | other => .error (.invalidType other "struct SchemaObject")

end CatalogObject

end SqlGateway
