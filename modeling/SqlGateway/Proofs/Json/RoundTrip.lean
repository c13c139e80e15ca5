import SqlGateway.Catalog.Metrics
import SqlGateway.Catalog.Object
import SqlGateway.Catalog.Relationship
import SqlGateway.Change.Json
import SqlGateway.Connection.Definition
import SqlGateway.Proofs.Json.Decoding
import SqlGateway.Query.Result
import SqlGateway.Row.Update

/-!
# Records that are read back from their JSON

What a record writes is what it reads: `records_read_back`. A definition of a connection is read
back without its password, and an object with any other tag than those of the known changes is the
unknown change.
-/

namespace SqlGateway

open Json (Decoder Passes Value record_object)

/-! ## Rows and results -/

theorem RowUpdate.ofJson_toJson (update : RowUpdate) : ofJson update.toJson = .ok update := by
  refine record_object ?distinct ?pass ?built
  case distinct => simp
  case pass => simp [checks]
  case built => simp [ofFields]

theorem QueryResult.ofJson_toJson (result : QueryResult) : ofJson result.toJson = .ok result := by
  have rows := Decoder.list_map Decoder.entries_ofEntries result.rows
  refine record_object ?distinct ?pass ?built
  case distinct => simp
  case pass => simp [checks, rows]
  case built => simp [ofFields, rows]

/-! ## The catalog -/

@[simp] theorem ObjectKind.ofJson_name (kind : ObjectKind) :
    ofJson (.string kind.name) = .ok kind := by
  cases kind <;> rfl

def CatalogObject.shared (object : CatalogObject) : List (String × Value) :=
  [("id", .string object.id), ("name", .string object.name), ("type", .string object.kind.name),
    ("parentId", .string object.parentId), ("hasChildren", .bool object.hasChildren)]

theorem ColumnDetails.ofJson_shared_append (object : CatalogObject) (details : ColumnDetails) :
    ofJson (.object (object.shared ++ details.members)) = .ok details := by
  refine record_object ?distinct ?pass ?built
  case distinct => simp [CatalogObject.shared, members]
  case pass => simp [CatalogObject.shared, members, checks]
  case built => simp [CatalogObject.shared, members, ofFields]

theorem ColumnDetails.ofJson_shared (object : CatalogObject) :
    ofJson (.object object.shared) = .error (.missingField "dataType") := by
  have checked : Json.checkMembers checks object.shared = .ok () := by
    refine Json.checkMembers_eq_ok ?distinct ?pass
    case distinct => simp [CatalogObject.shared]
    case pass => simp [CatalogObject.shared, checks]
  rw [ofJson, Json.record, checked]
  simp [ofFields, CatalogObject.shared]

theorem CatalogObject.ofJson_toJson (object : CatalogObject) :
    ofJson object.toJson = .ok object := by
  have read (others : List (String × Value))
      (checked : Json.checkMembers checks (object.shared ++ others) = .ok ())
      (details : (ColumnDetails.ofJson (.object (object.shared ++ others))).toOption =
        object.details) : ofJson (.object (object.shared ++ others)) = .ok object := by
    rw [ofJson, checked, details]
    simp [shared]
  cases details : object.details with
  | none =>
    have written : object.toJson = .object (object.shared ++ []) := by
      simp [toJson, details, shared]
    rw [written]
    refine read [] (Json.checkMembers_eq_ok ?distinct ?pass) ?details
    case distinct => simp [shared]
    case pass => simp [shared, checks]
    case details =>
      rw [List.append_nil, ColumnDetails.ofJson_shared, details]
      rfl
  | some found =>
    have written : object.toJson = .object (object.shared ++ found.members) := by
      simp [toJson, details, shared]
    rw [written]
    refine read found.members (Json.checkMembers_eq_ok ?distinct ?pass) ?details
    case distinct => simp [shared, ColumnDetails.members]
    case pass => simp [shared, checks, ColumnDetails.members]
    case details =>
      rw [ColumnDetails.ofJson_shared_append, details]
      rfl

theorem Relationship.ofJson_toJson (relationship : Relationship) :
    ofJson relationship.toJson = .ok relationship := by
  rcases relationship with ⟨constraint, sourceSchema, sourceTable, sourceColumn, targetSchema,
    targetTable, targetColumn⟩
  refine record_object ?distinct ?pass ?built
  case distinct => cases sourceSchema <;> cases targetSchema <;> simp [optionalMember]
  case pass => cases sourceSchema <;> cases targetSchema <;> simp [optionalMember, checks]
  case built => cases sourceSchema <;> cases targetSchema <;> simp [optionalMember, ofFields]

theorem TableSize.ofJson_toJson (size : TableSize) : ofJson size.toJson = .ok size := by
  rcases size with ⟨name, schema, bytes, rows⟩
  refine record_object ?distinct ?pass ?built
  case distinct => cases schema <;> cases rows <;> simp
  case pass => cases schema <;> cases rows <;> simp [checks]
  case built => cases schema <;> cases rows <;> simp [ofFields]

theorem TableTypeCount.ofJson_toJson (entry : TableTypeCount) :
    ofJson entry.toJson = .ok entry := by
  refine record_object ?distinct ?pass ?built
  case distinct => simp
  case pass => simp [checks]
  case built => simp [ofFields]

theorem DatabaseMetrics.ofJson_toJson (metrics : DatabaseMetrics) :
    ofJson metrics.toJson = .ok metrics := by
  have largest := Decoder.list_map TableSize.ofJson_toJson metrics.largest
  have types := Decoder.list_map TableTypeCount.ofJson_toJson metrics.types
  refine record_object ?distinct ?pass ?built
  case distinct => simp
  case pass => simp [checks, largest, types]
  case built => simp [ofFields, largest, types]

/-! ## Connections -/

theorem PoolLimits.optional_count {α : Type} {decoder : Decoder α} {toNat : α → Nat}
    (read : ∀ count, decoder (.ofNat (toNat count)) = .ok count) (count : Option α) :
    Decoder.optional decoder (optionalCount (count.map toNat)) = .ok count := by
  cases count with
  | none => rfl
  | some count => exact Decoder.optional_some nofun (read count)

theorem PoolLimits.ofJson_toJson (limits : PoolLimits) : ofJson limits.toJson = .ok limits := by
  have small := optional_count Decoder.uint32_ofNat
  have large := optional_count Decoder.uint64_ofNat
  rcases limits with ⟨maxConnections?, minConnections?, idleSeconds?, acquireSeconds?,
    testBeforeUse?⟩
  refine record_object ?distinct ?pass ?built
  case distinct => simp
  case pass => cases testBeforeUse? <;> simp [checks, small, large]
  case built => cases testBeforeUse? <;> simp [ofFields, small, large]

@[simp] theorem Definition.engineOfJson_name (engine : Engine) :
    engineOfJson (.string engine.name) = .ok engine := by
  cases engine <;> rfl

theorem Definition.optional_port (port : Option UInt16) :
    Decoder.optional Decoder.uint16 (optionalPort port) = .ok port := by
  cases port with
  | none => rfl
  | some port => exact Decoder.optional_some nofun (Decoder.uint16_ofNat port)

theorem Definition.ofJson_toJson (definition : Definition) :
    ofJson definition.toJson = .ok { definition with password := none } := by
  refine record_object ?distinct ?pass ?built
  case distinct => simp
  case pass => simp [checks, optional_port, PoolLimits.ofJson_toJson]
  case built => simp [ofFields, optional_port, PoolLimits.ofJson_toJson]

/-! ## Changes of a table -/

namespace TableChange

theorem actionOfJson_toJson (action : ReferentialAction) :
    actionOfJson action.toJson = .ok action := by
  cases action <;> rfl

theorem optional_action (action : Option ReferentialAction) :
    Decoder.optional actionOfJson (optionalAction action) = .ok action := by
  cases action with
  | none => rfl
  | some action => exact Decoder.optional_some nofun (actionOfJson_toJson action)

theorem nodup_names (change : TableChange) : ("type" :: change.members.map Prod.fst).Nodup := by
  cases change <;> simp [members]

theorem ofJson_of_shape {change : TableChange} {shape : Shape}
    (known : Entries.lookup change.kind shapes = some shape)
    (pass : ∀ member ∈ ("type", .string change.kind) :: change.members, Passes shape.checks member)
    (built : shape.build (.named (("type", .string change.kind) :: change.members)) = .ok change) :
    ofJson change.toJson = .ok change := by
  have checked : Json.checkMembers shape.checks
      (("type", .string change.kind) :: change.members) = .ok () :=
    Json.checkMembers_eq_ok change.nodup_names pass
  have tagged : Entries.lookup "type" (("type", Value.string change.kind) :: change.members) =
      some (.string change.kind) := by
    simp [Entries.lookup]
  simp only [toJson, ofJson, tagged, tagOfJson, ofNamed, Json.ok_bind, known, checked]
  exact built

theorem ofJson_toJson (change : TableChange) : ofJson change.toJson = .ok change := by
  cases change with
  | addColumn name dataType nullable fallback =>
    refine ofJson_of_shape rfl ?pass ?built
    case pass => simp [members]
    case built => simp [members]
  | dropColumn name | dropPrimaryKey name | dropForeignKey name =>
    refine ofJson_of_shape rfl ?pass ?built
    case pass => simp [members]
    case built => simp [members]
  | alterColumnType name dataType nullable =>
    refine ofJson_of_shape rfl ?pass ?built
    case pass => cases nullable <;> simp [members]
    case built => cases nullable <;> simp [members]
  | renameColumn name newName =>
    refine ofJson_of_shape rfl ?pass ?built
    case pass => simp [members]
    case built => simp [members]
  | addPrimaryKey name columns =>
    refine ofJson_of_shape rfl ?pass ?built
    case pass => simp [members, texts]
    case built => simp [members, texts]
  | addForeignKey key =>
    refine ofJson_of_shape rfl ?pass ?built
    case pass => simp [members, texts, optional_action]
    case built => simp [members, texts, optional_action]
  | unknown => rfl

def tags : List String :=
  ["add_column", "drop_column", "alter_column_type", "rename_column", "add_pk", "drop_pk",
    "add_fk", "drop_fk"]

theorem names_shapes : shapes.map Prod.fst = tags := rfl

theorem ofJson_of_other_tag {tag : String} {members : List (String × Value)}
    (tagged : Entries.lookup "type" members = some (.string tag)) (other : tag ∉ tags) :
    ofJson (.object members) = .ok .unknown := by
  have unknown : Entries.lookup tag shapes = none :=
    Entries.lookup_eq_none (by rwa [names_shapes])
  simp only [ofJson, tagged, tagOfJson, ofNamed, Json.ok_bind, unknown]

end TableChange

/-- Every change, update, object of a catalog with or without details, relationship, metrics,
limits and result is read back from the JSON that it writes, with its entries in their order. A
definition is read back without its password. An object whose tag is none of the eight of known
changes is read as the unknown change, whatever other members it has. -/
theorem records_read_back :
    (∀ change : TableChange, TableChange.ofJson change.toJson = .ok change) ∧
    (∀ update : RowUpdate, RowUpdate.ofJson update.toJson = .ok update) ∧
    (∀ object : CatalogObject, CatalogObject.ofJson object.toJson = .ok object) ∧
    (∀ relationship : Relationship,
      Relationship.ofJson relationship.toJson = .ok relationship) ∧
    (∀ metrics : DatabaseMetrics, DatabaseMetrics.ofJson metrics.toJson = .ok metrics) ∧
    (∀ limits : PoolLimits, PoolLimits.ofJson limits.toJson = .ok limits) ∧
    (∀ result : QueryResult, QueryResult.ofJson result.toJson = .ok result) ∧
    (∀ definition : Definition,
      Definition.ofJson definition.toJson = .ok { definition with password := none }) ∧
    ∀ (tag : String) (members : List (String × Value)),
      Entries.lookup "type" members = some (.string tag) → tag ∉ TableChange.tags →
        TableChange.ofJson (.object members) = .ok .unknown :=
  ⟨TableChange.ofJson_toJson, RowUpdate.ofJson_toJson, CatalogObject.ofJson_toJson,
    Relationship.ofJson_toJson, DatabaseMetrics.ofJson_toJson, PoolLimits.ofJson_toJson,
    QueryResult.ofJson_toJson, Definition.ofJson_toJson,
    fun _ _ tagged other => TableChange.ofJson_of_other_tag tagged other⟩

theorem records_read_back_other_tag :
    let members : List (String × Value) :=
      [("name", .bool true), ("type", .string "drop_table"), ("columns", .null)]
    Entries.lookup "type" members = some (.string "drop_table") ∧
      "drop_table" ∉ TableChange.tags ∧
      TableChange.ofJson (.object members) = .ok .unknown := by
  intro members
  have tagged : Entries.lookup "type" members = some (.string "drop_table") := by decide
  have other : "drop_table" ∉ TableChange.tags := by decide
  rcases records_read_back with ⟨-, -, -, -, -, -, -, -, others⟩
  exact ⟨tagged, other, others _ _ tagged other⟩

end SqlGateway
