import SqlGateway.Change.Table
import SqlGateway.Json.Schema

/-!
# The schema of changes
-/

namespace SqlGateway

open Json (Value)
open Json.Schema (text optionalText texts tagged)

namespace TableChange

def jsonSchema : Value :=
  Json.Schema.document "AlterOperation"
    ("One engine-neutral schema change against a single table.\n\nUnrecognized `type` tags " ++
      "deserialize to [`AlterOperation::Unknown`] and are\nskipped when applied.")
    (.object [
      ("oneOf", .array [
        tagged "add_column"
          [("name", text), ("dataType", text),
            ("isNullable", Json.Schema.withDefault (Json.Schema.ofType "boolean") (.bool true)),
            ("defaultValue", optionalText)]
          ["name", "dataType"],
        tagged "drop_column" [("name", text)] ["name"],
        tagged "alter_column_type"
          [("name", text), ("dataType", text),
            ("isNullable", Json.Schema.describedAs (Json.Schema.optionalOfType "boolean")
              "Some engines restate nullability when the type changes")]
          ["name", "dataType"],
        tagged "rename_column" [("name", text), ("newName", text)] ["name", "newName"],
        tagged "add_pk"
          [("name", Json.Schema.describedAs optionalText
              "Constraint name; engines that support it name the key"),
            ("columns", texts)]
          ["columns"],
        tagged "drop_pk"
          [("name", Json.Schema.describedAs text
              "Constraint name; see `ColumnDetails::pk_constraint_name`")]
          ["name"],
        tagged "add_fk"
          [("name", text), ("columns", texts), ("refSchema", optionalText), ("refTable", text),
            ("refColumns", texts), ("onDelete", Json.Schema.optionalReference "ForeignKeyAction"),
            ("onUpdate", Json.Schema.optionalReference "ForeignKeyAction")]
          ["name", "columns", "refTable", "refColumns"],
        tagged "drop_fk" [("name", text)] ["name"],
        tagged "unknown" [] []]),
      ("$defs", .object [("ForeignKeyAction",
        Json.Schema.describedAs (Json.Schema.oneOf (ReferentialAction.all.map
          ReferentialAction.name)) "Foreign key referential action.")])])

end TableChange

end SqlGateway
