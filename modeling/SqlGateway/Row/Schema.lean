import SqlGateway.Json.Schema
import SqlGateway.Row.Update

/-!
# The schema of row updates
-/

namespace SqlGateway.RowUpdate

open Json (Value)
open Json.Schema (text optionalText describedAs)

def jsonSchema : Value :=
  Json.Schema.document "RowUpdate" "Update of a single row addressed by primary key."
    (Json.Schema.record
      [("database",
          describedAs optionalText "Target database; the connection default when absent"),
        ("schema", describedAs optionalText "Defaults to the dialect's default schema"),
        ("table", text), ("pkColumn", text), ("pkValue", .bool true),
        ("updates", describedAs
          (Json.Schema.also (Json.Schema.ofType "object")
            [("additionalProperties", .bool true), ("default", .object [])])
          "Column name to new value")]
      ["table", "pkColumn", "pkValue"])

end SqlGateway.RowUpdate
