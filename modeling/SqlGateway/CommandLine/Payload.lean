import SqlGateway.Change.Json
import SqlGateway.Json.Typed
import SqlGateway.Row.Update

/-!
# Payloads on the command line

Changes and row updates are given as JSON texts. They are read from the left, and the first place at
which a text stops to be a payload is told.
-/

namespace SqlGateway.CommandLine.Payload

open Json.Typed (Form Tagged)

/-- One change. Its members are looked at once it is read whole. -/
def change : Form TableChange := fun depth text => do
  let (found, rest) ← Json.Typed.tagged "type" ("internally tagged enum " ++ TableChange.typeName)
    (Json.Typed.text "variant identifier") depth text
  let change :=
    match found with
    | .named tag members => TableChange.ofNamed tag members
    | .listed tag items => TableChange.ofListed tag items
  match change with
  | .ok change => return (change, rest)
  | .error error => Json.Typed.unsettled error rest

def changes : String → Except String (List TableChange) :=
  Json.Typed.document (Json.Typed.list change)

def updateForms : Json.Typed.FieldForms := [
  ("database", Json.Typed.optional Json.Typed.string),
  ("schema", Json.Typed.optional Json.Typed.string),
  ("table", Json.Typed.string),
  ("pkColumn", Json.Typed.string),
  ("pkValue", Json.Typed.value),
  ("updates", Json.Typed.object)]

example : updateForms.map Prod.fst = RowUpdate.checks.map Prod.fst := rfl

def rowUpdate : String → Except String RowUpdate :=
  Json.Typed.document (Json.Typed.record "RowUpdate" updateForms RowUpdate.ofFields)

end SqlGateway.CommandLine.Payload
