import SqlGateway.Catalog.Object
import SqlGateway.Connection.Definition

/-!
# The hierarchy of a server

Expanding a node means listing what is under it. `Expansion.plan` reads from the id alone which
list that is, and which database and schema it comes from; no server is asked. Folders are the same
under every schema, so they need no server at all.
-/

namespace SqlGateway

def Node.isTop (id : Option String) : Bool := id = none || id = some "" || id = some Node.rootId

/-- What is to be listed under a node. -/
inductive Expansion where
  | databases
  | schemas (database : Option String) (parent : Option Node.Id)
  | folders (parent : Node.Id)
  | objects (database schema : Option String) (folder : Node.Folder) (parent : Node.Id)
  /-- Nothing is ever under the node. -/
  | leaf
deriving DecidableEq, Repr

namespace Expansion

def top (definition : Definition) : Expansion :=
  if !definition.engine.hasDatabaseLevel || definition.showAllDatabases then .databases
  else .schemas definition.database none

def below (engine : Engine) (id : String) : Except Failure Expansion :=
  match Node.classify id with
  | .folder => do
    let path ← Node.Path.ofId id none
    match path.folder with
    | none => .error (.node id .noFolder)
    | some folder =>
      return .objects path.database (path.schema <|> engine.defaultSchema) folder
        (← Node.Id.ofText id)
  | .schema => do return .folders (← Node.Id.ofText id)
  | .database => do
    let path ← Node.Path.ofId id none
    return .schemas path.database (some (← Node.Id.ofText id))
  | .root | .table | .view | .function | .column | .unknown => .ok .leaf

def plan (definition : Definition) (parent : Option String) : Except Failure Expansion :=
  match parent with
  | none => .ok (top definition)
  | some id => if Node.isTop parent then .ok (top definition) else below definition.engine id

def folderNode (parent : Node.Id) (folder : Node.Folder) : Except Failure CatalogObject :=
  (parent.child (.folder folder)).map fun id => .make id folder.label .folder parent.text

def folderNodes (parent : Node.Id) : Except Failure (List CatalogObject) :=
  Node.Folder.all.mapM (folderNode parent)

end Expansion

end SqlGateway
