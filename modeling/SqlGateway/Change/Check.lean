import SqlGateway.Change.Table
import SqlGateway.Sql.Fragment

/-!
# Which changes may become SQL

Every name, data type and default expression of a change is checked before SQL is built from it.
-/

namespace SqlGateway.TableChange

def checkColumns (operation : String) (columns : List String) : Except Failure Unit :=
  if columns = [] then .error (.input (.noColumns operation)) else .ok ()

def checkDefault? : Option String → Except Failure Unit
  | none => .ok ()
  | some expression => Sql.checkDefault expression

/-- Refuses a change with a part that may not enter SQL text; the first such part decides. -/
def check : TableChange → Except Failure Unit
  | .addColumn name dataType _ fallback => do
    Sql.checkName name
    Sql.checkType dataType
    checkDefault? fallback
  | .dropColumn name | .dropPrimaryKey name | .dropForeignKey name => Sql.checkName name
  | .alterColumnType name dataType _ => do
    Sql.checkName name
    Sql.checkType dataType
  | .renameColumn name newName => do
    Sql.checkName name
    Sql.checkName newName
  | .addPrimaryKey name columns => do
    Sql.checkName? name
    checkColumns "add_pk" columns
    Sql.checkNames columns
  | .addForeignKey key => do
    Sql.checkName key.name
    Sql.checkName key.referencedTable
    Sql.checkName? key.referencedSchema
    checkColumns "add_fk" key.columns
    if key.columns.length ≠ key.referencedColumns.length then
      .error (.input (.columnCounts key.name key.columns.length key.referencedColumns.length))
    else Sql.checkNames (key.columns ++ key.referencedColumns)
  | .unknown => .ok ()

end SqlGateway.TableChange
