import SqlGateway.Change.Table
import SqlGateway.Sql.Quoting

/-!
# Changes as SQL statements

`render` gives the one statement of a change against a table whose name is already quoted. It is the
clause of the engine behind `ALTER TABLE`, except that SQL Server renames a column by a procedure
call. An unknown change has no statement and renders to the empty text.
-/

namespace SqlGateway.TableChange

open Sql

/-- The words of a referential action. SQL Server has no `RESTRICT` and means the same by
`NO ACTION`. -/
def actionSql (engine : Engine) (action : ReferentialAction) : String :=
  match engine, action with
  | .sqlServer, .restrict => ReferentialAction.noAction.sql
  | _, action => action.sql

def nullability (nullable : Bool) : String := if nullable then "NULL" else "NOT NULL"

def defaultClause : Option String → List Char
  | none => []
  | some expression => " DEFAULT ".toList ++ expression.toList

def addColumnClause (engine : Engine) (name dataType : String) (nullable : Bool)
    (fallback : Option String) : List Char :=
  let column := quoteChars engine name ++ ' ' :: dataType.toList
  match engine with
  | .sqlServer =>
    "ADD ".toList ++ column ++ ' ' :: (nullability nullable).toList ++ defaultClause fallback
  | .postgres | .mySql =>
    "ADD COLUMN ".toList ++ column ++ (if nullable then [] else " NOT NULL".toList) ++
      defaultClause fallback

def alterTypeClause (engine : Engine) (name dataType : String) (nullable : Option Bool) :
    List Char :=
  let column := quoteChars engine name
  match engine with
  | .postgres =>
    "ALTER COLUMN ".toList ++ column ++ " TYPE ".toList ++ dataType.toList ++ " USING ".toList ++
      column ++ "::".toList ++ dataType.toList ++
      (match nullable with
      | some true => ", ALTER COLUMN ".toList ++ column ++ " DROP NOT NULL".toList
      | some false => ", ALTER COLUMN ".toList ++ column ++ " SET NOT NULL".toList
      | none => [])
  | .mySql =>
    "MODIFY COLUMN ".toList ++ column ++ ' ' :: dataType.toList ++
      (match nullable with
      | some nullable => ' ' :: (nullability nullable).toList
      | none => [])
  | .sqlServer =>
    "ALTER COLUMN ".toList ++ column ++ ' ' :: dataType.toList ++
      (match nullable with
      | some nullable => ' ' :: (nullability nullable).toList
      | none => [])

/-- MySQL does not name its primary keys. -/
def addPrimaryKeyClause (engine : Engine) (name : Option String) (columns : List String) :
    List Char :=
  let key := "PRIMARY KEY (".toList ++ quoteListChars engine columns ++ [')']
  match engine, name with
  | .mySql, _ | _, none => "ADD ".toList ++ key
  | .postgres, some name | .sqlServer, some name =>
    "ADD CONSTRAINT ".toList ++ quoteChars engine name ++ ' ' :: key

def actionClause (engine : Engine) (event : String) : Option ReferentialAction → List Char
  | none => []
  | some action => event.toList ++ (actionSql engine action).toList

def addForeignKeyClause (engine : Engine) (key : ForeignKey) : List Char :=
  "ADD CONSTRAINT ".toList ++ quoteChars engine key.name ++ " FOREIGN KEY (".toList ++
    quoteListChars engine key.columns ++ ") REFERENCES ".toList ++
    quoteTableChars engine key.referencedSchema key.referencedTable ++ " (".toList ++
    quoteListChars engine key.referencedColumns ++ ')' ::
    actionClause engine " ON DELETE " key.onDelete ++
    actionClause engine " ON UPDATE " key.onUpdate

def dropPrimaryKeyClause (engine : Engine) (name : String) : List Char :=
  match engine with
  | .mySql => "DROP PRIMARY KEY".toList
  | .postgres | .sqlServer => "DROP CONSTRAINT ".toList ++ quoteChars engine name

def dropForeignKeyClause (engine : Engine) (name : String) : List Char :=
  match engine with
  | .mySql => "DROP FOREIGN KEY ".toList ++ quoteChars engine name
  | .postgres | .sqlServer => "DROP CONSTRAINT ".toList ++ quoteChars engine name

def renameCall (table : List Char) (name newName : String) : List Char :=
  "EXEC sp_rename ".toList ++ stringLiteral (table ++ '.' :: quoteChars .sqlServer name) ++
    ", ".toList ++ stringLiteral newName.toList ++ ", N'COLUMN'".toList

def alterTable (table clause : List Char) : List Char :=
  "ALTER TABLE ".toList ++ table ++ ' ' :: clause

def renderChars (engine : Engine) (table : List Char) : TableChange → List Char
  | .addColumn name dataType nullable fallback =>
    alterTable table (addColumnClause engine name dataType nullable fallback)
  | .dropColumn name => alterTable table ("DROP COLUMN ".toList ++ quoteChars engine name)
  | .alterColumnType name dataType nullable =>
    alterTable table (alterTypeClause engine name dataType nullable)
  | .renameColumn name newName =>
    match engine with
    | .sqlServer => renameCall table name newName
    | .postgres | .mySql =>
      alterTable table ("RENAME COLUMN ".toList ++ quoteChars engine name ++ " TO ".toList ++
        quoteChars engine newName)
  | .addPrimaryKey name columns => alterTable table (addPrimaryKeyClause engine name columns)
  | .dropPrimaryKey name => alterTable table (dropPrimaryKeyClause engine name)
  | .addForeignKey key => alterTable table (addForeignKeyClause engine key)
  | .dropForeignKey name => alterTable table (dropForeignKeyClause engine name)
  | .unknown => []

def render (engine : Engine) (quotedTable : String) (change : TableChange) : String :=
  String.ofList (change.renderChars engine quotedTable.toList)

example : render .mySql "`t`" (.dropPrimaryKey "pk") = "ALTER TABLE `t` DROP PRIMARY KEY" := by
  decide

end SqlGateway.TableChange
