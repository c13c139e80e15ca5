import SqlGateway.Catalog.Queries.MySql
import SqlGateway.Catalog.Queries.PostgreSql
import SqlGateway.Catalog.Queries.SqlServer
import SqlGateway.Engine
import SqlGateway.Node.Segment
import SqlGateway.Parameter

/-!
# The catalog statements of an engine

Every engine answers the same questions about its catalog, each by a statement of its own. Where
PostgreSQL and SQL Server ask for a schema, MySQL asks for a database.
-/

namespace SqlGateway

structure CatalogQueries where
  databases : String
  /-- None where databases have no schemas under them. -/
  schemas : Option String
  /-- The names in a folder of a schema. -/
  objects : Node.Folder → String
  columns : String
  relationships : String
  tableCount : String
  databaseSize : String
  activeSessions : String
  largestTables : String
  tableTypes : String

namespace Engine

def queries : Engine → CatalogQueries
  | .postgres => {
    databases := Queries.PostgreSql.databases
    schemas := some Queries.PostgreSql.schemas
    objects := fun
      | .tables => Queries.PostgreSql.tables
      | .views => Queries.PostgreSql.views
      | .functions => Queries.PostgreSql.functions
    columns := Queries.PostgreSql.columns
    relationships := Queries.PostgreSql.relationships
    tableCount := Queries.PostgreSql.tableCount
    databaseSize := Queries.PostgreSql.databaseSize
    activeSessions := Queries.PostgreSql.activeSessions
    largestTables := Queries.PostgreSql.largestTables
    tableTypes := Queries.PostgreSql.tableTypes }
  | .mySql => {
    databases := Queries.MySql.databases
    schemas := none
    objects := fun
      | .tables => Queries.MySql.tables
      | .views => Queries.MySql.views
      | .functions => Queries.MySql.functions
    columns := Queries.MySql.columns
    relationships := Queries.MySql.relationships
    tableCount := Queries.MySql.tableCount
    databaseSize := Queries.MySql.databaseSize
    activeSessions := Queries.MySql.activeSessions
    largestTables := Queries.MySql.largestTables
    tableTypes := Queries.MySql.tableTypes }
  | .sqlServer => {
    databases := Queries.SqlServer.databases
    schemas := some Queries.SqlServer.schemas
    objects := fun
      | .tables => Queries.SqlServer.tables
      | .views => Queries.SqlServer.views
      | .functions => Queries.SqlServer.functions
    columns := Queries.SqlServer.columns
    relationships := Queries.SqlServer.relationships
    tableCount := Queries.SqlServer.tableCount
    databaseSize := Queries.SqlServer.databaseSize
    activeSessions := Queries.SqlServer.activeSessions
    largestTables := Queries.SqlServer.largestTables
    tableTypes := Queries.SqlServer.tableTypes }

def nameParameter : Option String → Parameter
  | some name => .string name
  | none => .null

def schemaParameter (engine : Engine) (schema : Option String) : Parameter :=
  nameParameter (schema <|> engine.defaultSchema)

def columnParameters (engine : Engine) (schema : Option String) (table : String) :
    List Parameter :=
  match engine with
  | .postgres => [.string table, engine.schemaParameter schema]
  | .mySql | .sqlServer => [engine.schemaParameter schema, .string table]

end Engine

end SqlGateway
