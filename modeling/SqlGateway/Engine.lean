import SqlGateway.Text.Fold

/-!
# Database engines

Everything that only depends on the kind of server: its names, its port, the schema and database
that stand in when none is given, and whether databases sit above schemas.
-/

namespace SqlGateway

inductive Engine where
  | postgres
  | mySql
  | sqlServer
deriving DecidableEq, Repr, Inhabited

namespace Engine

def all : List Engine := [.postgres, .mySql, .sqlServer]

def name : Engine → String
  | .postgres => "postgres"
  | .mySql => "mysql"
  | .sqlServer => "mssql"

def tag : Engine → String
  | .postgres => "Postgres"
  | .mySql => "MySql"
  | .sqlServer => "MsSql"

def displayName : Engine → String
  | .postgres => "PostgreSQL"
  | .mySql => "MySQL"
  | .sqlServer => "SQL Server"

def defaultPort : Engine → UInt16
  | .postgres => 5432
  | .mySql => 3306
  | .sqlServer => 1433

def ofName? (name : String) : Option Engine := all.find? fun engine => engine.name = name

def ofScheme? (scheme : String) : Option Engine :=
  match Text.lowerAscii scheme with
  | "postgres" | "postgresql" => some .postgres
  | "mysql" | "mariadb" => some .mySql
  | "mssql" | "sqlserver" => some .sqlServer
  | _ => none

/-- The schema assumed when none is given. On MySQL the database is the schema. -/
def defaultSchema : Engine → Option String
  | .postgres => some "public"
  | .mySql => none
  | .sqlServer => some "dbo"

/-- The database to connect to while another one is administered. -/
def maintenanceDatabase : Engine → Option String
  | .postgres => some "postgres"
  | .mySql => none
  | .sqlServer => some "master"

def hasDatabaseLevel : Engine → Bool
  | .mySql => false
  | .postgres | .sqlServer => true

theorem ofName?_name (engine : Engine) : ofName? engine.name = some engine := by
  cases engine <;> decide

end Engine

end SqlGateway
