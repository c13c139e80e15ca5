import SqlGateway.CommandLine.Arguments
import SqlGateway.Connection.Url

/-!
# Invocations

An invocation is a command line that was understood: the connections, the limits of waiting, and
the task to do.
-/

namespace SqlGateway.CommandLine

inductive OutputFormat where
  | json
  | table
deriving DecidableEq, Repr

namespace OutputFormat

def all : List OutputFormat := [.json, .table]

def name : OutputFormat → String
  | .json => "json"
  | .table => "table"

def ofName? (name : String) : Option OutputFormat := all.find? fun format => format.name = name

end OutputFormat

inductive Task where
  | tree (connection : String) (parent : Option String)
  | columns (connection node : String)
  | relationships (connection : String) (database schema : Option String)
  | metrics (connection : String) (database : Option String) (format : OutputFormat)
  | query (connection sql : String) (database : Option String) (format : OutputFormat)
  | createDatabase (connection name : String)
  | dropDatabase (connection name : String)
  | alter (connection schema table operations : String) (database : Option String)
  | updateRow (connection request : String)
  | payloadSchema
deriving DecidableEq, Repr

structure Invocation where
  /-- The connections as they were given. -/
  databases : List String
  queryTimeout : UInt64
  connectTimeout : UInt64
  logLevel : String
  jsonLogs : Bool
  task : Task
deriving DecidableEq, Repr

/-! ## The rules -/

def helpOption : OptionRule := ⟨"help", some 'h', .help⟩

def databaseOption : OptionRule := ⟨"database", none, .single .text⟩

def schemaOption : OptionRule := ⟨"schema", none, .single .text⟩

def formatOption : OptionRule :=
  ⟨"format", none, .single (.choice (OutputFormat.all.map OutputFormat.name))⟩

/-- The rules of a subcommand with a number of positional arguments, of which the last may be
missing if `optional`. -/
def rules (allowed : Nat) (optional : Bool) (options : List OptionRule) : Grammar :=
  ⟨helpOption :: options, if optional then allowed - 1 else allowed, allowed⟩

def program : Program where
  options := [helpOption, ⟨"version", some 'V', .version⟩, ⟨"database", some 'd', .several ','⟩,
    ⟨"query-timeout", none, .single .count⟩, ⟨"connect-timeout", none, .single .count⟩,
    ⟨"log-level", none, .single .text⟩, ⟨"json-logs", none, .flag⟩]
  subcommands := [
    ("tree", rules 2 true []),
    ("columns", rules 2 false []),
    ("relationships", rules 1 false [databaseOption, schemaOption]),
    ("metrics", rules 1 false [databaseOption, formatOption]),
    ("query", rules 2 false [databaseOption, formatOption]),
    ("create-database", rules 2 false []),
    ("drop-database", rules 2 false []),
    ("alter", rules 4 false [databaseOption]),
    ("update-row", rules 2 false []),
    ("payload-schema", rules 0 false [])]

/-! ## The meaning of what was found -/

def formatOf (found : Found) : OutputFormat :=
  ((found.value? "format").bind OutputFormat.ofName?).getD .json

def Task.ofFound? (name : String) (found : Found) : Option Task :=
  let database := found.value? "database"
  match name, found.positionals with
  | "tree", [connection] => some (.tree connection none)
  | "tree", [connection, parent] => some (.tree connection (some parent))
  | "columns", [connection, node] => some (.columns connection node)
  | "relationships", [connection] =>
    some (.relationships connection database (found.value? "schema"))
  | "metrics", [connection] => some (.metrics connection database (formatOf found))
  | "query", [connection, sql] => some (.query connection sql database (formatOf found))
  | "create-database", [connection, name] => some (.createDatabase connection name)
  | "drop-database", [connection, name] => some (.dropDatabase connection name)
  | "alter", [connection, schema, table, operations] =>
    some (.alter connection schema table operations database)
  | "update-row", [connection, request] => some (.updateRow connection request)
  | "payload-schema", [] => some .payloadSchema
  | _, _ => none

def secondsOf (found : Found) (name : String) (standard : UInt64) : UInt64 :=
  ((found.value? name).bind count?).getD standard

namespace Invocation

def ofWords (words : List String) : Except UsageProblem Invocation := do
  let (common, name, inner) ← program.read words
  match Task.ofFound? name inner with
  | none => .error .unknownSubcommand
  | some task =>
    return {
      databases := common.valuesOf "database"
      queryTimeout := secondsOf common "query-timeout" 30
      connectTimeout := secondsOf common "connect-timeout" 10
      logLevel := (common.value? "log-level").getD "warn"
      jsonLogs := common.has "json-logs"
      task }

def definitions (invocation : Invocation) : Except ConnectionProblem (List Definition) :=
  invocation.databases.mapM Definition.parse

end Invocation

end SqlGateway.CommandLine
