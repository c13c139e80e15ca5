import SqlGateway.Connection.PoolLimits
import SqlGateway.Failure.Driver
import SqlGateway.Text.Alphanumeric
import SqlGateway.Text.Ranges

/-!
# Connection definitions

A definition holds all that is needed to open pools against one server. The password is used to log
in and for nothing else: neither the location nor the summary nor the JSON form nor the diagnostic
text shows it.
-/

namespace SqlGateway

open Json (Value Decoder Fields)

structure Definition where
  id : String
  engine : Engine
  host : String
  port : Option UInt16
  username : Option String
  password : Option String
  database : Option String
  showAllDatabases : Bool
  ssl : Bool
  trustServerCertificate : Bool
  limits : PoolLimits
deriving DecidableEq

inductive DefinitionProblem where
  | emptyId
  | invalidId (id : String)
  | emptyHost
deriving DecidableEq, Repr

def DefinitionProblem.message : DefinitionProblem → String
  | .emptyId => "Connection ID cannot be empty"
  | .invalidId id => "Connection ID contains invalid characters: " ++ id
  | .emptyHost => "Connection host cannot be empty"

namespace Definition

def isIdChar (character : Char) : Bool :=
  Text.isAlphanumeric character || character = '-' || character = '_'

def make (id : String) (engine : Engine) (host : String) :
    Except DefinitionProblem Definition :=
  if id = "" then .error .emptyId
  else if !id.toList.all isIdChar then .error (.invalidId id)
  else if Text.trimChars host.toList = [] then .error .emptyHost
  else .ok {
    id, engine, host, port := none, username := none, password := none, database := none,
    showAllDatabases := false, ssl := false, trustServerCertificate := false,
    limits := .standard }

def withPort (definition : Definition) (port : UInt16) : Definition :=
  { definition with port := some port }

def withCredentials (definition : Definition) (username : String) (password : Option String) :
    Definition :=
  { definition with username := some username, password }

def withDatabase (definition : Definition) (database : String) : Definition :=
  { definition with database := some database }

def effectivePort (definition : Definition) : UInt16 :=
  definition.port.getD definition.engine.defaultPort

def effectiveDatabase (definition : Definition) (asked : Option String) : Option String :=
  asked <|> definition.database

/-- What stands before the host of the location. A password shows as four stars. -/
def maskedCredentials (definition : Definition) : String :=
  match definition.username, definition.password with
  | some username, some _ => username ++ ":****@"
  | some username, none => username ++ "@"
  | none, _ => ""

def maskedLocation (definition : Definition) : String :=
  definition.engine.name ++ "://" ++ definition.maskedCredentials ++ definition.host ++ ":" ++
    toString definition.effectivePort.toNat ++ "/" ++ definition.database.getD ""

/-! ## JSON and text -/

def engineVariants : List (String × Engine) := Engine.all.map fun engine => (engine.name, engine)

def engineOfJson : Decoder Engine := Decoder.variant engineVariants Decoder.isNull

def checks : List Json.FieldCheck := [
  Json.fieldCheck "id" Decoder.string,
  Json.fieldCheck "engine" engineOfJson,
  Json.fieldCheck "host" Decoder.string,
  Json.fieldCheck "port" (Decoder.optional Decoder.uint16),
  Json.fieldCheck "username" (Decoder.optional Decoder.string),
  Json.fieldCheck "password" (Decoder.optional Decoder.string),
  Json.fieldCheck "database" (Decoder.optional Decoder.string),
  Json.fieldCheck "show_all_databases" Decoder.bool,
  Json.fieldCheck "ssl" Decoder.bool,
  Json.fieldCheck "trust_server_certificate" Decoder.bool,
  Json.fieldCheck "pool_options" PoolLimits.ofJson]

def ofFields (fields : Fields) : Except Json.DecodeError Definition := do
  let id ← fields.get 0 "id" Decoder.string .refused
  let engine ← fields.get 1 "engine" engineOfJson .refused
  let host ← fields.get 2 "host" Decoder.string .refused
  let port ← fields.get 3 "port" (Decoder.optional Decoder.uint16) (.anywhere none)
  let username ← fields.get 4 "username" (Decoder.optional Decoder.string) (.anywhere none)
  let password ← fields.get 5 "password" (Decoder.optional Decoder.string) (.anywhere none)
  let database ← fields.get 6 "database" (Decoder.optional Decoder.string) (.anywhere none)
  let showAllDatabases ← fields.get 7 "show_all_databases" Decoder.bool (.anywhere false)
  let ssl ← fields.get 8 "ssl" Decoder.bool (.anywhere false)
  let trustServerCertificate ←
    fields.get 9 "trust_server_certificate" Decoder.bool (.anywhere false)
  let limits ← fields.get 10 "pool_options" PoolLimits.ofJson (.anywhere .standard)
  return ⟨id, engine, host, port, username, password, database, showAllDatabases, ssl,
    trustServerCertificate, limits⟩

def ofJson : Decoder Definition := Json.record "ConnectionDefinition" checks ofFields

def optionalPort (port : Option UInt16) : Value :=
  match port with
  | some port => .ofNat port.toNat
  | none => .null

def toJson (definition : Definition) : Value :=
  .object [("id", .string definition.id), ("engine", .string definition.engine.name),
    ("host", .string definition.host), ("port", optionalPort definition.port),
    ("username", .ofText? definition.username), ("database", .ofText? definition.database),
    ("show_all_databases", .bool definition.showAllDatabases), ("ssl", .bool definition.ssl),
    ("trust_server_certificate", .bool definition.trustServerCertificate),
    ("pool_options", definition.limits.toJson)]

def describe (definition : Definition) : String :=
  let flag (value : Bool) : String := String.ofList (Json.boolChars value)
  "ConnectionDefinition \x7b id: " ++ Text.quoted definition.id ++ ", engine: " ++
    definition.engine.tag ++ ", location: " ++ Text.quoted definition.maskedLocation ++
    ", show_all_databases: " ++ flag definition.showAllDatabases ++ ", ssl: " ++
    flag definition.ssl ++ ", pool_options: " ++ definition.limits.describe ++ " \x7d"

end Definition

structure ConnectionSummary where
  id : String
  engine : Engine
  host : String
  port : UInt16
  database : Option String
  showAllDatabases : Bool
deriving DecidableEq, Repr

namespace ConnectionSummary

def ofDefinition (definition : Definition) : ConnectionSummary where
  id := definition.id
  engine := definition.engine
  host := definition.host
  port := definition.effectivePort
  database := definition.database
  showAllDatabases := definition.showAllDatabases

def toJson (summary : ConnectionSummary) : Value :=
  .object ([("id", .string summary.id), ("engine", .string summary.engine.name),
    ("host", .string summary.host), ("port", .ofNat summary.port.toNat)] ++
    (match summary.database with
    | some database => [("database", .string database)]
    | none => []) ++
    [("showAllDatabases", .bool summary.showAllDatabases)])

end ConnectionSummary

/-! ## Attempts to open a pool

A driver is given a limited time to open a pool. It opens one, gives up with a text of its own, or
is given up when the time is over.
-/

/-- What a driver comes to when it is asked to open a pool. -/
inductive Attempt where
  | opened
  | refused (text : String)
  | late
deriving DecidableEq, Repr

def Attempt.outcome (seconds : Nat) (definition : Definition) : Attempt → Except Failure Unit
  | .opened => .ok ()
  | .refused text => .error (connectFailure definition.engine text)
  | .late => .error (.timeout ("connecting to " ++ definition.maskedLocation) seconds)

end SqlGateway
