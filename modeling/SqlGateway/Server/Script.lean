import SqlGateway.Connection.Definition
import SqlGateway.Server.Backend
import SqlGateway.Text.Split

/-!
# Scripted servers

A script is a list of rules that say how a server answers. A statement uses the first rule whose
part occurs in it and that has uses left; a statement without a rule affects no rows. What a server
was sent is kept in the state, so that a session can be looked at afterwards.
-/

namespace SqlGateway.Script

open Json (Value)

inductive Answer where
  | rows (columns : List Column) (cells : List (List Value))
  | affected (rows : UInt64)
  /-- The words with which a statement is reported complete. -/
  | tag (words : String)
  /-- The answer to an empty text. -/
  | nothing

structure Refusal where
  code : String
  number : Nat
  message : String
deriving DecidableEq, Repr

inductive Description where
  | columns (names : List String)
  | refused (refusal : Refusal)
deriving DecidableEq, Repr

structure Rule where
  part : String
  /-- How often the rule can still be used, if that is limited. -/
  uses : Option Nat
  answers : List Answer
  refusal : Option Refusal
  description : Option Description
  silent : Bool

inductive Login where
  | granted
  | refused (refusal : Refusal)
  | silent
deriving DecidableEq, Repr

inductive Link where
  | up
  | unreachable
deriving DecidableEq, Repr

structure Sent where
  database : Option String
  sql : String
  parameters : Option (List Parameter)

/-- What does not change while a script runs. -/
structure Scene where
  link : Link
  login : Login
  /-- How long opening a pool may take. -/
  connectMilliseconds : Nat

structure State where
  rules : List Rule
  /-- What was sent, the latest first. -/
  sent : List Sent

/-! ## Cells -/

def hexOctets (text : String) : List UInt8 := (TextForm.hexOctets? text.toList).getD []

def textDatum : Value → Datum
  | .null => .null
  | .string text => .octets (Text.Utf8.encode text.toList)
  | .object [("hex", .string digits)] => .octets (hexOctets digits)
  | .bool value => .octets (Text.Utf8.encode (if value then ['t'] else ['f']))
  | other => .octets (Text.Utf8.encode other.compact.toList)

def preparedDatum : Value → Datum
  | .null => .null
  | .string text => .text text
  | .object [("hex", .string digits)] => .binary (hexOctets digits)
  | .bool value => .bit value
  | .number (.integer value) => .integer value
  | .number (.float value) => .float (.finite value)
  | other => .text other.compact

/-- The name of a type and the number in brackets behind it: the last one, if there are two. -/
def typeParts (typeName : String) : String × Nat :=
  match Text.cut '(' typeName.toList with
  | none => (typeName, 0)
  | some (name, arguments) =>
    let last := ((Text.pieces ',' arguments).getLast?.getD []).filter Char.isDigit
    (String.ofList name, Text.digitsValue last)

def integerOf : Value → Int
  | .number (.integer value) => value.value
  | _ => 0

def integersOf : Value → List Int
  | .array items => items.map integerOf
  | other => [integerOf other]

def readingOf (format : Number.BinaryFormat) : Value → Option Number.FloatReading
  | .string "NaN" => some .undefined
  | .string "inf" => some (.infinite false)
  | .string "-inf" => some (.infinite true)
  | other => TextForm.float? format other.compact

def moneyOf (count : Int) : Option Number.FloatReading := do
  let magnitude ← Number.Binary64.ofNat count.natAbs
  let unit ← Number.Binary64.ofNat 10000
  let value ← magnitude.div unit
  return .finite { value with negative := count < 0 }

def integerData (name : String) (value : Int) : ColumnData :=
  match name with
  | "tinyint" => .uint8 (IntegerType.uint8.ofInt? value)
  | "smallint" => .int16 (IntegerType.int16.ofInt? value)
  | "int" => .int32 (IntegerType.int32.ofInt? value)
  | _ => .int64 (IntegerType.int64.ofInt? value)

/-- Data whose type the cell tells, but for the size of whole numbers. -/
def plainData (name : String) : Value → ColumnData
  | .null => .string none
  | .string text => .string (some text)
  | .object [("hex", .string digits)] => .binary (some (hexOctets digits))
  | .bool value => .bit (some value)
  | .number (.integer value) => integerData name value.value
  | .number (.float value) => .float64 (some (.finite value))
  | other => .string (some other.compact)

def columnData (name : String) (scale : Nat) (cell : Value) : ColumnData :=
  match name, integersOf cell with
  | "real", _ => .float32 (readingOf .single cell)
  | "float", _ => .float64 (readingOf .double cell)
  | "money", [count] | "smallmoney", [count] => .float64 (moneyOf count)
  | "decimal", _ | "numeric", _ =>
    match cell with
    | .string digits => .numeric (some ⟨digits.toInt?.getD 0, scale⟩)
    | other => .numeric (some ⟨integerOf other, scale⟩)
  | "datetime", [day, ticks] => .dateTime (some ⟨day, ticks.toNat⟩)
  | "smalldatetime", [day, minutes] => .smallDateTime (some ⟨day.toNat, minutes.toNat⟩)
  | "date", [day] => .date (some day.toNat)
  | "time", [units] => .time (some ⟨units.toNat, scale⟩)
  | "datetime2", [day, units] => .dateTime2 (some ⟨day.toNat, units.toNat, scale⟩)
  | "datetimeoffset", [day, units, offset] =>
    .dateTimeOffset (some ⟨⟨day.toNat, units.toNat, scale⟩, offset⟩)
  | "uniqueidentifier", _ =>
    match cell with
    | .string text => .guid (TextForm.uuid? text)
    | _ => .guid none
  | "xml", _ =>
    match cell with
    | .string text => .xml (some text)
    | _ => .xml none
  | _, _ => plainData name cell

def columnDatum (typeName : String) (cell : Value) : Datum :=
  let (name, scale) := typeParts typeName
  match cell with
  | .null => .null
  | _ => .column (columnData name scale cell)

def datum (engine : Engine) (prepared : Bool) (typeName : String) (cell : Value) : Datum :=
  match engine with
  | .sqlServer => columnDatum typeName cell
  | .postgres | .mySql => if prepared then preparedDatum cell else textDatum cell

/-! ## Answers -/

/-- The number behind the last blank of a tag, zero if there is none below 2 ^ 64. -/
def tagCount (words : String) : UInt64 :=
  match (Text.pieces ' ' words.toList).getLast? with
  | none | some [] => 0
  | some last =>
    let count := Text.digitsValue (last.takeWhile Char.isDigit)
    if ' ' ∈ words.toList ∧ count < UInt64.size then count.toUInt64 else 0

/-- The items of an answer. PostgreSQL counts the rows that it returns. -/
def Answer.items (engine : Engine) (prepared : Bool) : Answer → List BatchItem
  | .rows columns cells =>
    let rows := cells.map fun cells =>
      BatchItem.row ⟨columns.zipWith (fun column cell =>
        (column, datum engine prepared column.typeName cell)) cells⟩
    match engine with
    | .sqlServer => .columns (columns.map Column.name) :: rows
    | .postgres => rows ++ [.completed cells.length.toUInt64]
    | .mySql => rows ++ [.completed 0]
  | .affected count => [.completed count]
  | .tag words => [.completed (tagCount words)]
  | .nothing => []

def Refusal.failure (engine : Engine) (refusal : Refusal) : Failure :=
  match engine with
  | .postgres | .mySql =>
    (ClientFault.server refusal.message (some refusal.code)).toFailure
  | .sqlServer => (TdsFault.server refusal.message refusal.number).toFailure

def Rule.reply (engine : Engine) (prepared : Bool) (rule : Rule) : Reply :=
  if rule.silent then ⟨[], .silent⟩
  else
    ⟨rule.answers.flatMap (Answer.items engine prepared),
      match rule.refusal with
      | none => .complete
      | some refusal => .failed (refusal.failure engine)⟩

def Rule.describe (engine : Engine) (rule : Rule) : Except Failure (List String) :=
  match rule.description, rule.refusal, rule.answers with
  | some (.columns names), _, _ => .ok names
  | some (.refused refusal), _, _ => .error (refusal.failure engine)
  | none, some refusal, _ => .error (refusal.failure engine)
  | none, none, [.rows columns _] => .ok (columns.map Column.name)
  | none, none, [] | none, none, [_] => .ok []
  | none, none, _ :: _ :: _ =>
    .error (ClientFault.server "cannot insert multiple commands into a prepared statement"
      (some "42601")).toFailure

/-! ## Rules -/

def Rule.applies (sql : String) (rule : Rule) : Bool :=
  rule.uses ≠ some 0 && Text.occurs rule.part sql

def Rule.use (rule : Rule) : Rule := { rule with uses := rule.uses.map (· - 1) }

/-- The rule that a statement uses, and the rules after that. -/
def take (sql : String) : List Rule → Option Rule × List Rule
  | [] => (none, [])
  | rule :: rest =>
    if rule.applies sql then (some rule, rule.use :: rest)
    else
      let (found, rest) := take sql rest
      (found, rule :: rest)

def replyOf (engine : Engine) (prepared : Bool) : Option Rule → Reply
  | none => ⟨[.completed 0], .complete⟩
  | some rule => rule.reply engine prepared

def describeBy (engine : Engine) : Option Rule → Except Failure (List String)
  | none => .ok []
  | some rule => rule.describe engine

def run (pool : Pool) (prepared : Bool) (sql : String) (parameters : Option (List Parameter))
    (state : State) : Reply × State :=
  let (rule, rules) := take sql state.rules
  (replyOf pool.engine prepared rule, ⟨rules, ⟨pool.database, sql, parameters⟩ :: state.sent⟩)

/-- Runs a statement with parameters. All but SQL Server prepare it first, and one that cannot be
prepared is not sent. -/
def execute (pool : Pool) (sql : String) (parameters : List Parameter) (state : State) :
    Reply × State :=
  match pool.engine with
  | .sqlServer => run pool true sql (some parameters) state
  | .postgres | .mySql =>
    match describeBy pool.engine (take sql state.rules).1 with
    | .error failure => (⟨[], .failed failure⟩, state)
    | .ok _ => run pool true sql (some parameters) state

/-! ## Connecting -/

/-- When trying again is given up, in milliseconds: attempts are repeated after pauses that double
up to half of the limit, until one fails behind the limit. -/
def lastAttempt (limit : Nat) : Nat → Nat → Nat → Nat
  | 0, time, _ => time
  | fuel + 1, time, pause =>
    if limit < time then time
    else
      let pause := min (limit / 2) (max 200 pause * 2)
      lastAttempt limit fuel (time + pause) pause

def unreachableText : String := "Network is unreachable (os error 101)"

def Refusal.loginText (engine : Engine) (refusal : Refusal) : String :=
  (ClientFault.server
    (match engine with
    | .mySql => toString refusal.number ++ " (" ++ refusal.code ++ "): " ++ refusal.message
    | .postgres | .sqlServer => refusal.message) none).message

def encryptionText : String :=
  (ClientFault.tls
    ("TLS upgrade required by connect options but SQLx was built without " ++
      "TLS support enabled")).message

/-- What an attempt comes to whose sessions all fail with a text. SQL Server's tries again until it
is given up or too late. -/
def Scene.refused (scene : Scene) (definition : Definition) (text : String) : Attempt :=
  match definition.engine with
  | .postgres | .mySql => .refused text
  | .sqlServer =>
    let limit := definition.limits.acquireSeconds.toNat * 1000
    if limit < scene.connectMilliseconds && lastAttempt limit 64 1 0 < scene.connectMilliseconds
    then .refused text
    else .late

def Scene.waited (scene : Scene) (definition : Definition) : Attempt :=
  match definition.engine with
  | .sqlServer => .late
  | .postgres | .mySql =>
    if definition.limits.acquireSeconds.toNat * 1000 < scene.connectMilliseconds then
      .refused ClientFault.poolTimeout.message
    else .late

def Scene.attempt (scene : Scene) (definition : Definition) : Attempt :=
  match scene.link with
  | .unreachable =>
    scene.refused definition
      (match definition.engine with
      | .sqlServer => unreachableText
      | .postgres | .mySql => (ClientFault.io unreachableText).message)
  | .up =>
    if definition.ssl && definition.engine ≠ .sqlServer then
      scene.refused definition encryptionText
    else
      match scene.login with
      | .granted => .opened
      | .refused refusal => scene.refused definition (refusal.loginText definition.engine)
      | .silent => scene.waited definition

def Scene.connect (scene : Scene) (definition : Definition) : Except Failure Unit :=
  (scene.attempt definition).outcome (scene.connectMilliseconds / 1000) definition

def backend (scene : Scene) (querySeconds : Nat) : Backend State where
  connect := fun definition _ state => (scene.connect definition, state)
  close := fun _ state => (true, state)
  batch := fun pool sql state => run pool false sql none state
  execute
  describe := fun pool sql state =>
    ((describeBy pool.engine (take sql state.rules).1).toOption, state)
  querySeconds

/-! ## What was sent -/

def Sent.databaseName (engine : Engine) (sent : Sent) : String :=
  match sent.database, engine with
  | some database, _ => database
  | none, .postgres => "postgres"
  | none, .mySql | none, .sqlServer => "<none>"

def sentParameter (engine : Engine) : Parameter → String × Value
  | .null =>
    (match engine with
    | .postgres => "TEXT"
    | .mySql => "NULL"
    | .sqlServer => "null", .null)
  | .bool value =>
    (match engine with
    | .postgres => "BOOL"
    | .mySql => "BOOLEAN"
    | .sqlServer => "bit", .bool value)
  | .int value =>
    (match engine with
    | .postgres => "INT8"
    | .mySql => "BIGINT"
    | .sqlServer => "bigint", .ofInteger (.ofInt64 value))
  | .float value =>
    (match engine with
    | .postgres => "FLOAT8"
    | .mySql => "DOUBLE"
    | .sqlServer => "float", .ofFloat value)
  | .string text =>
    (match engine with
    | .postgres => "TEXT"
    | .mySql => "VARCHAR"
    | .sqlServer => "nvarchar", .string text)
  | .json value =>
    (match engine with
    | .postgres => "JSONB"
    | .mySql => "VARCHAR"
    | .sqlServer => "nvarchar", .string value.compact)

end SqlGateway.Script
