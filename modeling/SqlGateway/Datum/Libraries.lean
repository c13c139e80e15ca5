import SqlGateway.Datum.Basic
import SqlGateway.Datum.Driver
import SqlGateway.Datum.TextForm
import SqlGateway.Json.Writer

/-!
# Client libraries

`postgresTypes` and `mySqlTypes` list the types of which a cell has a value of some kind, by the
names that the client libraries give them. `Libraries.standard` are libraries that accept these
types and read the text forms of values.
-/

namespace SqlGateway

open Json (Value)

namespace Driver

/-! ## Types -/

def postgresTypes : Kind → List String
  | .integer .int16 => ["INT2"]
  | .integer .int32 => ["INT4"]
  | .integer .int64 => ["INT8"]
  | .integer _ => []
  | .truth => ["BOOL"]
  | .single => ["FLOAT4"]
  | .double => ["FLOAT8"]
  | .text => ["TEXT", "VARCHAR", "CHAR", "NAME", "UNKNOWN", "citext"]
  | .octets => ["BYTEA"]
  | .document => ["JSON", "JSONB"]
  | .uuid => ["UUID"]
  | .date => ["DATE"]
  | .time => ["TIME"]
  | .moment => ["TIMESTAMP"]
  | .instant => ["TIMESTAMPTZ"]

def signedTypes : List String := ["TINYINT", "SMALLINT", "MEDIUMINT", "INT", "BIGINT"]

def unsignedTypes : List String := signedTypes.map (· ++ " UNSIGNED")

def characterTypes : List String :=
  ["CHAR", "VARCHAR", "TINYTEXT", "TEXT", "MEDIUMTEXT", "LONGTEXT", "ENUM", "SET"]

def binaryTypes : List String :=
  ["BINARY", "VARBINARY", "TINYBLOB", "BLOB", "MEDIUMBLOB", "LONGBLOB"]

/-- A whole number of any type of MySQL can be asked for as a truth value. -/
def mySqlTypes : Kind → List String
  | .integer .int8 | .integer .int16 | .integer .int32 | .integer .int64 => signedTypes
  | .integer .uint8 | .integer .uint16 | .integer .uint32 | .integer .uint64 => unsignedTypes
  | .truth => "BOOLEAN" :: (signedTypes ++ unsignedTypes)
  | .single | .double => ["FLOAT", "DOUBLE"]
  | .text => characterTypes
  | .octets => characterTypes ++ binaryTypes
  | .document => ["JSON"]
  | .uuid => []
  | .date => ["DATE"]
  | .time => ["TIME"]
  | .moment => ["DATETIME"]
  | .instant => ["TIMESTAMP"]

end Driver

/-! ## Values -/

def Datum.typed? : (kind : Kind) → Datum → Option kind.Denote
  | .integer type, .integer value => type.ofInt? value.value
  | .truth, .bit value => some value
  | .single, .float value | .double, .float value => some value
  | .text, .text value => some value
  | .octets, .binary value => some value
  | _, _ => none

namespace Driver

/-- The name of a type of PostgreSQL by its name in the catalog. The type of one byte has the name
that texts of fixed length go by, in quotes. -/
def postgresName : String → String
  | "BPCHAR" => "CHAR"
  | "CHAR" => "\"CHAR\""
  | other => other

def standardPostgres : Driver where
  TypeInfo := String
  typeName := postgresName
  Raw := Datum
  accepts kind type := postgresName type ∈ postgresTypes kind
  decode kind _ datum :=
    match datum with
    | .octets octets => (TextForm.characters? octets).bind (TextForm.postgres? kind)
    | other => other.typed? kind

def standardMySql : Driver where
  TypeInfo := String
  typeName := id
  Raw := Datum
  accepts kind type := type ∈ mySqlTypes kind
  decode kind _ datum :=
    match datum with
    | .octets octets => TextForm.mySql? kind octets
    | other => other.typed? kind

end Driver

/-! ## Dates and times of SQL Server -/

def day1900 : Int := 693595

def ScaledTime.timeOfDay (time : ScaledTime) : Time.TimeOfDay :=
  .ofNanoseconds (time.units * Nat.pow 10 (9 - time.scale))

def DateTime2.moment (dateTime : DateTime2) : Time.Moment :=
  ⟨dateTime.days, dateTime.time.timeOfDay⟩

def DateTime.moment (dateTime : DateTime) : Time.Moment :=
  ⟨day1900 + dateTime.days, .ofNanoseconds (dateTime.ticks * 1000000000 / 300)⟩

def SmallDateTime.moment (dateTime : SmallDateTime) : Time.Moment :=
  ⟨day1900 + dateTime.days, ⟨dateTime.minutes * 60, 0⟩⟩

namespace Numeric

def filled (width : Nat) (number : Int) : List Char :=
  if number < 0 then '-' :: Number.paddedDigits (width - 1) number.natAbs
  else Number.paddedDigits width number.natAbs

/-- The whole part and the fraction, both cut off toward zero and both with their sign. -/
def text (number : Numeric) : String :=
  String.ofList (Json.intChars (number.unscaled.tdiv (Nat.pow 10 number.scale)) ++ '.' ::
    filled number.scale (number.unscaled.tmod (Nat.pow 10 number.scale)))

example : text ⟨-150, 2⟩ = "-1.-50" := by decide
example : text ⟨5, 2⟩ = "0.05" := by decide
example : text ⟨-1, 10⟩ = "0.-000000001" := by decide
example : text ⟨7, 0⟩ = "7.0" := by decide

end Numeric

def DataDriver.standard : DataDriver where
  get kind data :=
    match kind, data with
    | .moment, .dateTime (some value) => .found value.moment
    | .moment, .smallDateTime (some value) => .found value.moment
    | .moment, .dateTime2 (some value) => .found value.moment
    | .instant, .dateTimeOffset (some value) => .found value.universal.moment
    | .date, .date (some days) => .found (.ofDayNumber days)
    | .time, .time (some value) => .found value.timeOfDay
    | .moment, .dateTime none | .moment, .smallDateTime none | .moment, .dateTime2 none
    | .instant, .dateTimeOffset none | .date, .date none | .time, .time none => .absent
    | _, _ => .refused
  numericText := Numeric.text

end SqlGateway
