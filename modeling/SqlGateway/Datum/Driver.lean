import SqlGateway.Datum.Category
import SqlGateway.Datum.Kind
import SqlGateway.Text.Utf8

/-!
# Cells of PostgreSQL and MySQL

Rows come through a client library, of which only its part in reading a cell is known: it names the
type of a column, accepts or refuses the kinds that a cell is asked for, and reads a value of a kind
from what the server sent. The category of the type's name decides which kinds are asked for, one
after the other; a cell that has a value of none of them is shown as null.
-/

namespace SqlGateway

open Json (Value)

structure Driver where
  TypeInfo : Type
  typeName : TypeInfo → String
  /-- What a server sends for a value that is not null. -/
  Raw : Type
  /-- Whether a cell of a type can be asked for a kind. -/
  accepts : Kind → TypeInfo → Bool
  /-- The value of a kind, if what was sent stands for one. -/
  decode : (kind : Kind) → TypeInfo → Raw → Option kind.Denote

namespace Driver

structure Cell (driver : Driver) where
  type : driver.TypeInfo
  content : Option driver.Raw

namespace Cell

variable {driver : Driver} (cell : driver.Cell)

def typeName : String := driver.typeName cell.type

def request {α : Type} (accepted : Bool) (decode : driver.Raw → Option α) : Reading α :=
  match cell.content with
  | none => .absent
  | some raw => if accepted then ((decode raw).map .found).getD .refused else .refused

def get (kind : Kind) : Reading kind.Denote :=
  cell.request (driver.accepts kind cell.type) (driver.decode kind cell.type)

/-! ## Requests one after the other -/

def first? (kinds : List Kind) : Option Value :=
  kinds.findSome? fun kind => (cell.get kind).value?.map kind.toJson

def first (kinds : List Kind) : Value := (cell.first? kinds).getD .null

/-- Decimal numbers are read as texts from types of certain names, even where the library does not
accept them for texts. -/
def decimal (isDecimal : Bool) : Value :=
  ((cell.request isDecimal (driver.decode .text cell.type)).value?.map .string).getD .null

/-- The first of some whole-number types that holds the number tells it. -/
def integer (types : List IntegerType) (otherwise : Value) : Value :=
  match cell.get (.integer .int64) with
  | .absent => .null
  | .refused | .found _ => (cell.first? (types.map .integer)).getD otherwise

def temporal (kind : Kind) (otherwise : Value) : Value :=
  match cell.get kind with
  | .absent => .null
  | .found value => kind.toJson value
  | .refused => otherwise

/-! ## PostgreSQL -/

def postgresIntegers : List IntegerType := [.int16, .int32, .int64]

def postgresTemporal (typeName : String) : Kind :=
  match String.ofList (typeName.toList.map Char.toUpper) with
  | "TIMESTAMPTZ" => .instant
  | "TIMESTAMP" => .moment
  | "DATE" => .date
  | _ => .time

def postgresDecimal (typeName : String) : Bool :=
  TypeCategory.mentions ["numeric", "decimal"] typeName || TypeCategory.isOneOf ["money"] typeName

def postgres : Value :=
  match TypeCategory.ofTypeName cell.typeName .postgres with
  | .decimal => cell.decimal (postgresDecimal cell.typeName)
  | .integer => cell.integer postgresIntegers .null
  | .boolean => cell.first [.truth]
  | .float => cell.first [.double, .single]
  | .binary => cell.first [.octets]
  | .json => cell.first [.document]
  | .uuid => cell.first [.uuid]
  | .temporal => cell.temporal (postgresTemporal cell.typeName) .null
  | .text | .unknown => cell.first [.text]

/-! ## MySQL -/

def mySqlIntegers : List IntegerType :=
  [.int8, .int16, .int32, .int64, .uint8, .uint16, .uint32, .uint64]

def mySqlTemporal (typeName : String) : Kind :=
  match String.ofList (typeName.toList.map Char.toUpper) with
  | "TIMESTAMP" => .instant
  | "DATETIME" => .moment
  | "DATE" => .date
  | _ => .time

def mySqlDecimal (typeName : String) : Bool :=
  TypeCategory.mentions ["decimal", "numeric"] typeName

def looseText (octets : List UInt8) : Value :=
  match Text.Utf8.decode? octets with
  | some characters => .string (String.ofList characters)
  | none => .ofOctets octets

def mySqlText : Value :=
  match (cell.get .text).value? with
  | some text => .string text
  | none => ((cell.get .octets).value?.map looseText).getD .null

def mySql : Value :=
  match TypeCategory.ofTypeName cell.typeName .mySql with
  | .decimal => cell.decimal (mySqlDecimal cell.typeName)
  -- A whole number of display width one is a truth value.
  | .integer => cell.integer mySqlIntegers (cell.first [.truth])
  | .boolean => cell.first [.truth]
  | .float => cell.first [.double, .single]
  | .binary => cell.first [.octets]
  | .json => cell.first [.document]
  | .temporal => cell.temporal (mySqlTemporal cell.typeName) cell.mySqlText
  | .text | .unknown | .uuid => cell.mySqlText

end Cell

end Driver

end SqlGateway
