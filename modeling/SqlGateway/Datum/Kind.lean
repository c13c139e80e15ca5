import SqlGateway.Datum.Uuid
import SqlGateway.Json.Value
import SqlGateway.Text.Base64
import SqlGateway.Time.Writing

/-!
# What a cell can be asked for

A client library is asked for the value of a cell as a value of some kind. `Kind.Denote` gives the
values of each kind, and `Kind.toJson` the JSON value that stands for them.
-/

namespace SqlGateway

open Number (FloatReading)

inductive IntegerType where
  | int8
  | int16
  | int32
  | int64
  | uint8
  | uint16
  | uint32
  | uint64
deriving DecidableEq, Repr

namespace IntegerType

def least : IntegerType → Int
  | .int8 => -128
  | .int16 => -32768
  | .int32 => -2147483648
  | .int64 => -9223372036854775808
  | .uint8 | .uint16 | .uint32 | .uint64 => 0

def greatest : IntegerType → Int
  | .int8 => 127
  | .int16 => 32767
  | .int32 => 2147483647
  | .int64 => 9223372036854775807
  | .uint8 => 255
  | .uint16 => 65535
  | .uint32 => 4294967295
  | .uint64 => 18446744073709551615

structure Member (type : IntegerType) where
  value : Int
  bounds : type.least ≤ value ∧ value ≤ type.greatest
deriving DecidableEq, Repr

def ofInt? (type : IntegerType) (value : Int) : Option type.Member :=
  if bounds : type.least ≤ value ∧ value ≤ type.greatest then some ⟨value, bounds⟩ else none

theorem value_of_ofInt? {type : IntegerType} {value : Int} {member : type.Member}
    (found : type.ofInt? value = some member) : member.value = value := by
  rw [ofInt?] at found
  split at found
  · exact congrArg Member.value (Option.some.inj found).symm
  · cases found

theorem bounds (type : IntegerType) :
    -9223372036854775808 ≤ type.least ∧ type.greatest < 18446744073709551616 := by
  cases type <;> decide

def Member.toInteger {type : IntegerType} (member : type.Member) : Json.Integer :=
  ⟨member.value, by have := type.bounds; have := member.bounds; omega⟩

theorem toInteger_of_ofInt? {type : IntegerType} {number : Json.Integer} {member : type.Member}
    (found : type.ofInt? number.value = some member) : member.toInteger = number := by
  cases number with
  | mk value bounds =>
    have same := value_of_ofInt? found
    subst same
    rfl

end IntegerType

inductive Kind where
  | integer (type : IntegerType)
  | truth
  | single
  | double
  | text
  | octets
  | document
  | uuid
  | date
  | time
  /-- A day and a time whose zone is not told. -/
  | moment
  /-- A day and a time of universal time. -/
  | instant
deriving DecidableEq, Repr

/-- The values of a kind. A number of single precision is given as the number of double precision
that it equals. -/
def Kind.Denote : Kind → Type
  | .integer type => type.Member
  | .truth => Bool
  | .single | .double => FloatReading
  | .text => String
  | .octets => List UInt8
  | .document => Json.Value
  | .uuid => Uuid
  | .date => Time.Date
  | .time => Time.TimeOfDay
  | .moment | .instant => Time.Moment

namespace Json.Value

def ofReading : FloatReading → Value
  | .finite value => .ofFloat value
  | .infinite negative => .string (if negative then "-inf" else "inf")
  | .undefined => .string "NaN"

def ofOctets (octets : List UInt8) : Value := .string (Text.Base64.encode octets)

end Json.Value

def Kind.toJson : (kind : Kind) → kind.Denote → Json.Value
  | .integer _, value => .ofInteger value.toInteger
  | .truth, value => .bool value
  | .single, value | .double, value => .ofReading value
  | .text, value => .string value
  | .octets, value => .ofOctets value
  | .document, value => value
  | .uuid, value => .string value.text
  | .date, value => .string value.text
  | .time, value => .string value.text
  | .moment, value => .string value.text
  | .instant, value => .string value.universalText

inductive Reading (α : Type) where
  /-- The cell has no value of the kind. -/
  | refused
  /-- The cell is null. -/
  | absent
  | found (value : α)

def Reading.value? {α : Type} : Reading α → Option α
  | .refused | .absent => none
  | .found value => some value

end SqlGateway
