import SqlGateway.Datum.Kind

/-!
# Cells of SQL Server

The client library hands a cell over as data of its own type, with a null of each type. Dates and
times are asked of the library again, as values of a kind; all other data show their value
themselves.
-/

namespace SqlGateway

open Json (Value)
open Number (FloatReading)

/-- A whole number to be divided by ten, `scale` times. -/
structure Numeric where
  unscaled : Int
  scale : Nat
deriving DecidableEq, Repr

/-- A day from the first of 1900 and a time in three hundredths of a second. -/
structure DateTime where
  days : Int
  ticks : Nat
deriving DecidableEq, Repr

structure SmallDateTime where
  days : Nat
  minutes : Nat
deriving DecidableEq, Repr

/-- A time in units of which `10 ^ scale` make a second. -/
structure ScaledTime where
  units : Nat
  scale : Nat
deriving DecidableEq, Repr

structure DateTime2 where
  days : Nat
  time : ScaledTime
deriving DecidableEq, Repr

/-- A moment of universal time and the offset, in minutes, under which it was stored. -/
structure DateTimeOffset where
  universal : DateTime2
  offset : Int
deriving DecidableEq, Repr

inductive ColumnData where
  | uint8 (value : Option (IntegerType.Member .uint8))
  | int16 (value : Option (IntegerType.Member .int16))
  | int32 (value : Option (IntegerType.Member .int32))
  | int64 (value : Option (IntegerType.Member .int64))
  | float32 (value : Option FloatReading)
  | float64 (value : Option FloatReading)
  | bit (value : Option Bool)
  | string (value : Option String)
  | guid (value : Option Uuid)
  | binary (value : Option (List UInt8))
  | numeric (value : Option Numeric)
  | xml (value : Option String)
  | dateTime (value : Option DateTime)
  | smallDateTime (value : Option SmallDateTime)
  | time (value : Option ScaledTime)
  | date (value : Option Nat)
  | dateTime2 (value : Option DateTime2)
  | dateTimeOffset (value : Option DateTimeOffset)
deriving DecidableEq, Repr

/-- What the client library tells of a cell beyond its data. -/
structure DataDriver where
  get : (kind : Kind) → ColumnData → Reading kind.Denote
  numericText : Numeric → String

namespace DataDriver

variable (driver : DataDriver)

def valueAs (kind : Kind) (data : ColumnData) : Value :=
  ((driver.get kind data).value?.map kind.toJson).getD .null

def plain : ColumnData → Value
  | .bit (some value) => .bool value
  | .uint8 (some value) => .ofInteger value.toInteger
  | .int16 (some value) => .ofInteger value.toInteger
  | .int32 (some value) => .ofInteger value.toInteger
  | .int64 (some value) => .ofInteger value.toInteger
  | .float32 (some value) => .ofReading value
  | .float64 (some value) => .ofReading value
  | .numeric (some value) => .string (driver.numericText value)
  | .string (some value) => .string value
  | .guid (some value) => .string value.text
  | .binary (some value) => .ofOctets value
  | .xml (some value) => .string value
  | _ => .null

def value (data : ColumnData) : Value :=
  match data with
  | .dateTime (some _) | .smallDateTime (some _) | .dateTime2 (some _) =>
    driver.valueAs .moment data
  | .dateTimeOffset (some _) => driver.valueAs .instant data
  | .date (some _) => driver.valueAs .date data
  | .time (some _) => driver.valueAs .time data
  | other => driver.plain other

end DataDriver

end SqlGateway
