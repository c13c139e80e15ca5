import SqlGateway.Json.Decode

/-!
# Bound parameters

The value of a column or key is sent beside the statement. Whole numbers of the signed 64-bit type
stay whole; larger ones are sent as floating-point numbers, and arrays and objects as JSON.
-/

namespace SqlGateway

inductive Parameter where
  | null
  | bool (value : Bool)
  | int (value : Int64)
  | float (value : Number.Binary64)
  | string (value : String)
  | json (value : Json.Value)
deriving DecidableEq, Repr

namespace Parameter

open Json (Value)

def int64? (integer : Json.Integer) : Option Int64 :=
  if integer.value < 9223372036854775808 then some (Int64.ofInt integer.value) else none

def ofNumber : Json.Number → Parameter
  | .integer integer =>
    match int64? integer with
    | some value => .int value
    | none =>
      match Number.Binary64.ofNat integer.value.toNat with
      | some value => .float value
      | none => .string (String.ofList (Json.Number.integer integer).chars)
  | .float value => .float value

def ofJson : Value → Parameter
  | .null => .null
  | .bool value => .bool value
  | .number number => ofNumber number
  | .string text => .string text
  | .array items => .json (.array items)
  | .object members => .json (.object members)

def isNull : Parameter → Bool
  | .null => true
  | _ => false

def typeName : Parameter → String
  | .null => "null"
  | .bool _ => "bool"
  | .int _ => "int"
  | .float _ => "float"
  | .string _ => "string"
  | .json _ => "json"

def toJson : Parameter → Value
  | .null => .null
  | .bool value => .bool value
  | .int value => .ofInteger (.ofInt64 value)
  | .float value => .ofFloat value
  | .string text => .string text
  | .json value => value

/-! A parameter is read from JSON by trying one kind after the other; the last kind takes every
value as it is. -/

def readNull : Value → Option Parameter
  | .null => some .null
  | _ => none

def readBool : Value → Option Parameter
  | .bool value => some (.bool value)
  | _ => none

def readInt : Value → Option Parameter
  | .number (.integer integer) => (int64? integer).map .int
  | _ => none

def readFloat : Value → Option Parameter
  | .number (.integer integer) =>
    (Number.Binary64.ofRatio (integer.value < 0) integer.value.natAbs 1).map .float
  | .number (.float value) => some (.float value)
  | _ => none

def readString : Value → Option Parameter
  | .string text => some (.string text)
  | _ => none

def readJson (value : Value) : Option Parameter :=
  (Json.Decoder.value value).toOption.map .json

def readers : List (Value → Option Parameter) :=
  [readNull, readBool, readInt, readFloat, readString, readJson]

/-- The parameter of the first kind that fits a value, if one does. -/
def read? (value : Value) : Option Parameter := readers.findSome? fun reader => reader value

theorem isSome_read? (value : Value) : (read? value).isSome = true := by
  rw [read?, List.isSome_findSome?, List.any_eq_true]
  exact ⟨readJson, by simp [readers], rfl⟩

def read (value : Value) : Parameter := (read? value).get (isSome_read? value)

end Parameter

end SqlGateway
