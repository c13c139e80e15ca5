import SqlGateway.Json.Writer

/-!
# Reading typed values out of JSON

A `Decoder` turns a JSON value into a value of a type or says why it does not fit. Records are read
from an object by names or from an array by position; the first member of the object that does not
fit decides the error, and missing fields are looked for afterwards in the order of the record.
-/

namespace SqlGateway.Json

inductive DecodeError where
  | missingField (name : String)
  | duplicateField (name : String)
  | invalidType (found : Value) (expected : String)
  | invalidValue (found : Value) (expected : String)
  | unknownVariant (name : String) (known : List String)
  | invalidLength (length : Nat) (expected : String)
deriving DecidableEq, Repr

def Value.describe : Value → String
  | .null => "null"
  | .bool value => "boolean `" ++ String.ofList (boolChars value) ++ "`"
  | .number (.integer value) => "integer `" ++ String.ofList (intChars value.value) ++ "`"
  | .number (.float value) => "floating point `" ++ floatLayout.render value ++ "`"
  | .string text => "string " ++ Text.quoted text
  | .array _ => "sequence"
  | .object _ => "map"

def alternatives (names : List String) : String :=
  match names.map fun name => "`" ++ name ++ "`" with
  | [only] => only
  | [first, second] => first ++ " or " ++ second
  | several => "one of " ++ ", ".intercalate several

namespace DecodeError

def message : DecodeError → String
  | .missingField name => "missing field `" ++ name ++ "`"
  | .duplicateField name => "duplicate field `" ++ name ++ "`"
  | .invalidType found expected =>
    "invalid type: " ++ found.describe ++ ", expected " ++ expected
  | .invalidValue found expected =>
    "invalid value: " ++ found.describe ++ ", expected " ++ expected
  | .unknownVariant name known =>
    "unknown variant `" ++ name ++ "`, expected " ++ alternatives known
  | .invalidLength length expected =>
    "invalid length " ++ toString length ++ ", expected " ++ expected

end DecodeError

abbrev Decoder (α : Type) := Value → Except DecodeError α

namespace Decoder

def value : Decoder Value := .ok

def string : Decoder String
  | .string text => .ok text
  | other => .error (.invalidType other "a string")

def bool : Decoder Bool
  | .bool value => .ok value
  | other => .error (.invalidType other "a boolean")

/-- A whole number below a limit; `expected` names its type. -/
def natBelow (limit : Nat) (expected : String) : Decoder Nat
  | .number (.integer integer) =>
    if 0 ≤ integer.value ∧ integer.value < limit then .ok integer.value.toNat
    else .error (.invalidValue (.ofInteger integer) expected)
  | other => .error (.invalidType other expected)

def uint8 : Decoder UInt8 := fun found => (natBelow UInt8.size "u8" found).map Nat.toUInt8

def uint16 : Decoder UInt16 := fun found => (natBelow UInt16.size "u16" found).map Nat.toUInt16

def uint32 : Decoder UInt32 := fun found => (natBelow UInt32.size "u32" found).map Nat.toUInt32

def uint64 : Decoder UInt64 := fun found => (natBelow UInt64.size "u64" found).map Nat.toUInt64

def optional {α : Type} (decoder : Decoder α) : Decoder (Option α)
  | .null => .ok none
  | found => (decoder found).map some

def list {α : Type} (decoder : Decoder α) : Decoder (List α)
  | .array items => items.mapM decoder
  | other => .error (.invalidType other "a sequence")

def entries {α : Type} (decoder : Decoder α) : Decoder (Entries α)
  | .object members =>
    (members.mapM fun member => (decoder member.2).map fun item => (member.1, item)).map
      Entries.ofList
  | other => .error (.invalidType other "a map")

/-- One of several names: as a text, or as an object with the name as its only member and nothing
under it. `isNothing` says what counts as nothing. -/
def variant {α : Type} (known : List (String × α)) (isNothing : Value → Bool) : Decoder α :=
  let ofName (name : String) : Except DecodeError α :=
    match Entries.lookup name known with
    | some item => .ok item
    | none => .error (.unknownVariant name (known.map Prod.fst))
  fun
  | .string name => ofName name
  | .object [(name, content)] =>
    match ofName name with
    | .error error => .error error
    | .ok item => if isNothing content then .ok item else .error (.invalidType content "unit")
  | .object members => .error (.invalidValue (.object members) "map with a single key")
  | other => .error (.invalidType other "string or map")

def isNull : Value → Bool
  | .null => true
  | _ => false

end Decoder

/-! ## Records -/

/-- The contents of a record: members by name, or values by position. -/
inductive Fields where
  | named (members : List (String × Value))
  | listed (items : List Value) (expected : String)

/-- What a field stands for when it is not given. -/
inductive Absence (α : Type) where
  | refused
  /-- A value for a missing member; a missing position is refused. -/
  | member (value : α)
  | anywhere (value : α)

namespace Fields

def get {α : Type} (fields : Fields) (index : Nat) (name : String) (decoder : Decoder α)
    (absence : Absence α) : Except DecodeError α :=
  match fields with
  | .named members =>
    match Entries.lookup name members, absence with
    | some found, _ => decoder found
    | none, .refused => .error (.missingField name)
    | none, .member value | none, .anywhere value => .ok value
  | .listed items expected =>
    match items[index]?, absence with
    | some found, _ => decoder found
    | none, .anywhere value => .ok value
    | none, .refused | none, .member _ => .error (.invalidLength index expected)

end Fields

abbrev FieldCheck := String × (Value → Except DecodeError Unit)

def fieldCheck {α : Type} (name : String) (decoder : Decoder α) : FieldCheck :=
  (name, fun found => (decoder found).map fun _ => ())

/-- Checks the known members in the order of the object. `seen` holds the names of those before: a
known member may come only once. -/
def checkMembersAfter (checks : List FieldCheck) (seen : List String) :
    List (String × Value) → Except DecodeError Unit
  | [] => .ok ()
  | (name, found) :: rest =>
    match Entries.lookup name checks with
    | none => checkMembersAfter checks seen rest
    | some check =>
      if name ∈ seen then .error (.duplicateField name)
      else
        match check found with
        | .error error => .error error
        | .ok () => checkMembersAfter checks (name :: seen) rest

def checkMembers (checks : List FieldCheck) (members : List (String × Value)) :
    Except DecodeError Unit :=
  checkMembersAfter checks [] members

def elements (count : Nat) : String :=
  toString count ++ (if count = 1 then " element" else " elements")

/-- Reads a record from an object or from an array. -/
def record {α : Type} (typeName : String) (checks : List FieldCheck)
    (build : Fields → Except DecodeError α) : Decoder α
  | .object members =>
    match checkMembers checks members with
    | .error error => .error error
    | .ok () => build (.named members)
  | .array items =>
    match build (.listed items ("struct " ++ typeName ++ " with " ++ elements checks.length)) with
    | .error error => .error error
    | .ok result =>
      if checks.length < items.length then
        .error (.invalidLength items.length "fewer elements in array")
      else .ok result
  | other => .error (.invalidType other ("struct " ++ typeName))

end SqlGateway.Json
