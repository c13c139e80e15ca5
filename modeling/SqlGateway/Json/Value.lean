import SqlGateway.Entries
import SqlGateway.Number.Layout

/-!
# JSON values

Objects keep the order of their members. A whole number keeps its value as long as it fits one of
the two 64-bit integer types; every other number is a floating-point number.
-/

namespace SqlGateway.Json

/-- A whole number of one of the two 64-bit integer types: from minus two to the power of 63 to
below two to the power of 64. -/
structure Integer where
  value : Int
  bounds : -9223372036854775808 ≤ value ∧ value < 18446744073709551616
deriving DecidableEq, Repr

namespace Integer

def ofInt? (value : Int) : Option Integer :=
  if bounds : -9223372036854775808 ≤ value ∧ value < 18446744073709551616 then
    some ⟨value, bounds⟩
  else none

def ofUInt64 (value : UInt64) : Integer :=
  ⟨value.toNat, by have := value.toNat_lt; omega⟩

def ofInt64 (value : Int64) : Integer :=
  ⟨value.toInt, by have := value.le_toInt; have := value.toInt_lt; omega⟩

instance : Inhabited Integer := ⟨⟨0, by decide⟩⟩

end Integer

inductive Number where
  | integer (value : Integer)
  | float (value : Number.Binary64)
deriving DecidableEq, Repr

inductive Value where
  | null
  | bool (value : Bool)
  | number (value : Number)
  | string (value : String)
  | array (items : List Value)
  | object (members : List (String × Value))
deriving Repr, Inhabited

namespace Value

mutual
def decideEq : (left right : Value) → Decidable (left = right)
  | .null, .null => isTrue rfl
  | .bool left, .bool right =>
    if equal : left = right then isTrue (by rw [equal]) else isFalse (by simp [equal])
  | .number left, .number right =>
    if equal : left = right then isTrue (by rw [equal]) else isFalse (by simp [equal])
  | .string left, .string right =>
    if equal : left = right then isTrue (by rw [equal]) else isFalse (by simp [equal])
  | .array left, .array right =>
    match decideEqItems left right with
    | isTrue equal => isTrue (by rw [equal])
    | isFalse different => isFalse (by simp [different])
  | .object left, .object right =>
    match decideEqMembers left right with
    | isTrue equal => isTrue (by rw [equal])
    | isFalse different => isFalse (by simp [different])
  | .null, .bool _ | .null, .number _ | .null, .string _ | .null, .array _ | .null, .object _
  | .bool _, .null | .bool _, .number _ | .bool _, .string _ | .bool _, .array _
  | .bool _, .object _ | .number _, .null | .number _, .bool _ | .number _, .string _
  | .number _, .array _ | .number _, .object _ | .string _, .null | .string _, .bool _
  | .string _, .number _ | .string _, .array _ | .string _, .object _ | .array _, .null
  | .array _, .bool _ | .array _, .number _ | .array _, .string _ | .array _, .object _
  | .object _, .null | .object _, .bool _ | .object _, .number _ | .object _, .string _
  | .object _, .array _ => isFalse (by simp)

def decideEqItems : (left right : List Value) → Decidable (left = right)
  | [], [] => isTrue rfl
  | [], _ :: _ => isFalse (by simp)
  | _ :: _, [] => isFalse (by simp)
  | left :: lefts, right :: rights =>
    match decideEq left right, decideEqItems lefts rights with
    | isTrue equal, isTrue equals => isTrue (by rw [equal, equals])
    | isFalse different, _ => isFalse (by simp [different])
    | _, isFalse different => isFalse (by simp [different])

def decideEqMembers : (left right : List (String × Value)) → Decidable (left = right)
  | [], [] => isTrue rfl
  | [], _ :: _ => isFalse (by simp)
  | _ :: _, [] => isFalse (by simp)
  | (leftName, left) :: lefts, (rightName, right) :: rights =>
    if sameName : leftName = rightName then
      match decideEq left right, decideEqMembers lefts rights with
      | isTrue equal, isTrue equals => isTrue (by rw [sameName, equal, equals])
      | isFalse different, _ => isFalse (by simp [different])
      | _, isFalse different => isFalse (by simp [different])
    else isFalse (by simp [sameName])
end

instance : DecidableEq Value := decideEq

/-! Short forms for the values that the library writes. -/

def ofInteger (value : Integer) : Value := .number (.integer value)

def ofUInt64 (value : UInt64) : Value := ofInteger (.ofUInt64 value)

def ofNat (value : Nat) : Value := ofInteger ((Integer.ofInt? value).getD default)

def ofFloat (value : Number.Binary64) : Value := .number (.float value)

def ofText? : Option String → Value
  | some text => .string text
  | none => .null

def ofEntries (entries : Entries Value) : Value := .object entries.toList

def member? (name : String) : Value → Option Value
  | .object members => Entries.lookup name members
  | _ => none

end Value

end SqlGateway.Json
