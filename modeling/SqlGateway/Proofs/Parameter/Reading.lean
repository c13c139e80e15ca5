import SqlGateway.Parameter
import SqlGateway.Proofs.Number.Wide

/-!
# Parameters of JSON values

There are two ways from a JSON value to a parameter: by the kind of the value, and by trying one
kind of parameter after the other. The second one never fails, and both give the same parameter
(`read?_eq_ofJson`). The parameter shows the value again, unless the value is a whole number above
those of the signed 64-bit type, which is sent as a floating-point number.
-/

namespace SqlGateway.Parameter

open Json (Value)
open Number (Binary64 IsNearest)

def IsWide : Value → Prop
  | .number (.integer integer) => 9223372036854775807 < integer.value
  | _ => False

instance : DecidablePred IsWide
  | .number (.integer integer) => inferInstanceAs (Decidable (_ < integer.value))
  | .number (.float _) | .null | .bool _ | .string _ | .array _ | .object _ =>
    inferInstanceAs (Decidable False)

/-- The floating-point number that a number is sent as: itself, or the nearest multiple of 2048 for
a whole number that is too wide. -/
inductive SentAs : Json.Number → Binary64 → Prop
  | float (value : Binary64) : SentAs (.float value) value
  | nearest {integer : Json.Integer} {value : Binary64} {count : Nat}
      (wide : 9223372036854775807 < integer.value) (positive : value.negative = false)
      (near : IsNearest 2048 integer.value.toNat count)
      (magnitude : value.ratio = (count * 2048, 1)) : SentAs (.integer integer) value

/-! ## Whole numbers -/

section Integers

variable {integer : Json.Integer}

theorem int64?_eq_some (small : integer.value ≤ 9223372036854775807) :
    int64? integer = some (Int64.ofInt integer.value) :=
  if_pos (Int.lt_of_le_sub_one small)

theorem int64?_eq_none (wide : 9223372036854775807 < integer.value) : int64? integer = none :=
  if_neg (Int.not_lt.mpr wide)

theorem ofInt64_ofInt (small : integer.value ≤ 9223372036854775807) :
    Json.Integer.ofInt64 (Int64.ofInt integer.value) = integer := by
  rcases integer with ⟨value, least, most⟩
  simp only [Json.Integer.ofInt64, Json.Integer.mk.injEq]
  exact Int64.toInt_ofInt_of_le least (Int.lt_of_le_sub_one small)

theorem exists_sentAs (wide : 9223372036854775807 < integer.value) :
    ∃ value, SentAs (.integer integer) value ∧
      Binary64.ofNat integer.value.toNat = some value := by
  have bounds := integer.bounds
  have least : 9223372036854775808 ≤ integer.value.toNat := by omega
  have most : integer.value.toNat < 18446744073709551616 := by omega
  rcases Number.exists_ofNat least most with ⟨value, count, found, positive, near, magnitude⟩
  exact ⟨value, .nearest wide positive near magnitude, found⟩

end Integers

theorem SentAs.unique {number : Json.Number} {first second : Binary64}
    (isFirst : SentAs number first) (isSecond : SentAs number second) : first = second := by
  cases isFirst with
  | float => cases isSecond with | float => rfl
  | nearest _ positive near magnitude =>
    cases isSecond with
    | nearest _ otherPositive otherNear otherMagnitude =>
      have same := near.unique (by decide) otherNear
      exact Binary64.eq_of_ratio (positive.trans otherPositive.symm)
        (by rw [magnitude, otherMagnitude, same])

theorem ofNumber_of_sentAs {number : Json.Number} {value : Binary64} (sent : SentAs number value) :
    ofNumber number = .float value := by
  cases sent with
  | float => rfl
  | nearest wide positive near magnitude =>
    rcases exists_sentAs wide with ⟨other, alsoSent, found⟩
    cases alsoSent.unique (.nearest wide positive near magnitude)
    simp only [ofNumber, int64?_eq_none wide, found]

theorem ofNumber_of_small {integer : Json.Integer} (small : integer.value ≤ 9223372036854775807) :
    ofNumber (.integer integer) = .int (Int64.ofInt integer.value) := by
  simp only [ofNumber, int64?_eq_some small]

/-! ## The two ways -/

theorem read?_number (number : Json.Number) :
    read? (.number number) = some (ofNumber number) := by
  cases number with
  | float value => rfl
  | integer integer =>
    by_cases small : integer.value ≤ 9223372036854775807
    · rw [ofNumber_of_small small]
      simp only [read?, readers, List.findSome?_cons, readNull, readBool, readInt,
        int64?_eq_some small, Option.map_some]
    · have wide := Int.not_le.mp small
      rcases exists_sentAs wide with ⟨value, sent, found⟩
      rw [ofNumber_of_sentAs sent]
      have sign : decide (integer.value < 0) = false := decide_eq_false (by omega)
      have natAbs : integer.value.natAbs = integer.value.toNat := by omega
      rw [Binary64.ofNat] at found
      simp only [read?, readers, List.findSome?_cons, readNull, readBool, readInt,
        int64?_eq_none wide, Option.map_none, readFloat, sign, natAbs, found, Option.map_some]

theorem read?_of_kind (value : Value) : read? value = some (ofJson value) := by
  cases value with
  | number number => exact read?_number number
  | null => rfl
  | bool value => rfl
  | string text => rfl
  | array items => rfl
  | object members => rfl

/-! ## What a parameter shows -/

theorem toJson_ofJson_of_not_wide {value : Value} (fits : ¬IsWide value) :
    (ofJson value).toJson = value := by
  cases value with
  | number number =>
    cases number with
    | float value => rfl
    | integer integer =>
      have small := Int.not_lt.mp fits
      rw [ofJson, ofNumber_of_small small, toJson, ofInt64_ofInt small]
      rfl
  | _ => rfl

theorem exists_of_isWide {value : Value} (wide : IsWide value) :
    ∃ number float, value = .number number ∧ SentAs number float ∧ ofJson value = .float float := by
  cases value with
  | number number =>
    cases number with
    | integer integer =>
      rcases exists_sentAs wide with ⟨float, sent, -⟩
      exact ⟨_, float, rfl, sent, ofNumber_of_sentAs sent⟩
    | float => exact wide.elim
  | _ => exact wide.elim

/-- Both ways from a JSON value to a parameter give the same one, and the second one never fails.
The parameter shows the value again exactly if it is no whole number above those of the signed
64-bit type. -/
theorem read?_eq_ofJson (value : Value) :
    read? value = some (ofJson value) ∧ read value = ofJson value ∧
      ((ofJson value).toJson = value ↔ ¬IsWide value) := by
  have same := read?_of_kind value
  refine ⟨same, ?_, ?_, toJson_ofJson_of_not_wide⟩
  · rw [read, Option.get_of_eq_some _ same]
  · intro shown wide
    rcases exists_of_isWide wide with ⟨number, float, rfl, sent, bound⟩
    rw [bound, toJson, Value.ofFloat] at shown
    cases shown
    exact wide

end SqlGateway.Parameter
