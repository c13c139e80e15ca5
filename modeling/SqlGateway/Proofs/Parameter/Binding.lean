import Mathlib.Data.List.Forall2
import SqlGateway.Proofs.Parameter.Reading
import SqlGateway.Row.Update

/-!
# Values that are bound alike

Parameters keep apart all values but numbers that are sent as one floating-point number
(`bound_alike_iff`). Whole numbers of the signed 64-bit type are never bound like another value;
above them, whole numbers are bound alike if they have the same nearest multiple of 2048. So it is
with the new values of a row and with the value of its key.
-/

namespace SqlGateway.Parameter

open Json (Value)
open Number (Binary64 IsNearest)

/-- Two values that one parameter stands for: a value and itself, and two numbers that are sent as
one floating-point number. -/
inductive Alike : Value → Value → Prop
  | same (value : Value) : Alike value value
  | sent {left right : Json.Number} {value : Binary64} (isLeft : SentAs left value)
      (isRight : SentAs right value) : Alike (.number left) (.number right)

theorem Alike.ofJson_eq {left right : Value} (alike : Alike left right) :
    ofJson left = ofJson right := by
  cases alike with
  | same => rfl
  | sent isLeft isRight => exact (ofNumber_of_sentAs isLeft).trans (ofNumber_of_sentAs isRight).symm

theorem exists_sentAs_of_ofJson {value : Value} {float : Binary64}
    (bound : ofJson value = .float float) :
    ∃ number, value = .number number ∧ SentAs number float := by
  by_cases wide : IsWide value
  · rcases exists_of_isWide wide with ⟨number, other, rfl, sent, alsoBound⟩
    cases bound.symm.trans alsoBound
    exact ⟨number, rfl, sent⟩
  · have shown := toJson_ofJson_of_not_wide wide
    rw [bound] at shown
    exact ⟨.float float, shown.symm, .float float⟩

theorem ofJson_eq_iff {left right : Value} : ofJson left = ofJson right ↔ Alike left right := by
  refine ⟨fun same => ?_, Alike.ofJson_eq⟩
  by_cases leftWide : IsWide left
  · rcases exists_of_isWide leftWide with ⟨_, float, rfl, sent, bound⟩
    rcases exists_sentAs_of_ofJson (same.symm.trans bound) with ⟨_, rfl, alsoSent⟩
    exact .sent sent alsoSent
  · by_cases rightWide : IsWide right
    · rcases exists_of_isWide rightWide with ⟨_, float, rfl, sent, bound⟩
      rcases exists_sentAs_of_ofJson (same.trans bound) with ⟨_, rfl, alsoSent⟩
      exact .sent alsoSent sent
    · have equal : left = right := by
        rw [← toJson_ofJson_of_not_wide leftWide, same, toJson_ofJson_of_not_wide rightWide]
      exact equal ▸ .same left

/-! ## Whole numbers -/

/-- Two whole numbers above those of the signed 64-bit type that have the same nearest multiple of
2048. -/
def Merged (left right : Json.Integer) : Prop :=
  9223372036854775807 < left.value ∧ 9223372036854775807 < right.value ∧
    ∃ count, IsNearest 2048 left.value.toNat count ∧ IsNearest 2048 right.value.toNat count

theorem alike_integers_iff {left right : Json.Integer} :
    Alike (.ofInteger left) (.ofInteger right) ↔ left = right ∨ Merged left right := by
  constructor
  · intro alike
    cases alike with
    | same => exact .inl rfl
    | sent isLeft isRight =>
      cases isLeft with
      | nearest leftWide _ leftNear leftMagnitude =>
        cases isRight with
        | nearest rightWide _ rightNear rightMagnitude =>
          have same := (Prod.mk.inj (leftMagnitude.symm.trans rightMagnitude)).1
          cases Nat.eq_of_mul_eq_mul_right (by decide) same
          exact .inr ⟨leftWide, rightWide, _, leftNear, rightNear⟩
  · rintro (rfl | ⟨leftWide, rightWide, count, leftNear, rightNear⟩)
    · exact .same _
    · rcases exists_sentAs leftWide with ⟨value, sent, -⟩
      cases sent with
      | nearest wide positive near magnitude =>
        cases near.unique (by decide) leftNear
        exact .sent (.nearest wide positive near magnitude)
          (.nearest rightWide positive rightNear magnitude)

theorem Merged.within {left right : Json.Integer} (merged : Merged left right) :
    left.value ≤ right.value + 2048 := by
  rcases merged with ⟨leftWide, rightWide, count, leftNear, rightNear⟩
  have within := leftNear.within rightNear
  omega

/-! ## Rows -/

theorem map_ofJson_eq_iff {left right : List Value} :
    left.map ofJson = right.map ofJson ↔ List.Forall₂ Alike left right := by
  have each : (fun first second => ofJson first = ofJson second) = Alike := by
    funext first second
    exact propext ofJson_eq_iff
  rw [← List.forall₂_eq_eq_eq, List.forall₂_map_left_iff, List.forall₂_map_right_iff, each]

theorem parameters_eq_iff {left right : RowUpdate} :
    left.parameters = right.parameters ↔
      List.Forall₂ Alike (left.updates.toList.map Prod.snd) (right.updates.toList.map Prod.snd) ∧
        Alike left.keyValue right.keyValue := by
  have values (update : RowUpdate) : update.parameters =
      (update.updates.toList.map Prod.snd).map ofJson ++ [ofJson update.keyValue] := by
    rw [RowUpdate.parameters, List.map_map]
    rfl
  rw [values, values, ← map_ofJson_eq_iff, ← ofJson_eq_iff]
  constructor
  · intro same
    rcases List.append_inj' same rfl with ⟨updates, key⟩
    exact ⟨updates, List.singleton_inj.mp key⟩
  · rintro ⟨updates, key⟩
    rw [updates, key]

/-- Two values have the same parameter exactly if they are equal or are numbers that are sent as the
same floating-point number. For whole numbers that means that they are equal, or both above those of
the signed 64-bit type and closest to the same multiple of 2048; then they are at most 2048 apart.
Two rows to be changed have the same parameters exactly if this holds of their new values one by one
and of their keys. -/
theorem bound_alike_iff :
    (∀ left right : Value, ofJson left = ofJson right ↔ Alike left right) ∧
      (∀ left right : Json.Integer,
        (ofJson (.ofInteger left) = ofJson (.ofInteger right) ↔ left = right ∨ Merged left right) ∧
          (Merged left right → left.value ≤ right.value + 2048)) ∧
      ∀ left right : RowUpdate, left.parameters = right.parameters ↔
        List.Forall₂ Alike (left.updates.toList.map Prod.snd)
            (right.updates.toList.map Prod.snd) ∧
          Alike left.keyValue right.keyValue :=
  ⟨fun _ _ => ofJson_eq_iff,
    fun _ _ => ⟨ofJson_eq_iff.trans alike_integers_iff, Merged.within⟩,
    fun _ _ => parameters_eq_iff⟩

/-- The first two whole numbers above those of the signed 64-bit type are bound alike, also where
each is the key of a row. -/
theorem not_bound_apart :
    (¬∀ left right : Value, left ≠ right → ofJson left ≠ ofJson right) ∧
      ¬∀ (table column : String) (left right : Json.Integer), left ≠ right →
        (RowUpdate.ofKey table column (.ofInteger left)).parameters ≠
          (RowUpdate.ofKey table column (.ofInteger right)).parameters := by
  let first : Json.Integer := ⟨9223372036854775808, by decide⟩
  let second : Json.Integer := ⟨9223372036854775809, by decide⟩
  have same : ofJson (.ofInteger first) = ofJson (.ofInteger second) := by decide +kernel
  constructor
  · intro claimed
    exact claimed (.ofInteger first) (.ofInteger second) (by decide) same
  · intro claimed
    refine claimed "t" "id" first second (by decide) ?_
    exact congrArg (fun key => [key]) same

end SqlGateway.Parameter
