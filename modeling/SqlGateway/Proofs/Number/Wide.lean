import SqlGateway.Number.Binary64

/-!
# Whole numbers that are wider than a significand

A whole number with 64 bits has eleven bits more than a significand. It becomes a floating-point
number all the same, the nearest multiple of 2048 or of two the even one (`exists_ofNat`). Numbers
of one sign and one magnitude are one number (`Binary64.eq_of_ratio`).
-/

namespace SqlGateway.Number

/-- A number of units that comes nearest to a number: it is at most half a unit away, and it is even
if another one is as near. -/
structure IsNearest (unit number count : Nat) : Prop where
  above : 2 * (count * unit) ≤ 2 * number + unit
  below : 2 * number ≤ 2 * (count * unit) + unit
  even : 2 * (count * unit) = 2 * number + unit ∨ 2 * number = 2 * (count * unit) + unit →
    count % 2 = 0

theorem isNearest_halfEven {unit : Nat} (positive : 0 < unit) (number : Nat) :
    IsNearest unit number (halfEven number unit) := by
  rcases @halfEven_near number unit positive with ⟨above, below⟩
  have split := Nat.div_add_mod number unit
  have small := Nat.mod_lt number positive
  rw [Nat.mul_comm] at split
  refine ⟨above, below, ?_⟩
  simp only [halfEven]
  split
  · next up =>
    simp only [Bool.or_eq_true, Bool.and_eq_true, decide_eq_true_eq] at up
    rw [Nat.add_mul]
    omega
  · next down =>
    simp only [Bool.or_eq_true, Bool.and_eq_true, decide_eq_true_eq, not_or] at down
    omega

/-- Of two numbers of units that come nearest neither is less: they would be neighbours, as near as
each other, and so both even. -/
theorem IsNearest.not_lt {unit number first second : Nat} (positive : 0 < unit)
    (isFirst : IsNearest unit number first) (isSecond : IsNearest unit number second) :
    ¬first < second := by
  intro less
  have apart : (first + 1) * unit ≤ second * unit := Nat.mul_le_mul_right unit less
  have expanded : (first + 1) * unit = first * unit + unit := Nat.succ_mul first unit
  have below := isFirst.below
  have above := isSecond.above
  have same : second * unit = (first + 1) * unit := by omega
  have next : second = first + 1 := Nat.eq_of_mul_eq_mul_right positive same
  have firstEven : first % 2 = 0 := isFirst.even (.inr (by omega))
  have secondEven : second % 2 = 0 := isSecond.even (.inl (by omega))
  omega

theorem IsNearest.unique {unit number first second : Nat} (positive : 0 < unit)
    (isFirst : IsNearest unit number first) (isSecond : IsNearest unit number second) :
    first = second :=
  Nat.le_antisymm (Nat.not_lt.mp (isSecond.not_lt positive isFirst))
    (Nat.not_lt.mp (isFirst.not_lt positive isSecond))

theorem IsNearest.within {unit first second count : Nat} (isFirst : IsNearest unit first count)
    (isSecond : IsNearest unit second count) : first ≤ second + unit := by
  have below := isFirst.below
  have above := isSecond.above
  omega

/-! ## Rounding to a significand -/

theorem floorLog2_of_bounds {number exponent : Nat} (least : Nat.pow 2 exponent ≤ number)
    (most : number < Nat.pow 2 (exponent + 1)) : floorLog2 number 1 = exponent := by
  have nonzero : number ≠ 0 := Nat.ne_of_gt (Nat.lt_of_lt_of_le (Nat.two_pow_pos exponent) least)
  have log : number.log2 = exponent := (Nat.log2_eq_iff nonzero).mpr ⟨least, most⟩
  have one : Nat.log2 1 = 0 := by decide
  have reached : 1 * Nat.pow 2 exponent ≤ number := by rwa [Nat.one_mul]
  simp only [floorLog2, log, one, Int.natCast_zero, Int.sub_zero, Int.natCast_nonneg, if_true,
    Int.toNat_natCast, reached]

section Wide

variable {number : Nat} (least : 9223372036854775808 ≤ number)
  (most : number < 18446744073709551616)

include least most

theorem halfEven_bounds :
    4503599627370496 ≤ halfEven number 2048 ∧ halfEven number 2048 ≤ 9007199254740992 := by
  have nearest : IsNearest 2048 number (halfEven number 2048) :=
    isNearest_halfEven (by decide) number
  have above := nearest.above
  have below := nearest.below
  have even := nearest.even
  omega

theorem round_wide : BinaryFormat.double.round number 1 = some (
    if halfEven number 2048 = 9007199254740992 then (4503599627370496, 12)
    else (halfEven number 2048, 11)) := by
  have log : floorLog2 number 1 = 63 :=
    floorLog2_of_bounds (show Nat.pow 2 63 ≤ number from least) most
  have nonzero : number ≠ 0 := by omega
  have exponent : max BinaryFormat.double.minExponent
      (63 - ((BinaryFormat.double.precision : Int) - 1)) = 11 := by decide
  have divisor : 1 * Nat.pow 2 (Int.toNat 11) = 2048 := by decide
  have carry : Nat.pow 2 BinaryFormat.double.precision = 9007199254740992 := by decide
  have half : Nat.pow 2 (BinaryFormat.double.precision - 1) = 4503599627370496 := by decide
  simp only [BinaryFormat.round, if_neg nonzero, log, exponent, divisor, carry, half]
  by_cases carried : halfEven number 2048 = 9007199254740992
  · simp [carried, BinaryFormat.double]
  · simp [carried, BinaryFormat.double]

theorem exists_ofNat : ∃ value count, Binary64.ofNat number = some value ∧
    value.negative = false ∧ IsNearest 2048 number count ∧ value.ratio = (count * 2048, 1) := by
  rcases halfEven_bounds least most with ⟨normal, carried⟩
  have nearest : IsNearest 2048 number (halfEven number 2048) :=
    isNearest_halfEven (by decide) number
  have rounded := round_wide least most
  by_cases full : halfEven number 2048 = 9007199254740992
  · rw [if_pos full] at rounded
    refine ⟨⟨false, 4503599627370496, 12, by decide⟩, _, ?_, rfl, nearest, ?_⟩
    · rw [Binary64.ofNat, Binary64.ofRatio, rounded]
      rfl
    · rw [full]
      rfl
  · rw [if_neg full] at rounded
    have canonical : Canonical (halfEven number 2048) 11 :=
      ⟨by omega, by decide, by decide, .inr normal⟩
    refine ⟨⟨false, halfEven number 2048, 11, canonical⟩, _, ?_, rfl, nearest, rfl⟩
    rw [Binary64.ofNat, Binary64.ofRatio, rounded]
    exact dif_pos canonical

end Wide

/-! ## One form for each number -/

/-- A greater exponent at the same magnitude would leave the other significand no room. -/
theorem Canonical.exponent_le {first second : Nat} {low high : Int}
    (isFirst : Canonical first low) (isSecond : Canonical second high) (whole : 0 ≤ low)
    (same : first * Nat.pow 2 low.toNat = second * Nat.pow 2 high.toNat) : high ≤ low := by
  refine Int.not_lt.mp fun less => ?_
  rcases Nat.exists_eq_add_of_lt (show low.toNat < high.toNat by omega) with ⟨gap, exponent⟩
  have power : Nat.pow 2 high.toNat = Nat.pow 2 low.toNat * (2 ^ gap * 2) := by
    rw [exponent]
    exact (Nat.pow_add 2 low.toNat (gap + 1))
  have positive : 0 < Nat.pow 2 low.toNat := Nat.two_pow_pos low.toNat
  have shifted : first = second * (2 ^ gap * 2) := by
    rw [power, Nat.mul_left_comm, Nat.mul_comm] at same
    exact Nat.eq_of_mul_eq_mul_left positive same
  have one : 1 ≤ 2 ^ gap := Nat.one_le_two_pow
  have twice : second * 2 ≤ first := by
    rw [shifted]
    exact Nat.mul_le_mul_left second (by omega)
  rcases isFirst with ⟨small, -⟩
  rcases isSecond with ⟨-, -, -, least | normal⟩
  · omega
  · omega

theorem pow_ne_one {exponent : Int} (fraction : ¬0 ≤ exponent) :
    Nat.pow 2 (-exponent).toNat ≠ 1 := by
  have nonzero : (-exponent).toNat ≠ 0 := by omega
  exact Nat.ne_of_gt (Nat.one_lt_two_pow nonzero)

theorem Binary64.eq_of_ratio {left right : Binary64} (sign : left.negative = right.negative)
    (same : left.ratio = right.ratio) : left = right := by
  rcases left with ⟨negative, first, low, isFirst⟩
  rcases right with ⟨_, second, high, isSecond⟩
  cases sign
  rw [ratio, ratio, scaled, scaled] at same
  by_cases lowWhole : 0 ≤ low
  · by_cases highWhole : 0 ≤ high
    · rw [if_pos lowWhole, if_pos highWhole, Prod.mk.injEq] at same
      have exponent : low = high := Int.le_antisymm
        (isSecond.exponent_le isFirst highWhole same.1.symm)
        (isFirst.exponent_le isSecond lowWhole same.1)
      subst exponent
      cases Nat.eq_of_mul_eq_mul_right (Nat.two_pow_pos low.toNat) same.1
      rfl
    · rw [if_pos lowWhole, if_neg highWhole, Prod.mk.injEq] at same
      exact absurd same.2.symm (pow_ne_one highWhole)
  · by_cases highWhole : 0 ≤ high
    · rw [if_neg lowWhole, if_pos highWhole, Prod.mk.injEq] at same
      exact absurd same.2 (pow_ne_one lowWhole)
    · rw [if_neg lowWhole, if_neg highWhole, Prod.mk.injEq] at same
      have powers : (-low).toNat = (-high).toNat :=
        (Nat.pow_right_inj (by decide)).mp same.2
      have exponent : low = high := by omega
      subst exponent
      cases same.1
      rfl

end SqlGateway.Number
