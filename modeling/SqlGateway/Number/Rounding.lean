/-!
# Rounding a quotient to a whole number

`halfEven` rounds a quotient of naturals to the nearest whole number, and a half to the even
neighbour. `fixed` writes a quotient with a given number of decimal places by that rule.
-/

namespace SqlGateway.Number

/-- The whole number nearest to `numerator / denominator`; of two, the even one. -/
def halfEven (numerator denominator : Nat) : Nat :=
  let below := numerator / denominator
  let excess := 2 * (numerator % denominator)
  if denominator < excess || (excess = denominator && below % 2 = 1) then below + 1 else below

theorem halfEven_near {numerator denominator : Nat} (positive : 0 < denominator) :
    2 * (halfEven numerator denominator * denominator) ≤ 2 * numerator + denominator ∧
      2 * numerator ≤ 2 * (halfEven numerator denominator * denominator) + denominator := by
  have split := Nat.div_add_mod numerator denominator
  have small := Nat.mod_lt numerator positive
  have commuted : denominator * (numerator / denominator) =
      numerator / denominator * denominator := Nat.mul_comm _ _
  simp only [halfEven]
  split
  · rename_i up
    simp only [Bool.or_eq_true, Bool.and_eq_true, decide_eq_true_eq] at up
    rw [Nat.add_mul, Nat.one_mul]
    omega
  · rename_i down
    simp only [Bool.or_eq_true, Bool.and_eq_true, decide_eq_true_eq, not_or] at down
    omega

def paddedDigits (width number : Nat) : List Char :=
  let digits := Nat.toDigits 10 number
  List.replicate (width - digits.length) '0' ++ digits

def fixed (places numerator denominator : Nat) : String :=
  let scaled := halfEven (numerator * Nat.pow 10 places) denominator
  String.ofList <|
    Nat.toDigits 10 (scaled / Nat.pow 10 places) ++
      '.' :: paddedDigits places (scaled % Nat.pow 10 places)

example : fixed 2 1 8 = "0.12" := by decide
example : fixed 2 3 8 = "0.38" := by decide

end SqlGateway.Number
