import SqlGateway.Number.Rounding
import SqlGateway.Text.Digit

/-!
# Digits that are written and read

What a list of digits is worth, with zeros in front or behind, and what numbers filled with zeros
look like.
-/

namespace SqlGateway.Text

theorem digitsValue_toDigits (number : Nat) : digitsValue (Nat.toDigits 10 number) = number := by
  have read := Nat.ofDigitChars_toDigits (b := 10) (n := number) (by decide) (by decide)
  simpa only [Nat.ofDigitChars, Nat.mul_comm, digitsValue, digitValue] using read

theorem digitsValue_zeros (zeros : Nat) (digits : List Char) :
    digitsValue (List.replicate zeros '0' ++ digits) = digitsValue digits := by
  induction zeros with
  | zero => rfl
  | succ zeros induction => exact induction

theorem isDigit_of_mem_toDigits {number : Nat} {digit : Char}
    (member : digit ∈ Nat.toDigits 10 number) : digit.isDigit = true :=
  Nat.isDigit_of_mem_toDigits (by decide) (by decide) member

theorem isDigit_of_mem_zeros {zeros number : Nat} {digit : Char}
    (member : digit ∈ List.replicate zeros '0' ++ Nat.toDigits 10 number) :
    digit.isDigit = true := by
  rcases List.mem_append.mp member with zero | member
  · rw [List.eq_of_mem_replicate zero]
    rfl
  · exact isDigit_of_mem_toDigits member

/-! ## Numbers filled with zeros -/

section Padded

open Number (paddedDigits)

theorem digitsValue_padded (width number : Nat) :
    digitsValue (paddedDigits width number) = number := by
  rw [paddedDigits, digitsValue_zeros, digitsValue_toDigits]

theorem isDigit_of_mem_padded {width number : Nat} {digit : Char}
    (member : digit ∈ paddedDigits width number) : digit.isDigit = true :=
  isDigit_of_mem_zeros member

theorem length_padded (width : Nat) {number : Nat} (some : 0 < width)
    (small : number < Nat.pow 10 width) :
    (paddedDigits width number).length = width := by
  have fits := (Nat.length_toDigits_le_iff (by decide) some).mpr small
  rw [paddedDigits, List.length_append, List.length_replicate]
  omega

theorem padded_of_le (width : Nat) {number : Nat} (some : 0 < width)
    (large : Nat.pow 10 width ≤ number) :
    paddedDigits width number = Nat.toDigits 10 number ∧
      width < (Nat.toDigits 10 number).length := by
  have longer : ¬(Nat.toDigits 10 number).length ≤ width := by
    rw [Nat.length_toDigits_le_iff (by decide) some]
    exact Nat.not_lt.mpr large
  refine ⟨?_, by omega⟩
  rw [paddedDigits, Nat.sub_eq_zero_of_le (by omega)]
  rfl

end Padded

end SqlGateway.Text
