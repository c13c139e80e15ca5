/-!
# Digits

Decimal and hexadecimal digits of ASCII, and the numbers that they write.
-/

namespace SqlGateway.Text

def digitValue (digit : Char) : Nat := digit.toNat - '0'.toNat

def digitsValue (digits : List Char) : Nat :=
  digits.foldl (fun total digit => total * 10 + digitValue digit) 0

def hexValue? (character : Char) : Option Nat :=
  if character.isDigit then some (digitValue character)
  else if 'a' ≤ character ∧ character ≤ 'f' then some (character.toNat - 'a'.toNat + 10)
  else if 'A' ≤ character ∧ character ≤ 'F' then some (character.toNat - 'A'.toNat + 10)
  else none

/-- The whole number that a text writes, with a plus sign or without, if it is below a limit. -/
def natBelow? (limit : Nat) (text : String) : Option Nat :=
  let digits :=
    match text.toList with
    | '+' :: rest => rest
    | other => other
  if digits.isEmpty || !digits.all Char.isDigit then none
  else
    let value := digitsValue digits
    if value < limit then some value else none

example : natBelow? 256 "+0255" = some 255 := by decide
example : natBelow? 256 "256" = none := by decide
example : natBelow? 256 "+" = none := by decide
example : hexValue? 'c' = some 12 ∧ hexValue? 'C' = some 12 ∧ hexValue? 'g' = none := by decide

end SqlGateway.Text
