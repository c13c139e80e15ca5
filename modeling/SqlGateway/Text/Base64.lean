/-!
# Base64

Bytes as text: three bytes become four letters of a 64-letter alphabet, and the last group is
filled with `=` to four.
-/

namespace SqlGateway.Text.Base64

def letter (value : Nat) : Char :=
  if value < 26 then Char.ofNat ('A'.toNat + value)
  else if value < 52 then Char.ofNat ('a'.toNat + (value - 26))
  else if value < 62 then Char.ofNat ('0'.toNat + (value - 52))
  else if value = 62 then '+'
  else '/'

def encodeChars : List UInt8 → List Char
  | [] => []
  | [first] =>
    let bits := first.toNat * 16
    [letter (bits / 64), letter (bits % 64), '=', '=']
  | [first, second] =>
    let bits := (first.toNat * 256 + second.toNat) * 4
    [letter (bits / 4096), letter (bits / 64 % 64), letter (bits % 64), '=']
  | first :: second :: third :: rest =>
    let bits := (first.toNat * 256 + second.toNat) * 256 + third.toNat
    letter (bits / 262144) :: letter (bits / 4096 % 64) :: letter (bits / 64 % 64) ::
      letter (bits % 64) :: encodeChars rest

def encode (bytes : List UInt8) : String := String.ofList (encodeChars bytes)

example : encode [0xFF, 0xFE, 0, 1] = "//4AAQ==" := by decide

end SqlGateway.Text.Base64
