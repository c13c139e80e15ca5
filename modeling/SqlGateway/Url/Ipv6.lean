import SqlGateway.Text.Digit
import SqlGateway.Text.Quoted
import SqlGateway.Text.Split

/-!
# IPv6 addresses

Eight numbers of sixteen bits, written in hexadecimal between colons. The longest run of at least
two zeros is written as two colons. The last two numbers may be written as four decimal bytes.
-/

namespace SqlGateway.Url.Ipv6

/-- At most `count` hexadecimal digits: their value, how many there are, and the rest. -/
def takeHex : Nat → Nat → Nat → List Char → Nat × Nat × List Char
  | 0, value, taken, text => (value, taken, text)
  | _ + 1, value, taken, [] => (value, taken, [])
  | count + 1, value, taken, character :: rest =>
    match Text.hexValue? character with
    | some digit => takeHex count (value * 16 + digit) (taken + 1) rest
    | none => (value, taken, character :: rest)

def decimalByte? (digits : List Char) : Option Nat :=
  if digits.isEmpty || !digits.all Char.isDigit then none
  else if digits.length ≠ 1 && digits.head? = some '0' then none
  else if 3 < digits.length then none
  else
    let value := Text.digitsValue digits
    if value ≤ 255 then some value else none

def embedded? (text : List Char) : Option (List Nat) :=
  match (Text.pieces '.' text).mapM decimalByte? with
  | some [first, second, third, fourth] => some [first * 256 + second, third * 256 + fourth]
  | _ => none

def taken (found : List Nat) (gap : Option Nat) : Nat :=
  found.length + (if gap.isSome then 1 else 0)

/-- Reads the numbers from a place on. `found` holds the numbers before it, last first, and
`gap` the number of them before the two colons, once these were met. -/
def pieces : Nat → List Nat → Option Nat → List Char → Option (List Nat × Option Nat)
  | 0, _, _, _ => none
  | _ + 1, found, gap, [] => some (found.reverse, gap)
  | fuel + 1, found, gap, ':' :: rest =>
    if taken found gap = 8 || gap.isSome then none
    else pieces fuel found (some found.length) rest
  | fuel + 1, found, gap, text =>
    if taken found gap = 8 then none
    else
      let (value, digits, rest) := takeHex 4 0 0 text
      match rest with
      | [] => some ((value :: found).reverse, gap)
      | '.' :: _ =>
        if digits = 0 || 6 < taken found gap then none
        else (embedded? text).map fun last => (found.reverse ++ last, gap)
      | ':' :: [] => none
      | ':' :: rest => pieces fuel (value :: found) gap rest
      | _ :: _ => none

def fill (numbers : List Nat) : Option Nat → Option (List Nat)
  | some place =>
    some (numbers.take place ++ List.replicate (8 - numbers.length) 0 ++ numbers.drop place)
  | none => if numbers.length = 8 then some numbers else none

def parse? (text : List Char) : Option (List Nat) :=
  match text with
  | [] => none
  | ':' :: ':' :: rest =>
    (pieces (text.length + 1) [] (some 0) rest).bind fun (numbers, gap) => fill numbers gap
  | ':' :: _ => none
  | _ => (pieces (text.length + 1) [] none text).bind fun (numbers, gap) => fill numbers gap

def zeros (numbers : List Nat) : Nat := (numbers.takeWhile (· = 0)).length

/-- The place and length of the first longest run of zeros, from a place on. -/
def longestRun : Nat → List Nat → Nat × Nat
  | _, [] => (0, 0)
  | place, number :: rest =>
    let (laterPlace, later) := longestRun (place + 1) rest
    let here := zeros (number :: rest)
    if later ≤ here then (place, here) else (laterPlace, later)

def numberChars (numbers : List Nat) : List (List Char) := numbers.map Text.hexDigits

def colons (numbers : List Nat) : List Char := List.intercalate [':'] (numberChars numbers)

def render (numbers : List Nat) : List Char :=
  let (place, length) := longestRun 0 numbers
  if length < 2 then colons numbers
  else colons (numbers.take place) ++ ':' :: ':' :: colons (numbers.drop (place + length))

example : (parse? "2001:DB8::0:1".toList).map render = some "2001:db8::1".toList := by decide
example : (parse? "::ffff:127.0.0.1".toList).map render = some "::ffff:7f00:1".toList := by decide
example : parse? "1::2::3".toList = none := by decide

end SqlGateway.Url.Ipv6
