/-!
# Punycode

A label with characters beyond ASCII is written in ASCII: its ASCII characters, a hyphen, and then
the others. Each of these is given by a number in digits of base 36, which counts the places and
characters passed over since the one before. The last digit of a number is the first one below a
threshold, and the thresholds follow the size of the numbers so far.
-/

namespace SqlGateway.Url.Domain.Punycode

def digit? (character : Char) : Option Nat :=
  if 'a' ≤ character && character ≤ 'z' then some (character.toNat - 'a'.toNat)
  else if '0' ≤ character && character ≤ '9' then some (character.toNat - '0'.toNat + 26)
  else none

/-- The threshold of the digit at a position, which counts in steps of 36. -/
def threshold (bias position : Nat) : Nat :=
  if position ≤ bias then 1 else if bias + 26 ≤ position then 26 else position - bias

/-- Divides a number by 35 until it is at most 455; `steps` grows by 36 each time. -/
def shrink (number steps : Nat) : Nat × Nat :=
  if large : 455 < number then shrink (number / 35) (steps + 36) else (number, steps)
termination_by number
decreasing_by exact Nat.div_lt_self (by omega) (by omega)

def adapt (number count : Nat) (first : Bool) : Nat :=
  let start := if first then number / 700 else number / 2
  let (left, steps) := shrink (start + start / count) 0
  steps + 36 * left / (left + 38)

def readNumber (bias position weight total : Nat) : List Char → Option (Nat × List Char)
  | [] => none
  | character :: rest =>
    match digit? character with
    | none => none
    | some digit =>
      let limit := threshold bias position
      let total := total + digit * weight
      if digit < limit then some (total, rest)
      else readNumber bias (position + 36) (weight * (36 - limit)) total rest

theorem readNumber_shorter {bias position weight total number : Nat} {text rest : List Char}
    (read : readNumber bias position weight total text = some (number, rest)) :
    rest.length < text.length := by
  induction text generalizing position weight total with
  | nil => simp [readNumber] at read
  | cons character tail induction =>
    simp only [readNumber] at read
    split at read
    · exact absurd read (by simp)
    · split at read
      · simp only [Option.some.injEq, Prod.mk.injEq] at read
        simp [← read.2]
      · exact Nat.lt_succ_of_lt (induction read)

/-- Puts the characters that numbers give in among those known. The one put in last has the code
point `code` and stands before `place`; at the start, when none was, `place` is zero. -/
def insertAll (bias code place : Nat) (known : List Char) (text : List Char) :
    Option (List Char) :=
  match text with
  | [] => some known
  | first :: more =>
    match _read : readNumber bias 36 1 0 (first :: more) with
    | none => none
    | some (number, rest) =>
      let count := known.length + 1
      let next := code + (place + number) / count
      let target := (place + number) % count
      if next < 0xD800 || (0xE000 ≤ next && next < 0x110000) then
        insertAll (adapt number count (place = 0)) next (target + 1)
          (known.take target ++ Char.ofNat next :: known.drop target) rest
      else none
termination_by text.length
decreasing_by exact readNumber_shorter _read

def decode? (text : List Char) : Option (List Char) :=
  match (text.reverse.span (· ≠ '-')) with
  | (numbers, _ :: last :: before) =>
    insertAll 72 128 0 (last :: before).reverse numbers.reverse
  | _ => insertAll 72 128 0 [] text

example : (decode? "mnchen-3ya".toList) = some "münchen".toList := by decide +kernel
example : (decode? "zzzzzz".toList) = none := by decide +kernel

end SqlGateway.Url.Domain.Punycode
