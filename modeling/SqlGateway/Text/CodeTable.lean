import SqlGateway.Text.Digit
import SqlGateway.Text.Ranges
import SqlGateway.Text.Split

/-!
# Tables written as text

Large tables of code points are written as lines of words with blanks between. A code point is
written in hexadecimal digits, a range by its first and last one with a hyphen.
-/

namespace SqlGateway.Text.CodeTable

def words (lines : List String) : List (List Char) :=
  lines.flatMap fun line => pieces ' ' line.toList

def number (digits : List Char) : Nat :=
  digits.foldl (fun total digit => total * 16 + (hexValue? digit).getD 0) 0

def sequence (text : List Char) : List Nat :=
  if text.isEmpty then [] else (pieces '.' text).map number

def range (word : List Char) : Nat × Nat :=
  match cut '-' word with
  | some (first, last) => (number first, number last)
  | none => (number word, number word)

def ranges (lines : List String) : Ranges := (words lines).map range

example : ranges ["41-5A AA", "B5"] = [(0x41, 0x5A), (0xAA, 0xAA), (0xB5, 0xB5)] := by
  decide +kernel
example : sequence "66.69".toList = [0x66, 0x69] := by decide +kernel

end SqlGateway.Text.CodeTable
