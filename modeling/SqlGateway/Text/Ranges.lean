/-!
# Sets of characters given by code point ranges

A character property that follows a standard is a table: a list of closed ranges of code points in
ascending order. `Ranges.contains` asks the table about one character. A text is trimmed of the
characters that have the white space property; control characters are the two ranges below the
printable ones of the Basic Latin and Latin-1 blocks.
-/

namespace SqlGateway.Text

/-- Closed ranges of code points, first to last, in ascending order. -/
abbrev Ranges := List (Nat × Nat)

namespace Ranges

def containsCode (ranges : Ranges) (code : Nat) : Bool :=
  ranges.any fun range => range.1 ≤ code && code ≤ range.2

def contains (ranges : Ranges) (character : Char) : Bool :=
  ranges.containsCode character.toNat

theorem containsCode_iff {ranges : Ranges} {code : Nat} :
    ranges.containsCode code = true ↔ ∃ range ∈ ranges, range.1 ≤ code ∧ code ≤ range.2 := by
  simp [containsCode]

end Ranges

/-! ## Blank and control characters -/

def blankRanges : Ranges :=
  [(9, 13), (32, 32), (133, 133), (160, 160), (5760, 5760), (8192, 8202), (8232, 8233),
    (8239, 8239), (8287, 8287), (12288, 12288)]

def isBlank (character : Char) : Bool := blankRanges.contains character

def isControl (character : Char) : Bool :=
  character.toNat < 32 || (127 ≤ character.toNat && character.toNat < 160)

def trimChars (text : List Char) : List Char :=
  ((text.dropWhile isBlank).reverse.dropWhile isBlank).reverse

end SqlGateway.Text
