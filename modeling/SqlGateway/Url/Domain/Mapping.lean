import SqlGateway.Text.Composed
import SqlGateway.Url.Domain.MappingTable

/-!
# How the characters of a domain name are read

Some characters stand for others: capital letters for small ones, wide letters for plain ones. Some
are passed over, and most code points may not be written at all. A name is read in composed form.
-/

namespace SqlGateway.Url.Domain

open Text

inductive Reading where
  /-- Each one as the same sequence. -/
  | always (characters : List Nat)
  /-- The first as a character, and the others as those that follow it in step. -/
  | following (first : Nat)
deriving DecidableEq, Repr

/-- A range of code points that are some steps apart, with what they are read as. -/
structure ReadingRule where
  first : Nat
  last : Nat
  step : Nat
  reading : Reading
deriving DecidableEq, Repr

namespace ReadingRule

def ofWord (word : List Char) : ReadingRule :=
  let ofRange (text : List Char) (reading : Reading) : ReadingRule :=
    let (range, step) :=
      match cut '/' text with
      | some (range, _) => (range, 2)
      | none => (text, 1)
    let (first, last) := CodeTable.range range
    ⟨first, last, step, reading⟩
  match cut '>' word with
  | some (range, first) => ofRange range (.following (CodeTable.number first))
  | none =>
    let (range, characters) := (cut '=' word).getD (word, [])
    ofRange range (.always (CodeTable.sequence characters))

def read? (rule : ReadingRule) (code : Nat) : Option (List Nat) :=
  if rule.first ≤ code && code ≤ rule.last && (code - rule.first) % rule.step = 0 then
    match rule.reading with
    | .always characters => some characters
    | .following first => some [first + (code - rule.first)]
  else none

example : ofWord "100-12E/2>101".toList = ⟨0x100, 0x12E, 2, .following 0x101⟩ := by decide +kernel
example : (ofWord "100-12E/2>101".toList).read? 0x104 = some [0x105] := by decide +kernel
example : ofWord "AD=".toList = ⟨0xAD, 0xAD, 1, .always []⟩ := by decide +kernel

end ReadingRule

def readingRules : List ReadingRule := (CodeTable.words readingLines).map ReadingRule.ofWord

/-- What a character is read as, if it may be written. Which characters of ASCII may stand in a name
is not decided here. -/
def readChar? (character : Char) : Option (List Char) :=
  if character.toNat < 128 then some [character.toLower]
  else
    match readingRules.findSome? fun rule => rule.read? character.toNat with
    | some characters => some (characters.map Char.ofNat)
    | none => if allowedRanges.contains character then some [character] else none

def read? (name : List Char) : Option (List Char) :=
  (name.mapM readChar?).map fun characters => composed characters.flatten

end SqlGateway.Url.Domain
