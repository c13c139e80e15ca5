import SqlGateway.Text.Composed.Tables

/-!
# Composed form

A letter with a mark may be one character or two. The composed form of a text is the one form for
all ways to write it: every character is taken apart, marks that may pass each other are put in the
order of their classes, and what can be one character becomes one. The syllables of Korean are put
together by a rule, all others by a table.
-/

namespace SqlGateway.Text.Composed

def classOf (character : Char) : Nat :=
  match classes.find? fun entry =>
    entry.1.1 ≤ character.toNat && character.toNat ≤ entry.1.2 with
  | some (_, value) => value
  | none => 0

/-! ## Korean syllables

A syllable of two parts stands in front of the 27 syllables that a final makes of it. -/

def firstSyllable : Nat := 0xAC00

def syllableCount : Nat := 11172

/-- The parts of a Korean syllable: a lead and a vowel, or a syllable and a final. -/
def syllableParts? (character : Char) : Option (Char × Char) :=
  let index := character.toNat - firstSyllable
  if character.toNat < firstSyllable || syllableCount ≤ index then none
  else if index % 28 = 0 then
    some (Char.ofNat (0x1100 + index / 588), Char.ofNat (0x1161 + index / 28 % 21))
  else some (Char.ofNat (character.toNat - index % 28), Char.ofNat (0x11A7 + index % 28))

def syllable? (first second : Char) : Option Char :=
  let lead := first.toNat - 0x1100
  let vowel := second.toNat - 0x1161
  let index := first.toNat - firstSyllable
  let final := second.toNat - 0x11A7
  if 0x1100 ≤ first.toNat && lead < 19 && 0x1161 ≤ second.toNat && vowel < 21 then
    some (Char.ofNat (firstSyllable + (lead * 21 + vowel) * 28))
  else if firstSyllable ≤ first.toNat && index < syllableCount && index % 28 = 0 &&
      0 < final && final < 28 then
    some (Char.ofNat (first.toNat + final))
  else none

/-! ## Taking apart -/

def parts? (character : Char) : Option (Char × Char) :=
  match syllableParts? character with
  | some parts => some parts
  | none => (pairs.find? fun pair => pair.1 = character).map Prod.snd

/-- The parts of a character that have no parts; the first part is taken apart up to `fuel`
times. -/
def takeApart : Nat → Char → List Char
  | 0, character => [character]
  | fuel + 1, character =>
    match parts? character with
    | some (first, second) => takeApart fuel first ++ [second]
    | none => [character]

def partDepth : Nat := 4

/-! ## Order -/

/-- Puts a character behind others, which are given last first: a mark passes the marks of higher
classes. -/
def place (character : Char) : List Char → List Char
  | [] => [character]
  | last :: before =>
    if classOf character ≠ 0 && classOf character < classOf last then
      last :: place character before
    else character :: last :: before

def order (text : List Char) : List Char :=
  (text.foldl (fun placed character => place character placed) []).reverse

/-! ## Putting together -/

def whole? (first second : Char) : Option Char :=
  match syllable? first second with
  | some character => some character
  | none => (pairs.find? fun pair => pair.2 = (first, second)).map Prod.fst

/-- Puts together what comes behind a character that is no mark; `behind` holds the marks in
between that stay, last first. -/
def compose (starter : Char) (behind : List Char) : List Char → List Char
  | [] => starter :: behind.reverse
  | character :: rest =>
    let hidden :=
      match behind with
      | [] => false
      | last :: _ => classOf character ≤ classOf last
    match if hidden then none else whole? starter character with
    | some whole => compose whole behind rest
    | none =>
      if classOf character = 0 then starter :: behind.reverse ++ compose character [] rest
      else compose starter (character :: behind) rest

/-- Puts together a text, from its first character on that is no mark. -/
def composeAll : List Char → List Char
  | [] => []
  | character :: rest =>
    if classOf character = 0 then compose character [] rest else character :: composeAll rest

end Composed

def composed (text : List Char) : List Char :=
  Composed.composeAll (Composed.order (text.flatMap (Composed.takeApart Composed.partDepth)))

namespace Composed

example : syllable? 'ᄒ' 'ᅡ' = some '하' ∧ syllable? '하' 'ᆫ' = some '한' := by decide +kernel
example : syllableParts? '한' = some ('하', 'ᆫ') := by decide +kernel

end SqlGateway.Text.Composed
