import SqlGateway.Number.Rounding

/-!
# Finite binary floating-point numbers

A finite number of the 64-bit format is a sign, a significand and a power of two. `Canonical` makes
the pair unique, so that equal numbers are equal structures. Arithmetic is exact arithmetic on
quotients of naturals followed by one rounding, nearest and to even; a result beyond the range is
`none`.
-/

namespace SqlGateway.Number

/-- A binary format: bits of the significand, and the least and greatest power of two that may
scale it. -/
structure BinaryFormat where
  precision : Nat
  minExponent : Int
  maxExponent : Int

def BinaryFormat.double : BinaryFormat := ⟨53, -1074, 971⟩

def BinaryFormat.single : BinaryFormat := ⟨24, -149, 104⟩

/-- The natural numbers whose quotient is `significand * 2 ^ exponent`. -/
def scaled (significand : Nat) (exponent : Int) : Nat × Nat :=
  if 0 ≤ exponent then (significand * Nat.pow 2 exponent.toNat, 1)
  else (significand, Nat.pow 2 (-exponent).toNat)

def floorLog2 (numerator denominator : Nat) : Int :=
  let estimate : Int := (numerator.log2 : Int) - (denominator.log2 : Int)
  let reached :=
    if 0 ≤ estimate then denominator * Nat.pow 2 estimate.toNat ≤ numerator
    else denominator ≤ numerator * Nat.pow 2 (-estimate).toNat
  if reached then estimate else estimate - 1

def BinaryFormat.round (format : BinaryFormat) (numerator denominator : Nat) :
    Option (Nat × Int) :=
  if numerator = 0 then some (0, format.minExponent)
  else
    let exponent :=
      max format.minExponent (floorLog2 numerator denominator - (format.precision - 1))
    let significand :=
      if 0 ≤ exponent then halfEven numerator (denominator * Nat.pow 2 exponent.toNat)
      else halfEven (numerator * Nat.pow 2 (-exponent).toNat) denominator
    let (significand, exponent) :=
      if significand = Nat.pow 2 format.precision then
        (Nat.pow 2 (format.precision - 1), exponent + 1)
      else (significand, exponent)
    if exponent ≤ format.maxExponent then some (significand, exponent) else none

/-- The significand has no more than 53 bits, the exponent is in range, and only at the least
exponent may the significand have fewer. -/
def Canonical (significand : Nat) (exponent : Int) : Prop :=
  significand < 9007199254740992 ∧ -1074 ≤ exponent ∧ exponent ≤ 971 ∧
    (exponent = -1074 ∨ 4503599627370496 ≤ significand)

instance (significand : Nat) (exponent : Int) : Decidable (Canonical significand exponent) :=
  inferInstanceAs (Decidable (_ ∧ _))

/-- The finite number `± significand * 2 ^ exponent`. -/
structure Binary64 where
  negative : Bool
  significand : Nat
  exponent : Int
  canonical : Canonical significand exponent
deriving DecidableEq, Repr

namespace Binary64

def zero (negative : Bool) : Binary64 := ⟨negative, 0, -1074, by decide⟩

instance : Inhabited Binary64 := ⟨zero false⟩

def ofRatio (negative : Bool) (numerator denominator : Nat) : Option Binary64 :=
  match BinaryFormat.double.round numerator denominator with
  | none => none
  | some (significand, exponent) =>
    if canonical : Canonical significand exponent then
      some ⟨negative, significand, exponent, canonical⟩
    else none

def ratio (value : Binary64) : Nat × Nat := scaled value.significand value.exponent

def ofNat (number : Nat) : Option Binary64 := ofRatio false number 1

def neg (value : Binary64) : Binary64 := { value with negative := !value.negative }

def mul (left right : Binary64) : Option Binary64 :=
  ofRatio (left.negative != right.negative)
    (left.ratio.1 * right.ratio.1) (left.ratio.2 * right.ratio.2)

def div (left right : Binary64) : Option Binary64 :=
  ofRatio (left.negative != right.negative)
    (left.ratio.1 * right.ratio.2) (left.ratio.2 * right.ratio.1)

def isZero (value : Binary64) : Bool := value.significand = 0

end Binary64

end SqlGateway.Number
