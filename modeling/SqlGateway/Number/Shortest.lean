import SqlGateway.Number.Binary64

/-!
# The fewest digits that read back

A number stands for all reals that round to it. `shortest` gives the decimal with the fewest digits
among them and, of several with as few digits, the nearest. The search tries one digit, two digits,
and so on; on each decimal grid only the two neighbours of the number need to be tested.
-/

namespace SqlGateway.Number

structure Decimal where
  digits : Nat
  exponent : Int
deriving DecidableEq, Repr

namespace Decimal

def ratio (decimal : Decimal) : Nat × Nat :=
  if 0 ≤ decimal.exponent then (decimal.digits * Nat.pow 10 decimal.exponent.toNat, 1)
  else (decimal.digits, Nat.pow 10 (-decimal.exponent).toNat)

def strip : Nat → Decimal → Decimal
  | 0, decimal => decimal
  | fuel + 1, decimal =>
    if decimal.digits ≠ 0 && decimal.digits % 10 = 0 then
      strip fuel ⟨decimal.digits / 10, decimal.exponent + 1⟩
    else decimal

end Decimal

namespace Binary64

def narrowBelow (value : Binary64) : Bool :=
  value.significand = 4503599627370496 && value.exponent ≠ -1074

/-- Four times the number's significand and the ends of the interval that rounds to it, all over
the same power of two: `(lower, upper, exponent)`. -/
def interval (value : Binary64) : Nat × Nat × Int :=
  let lower := if value.narrowBelow then 4 * value.significand - 1 else 4 * value.significand - 2
  (lower, 4 * value.significand + 2, value.exponent - 2)

/-- Whether a decimal lies in the interval of reals that round to the number's magnitude. The ends
belong to it exactly when the significand is even. -/
def readsBack (value : Binary64) (decimal : Decimal) : Bool :=
  let (lower, upper, exponent) := value.interval
  let (lowerTop, bottom) := scaled lower exponent
  let (upperTop, _) := scaled upper exponent
  let (top, divisor) := decimal.ratio
  if value.significand % 2 = 0 then
    lowerTop * divisor ≤ top * bottom && top * bottom ≤ upperTop * divisor
  else
    lowerTop * divisor < top * bottom && top * bottom < upperTop * divisor

def decimalScale (value : Binary64) : Nat → Int → Int
  | 0, estimate => estimate
  | fuel + 1, estimate =>
    let (top, bottom) := value.ratio
    let (bound, divisor) := (Decimal.mk 1 estimate).ratio
    let (smaller, smallerDivisor) := (Decimal.mk 1 (estimate - 1)).ratio
    if bound * bottom ≤ top * divisor then decimalScale value fuel (estimate + 1)
    else if top * smallerDivisor < smaller * bottom then decimalScale value fuel (estimate - 1)
    else estimate

def stepsBelow (value : Binary64) (exponent : Int) : Nat :=
  let (top, bottom) := value.ratio
  let (step, divisor) := (Decimal.mk 1 exponent).ratio
  top * divisor / (bottom * step)

def onGrid (value : Binary64) (exponent : Int) : Option Decimal :=
  let below : Decimal := ⟨value.stepsBelow exponent, exponent⟩
  let above : Decimal := ⟨value.stepsBelow exponent + 1, exponent⟩
  match value.readsBack below, value.readsBack above with
  | true, false => some below
  | false, true => some above
  | false, false => none
  | true, true =>
    let (top, bottom) := value.ratio
    let (low, divisor) := below.ratio
    let (high, _) := above.ratio
    let twice := 2 * top * divisor
    let middle := (low + high) * bottom
    if twice < middle then some below
    else if middle < twice then some above
    else if below.digits % 2 = 0 then some below
    else some above

/-- The first grid with a hit, from the grid `10 ^ exponent` down over `fuel` grids; the exact value
when there is none. -/
def searchGrids (value : Binary64) : Nat → Int → Decimal
  | 0, _ =>
    if 0 ≤ value.exponent then ⟨value.ratio.1, 0⟩
    else ⟨value.significand * Nat.pow 5 (-value.exponent).toNat, value.exponent⟩
  | fuel + 1, exponent =>
    match value.onGrid exponent with
    | some decimal => decimal
    | none => value.searchGrids fuel (exponent - 1)

/-- The decimal with the fewest digits that reads back as the magnitude of the number. -/
def shortest (value : Binary64) : Decimal :=
  if value.significand = 0 then ⟨0, 0⟩
  else
    let binary : Int := (value.significand.log2 : Int) + value.exponent
    let scale := value.decimalScale 8 (binary * 30103 / 100000 + 1)
    (value.searchGrids 17 (scale - 1)).strip 400

end Binary64

end SqlGateway.Number
