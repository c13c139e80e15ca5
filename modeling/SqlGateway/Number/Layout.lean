import SqlGateway.Number.Shortest
import SqlGateway.Text.Digit

/-!
# Writing a floating-point number

The layout of a number is a record of decisions: between which decimal exponents it is written
positionally, and whether a positive exponent carries its sign. `render` lays the shortest digits
out by such a record.
-/

namespace SqlGateway.Number

/-- Which decimal exponents are written positionally, and the text before a positive exponent. -/
structure Layout where
  leastPositional : Int
  greatestPositional : Int
  positiveSign : List Char

namespace Layout

def scientific (layout : Layout) (digits : List Char) (exponent : Int) : List Char :=
  let mantissa :=
    match digits with
    | first :: rest => if rest.isEmpty then [first] else first :: '.' :: rest
    | [] => []
  let sign := if exponent < 0 then ['-'] else layout.positiveSign
  mantissa ++ 'e' :: sign ++ Nat.toDigits 10 exponent.natAbs

/-- Digits with the point at its place, and at least one digit after it. The first digit counts
`10 ^ exponent`. -/
def positional (digits : List Char) (exponent : Int) : List Char :=
  if exponent < 0 then
    '0' :: '.' :: List.replicate (exponent.natAbs - 1) '0' ++ digits
  else
    let whole := exponent.toNat + 1
    if digits.length ≤ whole then
      digits ++ List.replicate (whole - digits.length) '0' ++ ['.', '0']
    else digits.take whole ++ '.' :: digits.drop whole

def renderChars (layout : Layout) (value : Binary64) : List Char :=
  let decimal := value.shortest
  let digits := Nat.toDigits 10 decimal.digits
  let exponent : Int := digits.length - 1 + decimal.exponent
  let sign := if value.negative then ['-'] else []
  sign ++
    (if layout.leastPositional ≤ exponent && exponent ≤ layout.greatestPositional then
      positional digits exponent
    else layout.scientific digits exponent)

def render (layout : Layout) (value : Binary64) : String :=
  String.ofList (layout.renderChars value)

end Layout

inductive FloatReading where
  | finite (value : Binary64)
  | infinite (negative : Bool)
  | undefined
deriving DecidableEq, Repr

namespace FloatReading

def exponent? (text : List Char) : Option Int :=
  let (negative, digits) :=
    match text with
    | '-' :: rest => (true, rest)
    | '+' :: rest => (false, rest)
    | rest => (false, rest)
  if digits.isEmpty || !digits.all Char.isDigit then none
  else
    let magnitude : Int := Text.digitsValue ((digits.dropWhile (· = '0')).take 12)
    some (if negative then -magnitude else magnitude)

/-- The magnitude of a decimal text without sign: digits on at least one side of an optional point,
then an optional exponent. -/
def decimal? (text : List Char) : Option Decimal :=
  let whole := text.takeWhile Char.isDigit
  let rest := text.dropWhile Char.isDigit
  let (fraction, rest) :=
    match rest with
    | '.' :: behind => (behind.takeWhile Char.isDigit, behind.dropWhile Char.isDigit)
    | other => ([], other)
  if whole.isEmpty && fraction.isEmpty then none
  else
    let digits := Text.digitsValue (whole ++ fraction)
    let shift : Int := -(fraction.length : Int)
    match rest with
    | [] => some ⟨digits, shift⟩
    | mark :: power =>
      if mark = 'e' || mark = 'E' then (exponent? power).map fun value => ⟨digits, shift + value⟩
      else none

/-- A whole text as a number: decimal digits, or one of the words for the other kinds in either
case. `format` is the binary format that the decimal is rounded to first. -/
def ofText? (format : BinaryFormat) (text : String) : Option FloatReading :=
  let (negative, rest) :=
    match text.toList with
    | '-' :: rest => (true, rest)
    | '+' :: rest => (false, rest)
    | rest => (false, rest)
  let word := String.ofList (rest.map Char.toLower)
  if word = "inf" || word = "infinity" then some (.infinite negative)
  else if word = "nan" then some .undefined
  else
    (decimal? rest).map fun decimal =>
      if decimal.digits = 0 then .finite (.zero negative)
      else
        let magnitude : Int := (Nat.toDigits 10 decimal.digits).length + decimal.exponent
        if 310 < magnitude then .infinite negative
        else if magnitude < -330 then .finite (.zero negative)
        else
          let (numerator, denominator) := decimal.ratio
          match format.round numerator denominator with
          | none => .infinite negative
          | some (significand, exponent) =>
            let (numerator, denominator) := scaled significand exponent
            match Binary64.ofRatio negative numerator denominator with
            | some value => .finite value
            | none => .infinite negative

end FloatReading

end SqlGateway.Number
