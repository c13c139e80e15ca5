import SqlGateway.Json.Value
import SqlGateway.Json.ReadError
import SqlGateway.Text.Digit

/-!
# Reading JSON

Each reader takes the text from a place on and gives a result with the rest, or stops. Containers
may be nested 127 deep.

A number keeps as many digits as fit 64 bits; the remaining power of ten is applied to the rounded
digits by one rounded multiplication or division, so the result can differ from the nearest number
in the last place.
-/

namespace SqlGateway.Json

namespace Reader

/-- A result and the rest of the text, or the reason to stop. -/
abbrev Step (α : Type) := Except Stop (α × List Char)

def Step.andThen {α β : Type} (step : Step α) (next : α → List Char → Step β) : Step β :=
  match step with
  | .error stop => .error stop
  | .ok (result, rest) => next result rest

def stop {α : Type} (cause : ReadCause) (rest : List Char) : Step α :=
  .error ⟨cause, rest, 0⟩

/-- Stops behind the byte after the consumed text. -/
def stopAhead {α : Type} (cause : ReadCause) (rest : List Char) : Step α :=
  .error ⟨cause, rest, 1⟩

def isSpace (character : Char) : Bool :=
  character = ' ' || character = '\n' || character = '\t' || character = '\r'

def skipSpace (text : List Char) : List Char := text.dropWhile isSpace

def keyword (value : Value) : List Char → List Char → Step Value
  | [], rest => .ok (value, rest)
  | _ :: _, [] => stop .endInValue []
  | expected :: more, found :: rest =>
    if found = expected then keyword value more rest
    else stopAhead .expectedIdentifier (found :: rest)

/-! ## Strings -/

/-- Four hexadecimal digits. Four bytes are taken together, whatever they are. -/
def hexUnit (text : List Char) : Step Nat :=
  let refused : Step Nat :=
    if (Text.Utf8.encode (text.take 4)).length < 4 then stop .endInString []
    else .error ⟨.invalidEscape, text, 4⟩
  match text with
  | first :: second :: third :: fourth :: rest =>
    match Text.hexValue? first, Text.hexValue? second, Text.hexValue? third,
      Text.hexValue? fourth with
    | some a, some b, some c, some d => .ok (((a * 16 + b) * 16 + c) * 16 + d, rest)
    | _, _, _, _ => refused
  | _ => refused

/-- The character of a `\u` escape, from its digits on. A leading surrogate needs its partner. -/
def unicodeEscape (text : List Char) : Step Char :=
  (hexUnit text).andThen fun unit rest =>
  if 0xDC00 ≤ unit ∧ unit ≤ 0xDFFF then stop .loneSurrogate rest
  else if unit < 0xD800 ∨ 0xDFFF < unit then .ok (Char.ofNat unit, rest)
  else
    match rest with
    | [] => stop .endInString []
    | '\\' :: [] => stop .endInString []
    | '\\' :: 'u' :: digits =>
      (hexUnit digits).andThen fun low rest =>
      if low < 0xDC00 ∨ 0xDFFF < low then stop .loneSurrogate rest
      else .ok (Char.ofNat (0x10000 + (unit - 0xD800) * 1024 + (low - 0xDC00)), rest)
    | '\\' :: other => stopAhead .endOfEscape other
    | other => stopAhead .endOfEscape other

def escape : List Char → Step Char
  | [] => stop .endInString []
  | letter :: rest =>
    match letter with
    | '"' => .ok ('"', rest)
    | '\\' => .ok ('\\', rest)
    | '/' => .ok ('/', rest)
    | 'b' => .ok ('\x08', rest)
    | 'f' => .ok ('\x0c', rest)
    | 'n' => .ok ('\n', rest)
    | 'r' => .ok ('\r', rest)
    | 't' => .ok ('\t', rest)
    | 'u' => unicodeEscape rest
    | _ => stopAhead .invalidEscape (letter :: rest)

/-- The characters up to the closing quote; `found` holds those before, last first. -/
def stringBody : Nat → List Char → List Char → Step String
  | 0, _, text => stop .endInString text
  | _ + 1, _, [] => stop .endInString []
  | fuel + 1, found, character :: rest =>
    if character = '"' then .ok (String.ofList found.reverse, rest)
    else if character = '\\' then
      (escape rest).andThen fun escaped rest =>
      stringBody fuel (escaped :: found) rest
    else if character.toNat < 32 then stopAhead .controlCharacter (character :: rest)
    else stringBody fuel (character :: found) rest

def string (text : List Char) : Step String := stringBody (text.length + 1) [] text

/-! ## Numbers -/

/-- Digits appended to a significand while it fits 64 bits: the significand, the number of digits
taken, and the rest. -/
def takeDigits (significand taken : Nat) : List Char → Nat × Nat × List Char
  | [] => (significand, taken, [])
  | digit :: rest =>
    if digit.isDigit && significand * 10 + Text.digitValue digit < UInt64.size then
      takeDigits (significand * 10 + Text.digitValue digit) (taken + 1) rest
    else (significand, taken, digit :: rest)

/-- Divides by `10 ^ 308` until the remaining power is at most that, or nothing is left. -/
def scaleDown : Nat → Number.Binary64 → Nat → Number.Binary64 × Nat
  | 0, value, power => (value, power)
  | fuel + 1, value, power =>
    if power ≤ 308 || value.isZero then (value, power)
    else
      match Number.Binary64.ofRatio false (Nat.pow 10 308) 1 with
      | none => (value, power)
      | some step => scaleDown fuel ((value.div step).getD (.zero false)) (power - 308)

/-- `significand * 10 ^ exponent` by one rounded step, or by several for very small numbers. -/
def scale (negative : Bool) (significand : Nat) (exponent : Int) : Option Number.Binary64 := do
  let base ← Number.Binary64.ofNat significand
  let magnitude ←
    if 0 ≤ exponent then
      if 308 < exponent then (if base.isZero then some base else none)
      else do
        let power ← Number.Binary64.ofRatio false (Nat.pow 10 exponent.toNat) 1
        base.mul power
    else
      let (value, power) := scaleDown 5 base exponent.natAbs
      if value.isZero then some value
      else if 308 < power then some (.zero false)
      else do
        let divisor ← Number.Binary64.ofRatio false (Nat.pow 10 power) 1
        value.div divisor
  return if negative then magnitude.neg else magnitude

def float (negative : Bool) (significand : Nat) (exponent : Int) (rest : List Char) :
    Step Number :=
  match scale negative significand exponent with
  | some value => .ok (.float value, rest)
  | none => stop .numberOutOfRange rest

/-- The digits of an exponent up to the place where they leave 32 bits: the value, the rest, and
whether that happened. -/
def exponentDigits (value : Nat) : List Char → Nat × List Char × Bool
  | [] => (value, [], false)
  | digit :: rest =>
    if digit.isDigit then
      if value * 10 + Text.digitValue digit < 2147483648 then
        exponentDigits (value * 10 + Text.digitValue digit) rest
      else (value, rest, true)
    else (value, digit :: rest, false)

def exponentPart (negative : Bool) (significand : Nat) (shift : Int) (text : List Char) :
    Step Number :=
  let (positive, text) :=
    match text with
    | '+' :: rest => (true, rest)
    | '-' :: rest => (false, rest)
    | rest => (true, rest)
  match text with
  | [] => stop .endInValue []
  | digit :: rest =>
    if !digit.isDigit then stopAhead .invalidNumber (digit :: rest)
    else
      match exponentDigits (Text.digitValue digit) rest with
      | (value, rest, false) =>
        float negative significand (if positive then shift + value else shift - value) rest
      | (_, rest, true) =>
        if significand ≠ 0 && positive then stop .numberOutOfRange rest
        else .ok (.float (.zero negative), rest.dropWhile Char.isDigit)

def afterDigits (negative : Bool) (significand : Nat) (shift : Int) (text : List Char) :
    Step Number :=
  match text with
  | mark :: rest =>
    if mark = 'e' || mark = 'E' then exponentPart negative significand shift rest
    else float negative significand shift text
  | [] => float negative significand shift []

/-- The fraction part, from behind the point on. `shift` counts the digits before the point that
did not fit. -/
def fractionPart (negative : Bool) (significand : Nat) (shift : Int) (text : List Char) :
    Step Number :=
  let (digits, taken, rest) := takeDigits significand 0 text
  match rest with
  | next :: _ =>
    if next.isDigit then
      afterDigits negative digits (shift - taken) (rest.dropWhile Char.isDigit)
    else if taken = 0 then stopAhead .invalidNumber rest
    else afterDigits negative digits (shift - taken) rest
  | [] =>
    if taken = 0 then stopAhead .endInValue [] else afterDigits negative digits (shift - taken) []

def longNumber (negative : Bool) (significand : Nat) (text : List Char) : Step Number :=
  let shift : Int := (text.takeWhile Char.isDigit).length
  match text.dropWhile Char.isDigit with
  | '.' :: rest => fractionPart negative significand shift rest
  | rest => afterDigits negative significand shift rest

/-- A number whose whole digits fit 64 bits, from behind them on. A negative number below the range
of the signed type, and minus zero, are floating-point numbers. -/
def numberTail (negative : Bool) (significand : Nat) (text : List Char) : Step Number :=
  match text with
  | '.' :: rest => fractionPart negative significand 0 rest
  | 'e' :: rest => exponentPart negative significand 0 rest
  | 'E' :: rest => exponentPart negative significand 0 rest
  | _ =>
    let value : Int := if negative then -(significand : Int) else significand
    if negative && (significand = 0 || 9223372036854775808 < significand) then
      float negative significand 0 text
    else
      match Integer.ofInt? value with
      | some integer => .ok (.integer integer, text)
      | none => stop .numberOutOfRange text

def number (negative : Bool) (text : List Char) : Step Number :=
  match text with
  | [] => stop .endInValue []
  | '0' :: rest =>
    match rest with
    | next :: _ =>
      if next.isDigit then stopAhead .invalidNumber rest else numberTail negative 0 rest
    | [] => numberTail negative 0 []
  | digit :: rest =>
    if !digit.isDigit then stopAhead .invalidNumber (digit :: rest)
    else
      let (significand, _, rest) := takeDigits (Text.digitValue digit) 1 rest
      match rest with
      | next :: _ =>
        if next.isDigit then longNumber negative significand rest
        else numberTail negative significand rest
      | [] => numberTail negative significand []

/-! ## Containers -/

def nextItem (first : Bool) (text : List Char) : Step Bool :=
  match skipSpace text with
  | [] => stopAhead .endInList []
  | ']' :: rest => .ok (false, ']' :: rest)
  | next :: rest =>
    if first then .ok (true, next :: rest)
    else if next = ',' then
      match skipSpace rest with
      | [] => stopAhead .endInValue []
      | ']' :: rest => stopAhead .trailingComma (']' :: rest)
      | other => .ok (true, other)
    else stopAhead .expectedListEnd (next :: rest)

def name (text : List Char) : Step (Option String) :=
  match text with
  | '"' :: rest => (string rest).andThen fun name rest => .ok (some name, rest)
  | other => stopAhead .keyNotText other

def nextName (first : Bool) (text : List Char) : Step (Option String) :=
  match skipSpace text with
  | [] => stopAhead .endInObject []
  | '\x7d' :: rest => .ok (none, '\x7d' :: rest)
  | next :: rest =>
    if first then name (next :: rest)
    else if next = ',' then
      match skipSpace rest with
      | [] => stopAhead .endInValue []
      | '\x7d' :: rest => stopAhead .trailingComma ('\x7d' :: rest)
      | other => name other
    else stopAhead .expectedObjectEnd (next :: rest)

def colon (text : List Char) : Step Unit :=
  match skipSpace text with
  | [] => stopAhead .endInObject []
  | ':' :: rest => .ok ((), rest)
  | other => stopAhead .expectedColon other

/-! ## Values -/

/-- What becomes of a member whose name comes again. -/
inductive Repeats where
  /-- Both members are kept. -/
  | kept
  /-- The value of the first one is replaced in place. -/
  | replaced
deriving DecidableEq, Repr

def Repeats.collect (repeats : Repeats) (members : List (String × Value)) : Value :=
  match repeats with
  | .kept => .object members
  | .replaced => .object (Entries.ofList members).toList

/-- How many containers may enclose a value. -/
def depthLimit : Nat := 128

mutual
/-- A value; `depth` counts the containers that may still be opened, less one. -/
def valueWithin (repeats : Repeats) : Nat → Nat → List Char → Step Value
  | 0, _, text => stopAhead .endInValue text
  | fuel + 1, depth, text =>
    match skipSpace text with
    | [] => stopAhead .endInValue []
    | 'n' :: rest => keyword .null ['u', 'l', 'l'] rest
    | 't' :: rest => keyword (.bool true) ['r', 'u', 'e'] rest
    | 'f' :: rest => keyword (.bool false) ['a', 'l', 's', 'e'] rest
    | '"' :: rest => (string rest).andThen fun text rest => .ok (.string text, rest)
    | '-' :: rest => (number true rest).andThen fun number rest => .ok (.number number, rest)
    | '[' :: rest =>
      match depth with
      | 0 | 1 => stopAhead .tooDeep ('[' :: rest)
      | depth + 1 => items repeats fuel depth true [] rest
    | '\x7b' :: rest =>
      match depth with
      | 0 | 1 => stopAhead .tooDeep ('\x7b' :: rest)
      | depth + 1 => members repeats fuel depth true [] rest
    | next :: rest =>
      if next.isDigit then
        (number false (next :: rest)).andThen fun number rest => .ok (.number number, rest)
      else stopAhead .expectedValue (next :: rest)

def items (repeats : Repeats) : Nat → Nat → Bool → List Value → List Char → Step Value
  | 0, _, _, _, text => stopAhead .endInList text
  | fuel + 1, depth, first, found, text =>
    (nextItem first text).andThen fun more rest =>
    if more then
      (valueWithin repeats fuel depth rest).andThen fun item rest =>
      items repeats fuel depth false (item :: found) rest
    else .ok (.array found.reverse, rest.drop 1)

def members (repeats : Repeats) :
    Nat → Nat → Bool → List (String × Value) → List Char → Step Value
  | 0, _, _, _, text => stopAhead .endInObject text
  | fuel + 1, depth, first, found, text =>
    (nextName first text).andThen fun name? rest =>
    match name? with
    | none => .ok (repeats.collect found.reverse, rest.drop 1)
    | some name =>
      (colon rest).andThen fun _ rest =>
      (valueWithin repeats fuel depth rest).andThen fun item rest =>
      members repeats fuel depth false ((name, item) :: found) rest
end

def value (repeats : Repeats) (depth : Nat) (text : List Char) : Step Value :=
  valueWithin repeats (2 * text.length + 2) depth text

def ending (text : List Char) : Step Unit :=
  match skipSpace text with
  | [] => .ok ((), [])
  | other => stopAhead .trailingText other

def document (text : List Char) : Step Value :=
  (value .replaced depthLimit text).andThen fun result rest =>
  (ending rest).andThen fun _ rest => .ok (result, rest)

end Reader

def Value.parse (text : String) : Except ReadError Value :=
  match Reader.document text.toList with
  | .ok (result, _) => .ok result
  | .error stop => .error (stop.toError text.toList)

end SqlGateway.Json
