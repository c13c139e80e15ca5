import SqlGateway.Datum.Kind
import SqlGateway.Json.Reader
import SqlGateway.Text.Split
import SqlGateway.Text.Utf8
import SqlGateway.Time.Reading

/-!
# Values from their text form

A server sends a value as text, or as its bare octets where MySQL stores octets. What a text says is
read by the kind that is asked for.
-/

namespace SqlGateway.TextForm

open Json (Value)

def characters? (octets : List UInt8) : Option String :=
  (Text.Utf8.decode? octets).map String.ofList

/-- A whole number in digits behind an optional sign. A type without negative numbers refuses a
minus sign, also that of zero. -/
def integer? (type : IntegerType) (text : String) : Option type.Member :=
  let (negative, digits) :=
    match text.toList with
    | '-' :: rest => (true, rest)
    | '+' :: rest => (false, rest)
    | rest => (false, rest)
  if digits = [] || !digits.all Char.isDigit || (negative && type.least = 0) then none
  else
    let magnitude : Int := Text.digitsValue digits
    type.ofInt? (if negative then -magnitude else magnitude)

def hexOctets? : List Char → Option (List UInt8)
  | [] => some []
  | [_] => none
  | high :: low :: rest => do
    let high ← Text.hexValue? high
    let low ← Text.hexValue? low
    return (high * 16 + low).toUInt8 :: (← hexOctets? rest)

def markedOctets? (text : String) : Option (List UInt8) :=
  match text.toList with
  | '\\' :: 'x' :: digits => hexOctets? digits
  | _ => none

def wrapped? : List Char → Option (List Char)
  | '\x7b' :: rest => if rest.getLast? = some '\x7d' then some rest.dropLast else none
  | 'u' :: 'r' :: 'n' :: ':' :: 'u' :: 'u' :: 'i' :: 'd' :: ':' :: rest => some rest
  | _ => none

/-- An identifier may be written in braces or with its name in front; if it is not, its hyphens may
be missing. -/
def uuid? (text : String) : Option Uuid :=
  let inner := (wrapped? text.toList).getD text.toList
  let digits := inner.filter (· ≠ '-')
  let isWhole := inner = Text.joinChars '-' (cutGroups Uuid.groups digits) || text.toList = digits
  if isWhole then
    match hexOctets? digits with
    | none => none
    | some octets => if length : octets.length = 16 then some ⟨octets, length⟩ else none
  else none

example : (uuid? "A0EEBC99-9C0B-4EF8-BB6D-6BB9BD380A11").map Uuid.text =
    some "a0eebc99-9c0b-4ef8-bb6d-6bb9bd380a11" := by decide
example : (uuid? "a0eebc999c0b4ef8bb6d6bb9bd380a11").map Uuid.text =
    some "a0eebc99-9c0b-4ef8-bb6d-6bb9bd380a11" := by decide
example : uuid? "\x7ba0eebc999c0b4ef8bb6d6bb9bd380a11\x7d" = none := by decide

def document? (text : String) : Option Value := (Value.parse text).toOption

def float? (format : Number.BinaryFormat) (text : String) : Option Number.FloatReading :=
  Number.FloatReading.ofText? format text

def postgres? : (kind : Kind) → String → Option kind.Denote
  | .integer type, text => integer? type text
  | .truth, text =>
    match text with
    | "t" => some true
    | "f" => some false
    | _ => none
  | .single, text => float? .single text
  | .double, text => float? .double text
  | .text, text => some text
  | .octets, text => markedOctets? text
  | .document, text => document? text
  | .uuid, text => uuid? text
  | .date, text => Time.Reading.date? text
  | .time, text => Time.Reading.time? text
  | .moment, text => Time.Reading.localMoment? text
  | .instant, text => Time.Reading.zonedMoment? text

/-- A value of MySQL. Moments of universal time do not say so. -/
def mySql? : (kind : Kind) → List UInt8 → Option kind.Denote
  | .integer type, octets => (characters? octets).bind (integer? type)
  | .truth, octets =>
    ((characters? octets).bind (integer? .int8)).map fun value => decide (value.value ≠ 0)
  | .single, octets => (characters? octets).bind (float? .single)
  | .double, octets => (characters? octets).bind (float? .double)
  | .text, octets => characters? octets
  | .octets, octets => some octets
  | .document, octets => (characters? octets).bind document?
  | .uuid, _ => none
  | .date, octets => (characters? octets).bind Time.Reading.date?
  | .time, octets => (characters? octets).bind Time.Reading.time?
  | .moment, octets | .instant, octets => (characters? octets).bind Time.Reading.moment?

end SqlGateway.TextForm
