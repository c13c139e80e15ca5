import SqlGateway.Number.Layout
import SqlGateway.Text.Ranges
import SqlGateway.Time.Calendar

/-!
# Dates and times from text

Each number may have fewer digits than its place allows, and blanks may come before it. A reading
function takes what it needs from the front of a text and gives back the rest.
-/

namespace SqlGateway.Time.Reading

def skipBlanks (text : List Char) : List Char := text.dropWhile Text.isBlank

def digits (width : Nat) (text : List Char) : Option (Nat × List Char) :=
  let digits := (text.take width).takeWhile Char.isDigit
  if digits = [] then none
  else some (Text.digitsValue digits, text.drop digits.length)

def number (width : Nat) (text : List Char) : Option (Nat × List Char) :=
  digits width (skipBlanks text)

def character (expected : Char) : List Char → Option (List Char)
  | [] => none
  | first :: rest => if first = expected then some rest else none

/-- A year, a month and a day with hyphens between them. A year right behind a sign may have any
number of digits. -/
def date (text : List Char) : Option (Date × List Char) := do
  let text := skipBlanks text
  let (year, text) ←
    match text with
    | '+' :: rest => (digits rest.length rest).map fun (year, rest) => ((year : Int), rest)
    | '-' :: rest => (digits rest.length rest).map fun (year, rest) => (-(year : Int), rest)
    | _ => (digits 4 text).map fun (year, rest) => ((year : Int), rest)
  let text ← character '-' text
  let (month, text) ← number 2 text
  let text ← character '-' text
  let (day, text) ← number 2 text
  let date : Date := ⟨year, month, day⟩
  if date.isValid then some (date, text) else none

/-- The nanoseconds behind a point, if one follows; digits beyond the ninth are dropped. -/
def fraction : List Char → Option (Nat × List Char)
  | '.' :: rest =>
    let digits := rest.takeWhile Char.isDigit
    if digits = [] then none
    else
      let kept := digits.take 9
      some (Text.digitsValue kept * Nat.pow 10 (9 - kept.length),
        rest.drop digits.length)
  | rest => some (0, rest)

/-- Hours, minutes and seconds with colons between them, and a fraction. The sixtieth second is a
leap second. -/
def time (text : List Char) : Option (TimeOfDay × List Char) := do
  let (hour, text) ← number 2 text
  let text ← character ':' text
  let (minute, text) ← number 2 text
  let text ← character ':' text
  let (second, text) ← number 2 text
  let (nanoseconds, text) ← fraction text
  if 23 < hour ∨ 59 < minute ∨ 60 < second then none
  else
    let minutes := (hour * 60 + minute) * 60
    if second = 60 then some (⟨minutes + 59, nanosecondsPerSecond + nanoseconds⟩, text)
    else some (⟨minutes + second, nanoseconds⟩, text)

def moment (text : List Char) : Option (Moment × List Char) := do
  let (date, text) ← date text
  let (time, text) ← time text
  return (⟨date.dayNumber, time⟩, text)

def twoDigits : List Char → Option (Nat × List Char)
  | first :: second :: rest =>
    if first.isDigit && second.isDigit then
      some (Text.digitsValue [first, second], rest)
    else none
  | _ => none

def isBehind? (sign : Char) : Option Bool :=
  if sign = '+' then some false
  else if sign = '-' || sign = '\u2212' then some true
  else none

def offset (text : List Char) : Option (Int × List Char) :=
  match skipBlanks text with
  | 'Z' :: rest | 'z' :: rest => some (0, rest)
  | sign :: rest => do
    let behind ← isBehind? sign
    let (hours, rest) ← twoDigits rest
    let rest := rest.dropWhile fun next => next = ':' || Text.isBlank next
    let (minutes, rest) ← if rest = [] then some (0, rest) else twoDigits rest
    if 59 < minutes then none
    else
      let seconds : Int := hours * 3600 + minutes * 60
      some (if behind then -seconds else seconds, rest)
  | [] => none

def whole {α : Type} (read : List Char → Option (α × List Char)) (text : String) : Option α :=
  match read text.toList with
  | some (result, []) => some result
  | _ => none

def date? (text : String) : Option Date := whole date text

def time? (text : String) : Option TimeOfDay := whole time text

def moment? (text : String) : Option Moment := whole moment text

def withOffset (text : List Char) : Option ((Moment × Int) × List Char) := do
  let (moment, text) ← moment text
  let (seconds, text) ← offset text
  return ((moment, seconds), text)

/-- A date and a time whose zone is not told. A plus sign in the text announces an offset, which is
left out. -/
def localMoment? (text : String) : Option Moment :=
  if '+' ∈ text.toList then (whole withOffset text).map Prod.fst else moment? text

/-- A date, a time and an offset of less than a day, as the moment of universal time. -/
def zonedMoment? (text : String) : Option Moment := do
  let (moment, seconds) ← whole withOffset text
  let universal := moment.back seconds
  if seconds.natAbs < 86400 && universal.isTold then some universal else none

example : date? "2024-1-2" = some ⟨2024, 1, 2⟩ := by decide
example : date? "12024-01-02" = none := by decide
example : date? "+262143-01-01" = none := by decide
example : date? "-5-01-02" = some ⟨-5, 1, 2⟩ := by decide
example : zonedMoment? "2024-01-02 01:04:05+02" =
    some ⟨738885, ⟨83045, 0⟩⟩ := by decide
example : localMoment? "2024-01-02 01:04:05+02" = moment? "2024-01-02 01:04:05" := by decide

end SqlGateway.Time.Reading
