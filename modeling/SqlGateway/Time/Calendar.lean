/-!
# Days and times of day

A day is counted from the first day of year 1, in the calendar with leap years every four years
except three times in four centuries. Days are told from the year -262143 to the year 262142. A time
of day is counted in seconds; the nanoseconds of a leap second run on beyond the last second of its
minute.
-/

namespace SqlGateway.Time

/-- A day by year, month and day of the month, the latter two from one. -/
structure Date where
  year : Int
  month : Nat
  day : Nat
deriving DecidableEq, Repr

def isLeapYear (year : Int) : Bool := year % 4 = 0 && (year % 100 ≠ 0 || year % 400 = 0)

def monthLengths (year : Int) : List Nat :=
  [31, if isLeapYear year then 29 else 28, 31, 30, 31, 30, 31, 31, 30, 31, 30, 31]

def firstYear : Int := -262143

def lastYear : Int := 262142

namespace Date

def isValid (date : Date) : Bool :=
  firstYear ≤ date.year && date.year ≤ lastYear && 1 ≤ date.month && 1 ≤ date.day &&
    match (monthLengths date.year)[date.month - 1]? with
    | some length => date.day ≤ length
    | none => false

def daysBefore (year : Int) (month : Nat) : Nat :=
  ((monthLengths year).take (month - 1)).foldl (· + ·) 0

def dayNumber (date : Date) : Int :=
  let before := date.year - 1
  365 * before + before / 4 - before / 100 + before / 400 + daysBefore date.year date.month +
    (date.day - 1)

/-- The month and the day of the month of a day of a year, counted from zero. -/
def inYear : List Nat → Nat → Nat → Nat × Nat
  | [], month, day => (month, day + 1)
  | length :: rest, month, day =>
    if day < length then (month, day + 1) else inYear rest (month + 1) (day - length)

def ofDayNumber (number : Int) : Date :=
  let cycle := number / 146097
  let inCycle := (number % 146097).toNat
  let century := min (inCycle / 36524) 3
  let inCentury := inCycle - century * 36524
  let quadrennium := min (inCentury / 1461) 24
  let inQuadrennium := inCentury - quadrennium * 1461
  let single := min (inQuadrennium / 365) 3
  let year : Int := 400 * cycle + 100 * century + 4 * quadrennium + single + 1
  let (month, day) := inYear (monthLengths year) 1 (inQuadrennium - single * 365)
  ⟨year, month, day⟩

example : (Date.mk 1900 1 1).dayNumber = 693595 := by decide
example : ofDayNumber 693595 = ⟨1900, 1, 1⟩ := by decide
example : ofDayNumber (Date.mk 2024 2 29).dayNumber = ⟨2024, 2, 29⟩ := by decide
example : ofDayNumber (Date.mk 2000 12 31).dayNumber = ⟨2000, 12, 31⟩ := by decide

end Date

structure TimeOfDay where
  seconds : Nat
  nanoseconds : Nat
deriving DecidableEq, Repr

def nanosecondsPerSecond : Nat := 1000000000

def TimeOfDay.ofNanoseconds (nanoseconds : Nat) : TimeOfDay :=
  ⟨nanoseconds / nanosecondsPerSecond, nanoseconds % nanosecondsPerSecond⟩

structure Moment where
  day : Int
  time : TimeOfDay
deriving DecidableEq, Repr

def Moment.back (moment : Moment) (seconds : Int) : Moment :=
  let total := moment.day * 86400 + moment.time.seconds - seconds
  ⟨total / 86400, ⟨(total % 86400).toNat, moment.time.nanoseconds⟩⟩

def Moment.isTold (moment : Moment) : Bool :=
  (Date.mk firstYear 1 1).dayNumber ≤ moment.day &&
    moment.day ≤ (Date.mk lastYear 12 31).dayNumber

end SqlGateway.Time
