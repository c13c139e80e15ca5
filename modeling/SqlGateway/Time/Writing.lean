import SqlGateway.Number.Rounding
import SqlGateway.Time.Calendar

/-!
# Dates and times as text

Years outside four digits carry a sign. Fractions of a second have no digits, or three, six or nine,
as many as they need.
-/

namespace SqlGateway.Time

def padded (width number : Nat) : String := String.ofList (Number.paddedDigits width number)

def yearText (year : Int) : String :=
  if 0 ≤ year ∧ year ≤ 9999 then padded 4 year.toNat
  else (if year < 0 then "-" else "+") ++ padded 4 year.natAbs

def Date.text (date : Date) : String :=
  yearText date.year ++ "-" ++ padded 2 date.month ++ "-" ++ padded 2 date.day

def fractionText (nanoseconds : Nat) : String :=
  if nanoseconds = 0 then ""
  else if nanoseconds % 1000000 = 0 then "." ++ padded 3 (nanoseconds / 1000000)
  else if nanoseconds % 1000 = 0 then "." ++ padded 6 (nanoseconds / 1000)
  else "." ++ padded 9 nanoseconds

def TimeOfDay.text (time : TimeOfDay) : String :=
  let second := time.seconds % 60 + time.nanoseconds / nanosecondsPerSecond
  padded 2 (time.seconds / 3600) ++ ":" ++ padded 2 (time.seconds / 60 % 60) ++ ":" ++
    padded 2 second ++ fractionText (time.nanoseconds % nanosecondsPerSecond)

def dayText (day : Int) : String := (Date.ofDayNumber day).text

def Moment.text (moment : Moment) : String := dayText moment.day ++ " " ++ moment.time.text

def Moment.universalText (moment : Moment) : String :=
  dayText moment.day ++ "T" ++ moment.time.text ++ "+00:00"

example : (Moment.mk 738886 ⟨3845, 123456000⟩).universalText =
    "2024-01-02T01:04:05.123456+00:00" := by decide
example : (TimeOfDay.mk 86399 996666666).text = "23:59:59.996666666" := by decide

end SqlGateway.Time
