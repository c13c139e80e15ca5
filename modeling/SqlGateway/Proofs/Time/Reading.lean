import Mathlib.Data.List.Basic
import Mathlib.Data.List.TakeWhile
import SqlGateway.Proofs.Text.Classes
import SqlGateway.Proofs.Text.Digits
import SqlGateway.Time.Reading

/-!
# Dates and times as servers write them

Servers write years with at least four digits, and the other numbers of a date or a time with at
least two. What is read of such a text is the date or the time itself, as long as the year has no
more than four digits, the day is one of the calendar and the hour is one of a day; every other text
is refused.
-/

namespace SqlGateway.Time

/-- A day as it is written; it need not be one of the calendar. -/
structure WrittenDate where
  year : Nat
  month : Nat
  day : Nat
  monthBound : month < 100
  dayBound : day < 100

/-- A time as it is written, with the digits of its fraction; the hours may go beyond a day. -/
structure WrittenTime where
  hour : Nat
  minute : Nat
  second : Nat
  fraction : List Char
  minuteBound : minute < 60
  secondBound : second < 60
  digits : ∀ digit ∈ fraction, digit.isDigit = true
  short : fraction.length ≤ 9

open Number (paddedDigits)

namespace WrittenDate

def date (written : WrittenDate) : Date := ⟨written.year, written.month, written.day⟩

def chars (written : WrittenDate) : List Char :=
  paddedDigits 4 written.year ++ '-' :: (paddedDigits 2 written.month ++
    '-' :: paddedDigits 2 written.day)

def isTold (written : WrittenDate) : Bool := written.year < 10000 && written.date.isValid

end WrittenDate

namespace WrittenTime

def timeOfDay (written : WrittenTime) : TimeOfDay where
  seconds := (written.hour * 60 + written.minute) * 60 + written.second
  nanoseconds :=
    Text.digitsValue written.fraction * Nat.pow 10 (9 - written.fraction.length)

def fractionChars (written : WrittenTime) : List Char :=
  if written.fraction = [] then [] else '.' :: written.fraction

def chars (written : WrittenTime) : List Char :=
  paddedDigits 2 written.hour ++ ':' :: (paddedDigits 2 written.minute ++
    ':' :: (paddedDigits 2 written.second ++ written.fractionChars))

end WrittenTime

def momentChars (date : WrittenDate) (time : WrittenTime) : List Char :=
  date.chars ++ ' ' :: time.chars

namespace Reading

/-! ## Numbers -/

section Digits

variable {text : List Char} (allDigits : ∀ digit ∈ text, digit.isDigit = true)

include allDigits

theorem digits_append {width : Nat} (nonempty : text ≠ []) (length : text.length = width)
    (rest : List Char) : digits width (text ++ rest) = some (Text.digitsValue text, rest) := by
  subst length
  have taken : ((text ++ rest).take text.length).takeWhile Char.isDigit = text := by
    rw [List.take_left, List.takeWhile_eq_self_iff]
    exact allDigits
  rw [digits, taken, if_neg nonempty, List.drop_left]

theorem exists_digits_append {width : Nat} (wide : 0 < width) (longer : width < text.length)
    (rest : List Char) :
    ∃ value digit more, digit.isDigit = true ∧
      digits width (text ++ rest) = some (value, digit :: more) := by
  have taken : ((text ++ rest).take width).takeWhile Char.isDigit = text.take width := by
    rw [List.take_append_of_le_length (Nat.le_of_lt longer), List.takeWhile_eq_self_iff]
    exact fun digit member => allDigits digit (List.mem_of_mem_take member)
  have nonempty : text.take width ≠ [] := by
    intro none
    rcases List.take_eq_nil_iff.mp none with zero | empty
    · exact absurd zero (Nat.ne_of_gt wide)
    · rw [empty] at longer
      exact absurd longer (Nat.not_lt_zero width)
  have left : (text ++ rest).drop (text.take width).length =
      text[width] :: (text.drop (width + 1) ++ rest) := by
    rw [List.length_take, Nat.min_eq_left (Nat.le_of_lt longer),
      List.drop_append_of_le_length (Nat.le_of_lt longer), List.drop_eq_getElem_cons longer]
    rfl
  have read : digits width (text ++ rest) = some (Text.digitsValue (text.take width),
      text[width] :: (text.drop (width + 1) ++ rest)) := by
    rw [digits, taken, if_neg nonempty, left]
  exact ⟨_, _, _, allDigits _ (List.getElem_mem longer), read⟩

theorem skipBlanks_append (nonempty : text ≠ []) (rest : List Char) :
    skipBlanks (text ++ rest) = text ++ rest := by
  cases text with
  | nil => exact absurd rfl nonempty
  | cons first more =>
    have visible := Text.isBlank_of_isDigit (allDigits first List.mem_cons_self)
    rw [skipBlanks, List.cons_append, List.dropWhile_cons, visible]
    rfl

end Digits

theorem padded_ne_nil (width number : Nat) : paddedDigits width number ≠ [] := by
  simp [paddedDigits]

theorem number_padded (width : Nat) {value : Nat} (wide : 0 < width)
    (small : value < Nat.pow 10 width) (rest : List Char) :
    number width (paddedDigits width value ++ rest) = some (value, rest) := by
  have allDigits : ∀ digit ∈ paddedDigits width value, digit.isDigit = true :=
    fun _ => Text.isDigit_of_mem_padded
  rw [number, skipBlanks_append allDigits (padded_ne_nil width value),
    digits_append allDigits (padded_ne_nil width value) (Text.length_padded width wide small),
    Text.digitsValue_padded]

theorem exists_number_padded (width : Nat) {value : Nat} (wide : 0 < width)
    (large : Nat.pow 10 width ≤ value) (rest : List Char) :
    ∃ other digit more, digit.isDigit = true ∧
      number width (paddedDigits width value ++ rest) = some (other, digit :: more) := by
  have allDigits : ∀ digit ∈ paddedDigits width value, digit.isDigit = true :=
    fun _ => Text.isDigit_of_mem_padded
  have longer := Text.padded_of_le width wide large
  rw [number, skipBlanks_append allDigits (padded_ne_nil width value)]
  exact exists_digits_append allDigits wide (longer.1 ▸ longer.2) rest

theorem number_blank (width : Nat) (rest : List Char) :
    number width (' ' :: rest) = number width rest := by
  rw [number, number, skipBlanks, skipBlanks, List.dropWhile_cons]
  rfl

theorem character_self (expected : Char) (rest : List Char) :
    character expected (expected :: rest) = some rest := by
  rw [character, if_pos rfl]

theorem character_of_isDigit (expected : Char) {digit : Char} (other : expected.isDigit = false)
    (isDigit : digit.isDigit = true) (rest : List Char) :
    character expected (digit :: rest) = none := by
  rw [character, if_neg]
  rintro rfl
  rw [isDigit] at other
  cases other

/-! ## Dates -/

def behindYear (year : Nat) (text : List Char) : Option (Date × List Char) := do
  let text ← character '-' text
  let (month, text) ← number 2 text
  let text ← character '-' text
  let (day, text) ← number 2 text
  let date : Date := ⟨year, month, day⟩
  if date.isValid then some (date, text) else none

theorem date_padded (year : Nat) (rest : List Char) :
    date (paddedDigits 4 year ++ rest) = (digits 4 (paddedDigits 4 year ++ rest)).bind
      fun (year, text) => behindYear year text := by
  have allDigits : ∀ digit ∈ paddedDigits 4 year, digit.isDigit = true :=
    fun _ => Text.isDigit_of_mem_padded
  have unsigned : ∀ sign more, sign.isDigit = false →
      paddedDigits 4 year ++ rest ≠ sign :: more := by
    intro sign more isSign same
    cases written : paddedDigits 4 year with
    | nil => exact padded_ne_nil 4 year written
    | cons first others =>
      rw [written] at same allDigits
      rw [List.cons_append, List.cons.injEq] at same
      rw [← same.1, allDigits first List.mem_cons_self] at isSign
      cases isSign
  rw [date, skipBlanks_append allDigits (padded_ne_nil 4 year)]
  split
  · next signed => exact absurd signed (unsigned _ _ rfl)
  · next signed => exact absurd signed (unsigned _ _ rfl)
  · cases digits 4 (paddedDigits 4 year ++ rest) <;> rfl

theorem date_append (written : WrittenDate) (rest : List Char) :
    date (written.chars ++ rest) =
      if written.isTold then some (written.date, rest) else none := by
  have allDigits : ∀ digit ∈ paddedDigits 4 written.year, digit.isDigit = true :=
    fun _ => Text.isDigit_of_mem_padded
  rw [WrittenDate.chars, List.append_assoc, date_padded, WrittenDate.isTold]
  by_cases told : written.year < 10000
  · have length := Text.length_padded 4 (by decide) told
    rw [digits_append allDigits (padded_ne_nil 4 _) length, Text.digitsValue_padded,
      Option.bind_some, decide_eq_true told]
    simp only [behindYear, List.cons_append, List.append_assoc, character_self,
      number_padded 2 (by decide) written.monthBound,
      number_padded 2 (by decide) written.dayBound, Option.bind_eq_bind,
      Option.bind_some, Bool.true_and]
    rfl
  · have longer : 4 < (paddedDigits 4 written.year).length := by
      have large := Text.padded_of_le 4 (by decide) (Nat.le_of_not_lt told)
      exact large.1 ▸ large.2
    rcases exists_digits_append allDigits (by decide) longer
      ('-' :: (paddedDigits 2 written.month ++ '-' :: paddedDigits 2 written.day) ++ rest)
      with ⟨value, digit, more, isDigit, read⟩
    rw [read, Option.bind_some, decide_eq_false told]
    simp only [behindYear, character_of_isDigit '-' rfl isDigit]
    rfl

/-! ## Times -/

/-- Nothing follows that could belong to a fraction. -/
def EndsTime (rest : List Char) : Prop := ∀ next ∈ rest.head?, next.isDigit = false ∧ next ≠ '.'

theorem fraction_append (written : WrittenTime) {rest : List Char} (ends : EndsTime rest) :
    fraction (written.fractionChars ++ rest) = some (written.timeOfDay.nanoseconds, rest) := by
  rw [WrittenTime.fractionChars, WrittenTime.timeOfDay]
  by_cases pointless : written.fraction = []
  · rw [if_pos pointless, pointless, List.nil_append, fraction]
    · rfl
    · rintro more rfl
      exact (ends '.' rfl).2 rfl
  · have read : (written.fraction ++ rest).takeWhile Char.isDigit = written.fraction :=
      Text.takeWhile_run written.digits fun next member => (ends next member).1
    rw [if_neg pointless, List.cons_append, fraction]
    simp only [read, if_neg pointless, List.drop_left, List.take_of_length_le written.short]

theorem time_append (written : WrittenTime) {rest : List Char} (ends : EndsTime rest) :
    time (written.chars ++ rest) =
      if written.hour < 24 then some (written.timeOfDay, rest) else none := by
  have minutes : written.minute < 100 := Nat.lt_trans written.minuteBound (by decide)
  have seconds : written.second < 100 := Nat.lt_trans written.secondBound (by decide)
  rw [WrittenTime.chars, List.append_assoc, time]
  by_cases short : written.hour < 100
  · simp only [List.cons_append, List.append_assoc, character_self,
      number_padded 2 (by decide) short, number_padded 2 (by decide) minutes,
      number_padded 2 (by decide) seconds, fraction_append written ends, Option.bind_eq_bind,
      Option.bind_some]
    have minuteBound := written.minuteBound
    have secondBound := written.secondBound
    by_cases within : written.hour < 24
    · rw [if_neg (by omega), if_neg (by omega), if_pos within]
      rfl
    · rw [if_pos (by omega), if_neg within]
  · rcases exists_number_padded 2 (by decide) (Nat.le_of_not_lt short)
      (':' :: (paddedDigits 2 written.minute ++ ':' :: (paddedDigits 2 written.second ++
        written.fractionChars)) ++ rest) with ⟨value, digit, more, isDigit, read⟩
    rw [read, if_neg (by omega)]
    simp only [Option.bind_eq_bind, Option.bind_some, Option.bind_none,
      character_of_isDigit ':' rfl isDigit]

theorem time_blank (rest : List Char) : time (' ' :: rest) = time rest := by
  rw [time, time, number_blank]

theorem time_minus (rest : List Char) : time ('-' :: rest) = none := rfl

/-! ## Moments -/

theorem moment_append (date : WrittenDate) (time : WrittenTime) (within : time.hour < 24)
    {rest : List Char} (ends : EndsTime rest) :
    moment (momentChars date time ++ rest) =
      if date.isTold then some (⟨date.date.dayNumber, time.timeOfDay⟩, rest) else none := by
  rw [momentChars, List.append_assoc, List.cons_append, moment, date_append]
  cases date.isTold with
  | false => rfl
  | true =>
    simp only [if_true, Option.bind_eq_bind, Option.bind_some, time_blank, time_append time ends,
      if_pos within]
    rfl

/-! ## Whole texts -/

theorem whole_of_ite {α : Type} {read : List Char → Option (α × List Char)} {text rest : List Char}
    {told : Bool} {result : α} (reads : read text = if told then some (result, rest) else none) :
    whole read (String.ofList text) = if told && rest.isEmpty then some result else none := by
  rw [whole, String.toList_ofList, reads]
  cases told
  · rfl
  · cases rest <;> rfl

theorem whole_eq_none {α : Type} {read : List Char → Option (α × List Char)} {text : List Char}
    (left : ∀ result, read text ≠ some (result, [])) : whole read (String.ofList text) = none := by
  rw [whole, String.toList_ofList]
  split
  · next result found => exact absurd found (left result)
  · rfl

end Reading

/-! ## Offsets from universal time -/

/-- An offset as it is written: minutes and seconds are left out where they are zero. -/
structure WrittenOffset where
  behind : Bool
  hours : Nat
  minutes : Nat
  seconds : Nat
  hourBound : hours < 24
  minuteBound : minutes < 60
  secondBound : seconds < 60

namespace WrittenOffset

def chars (offset : WrittenOffset) : List Char :=
  (if offset.behind then '-' else '+') :: (paddedDigits 2 offset.hours ++
    if offset.minutes = 0 ∧ offset.seconds = 0 then []
    else ':' :: (paddedDigits 2 offset.minutes ++
      if offset.seconds = 0 then [] else ':' :: paddedDigits 2 offset.seconds))

def value (offset : WrittenOffset) : Int :=
  let seconds : Int := offset.hours * 3600 + offset.minutes * 60
  if offset.behind then -seconds else seconds

end WrittenOffset

namespace Reading

theorem twoDigits_padded {number : Nat} (small : number < 100) (rest : List Char) :
    twoDigits (paddedDigits 2 number ++ rest) = some (number, rest) := by
  have length := Text.length_padded 2 (by decide) small
  have value := Text.digitsValue_padded 2 number
  have allDigits : ∀ digit ∈ paddedDigits 2 number, digit.isDigit = true :=
    fun _ => Text.isDigit_of_mem_padded
  rcases List.length_eq_two.mp length with ⟨first, second, written⟩
  rw [written] at value allDigits ⊢
  have both : (first.isDigit && second.isDigit) = true := by
    simp [allDigits first, allDigits second]
  rw [List.cons_append, List.cons_append, List.nil_append, twoDigits, if_pos both, value]

def behindHours (behind : Bool) (hours : Nat) (text : List Char) : Option (Int × List Char) := do
  let text := text.dropWhile fun next => next = ':' || Text.isBlank next
  let (minutes, text) ← if text = [] then some (0, text) else twoDigits text
  if 59 < minutes then none
  else
    let seconds : Int := hours * 3600 + minutes * 60
    some (if behind then -seconds else seconds, text)

theorem offset_signed (behind : Bool) (text : List Char) :
    offset ((if behind then '-' else '+') :: text) =
      (twoDigits text).bind fun (hours, rest) => behindHours behind hours rest := by
  cases behind
  · rfl
  · rfl

theorem behindHours_nil (behind : Bool) (hours : Nat) :
    behindHours behind hours [] =
      some (if behind then -((hours : Int) * 3600 + 0 * 60) else (hours : Int) * 3600 + 0 * 60,
        []) :=
  rfl

theorem behindHours_minutes {minutes : Nat} (small : minutes < 60) (behind : Bool) (hours : Nat)
    (rest : List Char) :
    behindHours behind hours (':' :: (paddedDigits 2 minutes ++ rest)) =
      some (if behind then -((hours : Int) * 3600 + minutes * 60)
        else (hours : Int) * 3600 + minutes * 60, rest) := by
  have reached : ((':' :: (paddedDigits 2 minutes ++ rest)).dropWhile fun next =>
      next = ':' || Text.isBlank next) = paddedDigits 2 minutes ++ rest := by
    cases written : paddedDigits 2 minutes with
    | nil => exact absurd written (padded_ne_nil 2 minutes)
    | cons first more =>
      have isDigit : first.isDigit = true :=
        Text.isDigit_of_mem_padded (written ▸ List.mem_cons_self)
      have other : first ≠ ':' := by
        rintro rfl
        cases isDigit
      simp [other, Text.isBlank_of_isDigit isDigit]
  have nonempty : paddedDigits 2 minutes ++ rest ≠ [] :=
    List.append_ne_nil_of_left_ne_nil (padded_ne_nil 2 minutes) rest
  rw [behindHours, reached, if_neg nonempty, twoDigits_padded (by omega)]
  simp only [Option.bind_eq_bind, Option.bind_some]
  rw [if_neg (by omega)]

theorem offset_chars (written : WrittenOffset) (rest : List Char) :
    offset (written.chars ++ rest) = behindHours written.behind written.hours
      ((if written.minutes = 0 ∧ written.seconds = 0 then []
        else ':' :: (paddedDigits 2 written.minutes ++
          if written.seconds = 0 then [] else ':' :: paddedDigits 2 written.seconds)) ++ rest) := by
  have hours : written.hours < 100 := Nat.lt_trans written.hourBound (by decide)
  rw [WrittenOffset.chars, List.cons_append, List.append_assoc, offset_signed,
    twoDigits_padded hours]
  rfl

theorem offset_whole {written : WrittenOffset} (whole : written.seconds = 0) :
    offset written.chars = some (written.value, []) := by
  rw [← List.append_nil written.chars, offset_chars, WrittenOffset.value, whole]
  by_cases full : written.minutes = 0
  · rw [if_pos ⟨full, rfl⟩, full]
    exact behindHours_nil written.behind written.hours
  · rw [if_neg (fun none => full none.1), if_pos rfl, List.append_nil, List.append_nil]
    rw [← List.append_nil (paddedDigits 2 written.minutes)]
    exact behindHours_minutes written.minuteBound written.behind written.hours []

def eraChars (before : Bool) : List Char := if before then " BC".toList else []

theorem offset_left {written : WrittenOffset} {before : Bool}
    (left : written.seconds ≠ 0 ∨ before = true) (value : Int) :
    offset (written.chars ++ eraChars before) ≠ some (value, []) := by
  rw [offset_chars]
  by_cases full : written.minutes = 0 ∧ written.seconds = 0
  · rcases left with parts | rfl
    · exact absurd full.2 parts
    · rw [if_pos full]
      exact nofun
  · rw [if_neg full, List.cons_append, List.append_assoc,
      behindHours_minutes written.minuteBound]
    intro same
    have nothing := congrArg Prod.snd (Option.some.inj same)
    rcases List.append_eq_nil_iff.mp nothing with ⟨noSeconds, noEra⟩
    rcases left with parts | rfl
    · rw [if_neg parts] at noSeconds
      cases noSeconds
    · cases noEra

/-! ## Dates and times as texts -/

theorem isEmpty_eraChars (before : Bool) : (eraChars before).isEmpty = !before := by
  cases before <;> rfl

theorem endsTime_eraChars (before : Bool) : EndsTime (eraChars before) := by
  cases before with
  | false => exact nofun
  | true =>
    rintro next ⟨⟩
    decide

theorem endsTime_offset (offset : WrittenOffset) (rest : List Char) :
    EndsTime (offset.chars ++ rest) := by
  rintro next ⟨⟩
  cases offset.behind <;> decide

theorem date?_written (date : WrittenDate) (before : Bool) :
    date? (String.ofList (date.chars ++ eraChars before)) =
      if date.isTold && !before then some date.date else none := by
  rw [date?, whole_of_ite (date_append date _), isEmpty_eraChars]

theorem date?_chars (date : WrittenDate) :
    date? (String.ofList date.chars) = if date.isTold then some date.date else none := by
  simpa [eraChars] using date?_written date false

theorem time?_written (time : WrittenTime) :
    time? (String.ofList time.chars) =
      if time.hour < 24 then some time.timeOfDay else none := by
  have reads : Reading.time time.chars =
      if decide (time.hour < 24) then some (time.timeOfDay, []) else none := by
    simpa [eraChars] using time_append time (endsTime_eraChars false)
  rw [time?, whole_of_ite reads]
  simp

theorem time?_minus (time : WrittenTime) : time? (String.ofList ('-' :: time.chars)) = none := by
  apply whole_eq_none
  intro result
  rw [time_minus]
  exact nofun

section Moments

variable (date : WrittenDate) {time : WrittenTime} (within : time.hour < 24) (before : Bool)

include within

theorem moment?_written :
    moment? (String.ofList (momentChars date time ++ eraChars before)) =
      if date.isTold && !before then some ⟨date.date.dayNumber, time.timeOfDay⟩ else none := by
  rw [moment?, whole_of_ite (moment_append date time within (endsTime_eraChars before)),
    isEmpty_eraChars]

theorem moment?_chars :
    moment? (String.ofList (momentChars date time)) =
      if date.isTold then some ⟨date.date.dayNumber, time.timeOfDay⟩ else none := by
  simpa [eraChars] using moment?_written date within false

omit within in
theorem plus_not_mem : '+' ∉ momentChars date time ++ eraChars before := by
  have padded : ∀ width number, '+' ∉ paddedDigits width number := by
    intro width number member
    cases Text.isDigit_of_mem_padded member
  have fraction : '+' ∉ time.fractionChars := by
    rw [WrittenTime.fractionChars]
    split
    · exact List.not_mem_nil
    · intro member
      rcases List.mem_cons.mp member with ⟨⟨⟩⟩ | member
      cases time.digits '+' member
  have era : '+' ∉ eraChars before := by cases before <;> decide
  simp [momentChars, WrittenDate.chars, WrittenTime.chars, padded, fraction, era]

theorem localMoment?_written :
    localMoment? (String.ofList (momentChars date time ++ eraChars before)) =
      if date.isTold && !before then some ⟨date.date.dayNumber, time.timeOfDay⟩ else none := by
  rw [localMoment?, String.toList_ofList, if_neg (plus_not_mem date before),
    moment?_written date within before]

theorem withOffset_written (offset : WrittenOffset) :
    whole withOffset (String.ofList (momentChars date time ++ (offset.chars ++ eraChars before))) =
      if date.isTold && offset.seconds = 0 && !before then
        some (⟨date.date.dayNumber, time.timeOfDay⟩, offset.value)
      else none := by
  have reads := moment_append date time within (endsTime_offset offset (eraChars before))
  by_cases told : date.isTold = true
  · have read : withOffset (momentChars date time ++ (offset.chars ++ eraChars before)) =
        (Reading.offset (offset.chars ++ eraChars before)).bind fun offset =>
          some ((⟨date.date.dayNumber, time.timeOfDay⟩, offset.1), offset.2) := by
      rw [withOffset, reads, if_pos told]
      rfl
    by_cases exactly : offset.seconds = 0 ∧ before = false
    · rcases exactly with ⟨seconds, rfl⟩
      rw [eraChars, if_neg (by decide), List.append_nil] at read ⊢
      rw [offset_whole seconds] at read
      rw [whole, String.toList_ofList, read, told, seconds]
      rfl
    · have left : offset.seconds ≠ 0 ∨ before = true := by
        rcases Decidable.not_and_iff_or_not.mp exactly with parts | era
        · exact .inl parts
        · exact .inr (by simpa using era)
      rw [whole_eq_none]
      · rcases left with parts | rfl
        · simp [parts]
        · simp
      · intro result
        rw [read]
        intro found
        rcases Option.bind_eq_some_iff.mp found with ⟨⟨seconds, rest⟩, offsetRead, same⟩
        cases same
        exact offset_left left seconds offsetRead
  · rw [whole_eq_none]
    · simp [told]
    · intro result
      rw [withOffset, reads, if_neg told]
      exact nofun

end Moments

theorem daysBefore_le (year : Int) {month : Nat} (small : month < 100) :
    Date.daysBefore year month ≤ 366 := by
  have common : ∀ count < 100, ([31, 28, 31, 30, 31, 30, 31, 31, 30, 31, 30, 31].take count).foldl
      (· + ·) 0 ≤ 366 := by decide
  have leap : ∀ count < 100, ([31, 29, 31, 30, 31, 30, 31, 31, 30, 31, 30, 31].take count).foldl
      (· + ·) 0 ≤ 366 := by decide
  rw [Date.daysBefore, monthLengths]
  split
  · exact leap (month - 1) (by omega)
  · exact common (month - 1) (by omega)

theorem dayNumber_bounds {date : WrittenDate} (told : date.isTold = true) :
    -731 ≤ date.date.dayNumber ∧ date.date.dayNumber ≤ 3653000 := by
  have year : date.year < 10000 := by
    simp only [WrittenDate.isTold, Bool.and_eq_true, decide_eq_true_eq] at told
    exact told.1
  have days := daysBefore_le date.year date.monthBound
  have dayBound := date.dayBound
  simp only [Date.dayNumber, WrittenDate.date]
  omega

theorem isTold_back {date : WrittenDate} (told : date.isTold = true) {time : WrittenTime}
    (within : time.hour < 24) (offset : WrittenOffset) :
    (Moment.back ⟨date.date.dayNumber, time.timeOfDay⟩ offset.value).isTold = true := by
  have first : (Date.mk firstYear 1 1).dayNumber = -95746130 := by decide
  have last : (Date.mk lastYear 12 31).dayNumber = 95745398 := by decide
  have bounds := dayNumber_bounds told
  have minuteBound := time.minuteBound
  have secondBound := time.secondBound
  have hourBound := offset.hourBound
  have offsetBound := offset.minuteBound
  rw [Moment.isTold, first, last, Bool.and_eq_true, decide_eq_true_eq, decide_eq_true_eq]
  simp only [Moment.back, WrittenTime.timeOfDay, WrittenOffset.value]
  split <;> omega

/-- The offset of a moment is less than a day, so its moment of universal time is read. -/
theorem zonedMoment?_written (date : WrittenDate) {time : WrittenTime} (within : time.hour < 24)
    (offset : WrittenOffset) (before : Bool) :
    zonedMoment? (String.ofList (momentChars date time ++ (offset.chars ++ eraChars before))) =
      if date.isTold && offset.seconds = 0 && !before then
        some (Moment.back ⟨date.date.dayNumber, time.timeOfDay⟩ offset.value)
      else none := by
  have short : offset.value.natAbs < 86400 := by
    have hourBound := offset.hourBound
    have offsetBound := offset.minuteBound
    rw [WrittenOffset.value]
    split <;> omega
  rw [zonedMoment?, withOffset_written date within before offset]
  split
  · next exactly =>
    have told : date.isTold = true := by
      simp only [Bool.and_eq_true] at exactly
      exact exactly.1.1
    simp only [Option.bind_eq_bind, Option.bind_some, isTold_back told within offset,
      decide_eq_true short, Bool.and_self, if_true]
  · rfl

end Reading

end SqlGateway.Time
