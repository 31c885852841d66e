import ViewGlue.Manifest.Number

/-!
# Moments

Dates, times of day, and dates with times, as manifests write them. A date is a day of the
calendar and a time is on a clock of 24 hours, which may show a 61st second. Seconds may be left
out, a fraction of a second counts to nine places, and a date with a time may say how far its
clock is from the universal one. `Moment.text` writes every moment in one form.
-/

namespace ViewGlue.Manifest

/-- A year with a 29th of February. -/
def isLeapYear (year : Nat) : Bool :=
  year % 4 == 0 && (year % 100 != 0 || year % 400 == 0)

/-- How many days a month has. -/
def daysInMonth (year month : Nat) : Nat :=
  if month = 2 then if isLeapYear year then 29 else 28
  else if month = 4 ∨ month = 6 ∨ month = 9 ∨ month = 11 then 30
  else 31

/-- A day of the calendar. -/
structure Date where
  /-- The year of the calendar. -/
  year : Nat
  /-- The month, counted from one. -/
  month : Nat
  /-- The day of the month, counted from one. -/
  day : Nat
  /-- There are twelve months. -/
  month_mem : 1 ≤ month ∧ month ≤ 12
  /-- The month has this day in this year. -/
  day_mem : 1 ≤ day ∧ day ≤ daysInMonth year month
  deriving DecidableEq, Repr

/-- A time of the day. -/
structure TimeOfDay where
  /-- The hours since midnight. -/
  hour : Nat
  /-- The minutes of the hour. -/
  minute : Nat
  /-- The seconds of the minute. -/
  second : Nat
  /-- The nanoseconds of the second. -/
  nanosecond : Nat
  /-- A day has twenty-four hours. -/
  hour_le : hour ≤ 23
  /-- An hour has sixty minutes. -/
  minute_le : minute ≤ 59
  /-- A minute may have a leap second. -/
  second_le : second ≤ 60
  /-- It is less than a second. -/
  nanosecond_lt : nanosecond < 1000000000
  deriving DecidableEq, Repr

/-- How far a clock is from the universal one. -/
inductive Offset where
  /-- The clock is the universal one. -/
  | universal
  /-- The clock is this many minutes ahead. -/
  | minutes (ahead : Int)
  deriving DecidableEq, Repr

/-- A date, a time of the day, or a date with a time. -/
inductive Moment where
  /-- A day. -/
  | date (date : Date)
  /-- A time of any day. -/
  | time (time : TimeOfDay)
  /-- A time of a day, and the offset of the clock if it is given. -/
  | both (date : Date) (time : TimeOfDay) (offset : Option Offset)
  deriving DecidableEq, Repr

namespace Date

/-- The day with the numbers, if the calendar has it. -/
def of? (year month day : Nat) : Option Date :=
  if inYear : 1 ≤ month ∧ month ≤ 12 then
    if inMonth : 1 ≤ day ∧ day ≤ daysInMonth year month then
      some ⟨year, month, day, inYear, inMonth⟩
    else none
  else none

/-- Reads a date from the front, with what stands behind it. -/
def read? : List Char → Option (Date × List Char)
  | a :: b :: c :: d :: '-' :: e :: f :: '-' :: g :: h :: rest => do
    let year ← number? 10 0 [a, b, c, d]
    let month ← number? 10 0 [e, f]
    let day ← number? 10 0 [g, h]
    return (← of? year month day, rest)
  | _ => none

end Date

namespace TimeOfDay

/-- The time with the numbers, if a clock shows it. -/
def of? (hour minute second nanosecond : Nat) : Option TimeOfDay :=
  if shown : hour ≤ 23 ∧ minute ≤ 59 ∧ second ≤ 60 ∧ nanosecond < 1000000000 then
    some ⟨hour, minute, second, nanosecond, shown.1, shown.2.1, shown.2.2.1, shown.2.2.2⟩
  else none

/-- Reads a fraction of a second as nanoseconds, if one comes next. -/
def fraction? : List Char → Option (Nat × List Char)
  | '.' :: rest =>
    let places := rest.takeWhile Text.isDigit
    if places.isEmpty then none
    else
      (number? 10 0 ((places ++ List.replicate 9 '0').take 9)).map
        (·, rest.dropWhile Text.isDigit)
  | rest => some (0, rest)

/-- Reads seconds and nanoseconds, if they come next. -/
def seconds? : List Char → Option ((Nat × Nat) × List Char)
  | ':' :: a :: b :: rest => do
    let second ← number? 10 0 [a, b]
    let (nanosecond, rest) ← fraction? rest
    return ((second, nanosecond), rest)
  | rest => some ((0, 0), rest)

/-- Reads a time from the front, with what stands behind it. -/
def read? : List Char → Option (TimeOfDay × List Char)
  | a :: b :: ':' :: c :: d :: rest => do
    let hour ← number? 10 0 [a, b]
    let minute ← number? 10 0 [c, d]
    let ((second, nanosecond), rest) ← seconds? rest
    return (← of? hour minute second nanosecond, rest)
  | _ => none

end TimeOfDay

/-- Reads an offset. -/
def Offset.read? : List Char → Option Offset
  | ['Z'] => some .universal
  | ['z'] => some .universal
  | [sign, a, b, ':', c, d] => do
    let hours ← number? 10 0 [a, b]
    let minutes ← number? 10 0 [c, d]
    if 23 < hours ∨ 59 < minutes then none
    else if sign = '+' then some (.minutes (60 * hours + minutes))
    else if sign = '-' then some (.minutes (-(60 * hours + minutes)))
    else none
  | _ => none

namespace Moment

/-- What may stand between a date and its time. -/
def isTimeMark (c : Char) : Bool := c == 'T' || c == 't' || c == ' '

/-- Reads a moment. -/
def read? (s : List Char) : Option Moment :=
  match Date.read? s with
  | some (day, []) => some (.date day)
  | some (day, mark :: rest) =>
    if isTimeMark mark then
      match TimeOfDay.read? rest with
      | some (clock, []) => some (.both day clock none)
      | some (clock, behind) =>
        (Offset.read? behind).map fun offset => .both day clock (some offset)
      | none => none
    else none
  | none =>
    match TimeOfDay.read? s with
    | some (clock, []) => some (.time clock)
    | _ => none

end Moment

/-- A number with zeros in front that make it as wide as `width`. -/
def padded (width n : Nat) : String :=
  String.ofList (List.replicate (width - (toString n).length) '0') ++ toString n

/-- The text of a date. -/
def Date.text (date : Date) : String :=
  padded 4 date.year ++ "-" ++ padded 2 date.month ++ "-" ++ padded 2 date.day

/-- The text of nanoseconds as a fraction, without zeros at its end. -/
def fractionText (nanosecond : Nat) : String :=
  if nanosecond = 0 then ""
  else
    "." ++ String.ofList ((padded 9 nanosecond).toList.reverse.dropWhile (· == '0')).reverse

/-- The text of a time. -/
def TimeOfDay.text (time : TimeOfDay) : String :=
  padded 2 time.hour ++ ":" ++ padded 2 time.minute ++ ":" ++ padded 2 time.second ++
    fractionText time.nanosecond

/-- The text of an offset. -/
def Offset.text : Offset → String
  | .universal => "Z"
  | .minutes ahead =>
    (if ahead < 0 then "-" else "+") ++ padded 2 (ahead.natAbs / 60) ++ ":" ++
      padded 2 (ahead.natAbs % 60)

/-- The text of a moment. -/
def Moment.text : Moment → String
  | .date day => day.text
  | .time clock => clock.text
  | .both day clock none => day.text ++ "T" ++ clock.text
  | .both day clock (some offset) => day.text ++ "T" ++ clock.text ++ offset.text

end ViewGlue.Manifest
