/-!
# Timestamps

A moment of universal time as text: date, time and offset in the form of the internet standard. The
moment is given by the seconds since the beginning of 1970, none before it, and the nanoseconds
beyond them.

Main definitions:

* `DivisionBenchmark.Timestamp.dateOfDay`: the year, month and day of a day counted from 1970;
* `DivisionBenchmark.Timestamp.text`: a moment as text.

The calendar is counted from the first of March of the year zero, so that the day that leap years
have more is the last of its year; 400 years have always the same number of days.
-/

namespace DivisionBenchmark.Timestamp

/-- The days from the first of March of the year zero to the beginning of 1970. -/
def daysBefore1970 : Nat := 719468

/-- The days of 400 years. -/
def daysOfEra : Nat := 146097

/-- The year of an era in which a day of the era is. -/
def yearOfEra (day : Nat) : Nat := (day - day / 1460 + day / 36524 - day / 146096) / 365

/-- The year, the month and the day of a day counted from the beginning of 1970. -/
def dateOfDay (day : Nat) : Nat × Nat × Nat :=
  let days := day + daysBefore1970
  let dayOfEra := days % daysOfEra
  let year := yearOfEra dayOfEra
  let dayOfYear := dayOfEra - (365 * year + year / 4 - year / 100)
  -- from March on, five months have 153 days, again and again
  let month := (5 * dayOfYear + 2) / 153
  let dayOfMonth := dayOfYear - (153 * month + 2) / 5 + 1
  let calendarYear := 400 * (days / daysOfEra) + year
  -- January and February are the last months of the year counted from March
  if month < 10 then (calendarYear, month + 3, dayOfMonth)
  else (calendarYear + 1, month - 9, dayOfMonth)

/-- A number with at least so many digits. -/
def padded (width n : Nat) : String :=
  String.ofList (List.replicate (width - n.repr.length) '0') ++ n.repr

/-- The nanoseconds of a second behind a point, in groups of three digits; nothing where there are
none. -/
def fraction (nanos : Nat) : String :=
  if nanos = 0 then ""
  else if nanos % 1000000 = 0 then "." ++ padded 3 (nanos / 1000000)
  else if nanos % 1000 = 0 then "." ++ padded 6 (nanos / 1000)
  else "." ++ padded 9 nanos

/-- **A moment as text.** -/
def text (seconds nanos : Nat) : String :=
  let (year, month, day) := dateOfDay (seconds / 86400)
  let second := seconds % 86400
  padded 4 year ++ "-" ++ padded 2 month ++ "-" ++ padded 2 day ++ "T" ++
    padded 2 (second / 3600) ++ ":" ++ padded 2 (second / 60 % 60) ++ ":" ++
    padded 2 (second % 60) ++ fraction nanos ++ "+00:00"

/-- The leap day of 2024. -/
example : dateOfDay 19782 = (2024, 2, 29) := by decide

example : text 951827696 789000000 = "2000-02-29T12:34:56.789+00:00" := by decide +kernel

end DivisionBenchmark.Timestamp
