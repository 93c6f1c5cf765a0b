import FluentSql.Numeral.Digits

/-!
# FluentSql.Calendar — dates, times of day and instants

* `Date`, `TimeOfDay`, `Instant`: a day of the Gregorian calendar, a time of day (which may be a leap second), and a
  moment counted from the start of 1970 in universal time.
* `Date.text`, `TimeOfDay.text`: the full texts, `2024-02-29` and `23:59:60.500`.
* `secondText`: date and time to the second, `2024-02-29 23:59:60`.
* `Date.ofDayNumber`: the date a number of days after 1970-01-01.
-/

namespace FluentSql

open Numeral (padded)

/-! ## Types -/

/-- A day of the proleptic Gregorian calendar. -/
structure Date where
  year : Int
  month : Nat
  day : Nat
  deriving DecidableEq, Repr

/-- A time of day. From one thousand million nanoseconds on it lies in a leap second. -/
structure TimeOfDay where
  hour : Nat
  minute : Nat
  second : Nat
  nanosecond : Nat
  deriving DecidableEq, Repr

/-- A moment in universal time: seconds since the start of 1970, and nanoseconds. -/
structure Instant where
  seconds : Int
  nanosecond : Nat
  deriving DecidableEq, Repr

/-! ## Text -/

/-- Years from 0 to 9999 have four digits; others also carry a sign. -/
def yearText (y : Int) : String :=
  if y < 0 then "-" ++ padded 4 y.natAbs
  else if y < 10000 then padded 4 y.natAbs
  else "+" ++ padded 4 y.natAbs

/-- `2024-02-29` -/
def Date.text (d : Date) : String :=
  yearText d.year ++ "-" ++ padded 2 d.month ++ "-" ++ padded 2 d.day

/-- Hours, minutes and seconds; a leap second is written as one second more. -/
def TimeOfDay.secondText (t : TimeOfDay) : String :=
  padded 2 t.hour ++ ":" ++ padded 2 t.minute ++ ":" ++ padded 2 (t.second + t.nanosecond / 1000000000)

/-- A fraction of a second in 0, 3, 6 or 9 digits, the fewest that lose nothing. -/
def fractionText (nanosecond : Nat) : String :=
  let n := nanosecond % 1000000000
  if n = 0 then ""
  else if n % 1000000 = 0 then "." ++ padded 3 (n / 1000000)
  else if n % 1000 = 0 then "." ++ padded 6 (n / 1000)
  else "." ++ padded 9 n

/-- `23:59:60.500` -/
def TimeOfDay.text (t : TimeOfDay) : String :=
  t.secondText ++ fractionText t.nanosecond

/-- `2024-02-29 23:59:60`, without a fraction. -/
def secondText (d : Date) (t : TimeOfDay) : String :=
  d.text ++ " " ++ t.secondText

/-! ## Days and instants -/

/-- The date `n` days after 1970-01-01. Years are taken to start in March, so that the leap day comes last, and are
grouped in eras of 400 years with the same number of days. -/
def Date.ofDayNumber (n : Int) : Date :=
  let shifted := n + 719468
  let era := shifted.fdiv 146097
  let dayOfEra := (shifted - era * 146097).toNat
  let yearOfEra := (dayOfEra - dayOfEra / 1460 + dayOfEra / 36524 - dayOfEra / 146096) / 365
  let dayOfYear := dayOfEra - (365 * yearOfEra + yearOfEra / 4 - yearOfEra / 100)
  let marchMonth := (5 * dayOfYear + 2) / 153
  let month := if marchMonth < 10 then marchMonth + 3 else marchMonth - 9
  { year := era * 400 + yearOfEra + (if month ≤ 2 then 1 else 0)
    month := month
    day := dayOfYear - (153 * marchMonth + 2) / 5 + 1 }

/-- The date of an instant. -/
def Instant.date (i : Instant) : Date :=
  Date.ofDayNumber (i.seconds.fdiv 86400)

/-- The time of day of an instant. -/
def Instant.time (i : Instant) : TimeOfDay :=
  let s := (i.seconds - i.seconds.fdiv 86400 * 86400).toNat
  ⟨s / 3600, s / 60 % 60, s % 60, i.nanosecond⟩

end FluentSql
