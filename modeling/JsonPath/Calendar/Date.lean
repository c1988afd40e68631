/-!
# Calendar dates

Days of the proleptic Gregorian calendar with years from -9999 to 9999, given
by year, month and day, by year and day of the year, or by week and weekday as
ISO 8601 counts them.
-/

namespace JsonPath

/-- Every fourth year has a leap day, except centuries not divisible by 400. -/
def isLeapYear (year : Int) : Bool :=
  year % 4 == 0 && (year % 100 != 0 || year % 400 == 0)

/-- The days of a year. -/
def daysInYear (year : Int) : Nat := if isLeapYear year then 366 else 365

/-- The days of a month, which in February depend on the year. -/
def daysInMonth (year : Int) (month : Nat) : Nat :=
  match month with
  | 2 => if isLeapYear year then 29 else 28
  | 4 | 6 | 9 | 11 => 30
  | _ => 31

/-- A day that exists. -/
structure Date where
  year : Int
  month : Nat
  day : Nat
  year_bounds : -9999 ≤ year ∧ year ≤ 9999
  month_bounds : 1 ≤ month ∧ month ≤ 12
  day_bounds : 1 ≤ day ∧ day ≤ daysInMonth year month
  deriving DecidableEq

namespace Date

/-- The day with this year, month and day of the month. -/
def ofParts? (year : Int) (month day : Nat) : Option Date :=
  if h : (-9999 ≤ year ∧ year ≤ 9999) ∧ (1 ≤ month ∧ month ≤ 12) ∧
      (1 ≤ day ∧ day ≤ daysInMonth year month) then
    some ⟨year, month, day, h.1, h.2.1, h.2.2⟩
  else
    none

/-- Days of the year before the month begins. -/
def daysBeforeMonth (year : Int) (month : Nat) : Nat :=
  ((List.range' 1 (month - 1)).map (daysInMonth year)).foldl Nat.add 0

/-- The day of the year, from 1. -/
def ordinal (d : Date) : Nat := daysBeforeMonth d.year d.month + d.day

/-- The day with this position in its year, which counts from 1. -/
def ofOrdinal? (year : Int) (ordinal : Nat) : Option Date :=
  if ordinal = 0 then
    none
  else
    (List.range' 1 12).findSome? fun month =>
      ofParts? year month (ordinal - daysBeforeMonth year month)

/-- Days from the first of January of year 1 to that of the given year. -/
def daysBeforeYear (year : Int) : Int :=
  let past := year - 1
  365 * past + past.fdiv 4 - past.fdiv 100 + past.fdiv 400

/-- A number that grows by one from day to day; the first of January of year 1
has number 1. -/
def dayNumber (d : Date) : Int := daysBeforeYear d.year + d.ordinal

/-- The weekday of a day number: 0 for Monday to 6 for Sunday. -/
def weekdayOf (dayNumber : Int) : Int := (dayNumber - 1) % 7

/-- The number of the Monday of the week that holds the fourth of January,
which is the first week of the year. -/
def firstMonday (year : Int) : Int :=
  let fourth := daysBeforeYear year + 4
  fourth - weekdayOf fourth

/-- A year has 52 weeks, or 53 when the next one begins a week later. -/
def weeksInYear (year : Int) : Nat :=
  ((firstMonday (year + 1) - firstMonday year) / 7).toNat

/-- The day on a weekday, 1 for Monday to 7 for Sunday, of a week of a year; it
may lie in a neighbouring year. -/
def ofWeek? (year : Int) (week weekday : Nat) : Option Date :=
  if (1 ≤ week ∧ week ≤ weeksInYear year) ∧ (1 ≤ weekday ∧ weekday ≤ 7) then
    let number := firstMonday year + 7 * (week - 1) + (weekday - 1)
    let ordinal := number - daysBeforeYear year
    if ordinal < 1 then
      ofOrdinal? (year - 1) (ordinal + daysInYear (year - 1)).toNat
    else if ordinal ≤ daysInYear year then
      ofOrdinal? year ordinal.toNat
    else
      ofOrdinal? (year + 1) (ordinal - daysInYear year).toNat
  else
    none

/-- The day with a day number. -/
def ofDayNumber? (number : Int) : Option Date :=
  let estimate := (number * 400).fdiv 146097
  [estimate, estimate + 1, estimate + 2].findSome? fun year =>
    let ordinal := number - daysBeforeYear year
    if 1 ≤ ordinal then ofOrdinal? year ordinal.toNat else none

/-- The last day of its month. -/
def isLastOfMonth (d : Date) : Bool := d.day == daysInMonth d.year d.month

end Date

end JsonPath
