import JsonPath.Calendar.Date

/-!
# Date-times

A `DateTime` is a local date and time of day with the offset of local time from
UTC.  Two date-times compare by the instant they name, so the same instant with
another offset is equal; the fields keep what was written.

`text` writes a date-time.  Where RFC 3339 can express it, that is the form;
otherwise the fields are written apart.
-/

namespace JsonPath

/-- A time of day to the nanosecond. -/
structure TimeOfDay where
  hour : Nat
  minute : Nat
  second : Nat
  nanosecond : Nat
  hour_lt : hour < 24 := by decide
  minute_lt : minute < 60 := by decide
  second_lt : second < 60 := by decide
  nanosecond_lt : nanosecond < 1000000000 := by decide
  deriving DecidableEq

namespace TimeOfDay

/-- The first moment of a day. -/
def midnight : TimeOfDay := { hour := 0, minute := 0, second := 0, nanosecond := 0 }

/-- The time with these parts, if each of them is in its range. -/
def ofParts? (hour minute second nanosecond : Nat) : Option TimeOfDay :=
  if h : hour < 24 ∧ minute < 60 ∧ second < 60 ∧ nanosecond < 1000000000 then
    some ⟨hour, minute, second, nanosecond, h.1, h.2.1, h.2.2.1, h.2.2.2⟩
  else
    none

/-- The whole seconds since midnight. -/
def secondOfDay (t : TimeOfDay) : Nat := (t.hour * 60 + t.minute) * 60 + t.second

end TimeOfDay

/-- Local time minus UTC, in whole minutes of less than 26 hours either way. -/
structure UtcOffset where
  minutes : Int
  bounds : -1560 < minutes ∧ minutes < 1560 := by decide
  deriving DecidableEq

namespace UtcOffset

/-- No offset. -/
def utc : UtcOffset := { minutes := 0 }

/-- The offset with a sign for hours and minutes together. -/
def ofParts? (negative : Bool) (hours minutes : Nat) : Option UtcOffset :=
  if h : hours < 26 ∧ minutes < 60 then
    let total : Int := (hours * 60 + minutes : Nat)
    some
      { minutes := if negative then -total else total
        bounds := by cases negative <;> simp [total] <;> omega }
  else
    none

/-- The whole hours of an offset, without its sign. -/
def hours (o : UtcOffset) : Nat := o.minutes.natAbs / 60

/-- The minutes of an offset that make no whole hour. -/
def minutesPastHour (o : UtcOffset) : Nat := o.minutes.natAbs % 60

end UtcOffset

/-- A local date and time, with the offset from UTC that is in force there. -/
structure DateTime where
  date : Date
  time : TimeOfDay
  offset : UtcOffset
  deriving DecidableEq

namespace DateTime

/-- Seconds of the instant, counted from the day before year 1. -/
def seconds (d : DateTime) : Int :=
  d.date.dayNumber * 86400 + d.time.secondOfDay - d.offset.minutes * 60

/-- Nanoseconds of the instant; date-times are ordered by it. -/
def instant (d : DateTime) : Int := d.seconds * 1000000000 + d.time.nanosecond

/-! ## Text -/

/-- A number in decimal with at least the given number of digits. -/
def padded (width number : Nat) : List Char :=
  let digits := Nat.toDigits 10 number
  List.replicate (width - digits.length) '0' ++ digits

/-- Nine decimals without their trailing zeros. -/
def fractionDigits (nanosecond : Nat) : List Char :=
  ((padded 9 nanosecond).reverse.dropWhile (· == '0')).reverse

/-- The sign of an offset, which none has too. -/
def sign (o : UtcOffset) : Char := if o.minutes < 0 then '-' else '+'

/-- RFC 3339 has years from 0 to 9999 and offsets below 24 hours. -/
def hasRfc3339Form (d : DateTime) : Bool :=
  0 ≤ d.date.year && d.offset.hours ≤ 23

/-- The RFC 3339 form: a fraction only where there is one, and `Z` for UTC. -/
def rfc3339 (d : DateTime) : List Char :=
  padded 4 d.date.year.natAbs ++ '-' :: padded 2 d.date.month ++ '-' :: padded 2 d.date.day ++
  'T' :: padded 2 d.time.hour ++ ':' :: padded 2 d.time.minute ++ ':' :: padded 2 d.time.second ++
  (if d.time.nanosecond = 0 then [] else '.' :: fractionDigits d.time.nanosecond) ++
  (if d.offset.minutes = 0 then
    ['Z']
  else
    sign d.offset :: padded 2 d.offset.hours ++ ':' :: padded 2 d.offset.minutesPastHour)

/-- Date, time and offset apart: an hour without padding, at least one decimal,
and an offset down to seconds. -/
def plain (d : DateTime) : List Char :=
  (if d.date.year < 0 then ['-'] else []) ++ padded 4 d.date.year.natAbs ++
  '-' :: padded 2 d.date.month ++ '-' :: padded 2 d.date.day ++
  ' ' :: Nat.toDigits 10 d.time.hour ++ ':' :: padded 2 d.time.minute ++
  ':' :: padded 2 d.time.second ++
  '.' :: (if d.time.nanosecond = 0 then ['0'] else fractionDigits d.time.nanosecond) ++
  ' ' :: sign d.offset :: padded 2 d.offset.hours ++
  ':' :: padded 2 d.offset.minutesPastHour ++ [':', '0', '0']

/-- The RFC 3339 form where there is one, or else the plain form. -/
def text (d : DateTime) : List Char :=
  if d.hasRfc3339Form then d.rfc3339 else d.plain

end DateTime

end JsonPath
