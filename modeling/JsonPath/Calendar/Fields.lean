import JsonPath.Calendar.DateTime

/-!
# Fields of a written date-time

What a text spells is not always a whole date-time: the date is there, but the
time, or some of it, and the offset may be missing.  `Fields.resolve` is the
one rule that fills in the rest.
-/

namespace JsonPath

/-- A written date with whatever else was written beside it. -/
structure Fields where
  date : Date
  hour : Option Nat := none
  minute : Option Nat := none
  second : Option Nat := none
  nanosecond : Option Nat := none
  offset : Option UtcOffset := none

namespace Fields

/-- A time needs the hour, and no gap between the hour and the smallest field
that is written. -/
def time? (f : Fields) : Option TimeOfDay :=
  match f.hour, f.minute, f.second, f.nanosecond with
  | some hour, none, none, none => TimeOfDay.ofParts? hour 0 0 0
  | some hour, some minute, none, none => TimeOfDay.ofParts? hour minute 0 0
  | some hour, some minute, some second, none => TimeOfDay.ofParts? hour minute second 0
  | some hour, some minute, some second, some nanosecond =>
      TimeOfDay.ofParts? hour minute second nanosecond
  | _, _, _, _ => none

/-- Leap seconds end a month of UTC, so the second before one is the last
second of the last day of a month. -/
def precedesLeapSecond (d : DateTime) : Bool :=
  d.seconds % 86400 == 86399 &&
    ((Date.ofDayNumber? (d.seconds / 86400)).elim false Date.isLastOfMonth)

/-- A date-time with a written offset.  Where leap seconds are admitted, second
60 stands for the last nanosecond before it. -/
def zoned? (leapSeconds : Bool) (f : Fields) : Option DateTime :=
  match f.offset with
  | none => none
  | some offset =>
      if leapSeconds && f.second == some 60 then
        match { f with second := some 59, nanosecond := some 999999999 }.time? with
        | none => none
        | some time =>
            let stand : DateTime := { date := f.date, time, offset }
            if precedesLeapSecond stand then some stand else none
      else
        f.time?.map fun time => { date := f.date, time, offset }

/-- A written offset counts only together with a time; without one the time is
UTC; and without a whole time the day begins at midnight UTC. -/
def resolve (leapSeconds : Bool) (f : Fields) : DateTime :=
  (f.zoned? leapSeconds).getD
    { date := f.date, time := f.time?.getD .midnight, offset := .utc }

end Fields

/-! ## Digits -/

/-- The number that exactly `count` leading digits spell, and the rest. -/
def takeDigits? (count : Nat) (text : List Char) : Option (Nat × List Char) :=
  let digits := text.take count
  if digits.length = count ∧ digits.all Char.isDigit then
    some (Nat.ofDigitChars 10 digits 0, text.drop count)
  else
    none

/-- The rest after one expected character. -/
def takeChar? (c : Char) : List Char → Option (List Char)
  | [] => none
  | d :: rest => if c = d then some rest else none

/-- A sign, true for minus, and the rest. -/
def takeSign? : List Char → Option (Bool × List Char)
  | '+' :: rest => some (false, rest)
  | '-' :: rest => some (true, rest)
  | _ => none

/-- Nanoseconds that one or more decimals spell, and the rest; decimals beyond
the ninth are read and dropped. -/
def takeFraction? (text : List Char) : Option (Nat × List Char) :=
  let digits := text.takeWhile Char.isDigit
  if digits.isEmpty then
    none
  else
    let nine := (digits ++ List.replicate 9 '0').take 9
    some (Nat.ofDigitChars 10 nine 0, text.dropWhile Char.isDigit)

end JsonPath
