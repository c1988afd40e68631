import JsonPath.Calendar.Fields
import JsonPath.Number.Scientific

/-!
# Reading ISO 8601

A date as year, month and day, as year and day of the year, or as year, week
and weekday, in the extended form with separators or in the basic form without;
then optionally `T` with a time and an offset.  The last field of the time may
have a fraction.  A year has four digits, or a sign and six.
-/

namespace JsonPath.Iso8601

/-- Whether the fields are separated. -/
inductive Form where
  | basic
  | extended
  deriving DecidableEq

/-- A year: four digits, or a sign and six. -/
def takeYear? (text : List Char) : Option (Int × List Char) :=
  match takeSign? text with
  | some (negative, rest) => do
      let (year, rest) ← takeDigits? 6 rest
      return (if negative then -(year : Int) else year, rest)
  | none => do
      let (year, rest) ← takeDigits? 4 text
      return (year, rest)

/-- A separator in the extended form, nothing in the basic one. -/
def takeSeparator? (form : Form) (separator : Char) (text : List Char) : Option (List Char) :=
  match form with
  | .extended => takeChar? separator text
  | .basic => some text

/-- Two digits with a value in a range. -/
def takePair? (least greatest : Nat) (text : List Char) : Option (Nat × List Char) := do
  let (number, rest) ← takeDigits? 2 text
  if least ≤ number ∧ number ≤ greatest then some (number, rest) else none

/-- A month and a day of the month.  Whether the month has that day is not looked at yet. -/
def takeMonthDay? (form : Form) (text : List Char) : Option ((Nat × Nat) × List Char) := do
  let (month, text) ← takePair? 1 12 text
  let text ← takeSeparator? form '-' text
  let (day, text) ← takePair? 1 99 text
  return ((month, day), text)

/-- The number of a day in its year. -/
def takeOrdinal? (text : List Char) : Option (Nat × List Char) := do
  let (ordinal, text) ← takeDigits? 3 text
  if ordinal = 0 then none else some (ordinal, text)

/-- A week, led by `W`, and a day of the week. -/
def takeWeekDay? (form : Form) (text : List Char) : Option ((Nat × Nat) × List Char) := do
  let text ← takeChar? 'W' text
  let (week, text) ← takePair? 1 99 text
  let text ← takeSeparator? form '-' text
  let (weekday, text) ← takeDigits? 1 text
  if 1 ≤ weekday ∧ weekday ≤ 7 then some ((week, weekday), text) else none

/-- The date at the beginning, the form it has, and the rest.  What follows the
year is read as month and day if possible, then as a day of the year, then as a
week. -/
def takeDate? (text : List Char) : Option (Date × Form × List Char) := do
  let (year, text) ← takeYear? text
  let (form, text) :=
    match takeChar? '-' text with
    | some rest => (Form.extended, rest)
    | none => (Form.basic, text)
  match takeMonthDay? form text with
  | some ((month, day), rest) => do
      let date ← Date.ofParts? year month day
      return (date, form, rest)
  | none =>
      match takeOrdinal? text with
      | some (ordinal, rest) => do
          let date ← Date.ofOrdinal? year ordinal
          return (date, form, rest)
      | none => do
          let ((week, weekday), rest) ← takeWeekDay? form text
          guard (-9999 ≤ year ∧ year ≤ 9999)
          let date ← Date.ofWeek? year week weekday
          return (date, form, rest)

/-! ## Time -/

/-- The value of a decimal fraction, digit by digit: each digit is divided by
its weight and added, with the rounding of binary64. -/
def fractionValue (digits : List Char) : Binary64 :=
  let ten := Binary64.ofInt 10
  (digits.foldl
    (fun (state : Binary64 × Binary64) c =>
      let divisor := state.2.mul ten
      (state.1.add ((Binary64.ofInt (c.toNat - '0'.toNat : Nat)).div divisor), divisor))
    (Binary64.zero, Binary64.ofInt 1)).1

/-- A two-digit number with an optional fraction after a point or a comma. -/
def takeFractional? (text : List Char) : Option ((Nat × Option Binary64) × List Char) := do
  let (whole, rest) ← takeDigits? 2 text
  match rest with
  | mark :: decimals =>
      if mark = '.' ∨ mark = ',' then
        let digits := decimals.takeWhile Char.isDigit
        if digits.isEmpty then
          none
        else
          return ((whole, some (fractionValue digits)), decimals.dropWhile Char.isDigit)
      else
        return ((whole, none), rest)
  | [] => return ((whole, none), rest)

/-- A fraction of a larger unit, counted in whole smaller ones. -/
def fractionIn (fraction : Binary64) (perWhole : Nat) : Nat :=
  (((fraction.mul (.ofInt perWhole)).trunc?).getD 0).toNat

/-- The same count after full units of a middle size are taken off. -/
def fractionPast (fraction : Binary64) (perWhole middle : Nat) : Nat :=
  ((((fraction.mul (.ofInt perWhole)).rem (.ofInt middle)).trunc?).getD 0).toNat

/-- Nanoseconds of a fraction of a second, to the nearest. -/
def nearestNanosecond (fraction : Binary64) : Nat :=
  (((fraction.mul (.ofInt 1000000000)).roundHalfAway.trunc?).getD 0).toNat

/-- Hour, minute, second and nanosecond. -/
structure Clock where
  hour : Nat
  minute : Nat := 0
  second : Nat := 0
  nanosecond : Nat := 0

/-- Whether the parts are in range; a leap second is. -/
def Clock.isValid (c : Clock) : Bool :=
  c.hour < 24 && c.minute < 60 && c.second ≤ 60 && c.nanosecond < 1000000000

/-- The seconds after an hour and a minute. -/
def takeSeconds? (form : Form) (hour minute : Nat) (text : List Char) :
    Option (Clock × List Char) :=
  match takeFractional? text with
  | some ((second, none), rest) => some ({ hour, minute, second }, rest)
  | some ((second, some fraction), rest) =>
      some ({ hour, minute, second, nanosecond := nearestNanosecond fraction }, rest)
  | none =>
      match form with
      | .extended => none
      | .basic => some ({ hour, minute }, text)

/-- The minutes after an hour, and what follows them. -/
def takeMinutes? (form : Form) (hour : Nat) (text : List Char) : Option (Clock × List Char) :=
  match takeFractional? text with
  | some ((minute, some fraction), rest) =>
      some
        ({ hour
           minute
           second := fractionIn fraction 60
           nanosecond := fractionPast fraction 60000000000 1000000000 }, rest)
  | some ((minute, none), rest) =>
      match form with
      | .basic => takeSeconds? form hour minute rest
      | .extended =>
          match takeChar? ':' rest with
          | some rest => takeSeconds? form hour minute rest
          | none => some ({ hour, minute }, rest)
  | none =>
      match form with
      | .extended => none
      | .basic => some ({ hour }, text)

/-- A time after its `T`.  In the extended form the colon before the minutes
may be missing, but minutes may not. -/
def takeTime? (form : Form) (text : List Char) : Option (Clock × List Char) := do
  let ((hour, fraction), text) ← takeFractional? text
  let (clock, text) ←
    match fraction with
    | some fraction =>
        some
          ({ hour
             minute := fractionIn fraction 60
             second := fractionPast fraction 3600 60
             nanosecond := fractionPast fraction 3600000000000 1000000000 }, text)
    | none =>
        match takeChar? ':' text, form with
        | some rest, .extended => takeMinutes? form hour rest
        | some _, .basic => none
        | none, _ => takeMinutes? form hour text
  if clock.isValid then some (clock, text) else none

/-! ## Offset -/

/-- `Z`, or signed hours with optional minutes, up to the end of the text. -/
def readOffset? (form : Form) : List Char → Option UtcOffset
  | ['Z'] => some .utc
  | text => do
      let (negative, text) ← takeSign? text
      let (hours, text) ← takeDigits? 2 text
      let text :=
        match form, takeChar? ':' text with
        | .extended, some rest => rest
        | _, _ => text
      match text with
      | [] => UtcOffset.ofParts? negative hours 0
      | _ => do
          let (minutes, text) ← takeDigits? 2 text
          if text.isEmpty then UtcOffset.ofParts? negative hours minutes else none

/-- The fields of a text in this form: a date alone, or a date and a time with
or without an offset. -/
def readFields? (text : List Char) : Option Fields := do
  let (date, form, text) ← takeDate? text
  match text with
  | [] => return { date }
  | 'T' :: text => do
      let (clock, text) ← takeTime? form text
      let offset ←
        match text with
        | [] => some none
        | _ => (readOffset? form text).map some
      return { date
               hour := some clock.hour
               minute := some clock.minute
               second := some clock.second
               nanosecond := some clock.nanosecond
               offset }
  | _ => none

/-- The date-time that a text in this form names. -/
def read? (text : List Char) : Option DateTime :=
  (readFields? text).map (Fields.resolve true)

end JsonPath.Iso8601
