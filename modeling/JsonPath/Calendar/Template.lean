import JsonPath.Calendar.Fields

/-!
# Date-time templates

A template such as `DD.MM.YYYY HH24:MI` is cut from left to right into fields
and single literal characters; at each place the first field of
`Component.spellings` that fits is taken.  Reading a text by a template matches
the components one after the other against the whole text.
-/

namespace JsonPath

/-- A field that a template can name. -/
inductive Component where
  | year
  | month
  | day
  | hour
  | minute
  | second
  | fraction
  | offsetHour
  | offsetMinute
  deriving DecidableEq, Repr

/-- The spellings of the fields, those before others that begin alike. -/
def Component.spellings : List (List Char × Component) :=
  [ (['Y', 'Y', 'Y', 'Y'], year),
    (['H', 'H', '2', '4'], hour),
    (['T', 'Z', 'H'], offsetHour),
    (['T', 'Z', 'M'], offsetMinute),
    (['M', 'M'], month),
    (['D', 'D'], day),
    (['H', 'H'], hour),
    (['M', 'I'], minute),
    (['S', 'S'], second),
    (['F', 'F'], fraction) ]

/-- A part of a template. -/
inductive TemplateItem where
  | field (component : Component)
  | literal (c : Char)
  deriving DecidableEq, Repr

namespace TemplateItem

/-- The field that begins a text, with the length of its spelling. -/
def leadingField? (text : List Char) : Option (Component × Nat) :=
  Component.spellings.findSome? fun (spelling, component) =>
    if spelling.isPrefixOf text then some (component, spelling.length) else none

/-- The items of a template; `skip` characters belong to a field already
taken. -/
def ofChars : (skip : Nat) → List Char → List TemplateItem
  | _, [] => []
  | skip + 1, _ :: rest => ofChars skip rest
  | 0, c :: rest =>
      match leadingField? (c :: rest) with
      | some (component, length) => field component :: ofChars (length - 1) rest
      | none => literal c :: ofChars 0 rest

end TemplateItem

/-- A template, as it is written. -/
structure DateTemplate where
  source : String
  deriving DecidableEq

namespace DateTemplate

/-- The fields and literal characters of a template, in their order. -/
def items (t : DateTemplate) : List TemplateItem := TemplateItem.ofChars 0 t.source.toList

/-- What has been read so far; a field that is named again is overwritten. -/
structure Reading where
  year : Option Int := none
  month : Option Nat := none
  day : Option Nat := none
  hour : Option Nat := none
  minute : Option Nat := none
  second : Option Nat := none
  nanosecond : Option Nat := none
  offsetHour : Option (Bool × Nat) := none
  offsetMinute : Option Nat := none

/-- A number of exactly two digits in a range. -/
def takeTwo? (least greatest : Nat) (text : List Char) : Option (Nat × List Char) := do
  let (number, rest) ← takeDigits? 2 text
  if least ≤ number ∧ number ≤ greatest then some (number, rest) else none

/-- Reads one field at the beginning of the text.  A year has four digits and
may have a sign; the offset hour must have one; second 60 is a field like any
other. -/
def readField (r : Reading) (component : Component) (text : List Char) :
    Option (Reading × List Char) :=
  match component with
  | .year => do
      let (negative, digits) := (takeSign? text).getD (false, text)
      let (year, rest) ← takeDigits? 4 digits
      return ({ r with year := some (if negative then -(year : Int) else year) }, rest)
  | .month => do
      let (month, rest) ← takeTwo? 1 12 text
      return ({ r with month := some month }, rest)
  | .day => do
      let (day, rest) ← takeTwo? 1 31 text
      return ({ r with day := some day }, rest)
  | .hour => do
      let (hour, rest) ← takeTwo? 0 23 text
      return ({ r with hour := some hour }, rest)
  | .minute => do
      let (minute, rest) ← takeTwo? 0 59 text
      return ({ r with minute := some minute }, rest)
  | .second => do
      let (second, rest) ← takeTwo? 0 60 text
      return ({ r with second := some second }, rest)
  | .fraction => do
      let (nanosecond, rest) ← takeFraction? text
      return ({ r with nanosecond := some nanosecond }, rest)
  | .offsetHour => do
      let (negative, digits) ← takeSign? text
      let (hours, rest) ← takeTwo? 0 25 digits
      return ({ r with offsetHour := some (negative, hours) }, rest)
  | .offsetMinute => do
      let (minutes, rest) ← takeTwo? 0 59 text
      return ({ r with offsetMinute := some minutes }, rest)

/-- Reads the items one after the other and requires the end of the text. -/
def readItems : List TemplateItem → Reading → List Char → Option Reading
  | [], r, text => if text.isEmpty then some r else none
  | .literal c :: items, r, text => do readItems items r (← takeChar? c text)
  | .field component :: items, r, text => do
      let (r, rest) ← readField r component text
      readItems items r rest

/-- Year, month and day are required; offset minutes count only with hours,
whose sign they share. -/
def Reading.toFields? (r : Reading) : Option Fields := do
  let date ← Date.ofParts? (← r.year) (← r.month) (← r.day)
  let offset := r.offsetHour.bind fun (negative, hours) =>
    UtcOffset.ofParts? negative hours (r.offsetMinute.getD 0)
  return { date
           hour := r.hour
           minute := r.minute
           second := r.second
           nanosecond := r.nanosecond
           offset }

/-- The date-time that the text spells by the template. -/
def read? (t : DateTemplate) (text : List Char) : Option DateTime := do
  let r ← readItems t.items {} text
  return (← r.toFields?).resolve false

end DateTemplate

end JsonPath
