import JsonPath.Calendar.Fields

/-!
# Reading RFC 3339

A full date, any one ASCII character, a full time with an optional fraction, and
`Z` or a numeric offset.  All fields are required and have a fixed width.
-/

namespace JsonPath.Rfc3339

/-- The offset at the end of the text. -/
def readOffset? : List Char → Option UtcOffset
  | ['Z'] | ['z'] => some .utc
  | text => do
      let (negative, text) ← takeSign? text
      let (hours, text) ← takeDigits? 2 text
      let text ← takeChar? ':' text
      let (minutes, text) ← takeDigits? 2 text
      if text.isEmpty ∧ hours ≤ 23 then UtcOffset.ofParts? negative hours minutes else none

/-- The fields of a text in this form. -/
def readFields? (text : List Char) : Option Fields := do
  let (year, text) ← takeDigits? 4 text
  let text ← takeChar? '-' text
  let (month, text) ← takeDigits? 2 text
  let text ← takeChar? '-' text
  let (day, text) ← takeDigits? 2 text
  let separator ← text.head?
  guard (separator.toNat < 128)
  let (hour, text) ← takeDigits? 2 text.tail
  let text ← takeChar? ':' text
  let (minute, text) ← takeDigits? 2 text
  let text ← takeChar? ':' text
  let (second, text) ← takeDigits? 2 text
  let (nanosecond, text) ←
    match takeChar? '.' text with
    | some rest => takeFraction? rest
    | none => some (0, text)
  let offset ← readOffset? text
  let date ← Date.ofParts? year month day
  return { date
           hour := some hour
           minute := some minute
           second := some second
           nanosecond := some nanosecond
           offset := some offset }

/-- The date-time that a text in this form names; second 60 is read where a
leap second may be. -/
def read? (text : List Char) : Option DateTime :=
  (readFields? text).bind (Fields.zoned? true)

end JsonPath.Rfc3339
