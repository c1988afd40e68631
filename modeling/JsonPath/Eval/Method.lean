import JsonPath.Calendar.Iso8601
import JsonPath.Calendar.Rfc3339
import JsonPath.Calendar.Template
import JsonPath.Eval.Selection
import JsonPath.Number.Reading
import JsonPath.Text.Blank

/-!
# Item methods

What the methods make of one value.  In lax mode the methods of numbers and
dates apply to every element of an array, each on its own.
-/

namespace JsonPath

/-! ## Numbers -/

/-- A number that has been rounded to an integer, as one of 64 bits if it
fits. -/
def rounded (x : Binary64) (nearest : Option Int) : Value :=
  match nearest.bind int64? with
  | some n => .integer n
  | none => .number x

/-- A value as a number of binary64; strings are read. -/
def double : Value → Result
  | .integer n => .ok (.number (.ofInt n.toInt))
  | .number x => .ok (.number x)
  | .string s =>
      match Binary64.read? (trimBlanks s.toList) with
      | some x => .ok (.number x)
      | none => .error (.unparsable s .double)
  | v => .error (.typeMismatch (.argument .double v.kind))

/-- The least integer that is not less. -/
def ceiling : Value → Result
  | .integer n => .ok (.integer n)
  | .number x => .ok (rounded x x.ceil?)
  | v => .error (.typeMismatch (.argument .ceiling v.kind))

/-- The greatest integer that is not greater. -/
def floor : Value → Result
  | .integer n => .ok (.integer n)
  | .number x => .ok (rounded x x.floor?)
  | v => .error (.typeMismatch (.argument .floor v.kind))

/-- An integer as one of 64 bits if it fits, otherwise as the nearest number. -/
def integerOrNearest (n : Int) : Value :=
  match int64? n with
  | some m => .integer m
  | none => .number (.ofInt n)

/-- The absolute value.  That of the least integer does not fit 64 bits. -/
def absolute : Value → Result
  | .integer n => .ok (integerOrNearest n.toInt.natAbs)
  | .number x => .ok (.number x.abs)
  | v => .error (.typeMismatch (.argument .abs v.kind))

/-! ## Dates -/

/-- The instant that a text denotes. -/
def readDateTime? (template : Option DateTemplate) (text : List Char) : Option DateTime :=
  match template with
  | some t => t.read? text
  | none => Rfc3339.read? text <|> Iso8601.read? text

/-- A string as a date-time. -/
def toDateTime (template : Option DateTemplate) : Value → Result
  | .string s =>
      match readDateTime? template s.toList with
      | some d => .ok (.dateTime d)
      | none => .error (.unparsable s .dateTime)
  | v => .error (.typeMismatch (.dateTime v.kind))

/-! ## Objects -/

/-- One record for each member of the object at some position. -/
def memberRecords (position : Nat) (members : Members) : List Value :=
  members.map fun (key, v) =>
    .object [("id", .integer (.ofNat position)), ("key", .string key), ("value", v)]

/-- The records of objects, of which the first is at some position. -/
def recordsFrom (position : Nat) : List Value → Except EvalError (List Value)
  | [] => .ok []
  | .object members :: rest => do
      return memberRecords position members ++ (← recordsFrom (position + 1) rest)
  | v :: _ => .error (.notAnObject .keyValue v.kind)

/-- The members of an object as records; in lax mode those of all objects in an
array. -/
def keyValue (mode : Mode) (v : Value) : Sequence :=
  match mode, v with
  | .lax, .array items => .ofExcept (recordsFrom 0 items)
  | _, _ => .ofExcept (recordsFrom 0 [v])

/-! ## Dispatch -/

/-- A method on a value; in lax mode on every element of an array, errors in
their places. -/
def onItems (mode : Mode) (f : Value → Result) (v : Value) : Sequence :=
  match mode, v with
  | .lax, .array items => .deferred (items.map f)
  | _, _ => .ofResult (f v)

/-- `.method()` -/
def ItemMethod.apply (mode : Mode) (method : ItemMethod) (v : Value) : Sequence :=
  match method with
  | .type => .single (.string v.kind.name)
  | .size =>
      match v with
      | .array items => .single (.integer (.ofNat items.length))
      | _ => .single (.integer 1)
  | .double => onItems mode JsonPath.double v
  | .ceiling => onItems mode JsonPath.ceiling v
  | .floor => onItems mode JsonPath.floor v
  | .abs => onItems mode absolute v
  | .keyValue => JsonPath.keyValue mode v

/-- `.datetime()` -/
def dateTime (mode : Mode) (template : Option DateTemplate) (v : Value) : Sequence :=
  onItems mode (toDateTime template) v

end JsonPath
