import JsonPath.Number.Binary64
import JsonPath.Calendar.DateTime

/-!
# Values

The data that paths navigate: JSON, with integers apart from other numbers, and
date-times.  An object is a list of members in their order; its keys are
distinct in every value that `Members.insert` builds.

Two equalities are defined.  `structurallyEquals` is the one paths see: numbers
are equal by value and the order of members does not matter.  `sameAs` also
tells an integer from another number.
-/

namespace JsonPath

/-- A JSON value or a date-time. -/
inductive Value where
  | null
  | boolean (b : Bool)
  | integer (n : Int64)
  | number (x : Binary64)
  | string (s : String)
  | array (items : List Value)
  | object (members : List (String × Value))
  | dateTime (d : DateTime)

/-- Null stands for a value where none is given. -/
instance : Inhabited Value := ⟨.null⟩

/-- Members of an object, in order. -/
abbrev Members := List (String × Value)

/-- Sets a member: an existing one keeps its place, a new one comes last. -/
def Members.insert (key : String) (value : Value) : Members → Members
  | [] => [(key, value)]
  | (k, v) :: rest =>
      if k = key then (k, value) :: rest else (k, v) :: Members.insert key value rest

/-- The value of a member. -/
def Members.get? (members : Members) (key : String) : Option Value :=
  members.lookup key

/-- The types of values, as paths tell them apart. -/
inductive Kind where
  | null
  | boolean
  | number
  | string
  | array
  | object
  | date
  deriving DecidableEq, Repr

/-- What messages call a kind. -/
def Kind.name : Kind → String
  | null => "null"
  | boolean => "boolean"
  | number => "number"
  | string => "string"
  | array => "array"
  | object => "object"
  | date => "date"

namespace Value

/-- The type of a value; integers and other numbers are of one type. -/
def kind : Value → Kind
  | null => .null
  | boolean _ => .boolean
  | integer _ | number _ => .number
  | string _ => .string
  | array _ => .array
  | object _ => .object
  | dateTime _ => .date

/-- A number as the nearest binary64. -/
def toBinary64? : Value → Option Binary64
  | integer n => some (.ofInt n.toInt)
  | number x => some x
  | _ => none

mutual

/-- Equality of what the values mean: numbers by value, arrays in order, objects
by member. -/
def structurallyEquals : Value → Value → Bool
  | null, null => true
  | boolean a, boolean b => a == b
  | integer a, integer b => a == b
  | integer a, number y => Binary64.equals (.ofInt a.toInt) y
  | number x, integer b => Binary64.equals x (.ofInt b.toInt)
  | number x, number y => Binary64.equals x y
  | string a, string b => a == b
  | array xs, array ys => elementsEqual xs ys
  | object ms, object ns => ms.length == ns.length && membersEqual ms ns
  | dateTime a, dateTime b => a.instant == b.instant
  | _, _ => false

/-- Equality of arrays, element by element. -/
def elementsEqual : List Value → List Value → Bool
  | [], [] => true
  | x :: xs, y :: ys => structurallyEquals x y && elementsEqual xs ys
  | _, _ => false

/-- Every member on the left has an equal one on the right. -/
def membersEqual : List (String × Value) → List (String × Value) → Bool
  | [], _ => true
  | (key, value) :: rest, ns =>
      (match ns.lookup key with
        | some other => structurallyEquals value other
        | none => false) &&
        membersEqual rest ns

end

mutual

/-- Equality that tells the two kinds of number apart. -/
def sameAs : Value → Value → Bool
  | null, null => true
  | boolean a, boolean b => a == b
  | integer a, integer b => a == b
  | number x, number y => Binary64.equals x y
  | string a, string b => a == b
  | array xs, array ys => elementsSame xs ys
  | object ms, object ns => ms.length == ns.length && membersSame ms ns
  | dateTime a, dateTime b => a.instant == b.instant
  | _, _ => false

/-- Lists whose elements are the same in pairs. -/
def elementsSame : List Value → List Value → Bool
  | [], [] => true
  | x :: xs, y :: ys => sameAs x y && elementsSame xs ys
  | _, _ => false

/-- Every member on the left has one with its key and the same value on the right. -/
def membersSame : List (String × Value) → List (String × Value) → Bool
  | [], _ => true
  | (key, value) :: rest, ns =>
      (match ns.lookup key with
        | some other => sameAs value other
        | none => false) &&
        membersSame rest ns

end

end Value

end JsonPath
