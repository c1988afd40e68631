import JsonPath.Eval.Truth
import JsonPath.Syntax.Operator
import JsonPath.Value

/-!
# Comparison of values

Values of one scalar type are ordered; arrays and objects are only equal or
not; everything else is unknown.  Two integers compare exactly, and a mixed
pair of numbers after the integer is rounded to binary64.
-/

namespace JsonPath

namespace Value

/-- The order of two scalars of one type. -/
def order? : Value → Value → Option Ordering
  | integer a, integer b => some (compare a.toInt b.toInt)
  | integer a, number y => Binary64.compare? (.ofInt a.toInt) y
  | number x, integer b => Binary64.compare? x (.ofInt b.toInt)
  | number x, number y => Binary64.compare? x y
  | string a, string b => some (compare a b)
  | boolean a, boolean b => some (compare a b)
  | null, null => some .eq
  | dateTime a, dateTime b => some (compare a.instant b.instant)
  | _, _ => none

/-- The equality of two containers of one type, for the comparisons that ask
for it. -/
def equality? (op : Comparison) (left right : Value) : Option Bool :=
  match left, right with
  | array _, array _ | object _, object _ =>
      match op with
      | .equal => some (left.structurallyEquals right)
      | .notEqual => some (!left.structurallyEquals right)
      | _ => none
  | _, _ => none

/-- The truth of a comparison. -/
def compareWith (op : Comparison) (left right : Value) : Truth :=
  match order? left right with
  | some order => .ofBool (op.holds order)
  | none =>
      match equality? op left right with
      | some b => .ofBool b
      | none => .unknown

/-- Whether a string begins with another; unknown for anything else. -/
def startsWith : Value → Value → Truth
  | string s, string start => .ofBool (start.toList.isPrefixOf s.toList)
  | _, _ => .unknown

/-- A value as a condition: only booleans are true or false. -/
def condition : Value → Truth
  | boolean b => .ofBool b
  | _ => .unknown

end Value

/-- Truth as a value: unknown is null. -/
def Truth.toValue : Truth → Value
  | holds => .boolean true
  | fails => .boolean false
  | unknown => .null

end JsonPath
