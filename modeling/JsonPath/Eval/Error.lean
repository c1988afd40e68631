import JsonPath.Syntax.Operator
import JsonPath.Value

/-!
# Evaluation errors

The causes for which an evaluation fails, and their messages.  One of them is
fatal: no filter drops it, `exists` does not turn it into unknown, and no
default replaces it.
-/

namespace JsonPath

/-- An operand of the wrong type, or of the wrong number of items. -/
inductive Mismatch where
  | subscript (found : Kind)
  | rangeBound (items : Nat)
  | signed (op : SignOp) (found : Kind)
  | leftOperand (op : ArithmeticOp) (items : Nat)
  | rightOperand (op : ArithmeticOp) (items : Nat)
  | argument (method : ItemMethod) (found : Kind)
  | dateTime (found : Kind)
  deriving DecidableEq, Repr

/-- The accessors that want an array. -/
inductive ArrayAccess where
  | wildcard
  | subscript
  deriving DecidableEq, Repr

/-- The accessors that want an object. -/
inductive ObjectAccess where
  | member
  | wildcard
  | keyValue
  deriving DecidableEq, Repr

/-- What a string is converted to. -/
inductive Conversion where
  | double
  | dateTime
  deriving DecidableEq, Repr

/-- What can be wrong when a statement is evaluated. -/
inductive EvalError where
  | typeMismatch (mismatch : Mismatch)
  | keyNotFound (key : String)
  | indexOutOfRange (index : Int64) (length : Nat)
  | notAnArray (access : ArrayAccess) (found : Kind)
  | notAnObject (access : ObjectAccess) (found : Kind)
  | unparsable (text : String) (target : Conversion)
  | unknownVariable (name : String)
  | unsupportedOperator (op : ArithmeticOp) (left right : Kind)
  | divisionByZero
  /-- The least integer divided by minus one, whose quotient does not fit. -/
  | quotientOverflow
  deriving DecidableEq, Repr

/-- What messages call an accessor of arrays. -/
def ArrayAccess.name : ArrayAccess → String
  | wildcard => "element wildcard"
  | subscript => "array subscript"

/-- What messages call an accessor of objects. -/
def ObjectAccess.name : ObjectAccess → String
  | member => "member accessor"
  | wildcard => "member wildcard"
  | keyValue => ".keyvalue()"

/-- What messages call the target of a conversion. -/
def Conversion.name : Conversion → String
  | double => "a double"
  | dateTime => "a datetime"

/-- What a method that needs a number accepts. -/
def ItemMethod.requirement : ItemMethod → String
  | double => "a number or numeric string"
  | _ => "a number"

/-- What is said of an operand of the wrong type. -/
def Mismatch.message : Mismatch → String
  | subscript found => s!"array subscript must be a number, got {found.name}"
  | rangeBound items => s!"range bound must be a single number, got {items} items"
  | signed op found => s!"unary '{op.symbol}' requires a number, got {found.name}"
  | leftOperand op items =>
      s!"left operand of '{op.symbol}' must be a single item, got {items} items"
  | rightOperand op items =>
      s!"right operand of '{op.symbol}' must be a single item, got {items} items"
  | argument method found =>
      s!".{method.name}() requires {method.requirement}, got {found.name}"
  | dateTime found => s!".datetime() requires a string, got {found.name}"

namespace EvalError

/-- What is said of an error. -/
def message : EvalError → String
  | typeMismatch mismatch => s!"type mismatch: {mismatch.message}"
  | keyNotFound key => s!"member '{key}' not found"
  | indexOutOfRange index length =>
      s!"array index {index.toInt} out of range for array of length {length}"
  | notAnArray access found => s!"{access.name} expects an array, got {found.name}"
  | notAnObject access found => s!"{access.name} expects an object, got {found.name}"
  | unparsable text target => s!"cannot parse '{text}' as {target.name}"
  | unknownVariable name => s!"variable ${name} is not defined"
  | unsupportedOperator op left right =>
      s!"operator '{op.symbol}' is not defined for {left.name} and {right.name}"
  | divisionByZero => "division by zero"
  | quotientOverflow => "attempt to calculate the remainder with overflow"

/-- An error that nothing catches. -/
def isFatal (e : EvalError) : Bool := e == quotientOverflow

theorem isFatal_iff {e : EvalError} : e.isFatal = true ↔ e = .quotientOverflow := beq_iff_eq

theorem isFatal_eq_false_iff {e : EvalError} : e.isFatal = false ↔ e ≠ .quotientOverflow :=
  beq_eq_false_iff_ne

end EvalError

end JsonPath
