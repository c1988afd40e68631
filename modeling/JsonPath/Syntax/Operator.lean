/-!
# Modes, operators and methods

The closed vocabularies of the path language, with their spellings.
-/

namespace JsonPath

/-- How a statement treats data of an unexpected shape. -/
inductive Mode where
  /-- A mismatch yields nothing; arrays are unwrapped where an item is wanted. -/
  | lax
  /-- A mismatch is an error. -/
  | strict
  deriving DecidableEq, Repr

/-- The word that sets a mode. -/
def Mode.name : Mode → String
  | lax => "lax"
  | strict => "strict"

/-- Binary arithmetic. -/
inductive ArithmeticOp where
  | add
  | subtract
  | multiply
  | divide
  | modulo
  deriving DecidableEq, Repr

/-- How an operator is written. -/
def ArithmeticOp.symbol : ArithmeticOp → String
  | add => "+"
  | subtract => "-"
  | multiply => "*"
  | divide => "/"
  | modulo => "%"

/-- A sign before an operand. -/
inductive SignOp where
  | plus
  | minus
  deriving DecidableEq, Repr

/-- How a sign is written. -/
def SignOp.symbol : SignOp → String
  | plus => "+"
  | minus => "-"

/-- The operators that compare. -/
inductive Comparison where
  | equal
  | notEqual
  | less
  | lessEqual
  | greater
  | greaterEqual
  deriving DecidableEq, Repr

namespace Comparison

/-- How a comparison is written. -/
def symbol : Comparison → String
  | equal => "=="
  | notEqual => "!="
  | less => "<"
  | lessEqual => "<="
  | greater => ">"
  | greaterEqual => ">="

/-- Whether an order of the two sides satisfies the comparison. -/
def holds : Comparison → Ordering → Bool
  | equal, order => order == .eq
  | notEqual, order => order != .eq
  | less, order => order == .lt
  | lessEqual, order => order != .gt
  | greater, order => order == .gt
  | greaterEqual, order => order != .lt

/-- The comparison that holds when the sides are exchanged. -/
def converse : Comparison → Comparison
  | equal => equal
  | notEqual => notEqual
  | less => greater
  | lessEqual => greaterEqual
  | greater => less
  | greaterEqual => lessEqual

end Comparison

/-- Item methods without an argument. -/
inductive ItemMethod where
  | type
  | size
  | double
  | ceiling
  | floor
  | abs
  | keyValue
  deriving DecidableEq, Repr

namespace ItemMethod

/-- How a method is written. -/
def name : ItemMethod → String
  | type => "type"
  | size => "size"
  | double => "double"
  | ceiling => "ceiling"
  | floor => "floor"
  | abs => "abs"
  | keyValue => "keyvalue"

/-- The methods without arguments. -/
def all : List ItemMethod := [type, size, double, ceiling, floor, abs, keyValue]

/-- The method with a name. -/
def ofName? (name : String) : Option ItemMethod :=
  all.find? fun method => method.name == name

end ItemMethod

end JsonPath
