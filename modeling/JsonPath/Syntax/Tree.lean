import JsonPath.Calendar.Template
import JsonPath.Number.Binary64
import JsonPath.Pattern.Like
import JsonPath.Syntax.Operator

/-!
# Syntax trees

Expressions yield values, predicates a truth.  The two are mutually recursive:
a filter holds a predicate, and predicates compare expressions.
-/

namespace JsonPath

mutual

/-- What yields a sequence of values. -/
inductive Expr where
  | integer (n : Int64)
  | number (x : Binary64)
  | string (s : String)
  | boolean (b : Bool)
  | null
  /-- `$`, the item that is evaluated. -/
  | root
  /-- `@`, the candidate of the innermost filter. -/
  | current
  /-- `last`, the greatest index of the array being subscripted. -/
  | last
  | variable (name : String)
  | signed (op : SignOp) (operand : Expr)
  | binary (op : ArithmeticOp) (left right : Expr)
  /-- An accessor on each value of an expression. -/
  | access (base : Expr) (accessor : Accessor)

/-- One step of a path. -/
inductive Accessor where
  /-- `.name` -/
  | member (name : String)
  /-- `.*` -/
  | memberWildcard
  /-- `[*]` -/
  | elementWildcard
  /-- `[0, 2 to last]` -/
  | subscripts (subs : List Subscript)
  /-- `? (predicate)` -/
  | filter (condition : Predicate)
  | method (m : ItemMethod)
  /-- `.datetime()`, with or without a template. -/
  | dateTime (template : Option DateTemplate)

/-- A selection of elements of an array. -/
inductive Subscript where
  /-- The elements at the indices that an expression yields. -/
  | indices (positions : Expr)
  /-- The elements from one index to another. -/
  | range (first last : Expr)

/-- What is true, false or unknown. -/
inductive Predicate where
  | compare (op : Comparison) (left right : Expr)
  /-- `exists (…)` -/
  | existence (operand : Expr)
  | startsWith (subject start : Expr)
  | likeRegex (subject : Expr) (pattern : LikePattern)
  /-- Predicates joined by `&&`. -/
  | conjunction (operands : List Predicate)
  /-- Predicates joined by `||`. -/
  | disjunction (operands : List Predicate)
  | negation (operand : Predicate)
  /-- `(…) is unknown` -/
  | isUnknown (operand : Predicate)
  /-- An expression that stands for its boolean values. -/
  | condition (e : Expr)

end

/-- What a statement asks for. -/
inductive Body where
  /-- The values of an expression. -/
  | path (e : Expr)
  /-- The truth of a predicate. -/
  | predicate (p : Predicate)

end JsonPath
