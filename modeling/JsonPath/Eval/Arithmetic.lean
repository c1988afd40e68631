import JsonPath.Eval.Result
import JsonPath.Number.Decimal
import JsonPath.Number.Integer

/-!
# Arithmetic

Two integers are computed exactly as long as the result is an integer of 64
bits.  Everything else goes through 96-bit decimals, and where those do not
reach, through binary64.  A decimal result without a fraction is an integer
again.
-/

namespace JsonPath

namespace ArithmeticOp

/-- The operation on decimals; none where the result does not fit. -/
def onDecimals : ArithmeticOp → Decimal → Decimal → Option Decimal
  | add => Decimal.add
  | subtract => Decimal.sub
  | multiply => Decimal.mul
  | divide => Decimal.div
  | modulo => Decimal.rem

/-- The operation on binary64 numbers. -/
def onBinary64 : ArithmeticOp → Binary64 → Binary64 → Binary64
  | add => Binary64.add
  | subtract => Binary64.sub
  | multiply => Binary64.mul
  | divide => Binary64.div
  | modulo => Binary64.rem

/-- The operations that have no result for a zero on the right. -/
def divides : ArithmeticOp → Bool
  | divide | modulo => true
  | _ => false

end ArithmeticOp

/-- A decimal as a value: an integer if it is one of 64 bits. -/
def Decimal.toValue (d : Decimal) : Value :=
  match d.toInt?.bind int64? with
  | some n => .integer n
  | none => .number d.toBinary64

/-- Arithmetic on two numbers that are not both integers, or whose result is no
integer. -/
def approximate (op : ArithmeticOp) (x y : Binary64) : Result :=
  if op.divides && y.isZero then
    .error .divisionByZero
  else
    let decimal := do op.onDecimals (← Decimal.ofBinary64? x) (← Decimal.ofBinary64? y)
    match decimal with
    | some d => .ok d.toValue
    | none => .ok (.number (op.onBinary64 x y))

/-- An integer result if it fits, otherwise that of `approximate`. -/
def integerOr (op : ArithmeticOp) (a b : Int64) (exact : Int) : Result :=
  match int64? exact with
  | some n => .ok (.integer n)
  | none => approximate op (.ofInt a.toInt) (.ofInt b.toInt)

/-- Arithmetic on two integers.  A quotient is an integer when the division
leaves no remainder; the remainder has the sign of the dividend. -/
def integerArithmetic (op : ArithmeticOp) (a b : Int64) : Result :=
  let m := a.toInt
  let n := b.toInt
  match op with
  | .add => integerOr op a b (m + n)
  | .subtract => integerOr op a b (m - n)
  | .multiply => integerOr op a b (m * n)
  | .divide =>
      if n = 0 then
        .error .divisionByZero
      else if a = Int64.minValue ∧ n = -1 then
        .error .quotientOverflow
      else if m.tmod n = 0 then
        integerOr op a b (m.tdiv n)
      else
        approximate op (.ofInt m) (.ofInt n)
  | .modulo =>
      if n = 0 then .error .divisionByZero else integerOr op a b (m.tmod n)

/-- Arithmetic on two items. -/
def arithmetic (op : ArithmeticOp) (left right : Value) : Result :=
  match left, right with
  | .integer a, .integer b => integerArithmetic op a b
  | _, _ =>
      match left.toBinary64?, right.toBinary64? with
      | some x, some y => approximate op x y
      | _, _ => .error (.unsupportedOperator op left.kind right.kind)

/-- The items of an operand; in lax mode a lone array counts as its elements. -/
def operandItems (mode : Mode) (values : List Value) : List Value :=
  match mode, values with
  | .lax, [.array items] => items
  | _, _ => values

/-- The one item of an operand. -/
def operand (mode : Mode) (mismatch : Nat → Mismatch) (results : Results) : Result :=
  match results.values with
  | .error e => .error e
  | .ok values =>
      match operandItems mode values with
      | [v] => .ok v
      | items => .error (.typeMismatch (mismatch items.length))

/-- Binary arithmetic on the results of two operands; each must be a single item,
the left one first. -/
def binary (mode : Mode) (op : ArithmeticOp) (left right : Results) : Result :=
  match operand mode (.leftOperand op) left with
  | .error e => .error e
  | .ok l =>
      match operand mode (.rightOperand op) right with
      | .error e => .error e
      | .ok r => arithmetic op l r

/-! ## Signs -/

/-- A sign on one number.  The least integer has no integer negation. -/
def applySign (op : SignOp) (v : Value) : Result :=
  match op, v with
  | .plus, .integer n => .ok (.integer n)
  | .plus, .number x => .ok (.number x)
  | .minus, .integer n =>
      match int64? (-n.toInt) with
      | some m => .ok (.integer m)
      | none => .ok (.number (Binary64.ofInt n.toInt).neg)
  | .minus, .number x => .ok (.number x.neg)
  | _, other => .error (.typeMismatch (.signed op other.kind))

/-- The values of a function on all elements, or the error of the first on which
it fails. -/
def forEach (f : Value → Result) : List Value → Except EvalError (List Value)
  | [] => .ok []
  | v :: rest =>
      match f v with
      | .error e => .error e
      | .ok w =>
          match forEach f rest with
          | .error e => .error e
          | .ok ws => .ok (w :: ws)

/-- A sign on an item; in lax mode on every element of an array, all or
nothing. -/
def unary (mode : Mode) (op : SignOp) (v : Value) : Sequence :=
  match mode, v with
  | .lax, .array items => .ofExcept (forEach (applySign op) items)
  | _, _ => .ofResult (applySign op v)

end JsonPath
