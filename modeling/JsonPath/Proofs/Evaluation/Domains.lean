import Mathlib
import JsonPath.Eval.Arithmetic
import JsonPath.Eval.Selection

/-!
# Domains of the partial operations

Indexing, slicing, removing an element, casts that keep a number and integer
division are each defined on a part of their operands only.  Here subscripts,
operands and integer arithmetic are written with these partial operations, behind
the guards that an evaluation puts in front of them; `none` stands for an
operation outside its domain.

The guards are enough everywhere but in one place: before an integer division the
remainder is taken, and the guard only asks for a divisor that is not zero.

An array in memory has fewer than `2 ^ 63` elements.
-/

namespace JsonPath

namespace Checked

variable {mode : Mode} {items : List Value}

/-! ## Partial operations -/

/-- A signed number as an index; it keeps its value unless it is negative. -/
def toIndex? (n : Int64) : Option Nat := if 0 ≤ n.toInt then some n.toInt.toNat else none

/-- The elements from one index to another, both included. -/
def inclusive? (items : List Value) (start stop : Nat) : Option (List Value) :=
  if start ≤ stop + 1 ∧ stop < items.length then
    some ((items.drop start).take (stop + 1 - start))
  else
    none

/-- The first element, taken out of its list. -/
def removeFirst? : List Value → Option Value
  | [] => none
  | v :: _ => some v

/-- The truncated quotient, if there is one of 64 bits. -/
def quotient? (a b : Int64) : Option Int64 :=
  if b = 0 then none else int64? (a.toInt.tdiv b.toInt)

/-- The remainder of a division whose quotient has 64 bits. -/
def remainder? (a b : Int64) : Option Int64 :=
  if b = 0 ∨ a = Int64.minValue ∧ b = -1 then none else int64? (a.toInt.tmod b.toInt)

theorem exists_int64?_eq {n : Int} (h : -2 ^ 63 ≤ n) (h' : n < 2 ^ 63) :
    ∃ m, int64? n = some m ∧ m.toInt = n := by
  have hfits : int64? n = some (Int64.ofInt n) := by
    rw [int64?, Int64.toInt_minValue, Int64.toInt_maxValue, if_pos (by omega)]
  exact ⟨_, hfits, int64?_eq_some_iff.1 hfits⟩

/-! ## Subscripts -/

/-- Whether an index is one of an array. -/
def inBounds? (items : List Value) (index : Int64) : Option Bool :=
  if 0 ≤ index.toInt then do
    return decide ((← toIndex? index) < items.length)
  else
    some false

/-- The element at an index, read only behind the test of its bounds. -/
def select? (mode : Mode) (items : List Value) (index : Int64) :
    Option (Except EvalError (List Value)) := do
  if ← inBounds? items index then
    return .ok [← items[← toIndex? index]?]
  else
    match mode with
    | .strict => return .error (.indexOutOfRange index items.length)
    | .lax => return .ok []

/-- The bounds of a range, cut to those of the array, and the elements between. -/
def slice? (items : List Value) (low high : Int64) : Option (List Value) := do
  let last ← int64? ((items.length : Int) - 1)
  let start := if low.toInt < 0 then 0 else low
  let stop := if last.toInt < high.toInt then last else high
  if start.toInt ≤ stop.toInt then
    inclusive? items (← toIndex? start) (← toIndex? stop)
  else
    return []

/-- A range, with the tests of its bounds in strict mode. -/
def selectRange? (mode : Mode) (items : List Value) (low high : Int64) :
    Option (Except EvalError (List Value)) := do
  match mode with
  | .lax => return .ok (← slice? items low high)
  | .strict =>
      if !(← inBounds? items low) then
        return .error (.indexOutOfRange low items.length)
      else if !(← inBounds? items high) then
        return .error (.indexOutOfRange high items.length)
      else if high < low then
        return .error (.indexOutOfRange low items.length)
      else
        return .ok (← slice? items low high)

theorem toIndex?_of_nonneg {n : Int64} (h : 0 ≤ n.toInt) : toIndex? n = some n.toInt.toNat :=
  if_pos h

theorem inBounds?_eq (items : List Value) (index : Int64) :
    inBounds? items index = some (elementAt? items index).isSome := by
  rw [inBounds?, elementAt?]
  split
  · next h =>
      simp only [toIndex?_of_nonneg h, Option.bind_eq_bind, Option.bind_some]
      by_cases hi : index.toInt.toNat < items.length
      · rw [List.getElem?_eq_getElem hi, decide_eq_true hi]
        rfl
      · rw [List.getElem?_eq_none (Nat.le_of_not_lt hi), decide_eq_false hi]
        rfl
  · rfl

theorem select?_eq (mode : Mode) (items : List Value) (index : Int64) :
    select? mode items index = some (select mode items index) := by
  unfold select? select
  rw [inBounds?_eq]
  cases h : elementAt? items index with
  | none => cases mode <;> rfl
  | some v =>
      rw [elementAt?] at h
      split at h
      · next hindex =>
          simp only [Option.isSome_some, toIndex?_of_nonneg hindex, h, Option.bind_eq_bind,
            Option.bind_some, if_true]
          rfl
      · cases h

/-- The bounds that are left of a range are indices of the array, or there is nothing
between them. -/
theorem slice?_eq (h : items.length < 2 ^ 63) (low high : Int64) :
    slice? items low high = some (slice items low.toInt high.toInt) := by
  obtain ⟨last, hlast, hvalue⟩ :=
    @exists_int64?_eq ((items.length : Int) - 1) (by omega) (by omega)
  simp only [slice?, hlast, Option.bind_eq_bind, Option.bind_some]
  generalize hstart : (if low.toInt < 0 then 0 else low) = start
  generalize hstop : (if last.toInt < high.toInt then last else high) = stop
  have hlow : start.toInt = max low.toInt 0 := by
    rw [← hstart]
    split
    · rw [Int64.toInt_zero]
      omega
    · omega
  have hhigh : stop.toInt = min high.toInt (items.length - 1) := by
    rw [← hstop]
    split <;> omega
  rw [slice]
  split
  · next hle =>
      rw [toIndex?_of_nonneg (by omega), toIndex?_of_nonneg (by omega), Option.bind_some,
        Option.bind_some, inclusive?, if_pos (by omega), hlow]
      congr 2
      omega
  · next hgt =>
      rw [show (min (high.toInt + 1) ↑items.length).toNat - (max low.toInt 0).toNat = 0 by omega,
        List.take_zero]
      rfl

theorem selectRange?_eq (mode : Mode) (h : items.length < 2 ^ 63) (low high : Int64) :
    selectRange? mode items low high = some (selectRange mode items low high) := by
  cases mode with
  | lax =>
      simp only [selectRange?, slice?_eq h]
      rfl
  | strict =>
      simp only [selectRange?, selectRange, inBounds?_eq, slice?_eq h, Option.bind_eq_bind,
        Option.bind_some]
      cases elementAt? items low with
      | none => rfl
      | some v =>
          cases elementAt? items high with
          | none => rfl
          | some w =>
              simp only [Option.isSome_some, Option.isNone_some, Bool.not_true,
                Bool.false_eq_true, if_false]
              split <;> rfl

/-! ## Single operands -/

/-- The one item of an operand, taken out of the items when there is one. -/
def operand? (mode : Mode) (mismatch : Nat → Mismatch) (results : Results) : Option Result :=
  match results.values with
  | .error e => some (.error e)
  | .ok values =>
      let items := operandItems mode values
      if items.length = 1 then do
        return .ok (← removeFirst? items)
      else
        some (.error (.typeMismatch (mismatch items.length)))

/-- The bound of a range, taken out of the values when there is one. -/
def rangeBound? (results : Results) : Option (Except EvalError Int64) :=
  match results.values with
  | .error e => some (.error e)
  | .ok values =>
      if values.length = 1 then do
        return asIndex (← removeFirst? values)
      else
        some (.error (.typeMismatch (.rangeBound values.length)))

theorem operand?_eq (mode : Mode) (mismatch : Nat → Mismatch) (results : Results) :
    operand? mode mismatch results = some (operand mode mismatch results) := by
  rw [operand?, operand]
  cases results.values with
  | error e => rfl
  | ok values =>
      dsimp only
      match operandItems mode values with
      | [] | [_] | _ :: _ :: _ => rfl

theorem rangeBound?_eq (results : Results) : rangeBound? results = some (rangeBound results) := by
  rw [rangeBound?, rangeBound]
  match results.values with
  | .error e => rfl
  | .ok [] | .ok [_] | .ok (_ :: _ :: _) => rfl

/-! ## Integer arithmetic -/

/-- The result that an operation found, or that of the rounded operands. -/
def resultOr (op : ArithmeticOp) (a b : Int64) : Option Int64 → Result
  | some n => .ok (.integer n)
  | none => approximate op (.ofInt a.toInt) (.ofInt b.toInt)

/-- Arithmetic on two integers.  A quotient is only computed when nothing remains;
where the remainder as a result does not exist it counts as zero. -/
def integerArithmetic? (op : ArithmeticOp) (a b : Int64) : Option Result :=
  match op with
  | .add => some (resultOr op a b (int64? (a.toInt + b.toInt)))
  | .subtract => some (resultOr op a b (int64? (a.toInt - b.toInt)))
  | .multiply => some (resultOr op a b (int64? (a.toInt * b.toInt)))
  | .divide =>
      if b = 0 then
        some (.error .divisionByZero)
      else do
        let remainder ← remainder? a b
        return resultOr op a b (if remainder = 0 then quotient? a b else none)
  | .modulo =>
      if b = 0 then
        some (.error .divisionByZero)
      else
        some (resultOr op a b (some ((remainder? a b).getD 0)))

theorem resultOr_int64? (op : ArithmeticOp) (a b : Int64) (exact : Int) :
    resultOr op a b (int64? exact) = integerOr op a b exact := by
  rw [integerOr]
  cases int64? exact <;> rfl

/-- A remainder always has 64 bits. -/
theorem int64?_tmod {a b : Int64} (h : b ≠ 0) :
    ∃ r, int64? (a.toInt.tmod b.toInt) = some r ∧ r.toInt = a.toInt.tmod b.toInt := by
  have hb : 0 < b.toInt.natAbs := Int.natAbs_pos.2 fun hzero => h (Int64.toInt_inj.1 hzero)
  have hlt : (a.toInt.tmod b.toInt).natAbs < b.toInt.natAbs := by
    rw [Int.natAbs_tmod]
    exact Nat.mod_lt _ hb
  have hmin := b.le_toInt
  have hmax := b.toInt_lt
  exact exists_int64?_eq (by omega) (by omega)

/-- The guards of integer arithmetic are enough except for one quotient. -/
theorem integerArithmetic?_eq (op : ArithmeticOp) (a b : Int64) :
    integerArithmetic? op a b =
      if op = .divide ∧ a = Int64.minValue ∧ b = -1 then none
      else some (integerArithmetic op a b) := by
  have hzero : b.toInt = 0 ↔ b = 0 := ⟨fun h => Int64.toInt_inj.1 h, fun h => by rw [h]; rfl⟩
  have hone : b.toInt = -1 ↔ b = -1 :=
    ⟨fun h => Int64.toInt_inj.1 (h.trans (by decide)), fun h => by rw [h]; decide⟩
  cases op with
  | add | subtract | multiply =>
      simp only [integerArithmetic?, integerArithmetic, resultOr_int64?, reduceCtorEq, false_and,
        if_false]
  | divide =>
      simp only [integerArithmetic?, integerArithmetic, hzero, hone, true_and]
      by_cases hb : b = 0
      · rw [if_pos hb, if_pos hb, if_neg]
        rintro ⟨-, rfl⟩
        cases hb
      rw [if_neg hb, if_neg hb, remainder?]
      by_cases hleast : a = Int64.minValue ∧ b = -1
      · rw [if_pos (.inr hleast), if_pos hleast]
        rfl
      obtain ⟨r, hr, hvalue⟩ := int64?_tmod (a := a) hb
      rw [if_neg (by simp only [hb, hleast, or_self, not_false_eq_true]), if_neg hleast,
        if_neg hleast, hr, Option.bind_eq_bind, Option.bind_some, ← hvalue]
      by_cases hrest : r = 0
      · rw [if_pos hrest, if_pos (by rw [hrest]; rfl), quotient?, if_neg hb, resultOr_int64?]
        rfl
      · have hvalueRest : r.toInt ≠ 0 := fun h => hrest (Int64.toInt_inj.1 h)
        rw [if_neg hrest, if_neg hvalueRest]
        rfl
  | modulo =>
      simp only [integerArithmetic?, integerArithmetic, hzero, reduceCtorEq, false_and, if_false]
      by_cases hb : b = 0
      · rw [if_pos hb, if_pos hb]
      rw [if_neg hb, if_neg hb, remainder?]
      obtain ⟨r, hr, hvalue⟩ := int64?_tmod (a := a) hb
      by_cases hleast : a = Int64.minValue ∧ b = -1
      · rw [if_pos (.inr hleast), integerOr, hr]
        obtain ⟨rfl, rfl⟩ := hleast
        rw [Int64.toInt_inj.1 (hvalue.trans (by decide) : r.toInt = (0 : Int64).toInt)]
        rfl
      · rw [if_neg (by simp only [hb, hleast, or_self, not_false_eq_true]), integerOr, hr]
        rfl

end Checked

end JsonPath
