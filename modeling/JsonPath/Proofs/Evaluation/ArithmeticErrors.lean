import Mathlib
import JsonPath.Eval.Arithmetic
import JsonPath.Proofs.Evaluation.Equality
import JsonPath.Proofs.Evaluation.ModeExtension
import JsonPath.Proofs.Evaluation.Overflow
import JsonPath.Proofs.Number.Order
import JsonPath.Proofs.Number.Shortest

/-!
# The errors of binary arithmetic

When arithmetic on two operands is an error, which one, and that it is a number otherwise.
`Raises` lists the errors in the order in which they are looked for: those of the left
operand come before those of the right one, those of the operands before those of their
items, and the types of the items before a zero divisor.

An operand is a sequence of results.  It has an error (`FirstError`), or it holds one item
(`Holds`), or it does not have just one (`Miscounts`); lax mode takes a lone array for its
elements, one level of them.

Behind a divisor that is not zero there is always a number, whichever way it is computed:
integers that do not fit and operands that are no decimals, or have no decimal for their
result, go on to binary64, and no integer but zero is rounded to a zero there.
-/

namespace JsonPath

variable {mode : Mode} {op : ArithmeticOp}

/-! ## Operands -/

namespace Results

/-- The first error among results. -/
def FirstError (results : Results) (e : EvalError) : Prop :=
  ∃ before after, results = ofValues before ++ .error e :: after

/-- The results are one item.  In lax mode that may be the only element of an array. -/
inductive Holds : Results → Mode → Value → Prop where
  | strict (v : Value) : Holds [.ok v] .strict v
  | lax {v : Value} (h : ∀ items, v ≠ .array items) : Holds [.ok v] .lax v
  | element (v : Value) : Holds [.ok (.array [v])] .lax v

/-- The results are values, but no single item, and the number of items that there are. -/
inductive Miscounts : Results → Mode → Nat → Prop where
  | values {mode : Mode} {vs : List Value} (h : vs.length ≠ 1) :
      Miscounts (ofValues vs) mode vs.length
  | elements {items : List Value} (h : items.length ≠ 1) :
      Miscounts [.ok (.array items)] .lax items.length

theorem FirstError.values_eq {results : Results} {e : EvalError} (h : results.FirstError e) :
    results.values = .error e := by
  obtain ⟨before, after, rfl⟩ := h
  induction before with
  | nil => rfl
  | cons v before ih =>
      show values (.ok v :: (ofValues before ++ .error e :: after)) = _
      rw [values, ih]

theorem eq_ofValues_or_firstError (results : Results) :
    (∃ vs, results = ofValues vs) ∨ ∃ e, results.FirstError e := by
  induction results with
  | nil => exact .inl ⟨[], rfl⟩
  | cons r results ih =>
      cases r with
      | error e => exact .inr ⟨e, [], results, rfl⟩
      | ok v =>
          rcases ih with ⟨vs, rfl⟩ | ⟨e, before, after, rfl⟩
          · exact .inl ⟨v :: vs, rfl⟩
          · exact .inr ⟨e, v :: before, after, rfl⟩

/-- A value alone is an item, unless it is an array that lax mode takes apart. -/
theorem miscounts_or_holds_singleton (mode : Mode) (v : Value) :
    (∃ n, Miscounts [.ok v] mode n) ∨ ∃ w, Holds [.ok v] mode w := by
  cases mode with
  | strict => exact .inr ⟨v, .strict v⟩
  | lax =>
      by_cases harray : ∃ items, v = .array items
      · obtain ⟨items, rfl⟩ := harray
        by_cases hlength : items.length = 1
        · obtain ⟨w, rfl⟩ := List.length_eq_one_iff.1 hlength
          exact .inr ⟨w, .element w⟩
        · exact .inl ⟨items.length, .elements hlength⟩
      · exact .inr ⟨v, .lax fun items h => harray ⟨items, h⟩⟩

/-- An operand has an error, no single item, or one. -/
theorem firstError_or_miscounts_or_holds (mode : Mode) (results : Results) :
    (∃ e, results.FirstError e) ∨ (∃ n, results.Miscounts mode n) ∨
      ∃ v, results.Holds mode v := by
  rcases results.eq_ofValues_or_firstError with ⟨vs, rfl⟩ | herror
  · by_cases hlength : vs.length = 1
    · obtain ⟨v, rfl⟩ := List.length_eq_one_iff.1 hlength
      exact .inr (miscounts_or_holds_singleton mode v)
    · exact .inr (.inl ⟨vs.length, .values hlength⟩)
  · exact .inl herror

end Results

open Results (FirstError Holds Miscounts)

section Operand

variable {mismatch : Nat → Mismatch} {results : Results}

theorem operand_of_firstError {e : EvalError} (h : results.FirstError e) :
    operand mode mismatch results = .error e := by
  rw [operand, h.values_eq]

theorem operandItems_of_length_ne_one {vs : List Value} (h : vs.length ≠ 1) :
    operandItems mode vs = vs := by
  unfold operandItems
  split
  · exact absurd rfl h
  · rfl

theorem operand_of_length_ne_one {vs : List Value} (hvs : results.values = .ok vs)
    (h : (operandItems mode vs).length ≠ 1) :
    operand mode mismatch results =
      .error (.typeMismatch (mismatch (operandItems mode vs).length)) := by
  rw [operand, hvs]
  dsimp only
  split
  · next v hitems => exact absurd (congrArg List.length hitems) h
  · rfl

theorem operand_of_miscounts {n : Nat} (h : results.Miscounts mode n) :
    operand mode mismatch results = .error (.typeMismatch (mismatch n)) := by
  cases h with
  | @values _ vs hlength =>
      have hitems : operandItems mode vs = vs := operandItems_of_length_ne_one hlength
      rw [operand_of_length_ne_one (Results.values_eq_ok_iff.2 rfl) (by rwa [hitems]), hitems]
  | @elements items hlength =>
      have hvalues : Results.values [.ok (.array items)] = .ok [.array items] := rfl
      exact operand_of_length_ne_one hvalues hlength

theorem operand_of_holds {v : Value} (h : results.Holds mode v) :
    operand mode mismatch results = .ok v := by
  cases h with
  | strict => rfl
  | lax hv => exact operand_lax_of_not_array hv
  | element => rfl

end Operand

/-! ## Numbers -/

/-- The value is the integer zero, or one of the two zeros of binary64. -/
def Value.IsZero (v : Value) : Prop :=
  v = .integer 0 ∨ ∃ negative, v = .number (.finite negative .zero)

theorem Binary64.isZero_iff {x : Binary64} :
    x.isZero = true ↔ ∃ negative, x = .finite negative .zero := by
  constructor
  · intro h
    cases x with
    | finite negative m =>
        exact ⟨negative, congrArg _ (Magnitude.eq_zero_of_significand (beq_iff_eq.1 h))⟩
    | _ => cases h
  · rintro ⟨negative, rfl⟩
    rfl

theorem isZero_of_toBinary64? {v : Value} {x : Binary64} (h : v.toBinary64? = some x) :
    x.isZero = true ↔ v.IsZero := by
  cases v with
  | integer n =>
      simp only [Value.toBinary64?, Option.some.injEq] at h
      rw [← h, Binary64.ofInt_isZero_iff (natAbs_toInt_le n)]
      simp only [Value.IsZero, Value.integer.injEq, reduceCtorEq, exists_false, or_false]
      exact ⟨fun hzero => Int64.toInt_inj.1 hzero, fun hzero => by rw [hzero]; rfl⟩
  | number x' =>
      simp only [Value.toBinary64?, Option.some.injEq] at h
      rw [← h, Binary64.isZero_iff]
      simp only [Value.IsZero, Value.number.injEq, reduceCtorEq, false_or]
  | _ => cases h

theorem Decimal.toValue_kind (d : Decimal) : d.toValue.kind = .number := by
  unfold Decimal.toValue
  split <;> rfl

/-! ## Operations on numbers -/

theorem ArithmeticOp.divides_iff : op.divides = true ↔ op = .divide ∨ op = .modulo := by
  cases op <;> simp [divides]

/-- The result is a number. -/
def Numeric (r : Result) : Prop := ∃ v, v.kind = .number ∧ r = .ok v

theorem numeric_approximate {x y : Binary64} (h : ¬(op.divides && y.isZero) = true) :
    Numeric (approximate op x y) := by
  unfold approximate
  rw [if_neg h]
  dsimp only
  split
  · next d _ => exact ⟨_, d.toValue_kind, rfl⟩
  · exact ⟨_, rfl, rfl⟩

/-- No integer but zero is rounded to zero. -/
theorem numeric_approximate_integers {a b : Int64} (h : op.divides = true → b ≠ 0) :
    Numeric (approximate op (.ofInt a.toInt) (.ofInt b.toInt)) := by
  refine numeric_approximate fun hzero => ?_
  rw [Bool.and_eq_true, Binary64.ofInt_isZero_iff (natAbs_toInt_le b)] at hzero
  exact h hzero.1 (Int64.toInt_inj.1 hzero.2)

theorem numeric_integerOr {a b : Int64} (exact : Int) (h : op.divides = true → b ≠ 0) :
    Numeric (integerOr op a b exact) := by
  unfold integerOr
  split
  · exact ⟨_, rfl, rfl⟩
  · exact numeric_approximate_integers h

theorem numeric_integerArithmetic {a b : Int64} (h : op.divides = true → b ≠ 0)
    (hpair : ¬(op = .divide ∧ a = Int64.minValue ∧ b = -1)) :
    Numeric (integerArithmetic op a b) := by
  have hne (hdivides : op.divides = true) : b.toInt ≠ 0 := fun hzero =>
    h hdivides (Int64.toInt_inj.1 hzero)
  cases op with
  | add | subtract | multiply => exact numeric_integerOr _ h
  | divide =>
      simp only [integerArithmetic]
      rw [if_neg (hne rfl), if_neg fun hleast =>
        hpair ⟨rfl, hleast.1, Int64.toInt_inj.1 (hleast.2.trans (by decide))⟩]
      split
      · exact numeric_integerOr _ h
      · exact numeric_approximate_integers h
  | modulo =>
      simp only [integerArithmetic]
      rw [if_neg (hne rfl)]
      exact numeric_integerOr _ h

theorem integerArithmetic_zero {a : Int64} (h : op.divides = true) :
    integerArithmetic op a 0 = .error .divisionByZero := by
  cases op with
  | divide | modulo => rfl
  | _ => cases h

/-! ## Operations on items -/

section Items

variable {l r : Value}

theorem arithmetic_of_kinds (h : l.kind ≠ .number ∨ r.kind ≠ .number) :
    arithmetic op l r = .error (.unsupportedOperator op l.kind r.kind) := by
  unfold arithmetic
  split
  · simp [Value.kind] at h
  · split
    · next x y hx hy =>
        have hl := Value.kind_of_toBinary64? hx
        have hr := Value.kind_of_toBinary64? hy
        simp [hl, hr] at h
    · rfl

theorem Value.IsZero.kind_eq (h : r.IsZero) : r.kind = .number := by
  obtain rfl | ⟨negative, rfl⟩ := h <;> rfl

theorem arithmetic_of_isZero (hl : l.kind = .number) (hop : op.divides = true)
    (hr : r.IsZero) : arithmetic op l r = .error .divisionByZero := by
  obtain ⟨x, hx⟩ := Value.exists_toBinary64?_of_kind hl
  obtain ⟨y, hy⟩ := Value.exists_toBinary64?_of_kind hr.kind_eq
  unfold arithmetic
  split
  · next a b =>
      obtain hb | ⟨negative, hb⟩ := hr
      · rw [Value.integer.inj hb]
        exact integerArithmetic_zero hop
      · cases hb
  · have hzero := (isZero_of_toBinary64? hy).2 hr
    simp only [hx, hy, approximate, hop, hzero, Bool.and_self, if_true]

/-- Two numbers always have a result, unless the right one is a zero to divide by, or the
quotient is the one that overflows. -/
theorem numeric_arithmetic (hl : l.kind = .number) (hr : r.kind = .number)
    (hzero : op.divides = true → ¬r.IsZero)
    (hpair : ¬(op = .divide ∧ l = .integer Int64.minValue ∧ r = .integer (-1))) :
    Numeric (arithmetic op l r) := by
  obtain ⟨x, hx⟩ := Value.exists_toBinary64?_of_kind hl
  obtain ⟨y, hy⟩ := Value.exists_toBinary64?_of_kind hr
  unfold arithmetic
  split
  · next a b =>
      refine numeric_integerArithmetic (fun hdivides hb => ?_) fun hleast => ?_
      · exact hzero hdivides (.inl (congrArg _ hb))
      · exact hpair ⟨hleast.1, congrArg _ hleast.2.1, congrArg _ hleast.2.2⟩
  · simp only [hx, hy]
    refine numeric_approximate fun hboth => ?_
    rw [Bool.and_eq_true, isZero_of_toBinary64? hy] at hboth
    exact hzero hboth.1 hboth.2

end Items

/-! ## Both operands -/

/-- The errors of an operation on two operands.  What a case supposes of the operands leaves
out the cases before it. -/
inductive Raises (mode : Mode) (op : ArithmeticOp) (left right : Results) : EvalError → Prop where
  | left {e : EvalError} (h : left.FirstError e) : Raises mode op left right e
  | leftCount {n : Nat} (h : left.Miscounts mode n) :
      Raises mode op left right (.typeMismatch (.leftOperand op n))
  | right {l : Value} {e : EvalError} (hl : left.Holds mode l) (h : right.FirstError e) :
      Raises mode op left right e
  | rightCount {l : Value} {n : Nat} (hl : left.Holds mode l) (h : right.Miscounts mode n) :
      Raises mode op left right (.typeMismatch (.rightOperand op n))
  | kinds {l r : Value} (hl : left.Holds mode l) (hr : right.Holds mode r)
      (h : l.kind ≠ .number ∨ r.kind ≠ .number) :
      Raises mode op left right (.unsupportedOperator op l.kind r.kind)
  | zero {l r : Value} (hl : left.Holds mode l) (hr : right.Holds mode r)
      (hkind : l.kind = .number) (hop : op = .divide ∨ op = .modulo) (h : r.IsZero) :
      Raises mode op left right .divisionByZero
  | overflow (hop : op = .divide) (hl : left.Holds mode (.integer Int64.minValue))
      (hr : right.Holds mode (.integer (-1))) : Raises mode op left right .quotientOverflow

theorem binary_of_holds {left right : Results} {l r : Value} (hl : left.Holds mode l)
    (hr : right.Holds mode r) : binary mode op left right = arithmetic op l r := by
  rw [binary, operand_of_holds hl, operand_of_holds hr]

theorem Raises.binary_eq {left right : Results} {e : EvalError}
    (h : Raises mode op left right e) : binary mode op left right = .error e := by
  cases h with
  | left h => rw [binary, operand_of_firstError h]
  | leftCount h => rw [binary, operand_of_miscounts h]
  | right hl h => rw [binary, operand_of_holds hl, operand_of_firstError h]
  | rightCount hl h => rw [binary, operand_of_holds hl, operand_of_miscounts h]
  | kinds hl hr h => rw [binary_of_holds hl hr, arithmetic_of_kinds h]
  | zero hl hr hkind hop h =>
      rw [binary_of_holds hl hr, arithmetic_of_isZero hkind (ArithmeticOp.divides_iff.2 hop) h]
  | overflow hop hl hr =>
      rw [binary_of_holds hl hr]
      exact arithmetic_eq_overflow_iff.2 ⟨hop, rfl, rfl⟩

/-- Where no error is listed there is a number. -/
theorem raises_or_numeric (mode : Mode) (op : ArithmeticOp) (left right : Results) :
    (∃ e, Raises mode op left right e) ∨ Numeric (binary mode op left right) := by
  rcases left.firstError_or_miscounts_or_holds mode with ⟨e, h⟩ | ⟨n, h⟩ | ⟨l, hl⟩
  · exact .inl ⟨e, .left h⟩
  · exact .inl ⟨_, .leftCount h⟩
  rcases right.firstError_or_miscounts_or_holds mode with ⟨e, h⟩ | ⟨n, h⟩ | ⟨r, hr⟩
  · exact .inl ⟨e, .right hl h⟩
  · exact .inl ⟨_, .rightCount hl h⟩
  by_cases hkinds : l.kind = .number ∧ r.kind = .number
  · by_cases hzero : op.divides = true ∧ r.IsZero
    · exact .inl ⟨_, .zero hl hr hkinds.1 (ArithmeticOp.divides_iff.1 hzero.1) hzero.2⟩
    by_cases hpair : op = .divide ∧ l = .integer Int64.minValue ∧ r = .integer (-1)
    · obtain ⟨rfl, rfl, rfl⟩ := hpair
      exact .inl ⟨_, .overflow rfl hl hr⟩
    rw [binary_of_holds hl hr]
    exact .inr (numeric_arithmetic hkinds.1 hkinds.2 (fun hop hr => hzero ⟨hop, hr⟩) hpair)
  · exact .inl ⟨_, .kinds hl hr (not_and_or.1 hkinds)⟩

/-- Binary arithmetic is exactly the errors that are listed, and a number otherwise.  No error
of the right operand hides one of the left. -/
theorem binary_raises_in_order (mode : Mode) (op : ArithmeticOp) (left right : Results) :
    (∀ e, binary mode op left right = .error e ↔ Raises mode op left right e) ∧
    ((∀ e, ¬Raises mode op left right e) →
      ∃ v, v.kind = .number ∧ binary mode op left right = .ok v) ∧
    ∀ e, left.FirstError e → binary mode op left right = .error e := by
  have hcases := raises_or_numeric mode op left right
  refine ⟨fun e => ⟨fun he => ?_, Raises.binary_eq⟩, fun hnone => ?_,
    fun e he => (Raises.left he).binary_eq⟩
  · rcases hcases with ⟨e', h⟩ | ⟨v, -, hv⟩
    · cases he.symm.trans h.binary_eq
      exact h
    · cases he.symm.trans hv
  · exact hcases.resolve_left fun ⟨e, h⟩ => hnone e h

/-- The least positive number, which as a decimal is zero. -/
def Binary64.leastPositive : Binary64 := .finite false ((Magnitude.ofParts? 1 0).getD .zero)

/-- The left operand is miscounted before the error of the right one is looked at, and a
divisor that is zero only as a decimal is none to divide by. -/
theorem binary_raises_in_order_edges :
    binary .lax .add [.ok (.array [])] [.error (.keyNotFound "right")] =
        .error (.typeMismatch (.leftOperand .add 0)) ∧
      Decimal.ofBinary64? .leastPositive = some .zero ∧
      ∃ v, v.kind = .number ∧
        binary .strict .divide [.ok (.integer 1)] [.ok (.number .leastPositive)] = .ok v := by
  have hempty : Results.Miscounts [.ok (.array [])] .lax 0 := .elements (by decide)
  have hnone (e : EvalError) : ¬Raises .strict .divide [.ok (.integer 1)]
      [.ok (.number .leastPositive)] e := by
    intro h
    cases h with
    | left h => cases h.values_eq
    | leftCount h => cases @operand_of_miscounts _ (.leftOperand .divide) _ _ h
    | right _ h => cases h.values_eq
    | rightCount _ h => cases @operand_of_miscounts _ (.rightOperand .divide) _ _ h
    | kinds hl hr h =>
        cases hl
        cases hr
        simp [Value.kind] at h
    | zero _ hr _ _ h =>
        cases hr
        rcases h with h | ⟨_, h⟩
        · cases h
        · exact absurd (Binary64.isZero_iff.2 ⟨_, Value.number.inj h⟩) (by decide +kernel)
    | overflow _ _ hr => cases hr
  exact ⟨(binary_raises_in_order .lax .add _ _).1 _ |>.2 (.leftCount hempty), by decide +kernel,
    (binary_raises_in_order .strict .divide _ _).2.1 hnone⟩

end JsonPath
