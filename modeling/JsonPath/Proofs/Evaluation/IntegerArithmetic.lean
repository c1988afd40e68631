import Mathlib
import JsonPath.Eval.Arithmetic
import JsonPath.Proofs.Number.Division

/-!
# Arithmetic on integers

When arithmetic on two integers yields an integer, and which.  A result that is
an integer of 64 bits is exact.  Where there is none — the result is too large, or
the quotient has a fraction — the operands are rounded to binary64 and computed
once more, and what comes back as an integer is the exact result for the rounded
operands, not for the operands themselves.
-/

namespace JsonPath

/-- The integer `r` is the result of an operation on the integers `a` and `b`; a
quotient is one only if nothing remains. -/
def ArithmeticOp.Exact (op : ArithmeticOp) (a b r : Int) : Prop :=
  match op with
  | add => r = a + b
  | subtract => r = a - b
  | multiply => r = a * b
  | divide => b ≠ 0 ∧ r * b = a
  | modulo => b ≠ 0 ∧ r = a.tmod b

open Binary64 (nearestInt)

/-- A decimal is the value of an integer if it is that integer. -/
theorem toValue_eq_integer_iff {d : Decimal} {r : Int64} :
    d.toValue = .integer r ↔ d.toInt? = some r.toInt := by
  rw [Decimal.toValue]
  cases h : d.toInt? with
  | none => simp
  | some n =>
      rw [Option.bind_some, Option.some.injEq]
      cases hfits : int64? n with
      | none =>
          simp only [reduceCtorEq, false_iff]
          rintro rfl
          rw [int64?_eq_some_iff.2 rfl] at hfits
          cases hfits
      | some k =>
          rw [← int64?_eq_some_iff.1 hfits, Value.integer.injEq]
          exact ⟨fun h => h ▸ rfl, fun h => Int64.toInt_inj.1 h⟩

/-- Two decimals have a decimal result, or their numbers have one in binary64. -/
theorem approximate_eq_elim {op : ArithmeticOp} {x y : Binary64} {a b : Decimal}
    (h : ¬(op.divides && y.isZero) = true) (ha : Decimal.ofBinary64? x = some a)
    (hb : Decimal.ofBinary64? y = some b) :
    approximate op x y =
      .ok ((op.onDecimals a b).elim (.number (op.onBinary64 x y)) Decimal.toValue) := by
  simp only [approximate, if_neg h, ha, hb, Option.bind_eq_bind, Option.bind_some]
  cases op.onDecimals a b <;> rfl

theorem elim_toValue_eq_integer_iff {decimal : Option Decimal} {x : Binary64} {r : Int64} :
    decimal.elim (.number x) Decimal.toValue = .integer r ↔
      decimal.bind Decimal.toInt? = some r.toInt := by
  cases decimal with
  | none => simp
  | some d => simp [toValue_eq_integer_iff]

/-- Rounded operands give an integer only if it is their exact result. -/
theorem approximate_eq_integer_iff (op : ArithmeticOp) {a b : Int} (ha : a.natAbs ≤ 2 ^ 63)
    (hb : b.natAbs ≤ 2 ^ 63) (r : Int64) :
    approximate op (.ofInt a) (.ofInt b) = .ok (.integer r) ↔
      op.Exact (nearestInt a) (nearestInt b) r.toInt := by
  obtain ⟨hx, hm⟩ := Binary64.ofInt_isWhole ha
  obtain ⟨hy, hn⟩ := Binary64.ofInt_isWhole hb
  generalize nearestInt a = m at *
  generalize nearestInt b = n at *
  have hr := natAbs_toInt_le r
  obtain ⟨dx, hdx, hdm⟩ := Decimal.ofBinary64?_isWhole hx (by rw [Decimal.limit]; omega)
  obtain ⟨dy, hdy, hdn⟩ := Decimal.ofBinary64?_isWhole hy (by rw [Decimal.limit]; omega)
  have hlimit : r.toInt.natAbs < Decimal.limit := by rw [Decimal.limit]; omega
  by_cases hzero : (op.divides && (Binary64.ofInt b).isZero) = true
  · rw [approximate, if_pos hzero]
    rw [Bool.and_eq_true, hy.isZero_iff] at hzero
    cases op <;> simp_all [ArithmeticOp.Exact, ArithmeticOp.divides]
  · rw [approximate_eq_elim hzero hdx hdy, Except.ok.injEq, elim_toValue_eq_integer_iff]
    have hne (hdivides : op.divides = true) : n ≠ 0 := fun hn₀ =>
      hzero (by rw [hdivides, hy.isZero_iff.2 hn₀]; rfl)
    cases op with
    | add => exact (Decimal.add_toInt?_iff hdm hdn hlimit).trans eq_comm
    | subtract => exact (Decimal.sub_toInt?_iff hdm hdn hlimit).trans eq_comm
    | multiply => exact (Decimal.mul_toInt?_iff hdm hdn hlimit).trans eq_comm
    | divide =>
        have hn₀ := hne rfl
        exact (Decimal.div_toInt?_iff hdm hdn hm hn hn₀).trans (and_iff_right hn₀).symm
    | modulo =>
        have hn₀ := hne rfl
        exact (Decimal.rem_toInt?_iff hdm hdn hn₀).trans
          (eq_comm.trans (and_iff_right hn₀).symm)

section

variable (op : ArithmeticOp) (a b r : Int64)

/-- The integers that arithmetic on `a` and `b` may yield: the exact result, and
where no integer of 64 bits is that, the exact result for the rounded operands. -/
def ArithmeticOp.Yields : Prop :=
  op.Exact a.toInt b.toInt r.toInt ∨
    (∀ r' : Int64, ¬op.Exact a.toInt b.toInt r'.toInt) ∧
      op.Exact (nearestInt a.toInt) (nearestInt b.toInt) r.toInt

/-- Where no integer of 64 bits is the exact result, the rounded operands decide. -/
theorem approximate_eq_integer_iff_yields
    (hnone : ∀ r' : Int64, ¬op.Exact a.toInt b.toInt r'.toInt) :
    approximate op (.ofInt a.toInt) (.ofInt b.toInt) = .ok (.integer r) ↔ op.Yields a b r := by
  rw [ArithmeticOp.Yields, or_iff_right (hnone r), and_iff_right hnone]
  exact approximate_eq_integer_iff op (natAbs_toInt_le a) (natAbs_toInt_le b) r

/-- An operation whose exact result is some integer, of 64 bits or not. -/
theorem integerOr_eq_integer_iff {exact : Int}
    (h : ∀ r, op.Exact a.toInt b.toInt r ↔ r = exact) :
    integerOr op a b exact = .ok (.integer r) ↔ op.Yields a b r := by
  rw [integerOr]
  cases hfits : int64? exact with
  | some n =>
      simp only [ArithmeticOp.Yields, h]
      rw [← int64?_eq_some_iff.1 hfits, Except.ok.injEq, Value.integer.injEq]
      constructor
      · rintro rfl
        exact .inl rfl
      · rintro (heq | ⟨hnone, -⟩)
        · exact (Int64.toInt_inj.1 heq).symm
        · exact absurd rfl (hnone n)
  | none =>
      refine approximate_eq_integer_iff_yields op a b r fun r' hexact => ?_
      rw [int64?_eq_some_iff.2 ((h _).1 hexact)] at hfits
      cases hfits

/-- A division that has no integer of 64 bits for its result, but no remainder
either, or no divisor. -/
theorem not_yields_divide (h : b.toInt = 0 ∨ a = Int64.minValue ∧ b.toInt = -1) :
    ¬ArithmeticOp.divide.Yields a b r := by
  have hlt := r.toInt_lt
  rintro (⟨hne, heq⟩ | ⟨-, hne, heq⟩)
  · rcases h with h | ⟨rfl, h⟩
    · exact hne h
    · rw [h, Int64.toInt_minValue] at heq
      omega
  · rcases h with h | ⟨rfl, h⟩
    · exact hne (by rw [h]; decide +kernel)
    · have hmin : nearestInt Int64.minValue.toInt = -2 ^ 63 := by decide +kernel
      have hone : nearestInt (-1) = -1 := by decide +kernel
      rw [h, hmin, hone] at heq
      omega

theorem exact_divide_iff {m n : Int} (hne : n ≠ 0) (hwhole : m.tmod n = 0) (r : Int) :
    ArithmeticOp.divide.Exact m n r ↔ r = m.tdiv n := by
  have hmul : m.tdiv n * n = m := Int.tdiv_mul_cancel (Int.dvd_of_tmod_eq_zero hwhole)
  constructor
  · rintro ⟨-, heq⟩
    exact Int.eq_of_mul_eq_mul_right hne (heq.trans hmul.symm)
  · rintro rfl
    exact ⟨hne, hmul⟩

theorem not_exact_divide {m n : Int} (hfraction : m.tmod n ≠ 0) (r : Int) :
    ¬ArithmeticOp.divide.Exact m n r := by
  rintro ⟨-, heq⟩
  exact hfraction (by rw [← heq, Int.mul_tmod_left])

/-- Arithmetic on two integers yields the integers of `Yields` and no others. -/
theorem integerArithmetic_eq_integer_iff :
    integerArithmetic op a b = .ok (.integer r) ↔ op.Yields a b r := by
  cases op with
  | add => exact integerOr_eq_integer_iff .add a b r fun _ => Iff.rfl
  | subtract => exact integerOr_eq_integer_iff .subtract a b r fun _ => Iff.rfl
  | multiply => exact integerOr_eq_integer_iff .multiply a b r fun _ => Iff.rfl
  | divide =>
      simp only [integerArithmetic]
      split
      · next hzero =>
          simp only [reduceCtorEq, false_iff]
          exact not_yields_divide a b r (.inl hzero)
      · next hne =>
          split
          · next hoverflow =>
              simp only [reduceCtorEq, false_iff]
              exact not_yields_divide a b r (.inr hoverflow)
          · split
            · next hwhole =>
                exact integerOr_eq_integer_iff .divide a b r (exact_divide_iff hne hwhole)
            · next hfraction =>
                exact approximate_eq_integer_iff_yields .divide a b r fun r' =>
                  not_exact_divide hfraction r'.toInt
  | modulo =>
      simp only [integerArithmetic]
      split
      · next hzero =>
          simp only [reduceCtorEq, false_iff]
          rintro (⟨hne, -⟩ | ⟨-, hne, -⟩)
          · exact hne hzero
          · exact hne (by rw [hzero]; decide +kernel)
      · next hne =>
          exact integerOr_eq_integer_iff .modulo a b r fun r' => and_iff_right hne

/-- Two operands that are one integer each are computed as integers, in both modes. -/
theorem binary_integers (mode : Mode) :
    binary mode op [.ok (.integer a)] [.ok (.integer b)] = integerArithmetic op a b := by
  cases mode <;> rfl

/-- Which integers binary arithmetic yields for two integers, and when what it yields
is the exact result: if any integer of 64 bits is. -/
theorem binary_integer_result_iff (mode : Mode) :
    (binary mode op [.ok (.integer a)] [.ok (.integer b)] = .ok (.integer r) ↔
      op.Yields a b r) ∧
    (binary mode op [.ok (.integer a)] [.ok (.integer b)] = .ok (.integer r) →
      (op.Exact a.toInt b.toInt r.toInt ↔ ∃ r' : Int64, op.Exact a.toInt b.toInt r'.toInt)) := by
  rw [binary_integers, integerArithmetic_eq_integer_iff]
  refine ⟨Iff.rfl, fun hyields => ⟨fun hexact => ⟨r, hexact⟩, fun ⟨r', hexact⟩ => ?_⟩⟩
  rcases hyields with h | ⟨hnone, -⟩
  · exact h
  · exact absurd hexact (hnone r')

end

/-- The dividend loses its last bit, and the quotient of what is left is whole. -/
theorem binary_inexact_quotient :
    ¬∀ (mode : Mode) (op : ArithmeticOp) (a b r : Int64),
      binary mode op [.ok (.integer a)] [.ok (.integer b)] = .ok (.integer r) →
        op.Exact a.toInt b.toInt r.toInt := by
  intro h
  have hodd : (9007199254740993 : Int64).toInt = 9007199254740993 := by decide
  have htwo : (2 : Int64).toInt = 2 := by decide
  have hquotient : (4503599627370496 : Int64).toInt = 4503599627370496 := by decide
  have hresult : ArithmeticOp.divide.Yields 9007199254740993 2 4503599627370496 := by
    refine .inr ⟨?_, ?_⟩
    · rintro r ⟨-, heq⟩
      rw [hodd, htwo] at heq
      omega
    · rw [hodd, htwo, hquotient, show nearestInt 9007199254740993 = 9007199254740992 by
        decide +kernel, show nearestInt 2 = 2 by decide +kernel]
      exact ⟨by decide, by decide⟩
  obtain ⟨-, heq⟩ := h .lax .divide 9007199254740993 2 4503599627370496 (by
    rw [binary_integers]
    exact (integerArithmetic_eq_integer_iff ..).2 hresult)
  rw [hodd, htwo, hquotient] at heq
  exact absurd heq (by decide)

end JsonPath
