/-!
# Rounding a quotient

The quotient of two natural numbers, rounded to a whole number.  Both
functions return the floor or the floor plus one; they differ only on an exact
half.  A zero divisor gives zero, as division does.
-/

namespace JsonPath

/-- The quotient rounded to the nearest whole number, a half to the even
neighbour. -/
def roundHalfEven (numerator denominator : Nat) : Nat :=
  let quotient := numerator / denominator
  let twice := 2 * (numerator % denominator)
  if denominator < twice ∨ (denominator = twice ∧ quotient % 2 = 1) then
    quotient + 1
  else
    quotient

/-- The quotient rounded to the nearest whole number, a half upwards. -/
def roundHalfUp (numerator denominator : Nat) : Nat :=
  let quotient := numerator / denominator
  if denominator ≤ 2 * (numerator % denominator) then quotient + 1 else quotient

/-- A quotient that is whole already is not moved. -/
theorem roundHalfEven_mul (quotient denominator : Nat) (h : 0 < denominator) :
    roundHalfEven (quotient * denominator) denominator = quotient := by
  simp only [roundHalfEven, Nat.mul_mod_left, Nat.mul_div_cancel quotient h]
  rw [if_neg (by omega)]

end JsonPath
