import Mathlib
import JsonPath.Proofs.Number.Whole

/-!
# Division of whole decimals

A quotient of whole numbers up to `2 ^ 63` is developed to so many digits that
rounding cannot hide a fraction: if what is written down is whole, the division
was exact.

`Develops` is the invariant of the division under way.  `Near` is what holds of
the digits in the end: they are exact, or they are off by at most one in the last
place and that place is finer than one part of the divisor.
-/

namespace JsonPath

namespace Decimal

/-- What is written down is the whole quotient, or less than one part of the
divisor away from it. -/
def Near (dividend divisor coefficient scale : Nat) : Prop :=
  coefficient * divisor = dividend * 10 ^ scale ∨
    divisor < 10 ^ scale ∧ coefficient * divisor ≤ dividend * 10 ^ scale + divisor ∧
      dividend * 10 ^ scale ≤ coefficient * divisor + divisor

/-- A quotient near enough is exact if it is whole. -/
theorem Near.exact {dividend divisor coefficient scale : Nat}
    (h : Near dividend divisor coefficient scale) (hwhole : coefficient % 10 ^ scale = 0) :
    coefficient / 10 ^ scale * divisor = dividend := by
  have hpos : 0 < 10 ^ scale := Nat.pow_pos (by omega)
  obtain ⟨k, rfl⟩ : ∃ k, coefficient = k * 10 ^ scale :=
    ⟨coefficient / 10 ^ scale, (Nat.div_mul_cancel (Nat.dvd_of_mod_eq_zero hwhole)).symm⟩
  rw [Nat.mul_div_cancel k hpos]
  have hswap : k * 10 ^ scale * divisor = k * divisor * 10 ^ scale := Nat.mul_right_comm ..
  rw [Near, hswap] at h
  rcases h with heq | ⟨hlt, hle, hge⟩
  · exact Nat.eq_of_mul_eq_mul_right hpos heq
  · have hle' : k * divisor < dividend + 1 := by
      refine Nat.lt_of_mul_lt_mul_right (a := 10 ^ scale) ?_
      rw [Nat.succ_mul]
      omega
    have hge' : dividend < k * divisor + 1 := by
      refine Nat.lt_of_mul_lt_mul_right (a := 10 ^ scale) ?_
      rw [Nat.succ_mul]
      omega
    omega

/-- Rounding moves a quotient by less than one. -/
theorem roundHalfEven_near {numerator denominator : Nat} (h : 0 < denominator) :
    roundHalfEven numerator denominator * denominator ≤ numerator + denominator ∧
      numerator ≤ roundHalfEven numerator denominator * denominator + denominator := by
  have hdiv := Nat.div_add_mod' numerator denominator
  have hmod := Nat.mod_lt numerator h
  simp only [roundHalfEven]
  split
  · rw [Nat.succ_mul]
    omega
  · omega

namespace Quotient

/-- The digits so far and the remainder make up the dividend. -/
structure Develops (dividend divisor : Nat) (q : Quotient) : Prop where
  scale_nonneg : 0 ≤ q.scale
  value_eq : q.coefficient * divisor + q.remainder = dividend * 10 ^ q.scale.toNat
  remainder_lt : q.remainder < divisor

variable {dividend divisor coefficient scale : Nat} {q : Quotient} {digits : Nat × Nat}

theorem bringDown_develops (h : Develops dividend divisor q) (count : Nat) :
    Develops dividend divisor (q.bringDown divisor count) := by
  have hscale := h.scale_nonneg
  have hrest := Nat.div_add_mod' (q.remainder * 10 ^ count) divisor
  refine ⟨?_, ?_, Nat.mod_lt _ (Nat.zero_lt_of_lt h.remainder_lt)⟩
  · simp only [bringDown]
    omega
  · calc (q.coefficient * 10 ^ count + q.remainder * 10 ^ count / divisor) * divisor +
            q.remainder * 10 ^ count % divisor
          = (q.coefficient * divisor + q.remainder) * 10 ^ count := by
            rw [Nat.add_mul, Nat.add_assoc, hrest, Nat.add_mul, Nat.mul_right_comm]
      _ = dividend * 10 ^ (q.scale + count).toNat := by
            rw [h.value_eq, Nat.mul_assoc, ← Nat.pow_add]
            congr 2
            omega

/-- As many digits as 96 bits hold are finer than one part of the divisor, by more
than one digit. -/
theorem ten_mul_lt_of_limit_le (hdividend : dividend ≤ 2 ^ 63) (hdivisor : 0 < divisor)
    (hlimit : limit ≤ 10 * coefficient)
    (hle : coefficient * divisor ≤ dividend * 10 ^ scale) : 10 * divisor < 10 ^ scale := by
  refine Nat.lt_of_not_le fun hcoarse => ?_
  have hsmall : coefficient * divisor ≤ 2 ^ 63 * 10 * divisor :=
    calc coefficient * divisor ≤ dividend * 10 ^ scale := hle
      _ ≤ 2 ^ 63 * (10 * divisor) := Nat.mul_le_mul hdividend hcoarse
      _ = 2 ^ 63 * 10 * divisor := (Nat.mul_assoc ..).symm
  have := Nat.le_of_mul_le_mul_right hsmall hdivisor
  rw [limit] at hlimit
  omega

/-- Dropping a digit keeps the rest near. -/
theorem shorten_near {inexact : Bool} {places : Int}
    (hfine : 10 * divisor < 10 ^ places.toNat)
    (hle : coefficient * divisor ≤ dividend * 10 ^ places.toNat + divisor)
    (hge : dividend * 10 ^ places.toNat ≤ coefficient * divisor + divisor)
    (h : shorten inexact coefficient places = some digits) :
    Near dividend divisor digits.1 digits.2 := by
  simp only [shorten] at h
  split at h
  · cases h
  · next hplaces =>
      cases h
      obtain ⟨scale, hscale⟩ : ∃ scale, places.toNat = scale + 1 :=
        ⟨places.toNat - 1, by omega⟩
      rw [hscale, Nat.pow_succ, ← Nat.mul_assoc] at hle hge
      rw [hscale, Nat.pow_succ] at hfine
      have hdigit : ∀ kept, 10 * kept ≤ coefficient + 5 → coefficient ≤ 10 * kept + 5 →
          Near dividend divisor kept scale := by
        intro kept hup hdown
        have hup := Nat.mul_le_mul_right divisor hup
        have hdown := Nat.mul_le_mul_right divisor hdown
        rw [Nat.mul_assoc, Nat.add_mul] at hup
        rw [Nat.add_mul, Nat.mul_assoc] at hdown
        exact .inr ⟨by omega, by omega, by omega⟩
      simp only [hscale, Nat.add_sub_cancel]
      refine hdigit _ ?_ ?_ <;> split <;> omega

theorem stop_near (h : Develops dividend divisor q)
    (hfine : 10 * divisor < 10 ^ q.scale.toNat) (hstop : q.stop divisor = some digits) :
    Near dividend divisor digits.1 digits.2 := by
  have hdivisor : 0 < divisor := Nat.zero_lt_of_lt h.remainder_lt
  simp only [stop, h.value_eq] at hstop
  obtain ⟨hle, hge⟩ := @roundHalfEven_near (dividend * 10 ^ q.scale.toNat) divisor hdivisor
  split at hstop
  · cases hstop
    have hfiner : divisor < 10 ^ q.scale.toNat := by omega
    exact .inr ⟨hfiner, hle, hge⟩
  · exact shorten_near hfine hle hge hstop

/-- Where one digit would do, at least one is found. -/
theorem find?_digits_ne_zero {p : Nat → Bool} (h : p 1 = true) :
    ((List.range 10).reverse.find? p).getD 0 ≠ 0 := by
  rw [show (List.range 10).reverse = [9, 8, 7, 6, 5, 4, 3, 2] ++ [1, 0] from rfl,
    List.find?_append]
  cases hfind : [9, 8, 7, 6, 5, 4, 3, 2].find? p with
  | none => simp [h]
  | some count =>
      have hmem := List.mem_of_find?_eq_some hfind
      rw [Option.some_or, Option.getD_some]
      rintro rfl
      exact absurd hmem (by decide)

/-- No room is left only if the coefficient is full. -/
theorem limit_le_of_room_eq_zero (hscale : q.scale < maxScale) (h : q.room = 0) :
    limit ≤ 10 * q.coefficient := by
  refine Nat.le_of_not_lt fun hlt => find?_digits_ne_zero ?_ h
  simp only [decide_eq_true_eq, Nat.pow_eq]
  omega

/-- Digits are brought down until the quotient is written out or they are fine
enough. -/
theorem develop_near (hdividend : dividend ≤ 2 ^ 63) (hdivisor : divisor ≤ 2 ^ 63)
    (h : Develops dividend divisor q) (hdigits : q.develop divisor = some digits) :
    Near dividend divisor digits.1 digits.2 := by
  have hpos : 0 < divisor := Nat.zero_lt_of_lt h.remainder_lt
  fun_induction develop divisor q with
  | case1 q hscale =>
      -- the largest scale is finer than any divisor
      refine stop_near h ?_ hdigits
      have hpow : 10 ^ 28 ≤ 10 ^ q.scale.toNat :=
        Nat.pow_le_pow_right (by omega) (by rw [maxScale] at hscale; omega)
      omega
  | case2 q hscale hdone =>
      cases hdigits
      have hvalue := h.value_eq
      rw [hdone.1, Nat.add_zero] at hvalue
      exact .inl hvalue
  | case3 | case4 => cases hdigits
  | case5 q hscale hdone count _ _ hcount =>
      have hscale₀ := h.scale_nonneg
      have hvalue := h.value_eq
      have hroom : count = q.room := dif_neg fun hzero => hdone ⟨hzero, hscale₀⟩
      have hfull := limit_le_of_room_eq_zero (by omega) (hroom.symm.trans hcount)
      exact stop_near h (ten_mul_lt_of_limit_le hdividend hpos hfull (by omega)) hdigits
  | case6 q _ _ _ _ _ more _ next _ ih => exact ih (bringDown_develops h (more + 1)) hdigits
  | case7 q _ _ _ _ _ more _ next hfull =>
      have hnext : Develops dividend divisor next := bringDown_develops h (more + 1)
      have hvalue := hnext.value_eq
      have hremainder := hnext.remainder_lt
      have hlimit : limit ≤ 10 * next.coefficient := by omega
      exact shorten_near (ten_mul_lt_of_limit_le hdividend hpos hlimit (by omega)) (by omega)
        (by omega) hdigits

end Quotient

/-! ## Trailing zeros -/

/-- Zeros at the end of a fraction do not change the value. -/
theorem toInt?_dropZeros (places : Nat) (d : Decimal) : (d.dropZeros places).toInt? = d.toInt? := by
  rw [dropZeros]
  split
  · next h =>
      obtain ⟨k, hk⟩ : ∃ k, d.coefficient = k * 10 ^ places :=
        ⟨d.coefficient / 10 ^ places, (Nat.div_mul_cancel (Nat.dvd_of_mod_eq_zero h.2)).symm⟩
      obtain ⟨scale, hscale⟩ : ∃ scale, d.scale = scale + places :=
        ⟨d.scale - places, (Nat.sub_add_cancel h.1).symm⟩
      have hpos : 0 < 10 ^ places := Nat.pow_pos (by omega)
      have hmod : k * 10 ^ places % 10 ^ (scale + places) = k % 10 ^ scale * 10 ^ places := by
        rw [Nat.pow_add, Nat.mul_mod_mul_right]
      have hdiv : k * 10 ^ places / 10 ^ (scale + places) = k / 10 ^ scale := by
        rw [Nat.pow_add, Nat.mul_div_mul_right _ _ hpos]
      have hzero : k % 10 ^ scale * 10 ^ places = 0 ↔ k % 10 ^ scale = 0 := by
        rw [Nat.mul_eq_zero]
        omega
      simp only [toInt?, hk, hscale, Nat.pow_eq, Nat.mul_div_cancel k hpos, Nat.add_sub_cancel,
        hmod, hdiv, hzero]
  · rfl

theorem toInt?_dropEightZeros (d : Decimal) : d.dropEightZeros.toInt? = d.toInt? := by
  rw [dropEightZeros]
  split
  · exact toInt?_dropZeros 8 d
  · rfl

theorem toInt?_trim (d : Decimal) : d.trim.toInt? = d.toInt? := by
  simp only [trim, toInt?_dropZeros, toInt?_dropEightZeros]

/-! ## Quotients -/

variable {a b : Decimal} {m n r : Int}

/-- The sign of a quotient of whole decimals. -/
theorem signed_mul_eq (ha : a.IsWhole m) (hb : b.IsWhole n) {k : Nat}
    (h : k * n.natAbs = m.natAbs) :
    (if a.negative != b.negative then -(k : Int) else k) * n = m := by
  have hk : (k : Int) * b.coefficient = a.coefficient := by
    rw [ha.coefficient_eq, hb.coefficient_eq]
    exact_mod_cast h
  rw [← ha.signed_eq, ← hb.signed_eq]
  cases a.negative <;> cases b.negative <;> simp [hk]

/-- The digits of a division of whole decimals are near its quotient. -/
theorem develop_whole_near {dividend divisor : Nat} {digits : Nat × Nat}
    (hdividend : dividend ≤ 2 ^ 63) (hdivisor : divisor ≤ 2 ^ 63) (hpos : 0 < divisor)
    (h : (Quotient.mk (dividend / divisor) (dividend % divisor) 0).develop divisor = some digits) :
    Near dividend divisor digits.1 digits.2 := by
  refine Quotient.develop_near hdividend hdivisor ⟨Int.le_refl 0, ?_, Nat.mod_lt _ hpos⟩ h
  simp only [Int.toNat_zero, Nat.pow_zero, Nat.mul_one]
  exact Nat.div_add_mod' dividend divisor

/-- A quotient of whole decimals comes out whole only if the division is exact, and
then it is exact. -/
theorem div_toInt?_iff (ha : a.IsWhole m) (hb : b.IsWhole n) (hm : m.natAbs ≤ 2 ^ 63)
    (hn : n.natAbs ≤ 2 ^ 63) (hne : n ≠ 0) : (div a b).bind toInt? = some r ↔ r * n = m := by
  have hpos : 0 < n.natAbs := Int.natAbs_pos.2 hne
  have hdivisor : b.isZero = false := by
    rw [isZero, hb.coefficient_eq, beq_eq_false_iff_ne]
    omega
  rw [div, hdivisor, if_neg Bool.false_ne_true]
  by_cases hzero : a.isZero = true
  · rw [if_pos hzero]
    rw [isZero, ha.coefficient_eq, beq_iff_eq] at hzero
    have hm₀ : m = 0 := Int.natAbs_eq_zero.1 hzero
    rw [hm₀, Int.mul_eq_zero, or_iff_left hne, Option.bind_some]
    exact ⟨fun h => by cases h; rfl, fun h => by rw [h]; rfl⟩
  rw [if_neg hzero]
  simp only [ha.1, hb.1, ha.coefficient_eq, hb.coefficient_eq, Int.natCast_zero, Int.sub_zero]
  constructor
  · intro h
    split at h
    · cases h
    · next coefficient scale hdevelop =>
        have hnear := develop_whole_near hm hn hpos hdevelop
        have hvalue : toInt? ⟨a.negative != b.negative, coefficient, scale⟩ = some r := by
          rw [Option.bind_some] at h
          split at h
          · exact h
          · rwa [toInt?_trim] at h
        simp only [toInt?] at hvalue
        split at hvalue
        · next hwhole =>
            cases hvalue
            exact signed_mul_eq ha hb (hnear.exact hwhole)
        · cases hvalue
  · intro h
    have habs : r.natAbs * n.natAbs = m.natAbs := by rw [← Int.natAbs_mul, h]
    have hmod : m.natAbs % n.natAbs = 0 := by rw [← habs, Nat.mul_mod_left]
    have hdiv : m.natAbs / n.natAbs = r.natAbs := by rw [← habs, Nat.mul_div_cancel _ hpos]
    have hdevelop : (Quotient.mk r.natAbs 0 0).develop n.natAbs = some (r.natAbs, 0) := by
      rw [Quotient.develop, dif_neg (by show ¬(28 : Int) ≤ 0; decide),
        if_pos ⟨rfl, Int.le_refl 0⟩]
      rfl
    simp only [hmod, hdiv, hdevelop, if_true, Option.bind_some]
    rw [toInt?_of_scale_eq_zero rfl]
    exact congrArg some (Int.eq_of_mul_eq_mul_right hne ((signed_mul_eq ha hb habs).trans h.symm))

end Decimal

end JsonPath
