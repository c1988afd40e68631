import Mathlib
import JsonPath.Number.Decimal
import JsonPath.Number.Integer

/-!
# Whole numbers in binary64 and in decimals

What becomes of an integer on its way through binary64 to a decimal.  The nearest
binary64 number of an integer of 64 bits is whole again, and no further from zero
than `2 ^ 63`; the decimal for a whole number below `2 ^ 96` is that number
without a fraction.

`Binary64.IsWhole` and `Decimal.IsWhole` say which integer a number is.  The
integer that `Binary64.ofInt n` is, and that arithmetic goes on with in place of
`n`, is `Binary64.nearestInt n`.
-/

namespace JsonPath

/-! ## Rounding -/

theorem roundHalfEven_le {numerator denominator bound : Nat}
    (h : numerator ≤ bound * denominator) : roundHalfEven numerator denominator ≤ bound := by
  rcases Nat.eq_zero_or_pos denominator with rfl | hd
  · rw [Nat.le_zero.1 h]
    exact Nat.zero_le bound
  have hdiv := Nat.div_add_mod numerator denominator
  have hle : numerator / denominator ≤ bound := by
    rw [Nat.div_le_iff_le_mul_add_pred hd, Nat.mul_comm]
    omega
  simp only [roundHalfEven]
  split
  · next hup =>
      -- rounding up leaves something of the numerator, so that the floor is below the bound
      rcases Nat.lt_or_ge (numerator / denominator) bound with hlt | hge
      · exact hlt
      · have hmul := Nat.mul_le_mul_left denominator hge
        rw [Nat.mul_comm denominator bound] at hmul
        omega
  · exact hle

theorem le_roundHalfEven {numerator denominator bound : Nat} (hd : 0 < denominator)
    (h : bound * denominator ≤ numerator) : bound ≤ roundHalfEven numerator denominator := by
  have hle : bound ≤ numerator / denominator := (Nat.le_div_iff_mul_le hd).2 h
  simp only [roundHalfEven]
  split <;> omega

/-- A factor that both sides have in common does not matter. -/
theorem roundHalfEven_mul_right (numerator denominator : Nat) {factor : Nat} (h : 0 < factor) :
    roundHalfEven (numerator * factor) (denominator * factor) =
      roundHalfEven numerator denominator := by
  have hmod := Nat.mul_mod_mul_right factor numerator denominator
  have hlt (k l : Nat) : k * factor < l * factor ↔ k < l := Nat.mul_lt_mul_right h
  have heq (k l : Nat) : k * factor = l * factor ↔ k = l := Nat.mul_left_inj (Nat.ne_of_gt h)
  simp only [roundHalfEven, Nat.mul_div_mul_right _ _ h, hmod, ← Nat.mul_assoc, hlt, heq]

/-- The exponent stays a variable, since the power of a literal one would be
computed. -/
theorem Binary64.unitsPerOne_eq : ∃ shift, shift = 1074 ∧ unitsPerOne = 2 ^ shift :=
  ⟨1074, rfl, rfl⟩

theorem Binary64.unitsPerOne_pos : 0 < unitsPerOne := by
  obtain ⟨shift, -, hone⟩ := unitsPerOne_eq
  rw [hone]
  exact Nat.two_pow_pos shift

namespace Magnitude

theorem units_eq (m : Magnitude) : m.units = m.significand * 2 ^ m.exponent := rfl

theorem two_pow_exponentFor_le {units : Nat} (h : exponentFor units ≠ 0) :
    2 ^ 52 * 2 ^ exponentFor units ≤ units := by
  have hne : units ≠ 0 := by
    rintro rfl
    exact h rfl
  have hlog := Nat.log2_self_le hne
  rw [exponentFor] at h ⊢
  rw [← Nat.pow_add]
  rwa [show 52 + (units.log2 + 1 - 53) = units.log2 by omega]

theorem exponentFor_le {units bits : Nat} (h : units < 2 ^ bits) :
    exponentFor units ≤ bits - 53 := by
  rw [exponentFor]
  rcases Nat.eq_zero_or_pos units with rfl | hpos
  · exact Nat.zero_le _
  · have hlog := (Nat.log2_lt (Nat.ne_of_gt hpos)).2 h
    omega

theorem lt_two_pow_exponentFor (units : Nat) : units < 2 ^ 53 * 2 ^ exponentFor units := by
  rw [exponentFor, ← Nat.pow_add]
  exact Nat.lt_of_lt_of_le Nat.lt_log2_self (Nat.pow_le_pow_right (by omega) (by omega))

/-- With the least exponent that fits, a significand has no more than 53 bits, or is
the power of two behind them. -/
theorem roundHalfEven_exponentFor_le (numerator : Nat) {denominator : Nat}
    (hd : 0 < denominator) :
    roundHalfEven numerator (denominator * 2 ^ exponentFor (numerator / denominator)) ≤
      2 ^ 53 := by
  have hlt := lt_two_pow_exponentFor (numerator / denominator)
  rw [Nat.div_lt_iff_lt_mul hd] at hlt
  refine roundHalfEven_le (Nat.le_of_lt (Nat.lt_of_lt_of_eq hlt ?_))
  ac_rfl

/-- Unless the exponent is zero, the significand has all of its 53 bits. -/
theorem le_roundHalfEven_exponentFor (numerator : Nat) {denominator : Nat}
    (hd : 0 < denominator) (h : exponentFor (numerator / denominator) ≠ 0) :
    2 ^ 52 ≤
      roundHalfEven numerator (denominator * 2 ^ exponentFor (numerator / denominator)) := by
  have hge := two_pow_exponentFor_le h
  rw [Nat.le_div_iff_mul_le hd] at hge
  refine le_roundHalfEven (Nat.mul_pos hd (Nat.two_pow_pos _))
    (Nat.le_trans (Nat.le_of_eq ?_) hge)
  ac_rfl

/-- Rounding succeeds below the greatest exponent, and counts the units that are
left when the significand has been cut to 53 bits. -/
theorem nearest?_units {numerator denominator : Nat} (hd : 0 < denominator)
    (he : exponentFor (numerator / denominator) ≤ 2044) :
    ∃ m, nearest? numerator denominator = some m ∧
      m.units = roundHalfEven numerator (denominator * 2 ^ exponentFor (numerator / denominator)) *
        2 ^ exponentFor (numerator / denominator) := by
  have hle := roundHalfEven_exponentFor_le numerator hd
  have hnormal := le_roundHalfEven_exponentFor numerator hd
  rw [ne_eq, ← or_iff_not_imp_left] at hnormal
  generalize hexp : exponentFor (numerator / denominator) = exponent at he hle hnormal ⊢
  generalize hsig : roundHalfEven numerator (denominator * 2 ^ exponent) = significand
    at hle hnormal ⊢
  simp only [nearest?, hexp, hsig, Nat.pow_eq]
  split
  · next h =>
      refine ⟨⟨2 ^ 52, exponent + 1, by decide, by omega, .inr (Nat.le_refl _)⟩, ?_, ?_⟩
      · exact dif_pos ⟨by decide, by omega, .inr (Nat.le_refl _)⟩
      · simp only [units_eq, h, Nat.pow_succ]
        omega
  · next h =>
      have hlt : significand < 2 ^ 53 := by omega
      refine ⟨⟨significand, exponent, hlt, by omega, hnormal⟩, ?_, rfl⟩
      rw [ofParts?, dif_pos ⟨hlt, by omega, hnormal⟩]

end Magnitude

theorem natAbs_toInt_le (a : Int64) : a.toInt.natAbs ≤ 2 ^ 63 := by
  have hle := a.le_toInt
  have hlt := a.toInt_lt
  omega

/-- The exponent of an integer of 64 bits is far from the greatest. -/
theorem Magnitude.exponentFor_int64_le {k : Nat} (h : k ≤ 2 ^ 63) :
    exponentFor (k * Binary64.unitsPerOne / 1) ≤ 1085 := by
  obtain ⟨shift, hshift, hone⟩ := Binary64.unitsPerOne_eq
  have hlt : k * Binary64.unitsPerOne < 2 ^ (64 + shift) := by
    rw [hone, Nat.pow_add]
    exact Nat.mul_lt_mul_of_pos_right (by omega) (Nat.two_pow_pos _)
  have hbits := exponentFor_le hlt
  rw [Nat.div_one]
  omega

/-- An integer of 64 bits keeps its units, or loses the last of them to a power of
two; either way the units make a whole number again. -/
theorem Magnitude.nearest?_whole {k : Nat} (h : k ≤ 2 ^ 63) :
    ∃ m v, Magnitude.nearest? (k * Binary64.unitsPerOne) 1 = some m ∧
      m.units = v * Binary64.unitsPerOne ∧ v ≤ 2 ^ 63 := by
  have hle := exponentFor_int64_le h
  obtain ⟨m, hm, hunits⟩ := nearest?_units Nat.one_pos (Nat.le_trans hle (by decide))
  generalize exponentFor (k * Binary64.unitsPerOne / 1) = exponent at hle hunits
  obtain ⟨shift, hshift, hone⟩ := Binary64.unitsPerOne_eq
  rw [Nat.one_mul] at hunits
  refine ⟨m, ?_⟩
  rcases Nat.le_total exponent shift with hsmall | hlarge
  · refine ⟨k, hm, ?_, h⟩
    have hsplit : Binary64.unitsPerOne = 2 ^ (shift - exponent) * 2 ^ exponent := by
      rw [← Nat.pow_add, Nat.sub_add_cancel hsmall, hone]
    rw [hunits, hsplit, ← Nat.mul_assoc, roundHalfEven_mul _ _ (Nat.two_pow_pos _)]
  · obtain ⟨t, rfl⟩ : ∃ t, exponent = t + shift := ⟨exponent - shift, by omega⟩
    have hsplit : 2 ^ (t + shift) = 2 ^ t * Binary64.unitsPerOne := by
      rw [Nat.pow_add, hone]
    refine ⟨roundHalfEven k (2 ^ t) * 2 ^ t, hm, ?_, ?_⟩
    · rw [hunits, hsplit, roundHalfEven_mul_right _ _ Binary64.unitsPerOne_pos, Nat.mul_assoc]
    · have hpow : 2 ^ (63 - t) * 2 ^ t = 2 ^ 63 := by
        rw [← Nat.pow_add, Nat.sub_add_cancel (by omega)]
      have hround : roundHalfEven k (2 ^ t) ≤ 2 ^ (63 - t) :=
        roundHalfEven_le (by rw [hpow]; exact h)
      calc roundHalfEven k (2 ^ t) * 2 ^ t ≤ 2 ^ (63 - t) * 2 ^ t := Nat.mul_le_mul_right _ hround
        _ = 2 ^ 63 := hpow

/-! ## Whole numbers -/

namespace Binary64

/-- The number is finite and equal to an integer. -/
def IsWhole (x : Binary64) (n : Int) : Prop :=
  ∃ negative m, x = finite negative m ∧ signedUnits negative m = n * unitsPerOne

/-- The integer that the binary64 number nearest to `n` is. -/
def nearestInt (n : Int) : Int := ((ofInt n).trunc?).getD 0

theorem IsWhole.trunc?_eq {x : Binary64} {n : Int} (h : x.IsWhole n) : x.trunc? = some n := by
  obtain ⟨negative, m, rfl, hm⟩ := h
  have hpos : (unitsPerOne : Int) ≠ 0 := Int.natCast_ne_zero.2 (Nat.ne_of_gt unitsPerOne_pos)
  simp only [trunc?, hm, Int.mul_tdiv_cancel n hpos]

theorem IsWhole.units_eq {negative : Bool} {m : Magnitude} {n : Int}
    (h : signedUnits negative m = n * unitsPerOne) : m.units = n.natAbs * unitsPerOne := by
  have habs := congrArg Int.natAbs h
  rw [Int.natAbs_mul, Int.natAbs_natCast] at habs
  rw [← habs, signedUnits]
  split <;> simp

theorem IsWhole.isZero_iff {x : Binary64} {n : Int} (h : x.IsWhole n) :
    x.isZero = true ↔ n = 0 := by
  obtain ⟨negative, m, rfl, hm⟩ := h
  have hunits := IsWhole.units_eq hm
  have hpow : 0 < 2 ^ m.exponent := Nat.two_pow_pos _
  have hone := unitsPerOne_pos
  rw [Magnitude.units_eq] at hunits
  simp only [isZero, beq_iff_eq]
  constructor
  · intro hz
    rw [hz, Nat.zero_mul] at hunits
    rcases Nat.mul_eq_zero.1 hunits.symm with h | h <;> omega
  · rintro rfl
    rw [Int.natAbs_zero, Nat.zero_mul] at hunits
    rcases Nat.mul_eq_zero.1 hunits with h | h <;> omega

/-- The nearest number of an integer of 64 bits is whole and of that size. -/
theorem ofInt_isWhole {n : Int} (h : n.natAbs ≤ 2 ^ 63) :
    (ofInt n).IsWhole (nearestInt n) ∧ (nearestInt n).natAbs ≤ 2 ^ 63 := by
  obtain ⟨m, v, hm, hunits, hv⟩ := Magnitude.nearest?_whole h
  have hwhole : (ofInt n).IsWhole (if n < 0 then -(v : Int) else v) := by
    refine ⟨decide (n < 0), m, by rw [ofInt, round, hm], ?_⟩
    simp only [signedUnits, hunits, decide_eq_true_eq, Int.natCast_mul]
    split
    · rw [Int.neg_mul]
    · rfl
  have hnearest : nearestInt n = if n < 0 then -(v : Int) else v := by
    rw [nearestInt, hwhole.trunc?_eq]
    rfl
  rw [hnearest]
  refine ⟨hwhole, ?_⟩
  split <;> omega

end Binary64

namespace Decimal

/-- The decimal has no fraction to write and is equal to an integer. -/
def IsWhole (d : Decimal) (n : Int) : Prop := d.scale = 0 ∧ d.signedAt 0 = n

theorem IsWhole.signed_eq {d : Decimal} {n : Int} (h : d.IsWhole n) :
    (if d.negative then -(d.coefficient : Int) else d.coefficient) = n := by
  have hn := h.2
  rwa [signedAt, Nat.zero_sub, Nat.pow_eq, Nat.pow_zero, Nat.mul_one] at hn

theorem IsWhole.coefficient_eq {d : Decimal} {n : Int} (h : d.IsWhole n) :
    d.coefficient = n.natAbs := by
  have hn := h.signed_eq
  split at hn <;> omega

theorem toInt?_of_scale_eq_zero {d : Decimal} (h : d.scale = 0) :
    d.toInt? = some (if d.negative then -(d.coefficient : Int) else d.coefficient) := by
  simp only [toInt?, h, Nat.pow_eq, Nat.pow_zero, Nat.mod_one, Nat.div_one, if_true]

namespace Approximation

/-- Halvings that leave no remainder only remove factors of two. -/
theorem removeHalvings_two_pow (count k : Nat) :
    removeHalvings count { coefficient := k * 2 ^ count, exponent := 0 } =
      { coefficient := k, exponent := 0 } := by
  induction count with
  | zero => rw [Nat.pow_zero, Nat.mul_one, removeHalvings]
  | succ count ih =>
      have heven : k * 2 ^ (count + 1) % 2 ≠ 1 := by
        rw [Nat.pow_succ, ← Nat.mul_assoc]
        omega
      have hhalf : k * 2 ^ (count + 1) / 2 = k * 2 ^ count := by
        rw [Nat.pow_succ, ← Nat.mul_assoc]
        omega
      rw [removeHalvings, if_neg (fun h => heven h.1), hhalf]
      exact ih

theorem limitScale_of_exponent_zero (fuel k : Nat) :
    limitScale fuel { coefficient := k, exponent := 0 } = { coefficient := k, exponent := 0 } := by
  cases fuel <;> rfl

theorem limitPrecision_of_exponent_zero (fuel k : Nat) :
    limitPrecision fuel { coefficient := k, exponent := 0 } =
      { coefficient := k, exponent := 0 } := by
  cases fuel with
  | zero => rfl
  | succ fuel => exact if_neg (fun h => absurd h.1 (Int.lt_irrefl 0))

theorem trimFraction_of_exponent_zero (fuel k : Nat) :
    trimFraction fuel { coefficient := k, exponent := 0 } =
      { coefficient := k, exponent := 0 } := by
  cases fuel with
  | zero => rfl
  | succ fuel => exact if_neg (fun h => absurd h.1 (Int.lt_irrefl 0))

end Approximation

/-- A whole number that fits 96 bits is converted exactly. -/
theorem ofBinary64?_isWhole {x : Binary64} {n : Int} (h : x.IsWhole n) (hn : n.natAbs < limit) :
    ∃ d, ofBinary64? x = some d ∧ d.IsWhole n := by
  obtain ⟨negative, m, rfl, hm⟩ := h
  have hunits := Binary64.IsWhole.units_eq hm
  have hone := Binary64.unitsPerOne_pos
  refine ⟨{ negative, coefficient := n.natAbs, scale := 0 }, ?_, rfl, ?_⟩
  · have hfits : ¬limit * Binary64.unitsPerOne ≤ m.units := by
      rw [hunits, Nat.not_le]
      exact Nat.mul_lt_mul_of_pos_right hn hone
    rw [ofBinary64?, if_neg hfits]
    by_cases hzero : m.significand = 0
    · rw [if_pos hzero]
      rw [Magnitude.units_eq, hzero, Nat.zero_mul] at hunits
      rcases Nat.mul_eq_zero.1 hunits.symm with h | h
      · rw [h]
      · omega
    rw [if_neg hzero]
    rw [Magnitude.units_eq] at hunits
    obtain ⟨shift, hshift, hpow⟩ := Binary64.unitsPerOne_eq
    rw [← hshift]
    by_cases hexp : shift ≤ m.exponent
    · have hsplit : 2 ^ m.exponent = 2 ^ (m.exponent - shift) * Binary64.unitsPerOne := by
        rw [hpow, ← Nat.pow_add, Nat.sub_add_cancel hexp]
      rw [hsplit, ← Nat.mul_assoc] at hunits
      rw [if_pos hexp, Nat.pow_eq, Nat.eq_of_mul_eq_mul_right hone hunits]
    · rw [if_neg hexp]
      have hsplit : Binary64.unitsPerOne = 2 ^ (shift - m.exponent) * 2 ^ m.exponent := by
        rw [hpow, ← Nat.pow_add, Nat.sub_add_cancel (by omega)]
      rw [hsplit, ← Nat.mul_assoc] at hunits
      have hsig := Nat.eq_of_mul_eq_mul_right (Nat.two_pow_pos _) hunits
      simp only [hsig, Approximation.removeHalvings_two_pow,
        Approximation.limitScale_of_exponent_zero, Approximation.limitPrecision_of_exponent_zero,
        Approximation.trimFraction_of_exponent_zero, Int.natAbs_zero]
  · have hpos : (Binary64.unitsPerOne : Int) ≠ 0 := Int.natCast_ne_zero.2 (Nat.ne_of_gt hone)
    refine Int.eq_of_mul_eq_mul_right hpos ?_
    rw [← hm, Binary64.signedUnits, hunits, signedAt, Nat.zero_sub, Nat.pow_eq, Nat.pow_zero,
      Nat.mul_one]
    split
    · rw [Int.neg_mul, Int.natCast_mul]
    · rw [Int.natCast_mul]

/-! ## Arithmetic on whole decimals -/

theorem excessDigits_eq_zero_iff {coefficient : Nat} :
    excessDigits coefficient = 0 ↔ coefficient < limit := by
  constructor
  · intro h
    simp only [excessDigits, Nat.pow_eq] at h
    cases hfind : (List.range 60).find? fun count => coefficient / 10 ^ count < limit with
    | none => simp [hfind] at h
    | some count =>
        have hcount := List.find?_some hfind
        rw [hfind, Option.getD_some] at h
        simpa [h] using hcount
  · intro h
    rw [excessDigits, show List.range 60 = 0 :: (List.range 59).map Nat.succ from rfl]
    simp [h]

/-- What has no fraction fits as it is or not at all. -/
theorem fit_whole (negative : Bool) (coefficient : Nat) :
    fit negative coefficient 0 =
      if coefficient < limit then some { negative, coefficient, scale := 0 } else none := by
  by_cases h : coefficient < limit
  · have hone := roundHalfEven_mul coefficient 1 Nat.one_pos
    rw [Nat.mul_one] at hone
    simp only [fit, excessDigits_eq_zero_iff.2 h, Nat.zero_sub, Nat.max_self, Nat.lt_irrefl,
      if_false, Nat.pow_eq, Nat.pow_zero, hone, if_pos h]
  · have hne : excessDigits coefficient ≠ 0 := fun hzero => h (excessDigits_eq_zero_iff.1 hzero)
    simp only [fit, Nat.zero_sub, Nat.max_zero, if_neg h]
    exact if_pos (Nat.pos_of_ne_zero hne)

/-- Where integers below the limit are concerned, `fit` changes nothing. -/
theorem fit_toInt?_iff {negative : Bool} {coefficient : Nat} {r : Int} (hr : r.natAbs < limit) :
    (fit negative coefficient 0).bind toInt? = some r ↔
      (if negative then -(coefficient : Int) else coefficient) = r := by
  rw [fit_whole]
  split
  · simp [toInt?_of_scale_eq_zero]
  · next h =>
      simp only [Option.bind_none, reduceCtorEq, false_iff]
      intro heq
      split at heq <;> omega

variable {a b : Decimal} {m n r : Int}

theorem IsWhole.neg (h : a.IsWhole m) : a.neg.IsWhole (-m) := by
  refine ⟨h.1, ?_⟩
  rw [← h.2, signedAt, signedAt, Decimal.neg]
  cases a.negative <;> simp

theorem add_toInt?_iff (ha : a.IsWhole m) (hb : b.IsWhole n) (hr : r.natAbs < limit) :
    (add a b).bind toInt? = some r ↔ m + n = r := by
  rw [add, ha.1, hb.1, Nat.max_self, ha.2, hb.2, fit_toInt?_iff hr]
  simp only [decide_eq_true_eq]
  split <;> omega

theorem sub_toInt?_iff (ha : a.IsWhole m) (hb : b.IsWhole n) (hr : r.natAbs < limit) :
    (sub a b).bind toInt? = some r ↔ m - n = r := by
  rw [sub, add_toInt?_iff ha hb.neg hr, Int.sub_eq_add_neg]

theorem mul_toInt?_iff (ha : a.IsWhole m) (hb : b.IsWhole n) (hr : r.natAbs < limit) :
    (mul a b).bind toInt? = some r ↔ m * n = r := by
  have hm := ha.signed_eq
  have hn := hb.signed_eq
  rw [mul]
  split
  · next hzero =>
      have hmn : m * n = 0 := by
        simp only [isZero, Bool.or_eq_true, beq_iff_eq] at hzero
        rcases hzero with h | h
        · rw [Int.mul_eq_zero]
          split at hm <;> omega
        · rw [Int.mul_eq_zero]
          split at hn <;> omega
      rw [hmn, Option.bind_some]
      exact ⟨fun h => by cases h; rfl, fun h => by rw [← h]; rfl⟩
  · rw [ha.1, hb.1, Nat.add_zero, fit_toInt?_iff hr, ← hm, ← hn]
    cases a.negative <;> cases b.negative <;> simp

theorem rem_toInt?_iff (ha : a.IsWhole m) (hb : b.IsWhole n) (hne : n ≠ 0) :
    (rem a b).bind toInt? = some r ↔ m.tmod n = r := by
  have hdivisor : b.isZero = false := by
    rw [isZero, hb.coefficient_eq, beq_eq_false_iff_ne]
    omega
  have hrem : m.tmod n =
      if a.negative then -((a.coefficient % b.coefficient : Nat) : Int)
      else (a.coefficient % b.coefficient : Nat) := by
    rw [← ha.signed_eq, ← hb.signed_eq]
    cases a.negative <;> cases b.negative <;>
      simp only [Int.neg_tmod, Int.tmod_neg, Int.ofNat_tmod, if_true, Bool.false_eq_true, if_false]
  rw [rem, hdivisor, if_neg Bool.false_ne_true, hrem]
  simp only [ha.1, hb.1, Nat.max_self, Nat.sub_self, Nat.pow_eq, Nat.pow_zero, Nat.mul_one]
  split
  · next hlt => simp [toInt?_of_scale_eq_zero ha.1, Nat.mod_eq_of_lt hlt]
  · simp [toInt?_of_scale_eq_zero]

end Decimal

end JsonPath
