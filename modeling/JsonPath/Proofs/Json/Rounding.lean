import JsonPath.Json.Number
import JsonPath.Proofs.Number.Shortest

/-!
# Reading that rounds once

Reading a number rounds its digits and then the scaled number.  Where digits and power of
ten both fit the 53 bits of a significand, the first rounding changes nothing, and the
second is that of the whole decimal: `roundTwice_eq_toBinary64`.

Digits that fit 64 bits are all taken in (`decimalOf_eq_ofDigits`), so that the decimal is
the one that is written.
-/

namespace JsonPath

/-- A number of units whose bits fit a significand is a magnitude. -/
theorem Magnitude.nearest?_short {k j : Nat} (hk : k < 2 ^ 53) (hj : j ≤ 2000) :
    ∃ m, nearest? (k * 2 ^ j) 1 = some m ∧ m.units = k * 2 ^ j := by
  have hlt : k * 2 ^ j / 1 < 2 ^ (53 + j) := by
    rw [Nat.div_one, Nat.pow_add]
    exact Nat.mul_lt_mul_of_pos_right hk (Nat.two_pow_pos j)
  have hexponent := exponentFor_le hlt
  obtain ⟨m, hm, hunits⟩ := @nearest?_units (k * 2 ^ j) 1 Nat.one_pos (by omega)
  generalize exponentFor (k * 2 ^ j / 1) = exponent at hexponent hunits
  refine ⟨m, hm, ?_⟩
  -- the bits that are cut off are all zero
  have hsplit : k * 2 ^ j = k * 2 ^ (j - exponent) * 2 ^ exponent := by
    rw [Nat.mul_assoc, ← Nat.pow_add, Nat.sub_add_cancel (by omega)]
  rw [hunits, Nat.one_mul, hsplit, roundHalfEven_mul _ _ (Nat.two_pow_pos exponent)]

namespace Binary64

theorem neg_round_false (numerator denominator : Nat) :
    (round false numerator denominator).neg = round true numerator denominator := by
  rw [round, round]
  cases Magnitude.nearest? numerator denominator <;> rfl

theorem mul_finite (a b : Bool) (m n : Magnitude) :
    mul (finite a m) (finite b n) = round (a != b) (m.units * n.units) unitsPerOne := rfl

theorem div_finite {a b : Bool} {m n : Magnitude} (hn : 0 < n.units) :
    div (finite a m) (finite b n) = round (a != b) (m.units * unitsPerOne) n.units := by
  have hne : n.significand ≠ 0 := by
    intro hzero
    rw [Magnitude.units_eq, hzero, Nat.zero_mul] at hn
    exact Nat.lt_irrefl 0 hn
  exact if_neg hne

/-- An integer below `2 ^ 53` is not rounded. -/
theorem ofInt_short {k : Nat} (hk : k < 2 ^ 53) :
    ∃ m, ofInt k = finite false m ∧ m.units = k * unitsPerOne := by
  obtain ⟨shift, hshift, hone⟩ := unitsPerOne_eq
  obtain ⟨m, hm, hunits⟩ := Magnitude.nearest?_short hk (by omega : shift ≤ 2000)
  rw [hone]
  refine ⟨m, ?_, hunits⟩
  have hpositive : ¬(k : Int) < 0 := by omega
  simp only [ofInt, hpositive, decide_false, Int.natAbs_natCast, hone]
  exact round_eq_finite_iff.2 hm

end Binary64

namespace Json

/-! ## The digits -/

/-- Digits that fit 64 bits are all taken in. -/
theorem takeIn_of_lt {digits : List Char} {significand : Nat}
    (h : Nat.ofDigitChars 10 digits significand < 2 ^ 64) :
    takeIn significand digits = (Nat.ofDigitChars 10 digits significand, 0) := by
  induction digits generalizing significand with
  | nil => rfl
  | cons digit rest ih =>
      rw [Nat.ofDigitChars_cons] at h ⊢
      have hgrown : 10 * significand + (digit.toNat - '0'.toNat) < 0x10000000000000000 := by
        refine Nat.lt_of_le_of_lt ?_ h
        rw [Nat.ofDigitChars_eq_ofDigitChars_zero]
        exact Nat.le_add_right_of_le (Nat.le_mul_of_pos_left _ (Nat.pow_pos (by decide)))
      rw [takeIn, if_pos hgrown]
      exact ih h

/-- The decimal is the written one if its digits fit 64 bits. -/
theorem decimalOf_eq_ofDigits {whole fraction : List Char} {exponent : Int}
    (h : (Scientific.ofDigits whole fraction exponent).digits < 2 ^ 64) :
    decimalOf whole fraction exponent = .ofDigits whole fraction exponent := by
  simp only [Scientific.ofDigits, Nat.ofDigitChars_append] at h ⊢
  have hwhole : Nat.ofDigitChars 10 whole 0 < 2 ^ 64 := by
    refine Nat.lt_of_le_of_lt ?_ h
    rw [Nat.ofDigitChars_eq_ofDigitChars_zero (l := fraction)]
    exact Nat.le_add_right_of_le (Nat.le_mul_of_pos_left _ (Nat.pow_pos (by decide)))
  simp only [decimalOf, takeIn_of_lt hwhole, takeIn_of_lt h]
  simp

/-! ## The roundings -/

/-- Powers of ten whose odd part fits 53 bits are not rounded. -/
theorem powerOfTen_short (exponent : Nat) (h : exponent ≤ 22) :
    ∃ m, powerOfTen exponent = .finite false m ∧
      m.units = 10 ^ exponent * Binary64.unitsPerOne := by
  obtain ⟨shift, hshift, hone⟩ := Binary64.unitsPerOne_eq
  have hfive : 5 ^ exponent < 2 ^ 53 :=
    Nat.lt_of_le_of_lt (Nat.pow_le_pow_right (by decide) h) (by decide)
  have hten : 10 ^ exponent * 2 ^ shift = 5 ^ exponent * 2 ^ (exponent + shift) := by
    rw [Nat.pow_add, ← Nat.mul_assoc, ← Nat.mul_pow]
  obtain ⟨m, hm, hunits⟩ :=
    Magnitude.nearest?_short hfive (by omega : exponent + shift ≤ 2000)
  refine ⟨m, ?_, by rw [hunits, hone, hten]⟩
  rw [powerOfTen, Scientific.toBinary64_eq_round]
  simp only [Int.toNat_natCast, Int.toNat_neg_natCast, Nat.pow_zero, Nat.one_mul, hone, hten]
  exact Binary64.round_eq_finite_iff.2 hm

/-- A product with a power of ten that is rounded once. -/
theorem ofInt_mul_powerOfTen {k exponent : Nat} (hk : k < 2 ^ 53) (h : exponent ≤ 22) :
    (Binary64.ofInt k).mul (powerOfTen exponent) =
      .round false (k * 10 ^ exponent * Binary64.unitsPerOne) 1 := by
  obtain ⟨m, hm, hunits⟩ := Binary64.ofInt_short hk
  obtain ⟨p, hp, hpunits⟩ := powerOfTen_short exponent h
  rw [hm, hp, Binary64.mul_finite, hunits, hpunits]
  refine Binary64.round_congr Binary64.unitsPerOne_pos Nat.one_pos ?_
  generalize Binary64.unitsPerOne = one
  rw [Nat.mul_one]
  ac_rfl

/-- A quotient by a power of ten that is rounded once. -/
theorem ofInt_div_powerOfTen {k exponent : Nat} (hk : k < 2 ^ 53) (h : exponent ≤ 22) :
    (Binary64.ofInt k).div (powerOfTen exponent) =
      .round false (k * Binary64.unitsPerOne) (10 ^ exponent) := by
  obtain ⟨m, hm, hunits⟩ := Binary64.ofInt_short hk
  obtain ⟨p, hp, hpunits⟩ := powerOfTen_short exponent h
  have hten : 0 < 10 ^ exponent := Nat.pow_pos (by decide)
  have hpositive : 0 < p.units := hpunits ▸ Nat.mul_pos hten Binary64.unitsPerOne_pos
  rw [hm, hp, Binary64.div_finite hpositive, hunits, hpunits]
  refine Binary64.round_congr (Nat.mul_pos hten Binary64.unitsPerOne_pos) hten ?_
  generalize Binary64.unitsPerOne = one
  ac_rfl

variable {s : Scientific}

/-- A product or a quotient of two numbers that have not been rounded is rounded once. -/
theorem roundTwice_false (hdigits : s.digits < 2 ^ 53) (hexponent : s.exponent.natAbs ≤ 22) :
    roundTwice false s = s.toBinary64 false := by
  rw [Scientific.toBinary64_eq_round, roundTwice, if_neg Bool.false_ne_true]
  split
  · next hzero =>
      obtain ⟨m, hm, hunits⟩ := Binary64.ofInt_short hdigits
      rw [hm] at hzero
      have hm0 := Magnitude.eq_zero_of_significand (beq_iff_eq.1 hzero)
      have hnone : s.digits = 0 := by
        rw [hm0, Magnitude.units_eq] at hunits
        exact (Nat.mul_eq_zero.1 (hunits.symm.trans (Nat.zero_mul _))).resolve_right
          (Nat.ne_of_gt Binary64.unitsPerOne_pos)
      have hten : 0 < 10 ^ (-s.exponent).toNat := Nat.pow_pos (by decide)
      rw [hm, hm0, hnone, Nat.zero_mul, Nat.zero_mul]
      exact (Binary64.round_eq_finite_iff.2 (Magnitude.nearest?_tiny hten)).symm
  · split
    · next hneg =>
        have hexp : s.exponent.toNat = 0 := by omega
        rw [scaleDown, if_pos (by omega), ofInt_div_powerOfTen hdigits (by omega), hexp,
          Nat.pow_zero, Nat.mul_one]
    · next hpos =>
        have hexp : (-s.exponent).toNat = 0 := by omega
        rw [ofInt_mul_powerOfTen hdigits (by omega), hexp, Nat.pow_zero]

/-- Digits and a power of ten that fit a significand are read as the nearest binary64
number. -/
theorem roundTwice_eq_toBinary64 (negative : Bool) (hdigits : s.digits < 2 ^ 53)
    (hexponent : s.exponent.natAbs ≤ 22) : roundTwice negative s = s.toBinary64 negative := by
  have hfalse := roundTwice_false hdigits hexponent
  cases negative with
  | false => exact hfalse
  | true =>
      rw [Scientific.toBinary64_eq_round] at hfalse ⊢
      rw [← Binary64.neg_round_false, ← hfalse, roundTwice, roundTwice, if_pos rfl,
        if_neg Bool.false_ne_true]

end Json

end JsonPath
