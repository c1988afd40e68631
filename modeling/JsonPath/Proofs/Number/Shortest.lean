import JsonPath.Number.Scientific
import JsonPath.Proofs.Number.Whole

/-!
# The shortest decimal reads back

A decimal stands for a binary64 number if `toBinary64` maps it to that number.  The
one that `Magnitude.shortest` finds does so, and so do all decimals of the same value,
however many zeros are written.

* Rounding depends only on the value of a quotient (`round_congr`), and a number that
  needs no rounding is not moved (`nearest?_units_self`).
* `toBinary64_eq_round` puts `toBinary64` as one rounding; its two tests in front
  change nothing.  With that, zeros may be moved between digits and exponent
  (`toBinary64_mul_pow`).
* `toBinary64_shortest` joins this: a candidate is only taken if it reads back, and the
  full expansion behind the candidates does as well.
-/

namespace JsonPath

/-! ## Rounding by value -/

theorem Magnitude.nearest?_mul_right (numerator denominator : Nat) {factor : Nat}
    (h : 0 < factor) :
    nearest? (numerator * factor) (denominator * factor) = nearest? numerator denominator := by
  have hround (shift : Nat) :
      roundHalfEven (numerator * factor) (denominator * factor * 2 ^ shift) =
        roundHalfEven numerator (denominator * 2 ^ shift) := by
    rw [Nat.mul_right_comm, roundHalfEven_mul_right _ _ h]
  simp only [nearest?, Nat.mul_div_mul_right _ _ h, Nat.pow_eq, hround]

namespace Binary64

variable {negative : Bool}

/-- Two quotients of the same value round to the same number. -/
theorem round_congr {a b c d : Nat} (hb : 0 < b) (hd : 0 < d) (h : a * d = c * b) :
    round negative a b = round negative c d := by
  have hleft := Magnitude.nearest?_mul_right a b hd
  have hright := Magnitude.nearest?_mul_right c d hb
  rw [round, round, ← hleft, ← hright, h, Nat.mul_comm b d]

/-- The sign is not looked at. -/
theorem round_eq_finite_iff {a b : Nat} {m : Magnitude} :
    round negative a b = finite negative m ↔ Magnitude.nearest? a b = some m := by
  rw [round]
  cases Magnitude.nearest? a b <;> simp

end Binary64

namespace Magnitude

theorem exponentFor_units (m : Magnitude) : exponentFor m.units = m.exponent := by
  have hlt := m.significand_lt
  have hle : exponentFor m.units ≤ m.exponent + 53 - 53 := by
    refine exponentFor_le ?_
    rw [units_eq, Nat.pow_add, Nat.mul_comm]
    exact Nat.mul_lt_mul_of_pos_left hlt (Nat.two_pow_pos _)
  rcases m.normal with hzero | hfull
  · omega
  · have hlog : m.exponent + 52 ≤ m.units.log2 := by
      have hpos : m.units ≠ 0 := by
        rw [units_eq]
        exact Nat.mul_ne_zero (by omega) (Nat.ne_of_gt (Nat.two_pow_pos _))
      rw [Nat.le_log2 hpos, units_eq, Nat.pow_add, Nat.mul_comm]
      exact Nat.mul_le_mul_right _ hfull
    rw [exponentFor] at hle ⊢
    omega

/-- A magnitude is the one nearest to its units. -/
theorem nearest?_units_self (m : Magnitude) : nearest? m.units 1 = some m := by
  have hround : roundHalfEven m.units (1 * 2 ^ m.exponent) = m.significand := by
    rw [Nat.one_mul, units_eq, roundHalfEven_mul _ _ (Nat.two_pow_pos _)]
  have hlt := m.significand_lt
  simp only [nearest?, Nat.div_one, exponentFor_units, Nat.pow_eq, hround]
  rw [if_neg (by omega), ofParts?, dif_pos ⟨m.significand_lt, m.exponent_le, m.normal⟩]

theorem eq_zero_of_significand {m : Magnitude} (h : m.significand = 0) : m = zero := by
  have hexponent : m.exponent = 0 := by
    rcases m.normal with hzero | hfull
    · exact hzero
    · omega
  cases m
  simp_all [zero]

/-- Below half a unit the nearest magnitude is zero. -/
theorem nearest?_tiny {numerator denominator : Nat} (h : 2 * numerator < denominator) :
    nearest? numerator denominator = some zero := by
  have hdiv : numerator / denominator = 0 := Nat.div_eq_of_lt (by omega)
  have hmod : numerator % denominator = numerator := Nat.mod_eq_of_lt (by omega)
  have hround : roundHalfEven numerator (denominator * 2 ^ 0) = 0 := by
    rw [Nat.pow_zero, Nat.mul_one]
    simp only [roundHalfEven, hdiv, hmod]
    rw [if_neg (by omega)]
  have hexponent : exponentFor (numerator / denominator) = 0 := by
    rw [hdiv]
    rfl
  simp only [nearest?, hexponent, Nat.pow_eq, hround]
  rfl

/-- From `2 ^ 2100` units on there is no nearest magnitude. -/
theorem nearest?_huge {numerator bits : Nat} (h : 2 ^ bits ≤ numerator) (hbits : 2100 ≤ bits) :
    nearest? numerator 1 = none := by
  have hpos : numerator ≠ 0 := by
    have := Nat.two_pow_pos bits
    omega
  have hlog : bits ≤ numerator.log2 := (Nat.le_log2 hpos).2 h
  have hexponent : 2046 ≤ exponentFor (numerator / 1) := by
    rw [Nat.div_one, exponentFor]
    omega
  generalize hexp : exponentFor (numerator / 1) = exponent at hexponent
  simp only [nearest?, hexp]
  split
  · rw [ofParts?, dif_neg (by omega)]
  · rw [ofParts?, dif_neg (by omega)]

end Magnitude

/-! ## The value of a decimal -/

namespace Scientific

variable {negative : Bool}

/-- Ten is more than eight. -/
theorem two_pow_le_ten_pow (k : Nat) : 2 ^ (3 * k) ≤ 10 ^ k := by
  rw [Nat.pow_mul]
  exact Nat.pow_le_pow_left (by decide) k

/-- The number nearest to a decimal is its value, rounded once. -/
theorem toBinary64_eq_round (s : Scientific) :
    s.toBinary64 negative =
      .round negative (s.digits * 10 ^ s.exponent.toNat * Binary64.unitsPerOne)
        (10 ^ (-s.exponent).toNat) := by
  obtain ⟨shift, hshift, hone⟩ := Binary64.unitsPerOne_eq
  have hten (k : Nat) : 0 < 10 ^ k := Nat.pow_pos (by decide)
  unfold toBinary64
  split
  · next hdigits =>
      have hzero : Magnitude.nearest? 0 (10 ^ (-s.exponent).toNat) = some .zero :=
        Magnitude.nearest?_tiny (hten _)
      rw [hdigits, Nat.zero_mul, Nat.zero_mul, Binary64.round, hzero]
  split
  · next hdigits hhuge =>
      have hden : (-s.exponent).toNat = 0 := by omega
      -- the digits only make the number greater
      have hbits : 2 ^ (3 * s.exponent.toNat + shift) ≤
          s.digits * 10 ^ s.exponent.toNat * Binary64.unitsPerOne := by
        rw [hone, Nat.pow_add]
        refine Nat.mul_le_mul_right _ (Nat.le_trans (two_pow_le_ten_pow _) ?_)
        exact Nat.le_mul_of_pos_left _ (by omega)
      have hnone := Magnitude.nearest?_huge hbits (by omega)
      rw [hden, Nat.pow_zero, Binary64.round, hnone]
  split
  · next hdigits _ hsmall =>
      have hnum : s.exponent.toNat = 0 := by omega
      have hlt : s.digits < 2 ^ (s.digits.log2 + 1) := Nat.lt_log2_self
      have htiny : 2 * (s.digits * 2 ^ shift) < 10 ^ (-s.exponent).toNat :=
        calc 2 * (s.digits * 2 ^ shift)
            < 2 * (2 ^ (s.digits.log2 + 1) * 2 ^ shift) :=
              Nat.mul_lt_mul_of_pos_left
                (Nat.mul_lt_mul_of_pos_right hlt (Nat.two_pow_pos _)) (by decide)
          _ = 2 ^ (s.digits.log2 + 1 + shift + 1) := by
              rw [← Nat.pow_add, Nat.pow_succ 2 (s.digits.log2 + 1 + shift), Nat.mul_comm]
          _ ≤ 2 ^ (3 * (-s.exponent).toNat) := Nat.pow_le_pow_right (by decide) (by omega)
          _ ≤ 10 ^ (-s.exponent).toNat := two_pow_le_ten_pow _
      have hzero := Magnitude.nearest?_tiny htiny
      rw [hnum, Nat.pow_zero, Nat.mul_one, hone, Binary64.round, hzero]
  split
  · next hnonneg =>
      have hden : (-s.exponent).toNat = 0 := by omega
      rw [hden, Nat.pow_zero, Nat.pow_eq]
  · next hneg =>
      have hnum : s.exponent.toNat = 0 := by omega
      rw [hnum, Nat.pow_zero, Nat.mul_one, Nat.pow_eq]

/-- Zeros may be moved from the digits to the exponent. -/
theorem toBinary64_mul_pow (digits k : Nat) (exponent : Int) :
    toBinary64 negative { digits := digits * 10 ^ k, exponent } =
      toBinary64 negative { digits, exponent := exponent + k } := by
  have hten (k : Nat) : 0 < 10 ^ k := Nat.pow_pos (by decide)
  rw [toBinary64_eq_round, toBinary64_eq_round]
  refine Binary64.round_congr (hten _) (hten _) ?_
  have hpow : 10 ^ k * 10 ^ exponent.toNat * 10 ^ (-(exponent + k)).toNat =
      10 ^ (exponent + k).toNat * 10 ^ (-exponent).toNat := by
    rw [← Nat.pow_add, ← Nat.pow_add, ← Nat.pow_add]
    congr 1
    omega
  generalize Binary64.unitsPerOne = one
  calc digits * 10 ^ k * 10 ^ exponent.toNat * one * 10 ^ (-(exponent + k)).toNat
      = digits * one * (10 ^ k * 10 ^ exponent.toNat * 10 ^ (-(exponent + k)).toNat) := by ac_rfl
    _ = digits * one * (10 ^ (exponent + k).toNat * 10 ^ (-exponent).toNat) := by rw [hpow]
    _ = digits * 10 ^ (exponent + k).toNat * one * 10 ^ (-exponent).toNat := by ac_rfl

theorem toBinary64_trim (s : Scientific) : s.trim.toBinary64 negative = s.toBinary64 negative := by
  fun_induction trim s with
  | case1 s h ih =>
      have hdigits : s.digits = s.digits / 10 * 10 ^ 1 := by omega
      have hmoved :
          toBinary64 negative { digits := s.digits / 10 * 10 ^ 1, exponent := s.exponent } =
            toBinary64 negative { digits := s.digits / 10, exponent := s.exponent + 1 } :=
        toBinary64_mul_pow _ _ _
      rw [← hdigits] at hmoved
      exact ih.trans hmoved.symm
  | case2 s h => rfl

/-- What reads back as a magnitude without a sign does so with either sign. -/
theorem toBinary64_eq_of_unsigned {s : Scientific} {m : Magnitude}
    (h : s.toBinary64 false = .finite false m) : s.toBinary64 negative = .finite negative m := by
  rw [toBinary64_eq_round, Binary64.round_eq_finite_iff] at h ⊢
  exact h

/-- The full expansion of a magnitude reads back. -/
theorem toBinary64_exact (m : Magnitude) : (exact m).toBinary64 false = .finite false m := by
  have hself : Binary64.round false m.units 1 = .finite false m :=
    Binary64.round_eq_finite_iff.2 m.nearest?_units_self
  rw [toBinary64_eq_round, ← hself]
  refine Binary64.round_congr (Nat.pow_pos (by decide)) Nat.one_pos ?_
  obtain ⟨shift, hshift, hone⟩ := Binary64.unitsPerOne_eq
  simp only [exact, ← hshift, hone, Magnitude.units_eq, Nat.pow_eq]
  split
  · next hlarge =>
      have hsplit : 2 ^ m.exponent = 2 ^ (m.exponent - shift) * 2 ^ shift := by
        rw [← Nat.pow_add, Nat.sub_add_cancel hlarge]
      simp [hsplit, Nat.mul_assoc]
  · next hsmall =>
      obtain ⟨j, hj⟩ : ∃ j, shift = m.exponent + j := ⟨shift - m.exponent, by omega⟩
      have hexponent : (m.exponent : Int) - 1074 = -(j : Int) := by omega
      have hplaces : shift - m.exponent = j := by omega
      have hten : 10 ^ j = 2 ^ j * 5 ^ j := by rw [← Nat.mul_pow]
      simp only [hexponent, hplaces, Int.toNat_neg_natCast, neg_neg, Int.toNat_natCast, hten]
      simp only [hj, Nat.pow_add, Nat.pow_zero]
      ring

end Scientific

/-! ## Shortest digits -/

namespace Magnitude

variable {negative : Bool}

/-- The shortest decimal of a magnitude reads back. -/
theorem toBinary64_shortest (m : Magnitude) :
    m.shortest.toBinary64 negative = .finite negative m := by
  refine Scientific.toBinary64_eq_of_unsigned ?_
  rw [shortest]
  dsimp only
  rw [Scientific.toBinary64_trim]
  generalize ((List.range' 1 17).flatMap _) = candidates
  cases hfound : candidates.find? _ with
  | none => exact Scientific.toBinary64_exact m
  | some s => simpa using List.find?_some hfound

theorem shortest_digits_ne_zero {m : Magnitude} (h : m.significand ≠ 0) :
    m.shortest.digits ≠ 0 := by
  intro hdigits
  have hreads : m.shortest.toBinary64 false = .finite false m := m.toBinary64_shortest
  rw [Scientific.toBinary64, if_pos hdigits] at hreads
  cases hreads
  exact h rfl

end Magnitude

end JsonPath
