import Mathlib
import JsonPath.Proofs.Number.Whole

/-!
# The order of binary64 numbers

Numbers other than NaN are ordered like their ranks, which are the signed units of a
finite number between two ends for the infinities.  So the order is total, and two
numbers of one rank are equal.

Rounding an integer keeps the order, but not strictly: different integers may have
the same nearest number.
-/

namespace JsonPath

/-! ## Rounding keeps the order -/

theorem roundHalfEven_mono {a b : Nat} (denominator : Nat) (h : a ≤ b) :
    roundHalfEven a denominator ≤ roundHalfEven b denominator := by
  have hquotient : a / denominator ≤ b / denominator := Nat.div_le_div_right h
  have hadiv := Nat.div_add_mod a denominator
  have hbdiv := Nat.div_add_mod b denominator
  rcases Nat.lt_or_eq_of_le hquotient with hlt | heq
  · -- one more on the left is at most the floor on the right
    simp only [roundHalfEven]
    split <;> split <;> omega
  · have hmod : a % denominator ≤ b % denominator := by
      rw [heq] at hadiv
      omega
    simp only [roundHalfEven, heq]
    split <;> split <;> omega

namespace Magnitude

theorem exponentFor_mono {a b : Nat} (h : a ≤ b) : exponentFor a ≤ exponentFor b := by
  have hlog : a.log2 ≤ b.log2 := by
    rw [Nat.log2_eq_log_two, Nat.log2_eq_log_two]
    exact Nat.log_mono_right h
  rw [exponentFor, exponentFor]
  omega

/-- More units are not rounded to less. -/
theorem nearest?_mono {a b denominator : Nat} {m m' : Magnitude} (hd : 0 < denominator)
    (h : a ≤ b) (he : exponentFor (b / denominator) ≤ 2044)
    (hm : nearest? a denominator = some m) (hm' : nearest? b denominator = some m') :
    m.units ≤ m'.units := by
  have hexp : exponentFor (a / denominator) ≤ exponentFor (b / denominator) :=
    exponentFor_mono (Nat.div_le_div_right h)
  obtain ⟨_, hleft, hunits⟩ := @nearest?_units a _ hd (hexp.trans he)
  obtain ⟨_, hright, hunits'⟩ := @nearest?_units b _ hd he
  rw [hm] at hleft
  rw [hm'] at hright
  cases hleft
  cases hright
  rw [hunits, hunits']
  rcases Nat.lt_or_eq_of_le hexp with hlt | heq
  · -- a power of two lies between the two
    have hbelow := roundHalfEven_exponentFor_le a hd
    have habove := le_roundHalfEven_exponentFor b hd (by omega)
    generalize exponentFor (a / denominator) = e at hlt hbelow ⊢
    generalize exponentFor (b / denominator) = e' at hlt habove ⊢
    calc roundHalfEven a (denominator * 2 ^ e) * 2 ^ e
        ≤ 2 ^ 53 * 2 ^ e := Nat.mul_le_mul_right _ hbelow
      _ = 2 ^ 52 * 2 ^ (e + 1) := by rw [Nat.pow_succ]; omega
      _ ≤ 2 ^ 52 * 2 ^ e' := Nat.mul_le_mul_left _ (Nat.pow_le_pow_right (by omega) hlt)
      _ ≤ roundHalfEven b (denominator * 2 ^ e') * 2 ^ e' := Nat.mul_le_mul_right _ habove
  · rw [heq]
    exact Nat.mul_le_mul_right _ (roundHalfEven_mono _ h)

end Magnitude

namespace Binary64

/-- An integer of 64 bits has a nearest number, with its sign. -/
theorem ofInt_eq_finite {n : Int} (h : n.natAbs ≤ 2 ^ 63) :
    ∃ m, Magnitude.nearest? (n.natAbs * unitsPerOne) 1 = some m ∧
      ofInt n = finite (n < 0) m := by
  obtain ⟨m, -, hm, -⟩ := Magnitude.nearest?_whole h
  exact ⟨m, hm, by rw [ofInt, round, hm]⟩

theorem ofInt_ne_nan {n : Int} (h : n.natAbs ≤ 2 ^ 63) : ofInt n ≠ nan := by
  obtain ⟨m, -, hm⟩ := ofInt_eq_finite h
  rw [hm]
  nofun

/-- Of the integers of 64 bits only zero has a zero for its nearest number. -/
theorem ofInt_isZero_iff {n : Int} (h : n.natAbs ≤ 2 ^ 63) : (ofInt n).isZero = true ↔ n = 0 := by
  constructor
  · intro hzero
    obtain ⟨m, hm, hofInt⟩ := ofInt_eq_finite h
    have hsignificand : m.significand = 0 := by
      rw [hofInt] at hzero
      exact beq_iff_eq.1 hzero
    by_contra hne
    -- one is at most the absolute value, and the nearest number of one has units
    obtain ⟨one, hone, hpos⟩ : ∃ one, Magnitude.nearest? (1 * unitsPerOne) 1 = some one ∧
        0 < one.units :=
      ⟨⟨0x10000000000000, 1022, by decide, by decide, by decide⟩, by decide +kernel,
        by decide +kernel⟩
    have hle := Magnitude.nearest?_mono Nat.one_pos
      (Nat.mul_le_mul_right unitsPerOne (show 1 ≤ n.natAbs by omega))
      ((Magnitude.exponentFor_int64_le h).trans (by decide)) hone hm
    rw [Magnitude.units_eq m, hsignificand] at hle
    omega
  · rintro rfl
    decide +kernel

/-! ## Ranks -/

/-- The place of a number in the order; that of NaN does not matter. -/
def rank : Binary64 → WithBot (WithTop Int)
  | nan => ⊥
  | infinite true => ⊥
  | infinite false => ((⊤ : WithTop Int) : WithBot (WithTop Int))
  | finite negative m => ((signedUnits negative m : WithTop Int) : WithBot (WithTop Int))

theorem rank_infinite_lt_infinite : (infinite true).rank < (infinite false).rank := bot_lt_top

theorem rank_infinite_lt_finite (negative : Bool) (m : Magnitude) :
    (infinite true).rank < (finite negative m).rank := WithBot.bot_lt_coe _

theorem rank_finite_lt_infinite (negative : Bool) (m : Magnitude) :
    (finite negative m).rank < (infinite false).rank :=
  WithBot.coe_lt_coe.2 (WithTop.coe_lt_top _)

theorem rank_finite_le_iff {a b : Bool} {m n : Magnitude} :
    (finite a m).rank ≤ (finite b n).rank ↔ signedUnits a m ≤ signedUnits b n :=
  WithBot.coe_le_coe.trans WithTop.coe_le_coe

/-- Numbers are in the order of their ranks. -/
theorem compare?_eq {x y : Binary64} (hx : x ≠ nan) (hy : y ≠ nan) :
    compare? x y = some (compare x.rank y.rank) := by
  cases x with
  | nan => exact absurd rfl hx
  | infinite a =>
      cases y with
      | nan => exact absurd rfl hy
      | infinite b =>
          cases a <;> cases b
          · rw [compare_eq_iff_eq.2 rfl, compare?, if_pos rfl]
          · rw [compare_gt_iff_gt.2 rank_infinite_lt_infinite]
            rfl
          · rw [compare_lt_iff_lt.2 rank_infinite_lt_infinite]
            rfl
          · rw [compare_eq_iff_eq.2 rfl, compare?, if_pos rfl]
      | finite b n =>
          cases a
          · rw [compare_gt_iff_gt.2 (rank_finite_lt_infinite b n)]
            rfl
          · rw [compare_lt_iff_lt.2 (rank_infinite_lt_finite b n)]
            rfl
  | finite a m =>
      cases y with
      | nan => exact absurd rfl hy
      | infinite b =>
          cases b
          · rw [compare_lt_iff_lt.2 (rank_finite_lt_infinite a m)]
            rfl
          · rw [compare_gt_iff_gt.2 (rank_infinite_lt_finite a m)]
            rfl
      | finite b n =>
          rw [compare?]
          rcases lt_trichotomy (signedUnits a m) (signedUnits b n) with h | h | h
          · have hrank := lt_of_not_ge (mt rank_finite_le_iff.1 (not_le_of_gt h))
            rw [compare_lt_iff_lt.2 h, compare_lt_iff_lt.2 hrank]
          · have hrank := le_antisymm (rank_finite_le_iff.2 h.le) (rank_finite_le_iff.2 h.ge)
            rw [compare_eq_iff_eq.2 h, compare_eq_iff_eq.2 hrank]
          · have hrank := lt_of_not_ge (mt rank_finite_le_iff.1 (not_le_of_gt h))
            rw [compare_gt_iff_gt.2 h, compare_gt_iff_gt.2 hrank]

/-- Numbers are equal if they are in the same place of the order. -/
theorem equals_iff {x y : Binary64} :
    equals x y = true ↔ x ≠ nan ∧ y ≠ nan ∧ x.rank = y.rank := by
  by_cases hx : x = nan
  · subst hx
    simp [equals, compare?]
  by_cases hy : y = nan
  · subst hy
    cases x <;> simp [equals, compare?]
  rw [equals, compare?_eq hx hy, beq_iff_eq, Option.some_inj, compare_eq_iff_eq]
  simp [hx, hy]

/-- A number is at most another one if it does not come later in the order. -/
theorem compare?_ne_gt_iff {x y : Binary64} :
    (∃ order, compare? x y = some order ∧ order ≠ .gt) ↔
      x ≠ nan ∧ y ≠ nan ∧ x.rank ≤ y.rank := by
  by_cases hx : x = nan
  · subst hx
    simp [compare?]
  by_cases hy : y = nan
  · subst hy
    cases x <;> simp [compare?]
  rw [compare?_eq hx hy, ← compare_le_iff_le]
  simp [hx, hy]

theorem compare?_swap (x y : Binary64) : (compare? x y).map Ordering.swap = compare? y x := by
  by_cases hx : x = nan
  · subst hx
    cases y <;> rfl
  by_cases hy : y = nan
  · subst hy
    cases x <;> rfl
  rw [compare?_eq hx hy, compare?_eq hy hx, Option.map_some, ← Std.OrientedCmp.eq_swap]

theorem equals_comm (x y : Binary64) : equals x y = equals y x := by
  rw [Bool.eq_iff_iff, equals_iff, equals_iff]
  constructor
  · rintro ⟨hx, hy, h⟩
    exact ⟨hy, hx, h.symm⟩
  · rintro ⟨hy, hx, h⟩
    exact ⟨hx, hy, h.symm⟩

theorem equals_trans {x y z : Binary64} (h : equals x y = true) (h' : equals y z = true) :
    equals x z = true := by
  obtain ⟨hx, -, hxy⟩ := equals_iff.1 h
  obtain ⟨-, hz, hyz⟩ := equals_iff.1 h'
  exact equals_iff.2 ⟨hx, hz, hxy.trans hyz⟩

/-- The nearest numbers of integers are in the order of the integers. -/
theorem rank_ofInt_mono {a b : Int} (ha : a.natAbs ≤ 2 ^ 63) (hb : b.natAbs ≤ 2 ^ 63)
    (h : a ≤ b) : (ofInt a).rank ≤ (ofInt b).rank := by
  obtain ⟨m, hm, hleft⟩ := ofInt_eq_finite ha
  obtain ⟨m', hm', hright⟩ := ofInt_eq_finite hb
  rw [hleft, hright, rank_finite_le_iff]
  have hea := (Magnitude.exponentFor_int64_le ha).trans (show 1085 ≤ 2044 by decide)
  have heb := (Magnitude.exponentFor_int64_le hb).trans (show 1085 ≤ 2044 by decide)
  rcases lt_or_ge a 0 with hnega | hposa
  · rcases lt_or_ge b 0 with hnegb | hposb
    · have hunits := Magnitude.nearest?_mono Nat.one_pos
        (Nat.mul_le_mul_right unitsPerOne (show b.natAbs ≤ a.natAbs by omega)) hea hm' hm
      simp only [signedUnits, hnega, hnegb, decide_true, if_true]
      omega
    · simp only [signedUnits, hnega, not_lt.2 hposb, decide_true, decide_false, if_true]
      simp only [Bool.false_eq_true, if_false]
      omega
  · have hposb : 0 ≤ b := hposa.trans h
    have hunits := Magnitude.nearest?_mono Nat.one_pos
      (Nat.mul_le_mul_right unitsPerOne (show a.natAbs ≤ b.natAbs by omega)) heb hm hm'
    simp only [signedUnits, not_lt.2 hposa, not_lt.2 hposb, decide_false, Bool.false_eq_true,
      if_false]
    omega

end Binary64

end JsonPath
