import JsonPath.Json.Token
import JsonPath.Json.Writer
import JsonPath.Proofs.Json.Rounding

/-!
# Written numbers read back

A `Numeral` is a number as JSON writes it without its sign: digits, perhaps digits
behind a point, perhaps an exponent.

* `readNumber?_text` reads a numeral with its sign, whatever stands behind it that does
  not go on with it (`EndsNumber`).
* `Numeral.exists_text_eq` finds the numeral that `Scientific.text` writes, in each of
  its layouts, with the zeros that it puts behind the digits.
* `isWritten_integer` says that an integer is written as digits alone, and so reads back
  as itself (`IsWritten.readNumber?`).
* Any other finite number is written with a point or an exponent (`exists_numeral`).  The
  text is the shortest that stands for the number, but reading rounds twice, so that not
  every number is read back from it: `ReadsBack` are those that are.  Among them are the
  zeros and all numbers with few digits (`readsBack_of_short`), but not all numbers with
  sixteen.
-/

namespace JsonPath.Json

/-! ## Runs of digits -/

/-- All characters are decimal digits. -/
def Digits (text : List Char) : Prop := ∀ c ∈ text, c.isDigit = true

/-- No digit comes first. -/
def NoDigitFirst (text : List Char) : Prop := ∀ c ∈ text.head?, c.isDigit = false

theorem takeWhile_digits {digits rest : List Char} (hdigits : Digits digits)
    (hrest : NoDigitFirst rest) : (digits ++ rest).takeWhile Char.isDigit = digits :=
  takeWhile_run hdigits hrest

theorem dropWhile_digits {digits rest : List Char} (hdigits : Digits digits)
    (hrest : NoDigitFirst rest) : (digits ++ rest).dropWhile Char.isDigit = rest :=
  dropWhile_run hdigits hrest

theorem toDigits_digits (n : Nat) : Digits (Nat.toDigits 10 n) :=
  fun _ h => Nat.isDigit_of_mem_toDigits (by decide) (by decide) h

/-- The digits of a positive number do not begin with a zero. -/
theorem head?_toDigits {n : Nat} (h : n ≠ 0) : (Nat.toDigits 10 n).head? ≠ some '0' := by
  induction n using Nat.strong_induction_on with
  | _ n ih =>
    rw [Nat.toDigits_eq_if (by decide)]
    split
    · simpa [Nat.digitChar_eq_zero] using h
    · next hn =>
        have hfirst := ih (n / 10) (by omega) (by omega)
        rw [List.head?_append_of_ne_nil _ Nat.toDigits_ne_nil]
        exact hfirst

/-! ## Numerals -/

/-- A number as it is written, without its sign.  The whole part has no leading zeros;
a sign and digits make an exponent. -/
structure Numeral where
  whole : List Char
  fraction : List Char
  exponent : Option (Bool × List Char)
  whole_digits : Digits whole
  whole_ne_nil : whole ≠ []
  whole_head : whole.head? = some '0' → whole.length = 1
  fraction_digits : Digits fraction
  exponent_digits : ∀ e ∈ exponent, Digits e.2 ∧ e.2 ≠ []

/-- What may stand behind a number: nothing that goes on with it. -/
def EndsNumber (rest : List Char) : Prop :=
  ∀ c ∈ rest.head?, c.isDigit = false ∧ c ≠ '.' ∧ c ≠ 'e' ∧ c ≠ 'E'

theorem EndsNumber.nil : EndsNumber [] := nofun

theorem EndsNumber.cons {c : Char} {rest : List Char}
    (h : c.isDigit = false ∧ c ≠ '.' ∧ c ≠ 'e' ∧ c ≠ 'E') : EndsNumber (c :: rest) := by
  intro d hd
  cases hd
  exact h

namespace Numeral

variable (n : Numeral) {rest : List Char}

/-- The point and the digits behind it, if there are any. -/
def fractionText : List Char := if n.fraction = [] then [] else '.' :: n.fraction

/-- The exponent with its mark and its sign, if there is one. -/
def exponentText : List Char :=
  match n.exponent with
  | none => []
  | some (negative, digits) => 'e' :: (if negative then '-' else '+') :: digits

/-- The numeral as it is written. -/
def text : List Char := n.whole ++ (n.fractionText ++ n.exponentText)

/-- The exponent that is written, if one is. -/
def exponentValue : Option Int :=
  n.exponent.map fun (negative, digits) =>
    if negative then -(Nat.ofDigitChars 10 digits 0 : Int) else Nat.ofDigitChars 10 digits 0

theorem mem_text {c : Char} (hc : c ∈ n.text) :
    c.isDigit = true ∨ c ∈ ['.', 'e', '+', '-'] := by
  rcases List.mem_append.1 hc with hwhole | hc
  · exact .inl (n.whole_digits c hwhole)
  rcases List.mem_append.1 hc with hfraction | hexponent
  · unfold fractionText at hfraction
    split at hfraction
    · cases hfraction
    · rcases List.mem_cons.1 hfraction with rfl | hdigit
      · simp
      · exact .inl (n.fraction_digits c hdigit)
  · have hdigits := n.exponent_digits
    unfold exponentText at hexponent
    split at hexponent
    · cases hexponent
    · next negative digits heq =>
        rcases List.mem_cons.1 hexponent with rfl | hrest
        · simp
        rcases List.mem_cons.1 hrest with rfl | hdigit
        · cases negative <;> simp
        · exact .inl ((hdigits _ heq).1 c hdigit)

theorem exponentText_noDigitFirst (h : EndsNumber rest) :
    NoDigitFirst (n.exponentText ++ rest) ∧ (n.exponentText ++ rest).head? ≠ some '.' := by
  unfold exponentText
  split
  · refine ⟨fun c hc => (h c hc).1, fun hpoint => ?_⟩
    exact (h '.' hpoint).2.1 rfl
  · constructor
    · intro c hc
      cases hc
      rfl
    · simp

theorem fractionText_noDigitFirst (h : EndsNumber rest) :
    NoDigitFirst (n.fractionText ++ (n.exponentText ++ rest)) := by
  unfold fractionText
  split
  · exact (n.exponentText_noDigitFirst h).1
  · intro c hc
    cases hc
    rfl

theorem readExponent?_text (h : EndsNumber rest) :
    readExponent? (n.exponentText ++ rest) = some (n.exponentValue, rest) := by
  have hdigits := n.exponent_digits
  unfold exponentText exponentValue
  cases hexponent : n.exponent with
  | none =>
      cases rest with
      | nil => rfl
      | cons c rest =>
          obtain ⟨-, -, hlower, hupper⟩ := h c (by simp)
          simp [readExponent?, hlower, hupper]
  | some e =>
      obtain ⟨negative, digits⟩ := e
      obtain ⟨hall, hne⟩ := hdigits _ hexponent
      have hrest : NoDigitFirst rest := fun c hc => (h c hc).1
      have hsign : takeOptionalSign ((if negative then '-' else '+') :: (digits ++ rest)) =
          (negative, digits ++ rest) := by
        cases negative <;> rfl
      simp [readExponent?, hsign, takeWhile_digits hall hrest, dropWhile_digits hall hrest, hne]

theorem readFraction?_text (h : EndsNumber rest) :
    readFraction? (n.fractionText ++ (n.exponentText ++ rest)) =
      some (n.fraction, n.exponentText ++ rest) := by
  obtain ⟨hdigit, hpoint⟩ := n.exponentText_noDigitFirst h
  unfold fractionText
  split
  · next hnone =>
      rw [hnone, List.nil_append, readFraction?.eq_def]
      split
      · next heq =>
          rw [heq] at hpoint
          simp at hpoint
      · rfl
  · next hsome =>
      have hfraction := n.fraction_digits
      simp [readFraction?, takeWhile_digits hfraction hdigit, dropWhile_digits hfraction hdigit,
        hsome]

theorem takeMinus_text (negative : Bool) :
    takeMinus ((if negative then ['-'] else []) ++ (n.text ++ rest)) =
      (negative, n.text ++ rest) := by
  cases negative with
  | true => rfl
  | false =>
      have hdigits := n.whole_digits
      have hne := n.whole_ne_nil
      rw [text]
      cases hwhole : n.whole with
      | nil => exact absurd hwhole hne
      | cons c whole =>
          have hc : c.isDigit = true := hdigits c (by simp [hwhole])
          have hminus : c ≠ '-' := by
            rintro rfl
            exact absurd hc (by decide)
          simp only [Bool.false_eq_true, if_false, List.nil_append, List.cons_append]
          rw [takeMinus.eq_def]
          split
          · next heq => exact absurd (List.cons.inj heq).1 hminus
          · rfl

end Numeral

/-- A numeral with its sign reads back as the number of its parts. -/
theorem readNumber?_text (n : Numeral) (negative : Bool) {rest : List Char} (h : EndsNumber rest) :
    readNumber? ((if negative then ['-'] else []) ++ (n.text ++ rest)) =
      (numberOf? negative n.whole n.fraction n.exponentValue).map fun v => (v, rest) := by
  have htail := n.fractionText_noDigitFirst h
  have hwhole : (n.text ++ rest).takeWhile Char.isDigit = n.whole := by
    rw [Numeral.text, List.append_assoc, List.append_assoc]
    exact takeWhile_digits n.whole_digits htail
  have hbehind : (n.text ++ rest).dropWhile Char.isDigit =
      n.fractionText ++ (n.exponentText ++ rest) := by
    rw [Numeral.text, List.append_assoc, List.append_assoc]
    exact dropWhile_digits n.whole_digits htail
  have hok : ¬(n.whole.isEmpty = true ∨ n.whole.head? = some '0' ∧ n.whole.length ≠ 1) := by
    rintro (hempty | ⟨hzero, hlength⟩)
    · exact n.whole_ne_nil (List.isEmpty_iff.1 hempty)
    · exact hlength (n.whole_head hzero)
  simp only [readNumber?, n.takeMinus_text, hwhole, hbehind]
  rw [if_neg hok, n.readFraction?_text h]
  simp only [n.readExponent?_text h]

/-! ## Numbers as they are written -/

/-- A number is written as this text: a sign and a numeral whose parts give it back. -/
def IsWritten (v : Value) (text : List Char) : Prop :=
  ∃ (negative : Bool) (n : Numeral), text = (if negative then ['-'] else []) ++ n.text ∧
    numberOf? negative n.whole n.fraction n.exponentValue = some v

/-- What is written reads back. -/
theorem IsWritten.readNumber? {v : Value} {text rest : List Char} (hv : IsWritten v text)
    (h : EndsNumber rest) : readNumber? (text ++ rest) = some (v, rest) := by
  obtain ⟨negative, n, rfl, hvalue⟩ := hv
  rw [List.append_assoc, readNumber?_text n negative h, hvalue]
  rfl

/-- Digits alone make an integer. -/
theorem numberOf?_whole {negative : Bool} {whole : List Char} {n : Int64}
    (hvalue : (if negative then -(Nat.ofDigitChars 10 whole 0 : Int)
      else Nat.ofDigitChars 10 whole 0) = n.toInt)
    (hzero : ¬(negative = true ∧ Nat.ofDigitChars 10 whole 0 = 0)) :
    numberOf? negative whole [] none = some (.integer n) := by
  have hfits : int64? n.toInt = some n := int64?_eq_some_iff.2 rfl
  simp only [numberOf?, hvalue, hfits]
  rw [if_pos ⟨rfl, rfl, hzero⟩]

namespace Numeral

/-- The decimal that a numeral stands for. -/
def decimal (n : Numeral) : Scientific :=
  .ofDigits n.whole n.fraction (n.exponentValue.getD 0)

/-- A fraction or an exponent is written, which no integer has. -/
def IsFractional (n : Numeral) : Prop := n.fraction ≠ [] ∨ n.exponent ≠ none

end Numeral

/-- A fraction or an exponent makes another number, which is rounded twice. -/
theorem numberOf?_fractional {n : Numeral} {negative : Bool} (hn : n.IsFractional) :
    numberOf? negative n.whole n.fraction n.exponentValue =
      finite? (roundTwice negative (decimalOf n.whole n.fraction (n.exponentValue.getD 0))) := by
  refine if_neg ?_
  rintro ⟨hfraction, hexponent, -⟩
  rcases hn with hsome | hsome
  · exact hsome (List.isEmpty_iff.1 hfraction)
  · simp [Numeral.exponentValue, hsome] at hexponent

/-! ## The numeral of an integer -/

/-- The numeral of a natural number. -/
def Numeral.ofNat (n : Nat) : Numeral where
  whole := Nat.toDigits 10 n
  fraction := []
  exponent := none
  whole_digits := toDigits_digits n
  whole_ne_nil := Nat.toDigits_ne_nil
  whole_head := by
    intro hhead
    have hzero : n = 0 := by
      by_contra hn
      exact head?_toDigits hn hhead
    subst hzero
    rfl
  fraction_digits := nofun
  exponent_digits := nofun

theorem Numeral.text_ofNat (n : Nat) : (Numeral.ofNat n).text = Nat.toDigits 10 n := by
  simp [text, fractionText, exponentText, ofNat]

theorem isWritten_integer (n : Int64) : IsWritten (.integer n) (integerText n.toInt) := by
  refine ⟨decide (n.toInt < 0), .ofNat n.toInt.natAbs, ?_, numberOf?_whole ?_ ?_⟩
  · rw [Numeral.text_ofNat, integerText]
    by_cases hneg : n.toInt < 0 <;> simp [hneg]
  · simp only [Numeral.ofNat, Nat.ofDigitChars_toDigits (by decide : 1 < 10) (by decide),
      decide_eq_true_eq]
    split <;> omega
  · simp only [Numeral.ofNat, Nat.ofDigitChars_toDigits (by decide : 1 < 10) (by decide),
      decide_eq_true_eq]
    omega

/-! ## The numeral of a decimal -/

namespace Numeral

/-- Zeros between the point and the digits. -/
def belowOne (zeros n : Nat) : Numeral where
  whole := ['0']
  fraction := List.replicate zeros '0' ++ Nat.toDigits 10 n
  exponent := none
  whole_digits := by simp [Digits]
  whole_ne_nil := by simp
  whole_head := fun _ => rfl
  fraction_digits := by
    intro c hc
    rcases List.mem_append.1 hc with hzero | hdigit
    · rw [List.eq_of_mem_replicate hzero]
      rfl
    · exact toDigits_digits n c hdigit
  exponent_digits := nofun

theorem text_belowOne (zeros n : Nat) :
    (belowOne zeros n).text =
      '0' :: '.' :: (List.replicate zeros '0' ++ Nat.toDigits 10 n) := by
  simp [text, fractionText, exponentText, belowOne, Nat.toDigits_ne_nil]

theorem decimal_belowOne (zeros n : Nat) :
    (belowOne zeros n).decimal =
      { digits := n, exponent := -((zeros + (Nat.toDigits 10 n).length : Nat) : Int) } := by
  have hdigits :
      Nat.ofDigitChars 10 ('0' :: (List.replicate zeros '0' ++ Nat.toDigits 10 n)) 0 = n := by
    rw [Nat.ofDigitChars_cons, Nat.ofDigitChars_append, Nat.ofDigitChars_replicate_zero]
    exact Nat.ofDigitChars_toDigits (by decide) (by decide)
  simp [decimal, Scientific.ofDigits, belowOne, exponentValue, hdigits]

/-- A point among the digits, and perhaps an exponent. -/
def pointed (n before : Nat) (exponent : Option Int) (hn : n ≠ 0) (hbefore : 0 < before) :
    Numeral where
  whole := (Nat.toDigits 10 n).take before
  fraction := (Nat.toDigits 10 n).drop before
  exponent := exponent.map fun weight => (decide (weight < 0), Nat.toDigits 10 weight.natAbs)
  whole_digits := fun c hc => toDigits_digits n c (List.mem_of_mem_take hc)
  whole_ne_nil := by simp [Nat.toDigits_ne_nil, Nat.ne_of_gt hbefore]
  whole_head := by
    intro hhead
    rw [List.head?_take, if_neg (Nat.ne_of_gt hbefore)] at hhead
    exact absurd hhead (head?_toDigits hn)
  fraction_digits := fun c hc => toDigits_digits n c (List.mem_of_mem_drop hc)
  exponent_digits := by
    intro e he
    obtain ⟨weight, -, rfl⟩ := Option.mem_map.1 he
    exact ⟨toDigits_digits _, Nat.toDigits_ne_nil⟩

theorem text_pointed {n before : Nat} (hn : n ≠ 0) (hbefore : 0 < before)
    (hbehind : before < (Nat.toDigits 10 n).length) :
    (pointed n before none hn hbefore).text =
      (Nat.toDigits 10 n).take before ++ '.' :: (Nat.toDigits 10 n).drop before := by
  have hfraction : (Nat.toDigits 10 n).drop before ≠ [] := by
    rw [Ne, List.drop_eq_nil_iff]
    omega
  simp [text, fractionText, exponentText, pointed, hfraction]

theorem text_pointed_exponent {n : Nat} (weight : Int) (hn : n ≠ 0) :
    (pointed n 1 (some weight) hn Nat.one_pos).text =
      (match Nat.toDigits 10 n with
        | first :: second :: rest => first :: '.' :: second :: rest
        | short => short) ++
        'e' :: (if weight < 0 then '-' else '+') :: Nat.toDigits 10 weight.natAbs := by
  have hne : Nat.toDigits 10 n ≠ [] := Nat.toDigits_ne_nil
  rcases hdigits : Nat.toDigits 10 n with _ | ⟨first, _ | ⟨second, rest⟩⟩
  · exact absurd hdigits hne
  · simp [text, fractionText, exponentText, pointed, hdigits]
  · simp [text, fractionText, exponentText, pointed, hdigits]

theorem decimal_pointed (n before : Nat) (exponent : Option Int) (hn : n ≠ 0)
    (hbefore : 0 < before) :
    (pointed n before exponent hn hbefore).decimal =
      { digits := n
        exponent := exponent.getD 0 - (((Nat.toDigits 10 n).length - before : Nat) : Int) } := by
  have hexponent : (pointed n before exponent hn hbefore).exponentValue = exponent := by
    cases exponent with
    | none => rfl
    | some weight =>
        simp only [exponentValue, pointed, Option.map_some,
          Nat.ofDigitChars_toDigits (by decide : 1 < 10) (by decide), decide_eq_true_eq]
        congr 1
        split <;> omega
  rw [decimal, hexponent]
  simp only [Scientific.ofDigits, pointed, List.take_append_drop, List.length_drop]
  rw [Nat.ofDigitChars_toDigits (by decide) (by decide)]

/-- Zeros before the point and one behind it. -/
def withZeros (n zeros : Nat) (hn : n ≠ 0) : Numeral where
  whole := Nat.toDigits 10 n ++ List.replicate zeros '0'
  fraction := ['0']
  exponent := none
  whole_digits := by
    intro c hc
    rcases List.mem_append.1 hc with hdigit | hzero
    · exact toDigits_digits n c hdigit
    · rw [List.eq_of_mem_replicate hzero]
      rfl
  whole_ne_nil := by simp [Nat.toDigits_ne_nil]
  whole_head := by
    intro hhead
    rw [List.head?_append_of_ne_nil _ Nat.toDigits_ne_nil] at hhead
    exact absurd hhead (head?_toDigits hn)
  fraction_digits := by simp [Digits]
  exponent_digits := nofun

theorem text_withZeros (n zeros : Nat) (hn : n ≠ 0) :
    (withZeros n zeros hn).text =
      Nat.toDigits 10 n ++ List.replicate zeros '0' ++ ['.', '0'] := by
  simp [text, fractionText, exponentText, withZeros]

theorem decimal_withZeros (n zeros : Nat) (hn : n ≠ 0) :
    (withZeros n zeros hn).decimal = { digits := n * 10 ^ (zeros + 1), exponent := -1 } := by
  have hdigits : Nat.ofDigitChars 10 (Nat.toDigits 10 n ++ List.replicate zeros '0' ++ ['0']) 0 =
      n * 10 ^ (zeros + 1) := by
    rw [List.append_assoc, ← List.replicate_succ', Nat.ofDigitChars_append,
      Nat.ofDigitChars_toDigits (by decide) (by decide), Nat.ofDigitChars_replicate_zero,
      Nat.mul_comm]
  simp only [decimal, Scientific.ofDigits, withZeros, exponentValue, hdigits]
  rfl

/-- The text of a decimal, in each of its layouts, is that of a numeral for the same
number.  Zeros are only written behind the digits of a whole number, one of them behind
the point. -/
theorem exists_text_eq {s : Scientific} (h : s.digits ≠ 0) :
    ∃ n : Numeral, n.IsFractional ∧ s.text .json = n.text ∧
      ∃ zeros ≤ (s.exponent + 1).toNat,
        n.decimal = { digits := s.digits * 10 ^ zeros, exponent := s.exponent - zeros } := by
  obtain ⟨digits, exponent⟩ := s
  obtain ⟨length, hlength⟩ : ∃ length, (Nat.toDigits 10 digits).length = length := ⟨_, rfl⟩
  have hpos : 0 < length := hlength ▸ Nat.length_toDigits_pos
  have hplain {n : Numeral} (hn : n.decimal = { digits, exponent }) :
      ∃ zeros ≤ (exponent + 1).toNat,
        n.decimal = { digits := digits * 10 ^ zeros, exponent := exponent - zeros } :=
    ⟨0, Nat.zero_le _, by simpa using hn⟩
  simp only [Scientific.text, hlength]
  split
  · split
    · next hpoint =>
        have hexponent : -(((-(length + exponent)).toNat + length : Nat) : Int) = exponent := by
          omega
        refine ⟨belowOne (-(length + exponent)).toNat digits,
          .inl (by simp [belowOne, Nat.toDigits_ne_nil]), (text_belowOne _ _).symm, hplain ?_⟩
        rw [decimal_belowOne, hlength, hexponent]
    split
    · next hone hpoint =>
        have hbefore : 0 < (length + exponent).toNat := by omega
        have hbehind : (length + exponent).toNat < (Nat.toDigits 10 digits).length := by omega
        have hexponent : 0 - ((length - (length + exponent).toNat : Nat) : Int) = exponent := by
          omega
        refine ⟨pointed digits (length + exponent).toNat none h hbefore, .inl ?_,
          (text_pointed h hbefore hbehind).symm, hplain ?_⟩
        · rw [pointed, Ne, List.drop_eq_nil_iff]
          omega
        · rw [decimal_pointed, hlength, Option.getD_none, hexponent]
    · next hone hpoint =>
        have hexponent : exponent - ((exponent.toNat + 1 : Nat) : Int) = -1 := by omega
        refine ⟨withZeros digits exponent.toNat h, .inl (by simp [withZeros]),
          (text_withZeros _ _ _).symm, exponent.toNat + 1, by omega, ?_⟩
        rw [decimal_withZeros, hexponent]
  · have hexponent : length + exponent - 1 - ((length - 1 : Nat) : Int) = exponent := by omega
    refine ⟨pointed digits 1 (some (length + exponent - 1)) h Nat.one_pos,
      .inr (by simp [pointed]), (text_pointed_exponent _ _).symm, hplain ?_⟩
    rw [decimal_pointed, hlength, Option.getD_some, hexponent]

end Numeral

/-! ## The numeral of a number -/

/-- The numeral of zero as a number that is no integer. -/
def Numeral.zero : Numeral where
  whole := ['0']
  fraction := ['0']
  exponent := none
  whole_digits := by simp [Digits]
  whole_ne_nil := by simp
  whole_head := fun _ => rfl
  fraction_digits := by simp [Digits]
  exponent_digits := nofun

/-- A finite number is written as a sign and a numeral with a point or an exponent, which
stands for the number. -/
theorem exists_numeral (m : Magnitude) :
    ∃ n : Numeral, n.IsFractional ∧
      (∀ negative, (Binary64.finite negative m).text? =
        some ((if negative then ['-'] else []) ++ n.text)) ∧
      (∀ negative, n.decimal.toBinary64 negative = .finite negative m) ∧
      (m.significand ≠ 0 → ∃ zeros ≤ (m.shortest.exponent + 1).toNat, n.decimal =
        { digits := m.shortest.digits * 10 ^ zeros
          exponent := m.shortest.exponent - zeros }) := by
  by_cases hm : m.significand = 0
  · refine ⟨.zero, .inl (by simp [Numeral.zero]), fun negative => ?_, fun negative => ?_,
      (absurd hm ·)⟩
    · cases negative <;> simp only [Binary64.text?, if_pos hm] <;> rfl
    · rw [Magnitude.eq_zero_of_significand hm]
      rfl
  · obtain ⟨n, hn, htext, zeros, hzeros, hdecimal⟩ :=
      Numeral.exists_text_eq (Magnitude.shortest_digits_ne_zero hm)
    refine ⟨n, hn, fun negative => ?_, fun negative => ?_, fun _ => ⟨zeros, hzeros, hdecimal⟩⟩
    · rw [Binary64.text?, if_neg hm, htext]
      cases negative <;> rfl
    · rw [hdecimal, Scientific.toBinary64_mul_pow, Int.sub_add_cancel]
      exact m.toBinary64_shortest

/-- The shortest text of a finite number is read as that number again. -/
def ReadsBack (x : Binary64) : Prop :=
  ∃ text, x.text? = some text ∧ readNumber? text = some (.number x, [])

section ReadsBack

variable {n : Numeral} {negative : Bool} {m : Magnitude}

/-- A number reads back if the two roundings of its numeral end with it. -/
theorem readsBack_iff (hn : n.IsFractional)
    (htext : (Binary64.finite negative m).text? =
      some ((if negative then ['-'] else []) ++ n.text)) :
    ReadsBack (.finite negative m) ↔
      roundTwice negative (decimalOf n.whole n.fraction (n.exponentValue.getD 0)) =
        .finite negative m := by
  have hread := readNumber?_text n negative .nil
  rw [List.append_nil, numberOf?_fractional hn] at hread
  constructor
  · rintro ⟨text, htext', hback⟩
    obtain rfl := Option.some.inj (htext.symm.trans htext')
    rw [hread] at hback
    obtain ⟨v, hv, heq⟩ := Option.map_eq_some_iff.1 hback
    cases heq
    unfold finite? at hv
    split at hv
    · exact Value.number.inj (Option.some.inj hv)
    · cases hv
  · intro hvalue
    rw [hvalue] at hread
    exact ⟨_, htext, hread⟩

theorem isWritten_number {x : Binary64} (hx : ReadsBack x) :
    IsWritten (.number x) (scalarText (.number x)) := by
  obtain ⟨_, htext, -⟩ := id hx
  cases x with
  | nan => cases htext
  | infinite negative => cases htext
  | finite negative m =>
      obtain ⟨n, hn, htext, -, -⟩ := exists_numeral m
      refine ⟨negative, n, ?_, ?_⟩
      · rw [scalarText, htext, Option.getD_some]
      · rw [numberOf?_fractional hn, (readsBack_iff hn (htext negative)).1 hx]
        rfl

/-- A number reads back if reading does not have to round the digits of its text. -/
theorem readsBack_of_numeral (hn : n.IsFractional)
    (htext : (Binary64.finite negative m).text? =
      some ((if negative then ['-'] else []) ++ n.text))
    (hvalue : n.decimal.toBinary64 negative = .finite negative m)
    (hdigits : n.decimal.digits < 2 ^ 53) (hexponent : n.decimal.exponent.natAbs ≤ 22) :
    ReadsBack (.finite negative m) := by
  have hdecimal : decimalOf n.whole n.fraction (n.exponentValue.getD 0) = n.decimal :=
    decimalOf_eq_ofDigits (Nat.lt_trans hdigits (by decide))
  rw [readsBack_iff hn htext, hdecimal, roundTwice_eq_toBinary64 negative hdigits hexponent,
    hvalue]

/-- The zeros read back, each with its sign. -/
theorem readsBack_zero (negative : Bool) : ReadsBack (.finite negative .zero) :=
  readsBack_of_numeral (n := .zero) (.inl (by simp [Numeral.zero])) (by cases negative <;> rfl) rfl
    (by decide) (by decide)

/-- A number reads back if its shortest digits, with the zeros that may be written behind
them, fit a significand, and not more than 22 of them stand behind the point. -/
theorem readsBack_of_short {m : Magnitude} (negative : Bool)
    (hdigits : m.shortest.digits * 10 ^ (m.shortest.exponent + 1).toNat < 2 ^ 53)
    (hexponent : -22 ≤ m.shortest.exponent) : ReadsBack (.finite negative m) := by
  by_cases hm : m.significand = 0
  · rw [Magnitude.eq_zero_of_significand hm]
    exact readsBack_zero negative
  obtain ⟨n, hn, htext, hvalue, hshortest⟩ := exists_numeral m
  obtain ⟨zeros, hzeros, hdecimal⟩ := hshortest hm
  refine readsBack_of_numeral hn (htext negative) (hvalue negative) ?_ ?_
  · rw [hdecimal]
    exact Nat.lt_of_le_of_lt (Nat.mul_le_mul_left _ (Nat.pow_le_pow_right (by decide) hzeros))
      hdigits
  · have hpos := Nat.pos_of_ne_zero (Magnitude.shortest_digits_ne_zero hm)
    have hpow : 10 ^ (m.shortest.exponent + 1).toNat < 10 ^ 16 :=
      Nat.lt_of_le_of_lt (Nat.le_mul_of_pos_left _ hpos) (Nat.lt_trans hdigits (by decide))
    have hlt := (Nat.pow_lt_pow_iff_right (by decide)).1 hpow
    rw [hdecimal]
    dsimp only
    omega

/-- `9.204938554384977` is read as `9.204938554384976`: its digits need 54 bits, and half of
the last one is rounded to even. -/
example : ¬ReadsBack (.finite false { significand := 5181919730437062, exponent := 1025 }) := by
  let n : Numeral := .pointed 9204938554384977 1 none (by decide) (by decide)
  have hdecimal : decimalOf n.whole n.fraction (n.exponentValue.getD 0) =
      { digits := 9204938554384977, exponent := -15 } := by
    decide +kernel
  have hread : roundTwice false { digits := 9204938554384977, exponent := -15 } =
      .finite false { significand := 5181919730437061, exponent := 1025 } := by
    rw [roundTwice, scaleDown]
    decide +kernel
  rw [@readsBack_iff n false _ (.inl (by decide +kernel)) (by decide +kernel), hdecimal, hread]
  decide

end ReadsBack

end JsonPath.Json
