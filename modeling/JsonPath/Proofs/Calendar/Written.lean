import JsonPath.Calendar.Fields
import JsonPath.Text.Digits
import Mathlib.Data.List.TakeWhile

/-!
# Written fields read back

A field of a date-time is written with a fixed number of digits, so that reading it stops
where it ends, whatever stands behind it.  Only a fraction of a second has no fixed length:
its trailing zeros are left out, and it ends where no digit follows.

The parts of a date-time carry the proofs that they exist, and so the parts that are read
make up the same date, time and offset again.
-/

namespace JsonPath

/-! ## Numbers with a fixed number of digits -/

theorem takeDigits?_append (digits rest : List Char) (h : ∀ c ∈ digits, c.isDigit = true) :
    takeDigits? digits.length (digits ++ rest) =
      some (Nat.ofDigitChars 10 digits 0, rest) := by
  have hall : digits.all Char.isDigit = true := List.all_eq_true.2 h
  simp [takeDigits?, hall]

namespace DateTime

theorem isDigit_of_mem_padded {width n : Nat} {c : Char} (h : c ∈ padded width n) :
    c.isDigit = true := by
  rcases List.mem_append.1 h with hzero | hdigit
  · rw [List.eq_of_mem_replicate hzero]
    rfl
  · exact Nat.isDigit_of_mem_toDigits (by decide) (by decide) hdigit

theorem length_padded {width n : Nat} (hwidth : 0 < width) (hn : n < Nat.pow 10 width) :
    (padded width n).length = width := by
  have hle : (Nat.toDigits 10 n).length ≤ width :=
    (Nat.length_toDigits_le_iff (by decide) hwidth).2 hn
  simp only [padded, List.length_append, List.length_replicate]
  omega

theorem ofDigitChars_padded (width n : Nat) :
    Nat.ofDigitChars 10 (padded width n) 0 = n := by
  rw [padded, Nat.ofDigitChars_append, Nat.ofDigitChars_replicate_zero, Nat.mul_zero,
    Nat.ofDigitChars_ten_toDigits]

/-- A number that fits its width is read back, and nothing behind it. -/
theorem takeDigits?_padded {width n : Nat} (hwidth : 0 < width) (hn : n < Nat.pow 10 width)
    (rest : List Char) : takeDigits? width (padded width n ++ rest) = some (n, rest) := by
  have hread := takeDigits?_append (padded width n) rest fun c hc => isDigit_of_mem_padded hc
  rwa [length_padded hwidth hn, ofDigitChars_padded] at hread

theorem takeDigits?_pair {n : Nat} (h : n < 100) (rest : List Char) :
    takeDigits? 2 (padded 2 n ++ rest) = some (n, rest) :=
  takeDigits?_padded (by decide) h rest

end DateTime

theorem takeChar?_self (c : Char) (rest : List Char) : takeChar? c (c :: rest) = some rest :=
  if_pos rfl

/-! ## Fractions of a second -/

namespace DateTime

/-- The decimals that are left out are zeros. -/
theorem exists_padded_eq (n : Nat) :
    ∃ zeros, padded 9 n = fractionDigits n ++ List.replicate zeros '0' := by
  let digits := (padded 9 n).reverse
  have hzeros : digits.takeWhile (· == '0') =
      List.replicate (digits.takeWhile (· == '0')).length '0' := by
    rw [List.eq_replicate_iff]
    exact ⟨rfl, fun c hc => by simpa using List.mem_takeWhile_imp hc⟩
  refine ⟨(digits.takeWhile (· == '0')).length, ?_⟩
  have hsplit : digits.takeWhile (· == '0') ++ digits.dropWhile (· == '0') = digits :=
    List.takeWhile_append_dropWhile
  rw [← List.reverse_replicate, ← hzeros, fractionDigits, ← List.reverse_append, hsplit,
    List.reverse_reverse]

/-- A fraction is read up to the first character that is not a digit, and the zeros that were
left out are supplied. -/
theorem takeFraction?_fractionDigits {n : Nat} (hpos : n ≠ 0) (hn : n < 1000000000)
    {rest : List Char} (hrest : ∀ c ∈ rest.head?, c.isDigit = false) :
    takeFraction? (fractionDigits n ++ rest) = some (n, rest) := by
  obtain ⟨zeros, hzeros⟩ := exists_padded_eq n
  have hlength : (fractionDigits n).length + zeros = 9 := by
    have hnine : (padded 9 n).length = 9 := length_padded (by decide) hn
    simpa [hzeros] using hnine
  have hvalue : Nat.ofDigitChars 10 (fractionDigits n ++ List.replicate zeros '0') 0 = n := by
    rw [← hzeros, ofDigitChars_padded]
  have hdigits : ∀ c ∈ fractionDigits n, c.isDigit = true := by
    intro c hc
    have hmem : c ∈ padded 9 n := by
      rw [hzeros]
      exact List.mem_append_left _ hc
    exact isDigit_of_mem_padded hmem
  have hsome : (fractionDigits n).isEmpty = false := by
    rw [List.isEmpty_eq_false_iff]
    intro hempty
    rw [hempty, List.nil_append, Nat.ofDigitChars_replicate_zero, Nat.mul_zero] at hvalue
    exact hpos hvalue.symm
  have hnine : (fractionDigits n ++ List.replicate 9 '0').take 9 =
      fractionDigits n ++ List.replicate zeros '0' := by
    have hcount : 9 - (fractionDigits n).length = zeros := by omega
    rw [List.take_append, List.take_of_length_le (by omega), List.take_replicate, hcount,
      Nat.min_eq_left (by omega)]
  rw [takeFraction?, takeWhile_run hdigits hrest, dropWhile_run hdigits hrest]
  simp only [hsome, hnine, hvalue]
  rfl

end DateTime

/-! ## Dates, times and offsets from their parts -/

namespace Date

theorem ofParts?_parts (d : Date) : ofParts? d.year d.month d.day = some d :=
  dif_pos ⟨d.year_bounds, d.month_bounds, d.day_bounds⟩

theorem takeDigits?_year (d : Date) (rest : List Char) :
    takeDigits? 4 (DateTime.padded 4 d.year.natAbs ++ rest) = some (d.year.natAbs, rest) := by
  have hbounds := d.year_bounds
  have hyear : d.year.natAbs < 10000 := by omega
  exact DateTime.takeDigits?_padded (by decide) hyear rest

theorem day_le (d : Date) : d.day ≤ 31 := by
  refine Nat.le_trans d.day_bounds.2 ?_
  unfold daysInMonth
  split
  · split <;> decide
  all_goals decide

end Date

theorem TimeOfDay.ofParts?_parts (t : TimeOfDay) :
    ofParts? t.hour t.minute t.second t.nanosecond = some t :=
  dif_pos ⟨t.hour_lt, t.minute_lt, t.second_lt, t.nanosecond_lt⟩

namespace UtcOffset

theorem hours_lt (o : UtcOffset) : o.hours < 26 := by
  have hbounds := o.bounds
  rw [hours]
  omega

theorem minutesPastHour_lt (o : UtcOffset) : o.minutesPastHour < 60 :=
  Nat.mod_lt _ (by decide)

theorem eq_of_minutes {o p : UtcOffset} (h : o.minutes = p.minutes) : o = p := by
  cases o
  cases p
  cases h
  rfl

theorem ofParts?_eq_some {negative : Bool} {hours minutes : Nat} {o : UtcOffset}
    (hhours : hours < 26) (hminutes : minutes < 60)
    (h : (if negative = true then -((hours * 60 + minutes : Nat) : Int)
      else (hours * 60 + minutes : Nat)) = o.minutes) :
    ofParts? negative hours minutes = some o := by
  rw [ofParts?, dif_pos ⟨hhours, hminutes⟩]
  exact congrArg some (eq_of_minutes h)

/-- The sign is that of the whole offset, also where there are no whole hours. -/
theorem ofParts?_parts (o : UtcOffset) :
    ofParts? (decide (o.minutes < 0)) o.hours o.minutesPastHour = some o := by
  have htotal : o.hours * 60 + o.minutesPastHour = o.minutes.natAbs := by
    rw [hours, minutesPastHour]
    omega
  refine ofParts?_eq_some o.hours_lt o.minutesPastHour_lt ?_
  simp only [htotal, decide_eq_true_eq]
  split <;> omega

end UtcOffset

theorem takeSign?_sign (o : UtcOffset) (rest : List Char) :
    takeSign? (DateTime.sign o :: rest) = some (decide (o.minutes < 0), rest) := by
  by_cases h : o.minutes < 0
  · simp [DateTime.sign, h, takeSign?]
  · simp [DateTime.sign, h, takeSign?]

end JsonPath
