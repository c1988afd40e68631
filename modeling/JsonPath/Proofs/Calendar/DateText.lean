import JsonPath.Eval.Semantics
import JsonPath.Proofs.Calendar.Written
import JsonPath.Proofs.Json.RoundTrip

/-!
# The text of a date-time reads back

JSON has no dates, so that a date-time is printed as a string.  Where RFC 3339 can express it
(the years from 0 on, offsets of less than 24 hours) the string is a text in that form, and
`.datetime()` makes the same date-time of it: not only the same instant, but also the local
fields, the offset and every digit of the fraction.

A text is first read as RFC 3339, and the form that is written is that one
(`Rfc3339.read?_rfc3339`); the readers of other forms are not asked.  Second 60 is never
written: it has been read as the last nanosecond before it.
-/

namespace JsonPath

namespace DateTime

/-- The fraction of a second, if there is one. -/
def fractionText (nanosecond : Nat) : List Char :=
  if nanosecond = 0 then [] else '.' :: fractionDigits nanosecond

/-- The offset as RFC 3339 has it. -/
def offsetText (o : UtcOffset) : List Char :=
  if o.minutes = 0 then
    ['Z']
  else
    sign o :: (padded 2 o.hours ++ ':' :: padded 2 o.minutesPastHour)

theorem rfc3339_eq (d : DateTime) :
    d.rfc3339 = padded 4 d.date.year.natAbs ++ '-' :: (padded 2 d.date.month ++
      '-' :: (padded 2 d.date.day ++ 'T' :: (padded 2 d.time.hour ++
      ':' :: (padded 2 d.time.minute ++ ':' :: (padded 2 d.time.second ++
      (fractionText d.time.nanosecond ++ offsetText d.offset)))))) := by
  simp only [rfc3339, fractionText, offsetText, List.append_assoc, List.cons_append]

end DateTime

namespace Rfc3339

open DateTime

theorem readOffset?_offsetText {o : UtcOffset} (h : o.hours ≤ 23) :
    readOffset? (offsetText o) = some o := by
  unfold offsetText
  split
  · next hzero => exact congrArg some (UtcOffset.eq_of_minutes hzero.symm)
  · next hzero =>
      have hhours : o.hours < 100 := Nat.lt_trans o.hours_lt (by decide)
      have hminutes : o.minutesPastHour < 100 := Nat.lt_trans o.minutesPastHour_lt (by decide)
      have hend : takeDigits? 2 (padded 2 o.minutesPastHour) = some (o.minutesPastHour, []) := by
        simpa using takeDigits?_pair hminutes []
      rw [readOffset?]
      · refine Option.bind_eq_some_iff.2 ⟨_, takeSign?_sign o _, ?_⟩
        refine Option.bind_eq_some_iff.2 ⟨_, takeDigits?_pair hhours _, ?_⟩
        refine Option.bind_eq_some_iff.2 ⟨_, takeChar?_self ':' _, ?_⟩
        refine Option.bind_eq_some_iff.2 ⟨_, hend, ?_⟩
        exact (if_pos ⟨rfl, h⟩).trans o.ofParts?_parts
      · simp
      · simp

/-- What stands behind the seconds is neither a digit nor a point. -/
theorem offsetText_head (o : UtcOffset) :
    ∀ c ∈ (offsetText o).head?, c.isDigit = false ∧ c ≠ '.' := by
  intro c hc
  unfold offsetText sign at hc
  split at hc
  · cases hc
    decide
  · split at hc <;> cases hc <;> decide

/-- Behind the seconds is the offset, or a point and a fraction before it. -/
theorem fractionText_cases {nanosecond : Nat} (h : nanosecond < 1000000000) (o : UtcOffset) :
    (nanosecond = 0 ∧ takeChar? '.' (fractionText nanosecond ++ offsetText o) = none ∧
      fractionText nanosecond ++ offsetText o = offsetText o) ∨
    ∃ rest, takeChar? '.' (fractionText nanosecond ++ offsetText o) = some rest ∧
      takeFraction? rest = some (nanosecond, offsetText o) := by
  unfold fractionText
  split
  · next hzero =>
      refine .inl ⟨hzero, ?_, rfl⟩
      rw [List.nil_append]
      cases htext : offsetText o with
      | nil => rfl
      | cons c rest => exact if_neg (offsetText_head o c (by simp [htext])).2.symm
  · next hpos =>
      refine .inr ⟨fractionDigits nanosecond ++ offsetText o, takeChar?_self _ _, ?_⟩
      exact takeFraction?_fractionDigits hpos h fun c hc => (offsetText_head o c hc).1

/-- Each piece of the text is what the reader wants next. -/
theorem readFields?_rfc3339 {d : DateTime} (hyear : 0 ≤ d.date.year)
    (hoffset : d.offset.hours ≤ 23) :
    readFields? d.rfc3339 = some
      { date := d.date
        hour := some d.time.hour
        minute := some d.time.minute
        second := some d.time.second
        nanosecond := some d.time.nanosecond
        offset := some d.offset } := by
  have hmonth : d.date.month < 100 := Nat.lt_of_le_of_lt d.date.month_bounds.2 (by decide)
  have hday : d.date.day < 100 := Nat.lt_of_le_of_lt d.date.day_le (by decide)
  have hhour : d.time.hour < 100 := Nat.lt_trans d.time.hour_lt (by decide)
  have hminute : d.time.minute < 100 := Nat.lt_trans d.time.minute_lt (by decide)
  have hsecond : d.time.second < 100 := Nat.lt_trans d.time.second_lt (by decide)
  have hdate : Date.ofParts? d.date.year.natAbs d.date.month d.date.day = some d.date := by
    rw [Int.natAbs_of_nonneg hyear]
    exact d.date.ofParts?_parts
  have hascii : (guard ('T'.toNat < 128) : Option Unit) = some () := if_pos (by decide)
  rw [rfc3339_eq, readFields?]
  refine Option.bind_eq_some_iff.2 ⟨_, d.date.takeDigits?_year _, ?_⟩
  refine Option.bind_eq_some_iff.2 ⟨_, takeChar?_self '-' _, ?_⟩
  refine Option.bind_eq_some_iff.2 ⟨_, takeDigits?_pair hmonth _, ?_⟩
  refine Option.bind_eq_some_iff.2 ⟨_, takeChar?_self '-' _, ?_⟩
  refine Option.bind_eq_some_iff.2 ⟨_, takeDigits?_pair hday _, ?_⟩
  refine Option.bind_eq_some_iff.2 ⟨'T', rfl, ?_⟩
  refine Option.bind_eq_some_iff.2 ⟨(), hascii, ?_⟩
  refine Option.bind_eq_some_iff.2 ⟨_, takeDigits?_pair hhour _, ?_⟩
  refine Option.bind_eq_some_iff.2 ⟨_, takeChar?_self ':' _, ?_⟩
  refine Option.bind_eq_some_iff.2 ⟨_, takeDigits?_pair hminute _, ?_⟩
  refine Option.bind_eq_some_iff.2 ⟨_, takeChar?_self ':' _, ?_⟩
  refine Option.bind_eq_some_iff.2 ⟨_, takeDigits?_pair hsecond _, ?_⟩
  dsimp only
  rcases fractionText_cases d.time.nanosecond_lt d.offset with
    ⟨hzero, hnone, htext⟩ | ⟨rest, hpoint, hfraction⟩
  · rw [hnone, htext, hzero]
    refine Option.bind_eq_some_iff.2 ⟨_, rfl, ?_⟩
    refine Option.bind_eq_some_iff.2 ⟨_, readOffset?_offsetText hoffset, ?_⟩
    exact Option.bind_eq_some_iff.2 ⟨_, hdate, rfl⟩
  · rw [hpoint]
    refine Option.bind_eq_some_iff.2 ⟨_, hfraction, ?_⟩
    refine Option.bind_eq_some_iff.2 ⟨_, readOffset?_offsetText hoffset, ?_⟩
    exact Option.bind_eq_some_iff.2 ⟨_, hdate, rfl⟩

/-- The second is never 60, so that the text is not taken for a leap second. -/
theorem read?_rfc3339 {d : DateTime} (hyear : 0 ≤ d.date.year) (hoffset : d.offset.hours ≤ 23) :
    read? d.rfc3339 = some d := by
  have hsecond : (some d.time.second == some 60) = false :=
    beq_false_of_ne fun h => absurd (Option.some.inj h) (Nat.ne_of_lt d.time.second_lt)
  rw [read?, readFields?_rfc3339 hyear hoffset, Option.bind_some, Fields.zoned?]
  dsimp only
  rw [hsecond, Bool.and_false, if_neg Bool.false_ne_true, Fields.time?]
  dsimp only
  rw [d.time.ofParts?_parts]
  rfl

end Rfc3339

theorem DateTime.text_eq_rfc3339 {d : DateTime} (hyear : 0 ≤ d.date.year)
    (hoffset : d.offset.hours ≤ 23) : d.text = d.rfc3339 := by
  rw [text, if_pos]
  simp [hasRfc3339Form, hyear, hoffset]

theorem apply_dateTime_of_read {template : Option DateTemplate} {text : String} {d : DateTime}
    (h : readDateTime? template text.toList = some d) (mode : Mode) (s : Scope) :
    (Accessor.dateTime template).apply mode s (.string text) = .single (.dateTime d) := by
  have hread : toDateTime template (.string text) = .ok (.dateTime d) := by
    rw [toDateTime, h]
  show onItems mode (toDateTime template) (.string text) = _
  cases mode <;> simp only [onItems, hread, Sequence.ofResult]

/-- The JSON of a date-time that RFC 3339 can express is a string, and on that string
`.datetime()` gives the date-time back, equal to what was printed in all its fields.  This is
so of every date-time, from whatever text and by whatever template it was read. -/
theorem dateTime_survives_json (d : DateTime) (hyear : 0 ≤ d.date.year)
    (hoffset : d.offset.hours ≤ 23) :
    ∃ t : String, t.toList = d.rfc3339 ∧
      Json.compact (.dateTime d) = Json.compact (.string t) ∧
      Json.read? (Json.compact (.dateTime d)) = some (.string t) ∧
      (∀ mode s, (Accessor.dateTime none).apply mode s (.string t) = .single (.dateTime d)) ∧
      Value.compareWith .equal (.dateTime d) (.dateTime d) = .holds := by
  have htext : (String.ofList d.rfc3339).toList = d.rfc3339 := String.toList_ofList
  have hcompact : Json.compact (.dateTime d) =
      Json.compact (.string (String.ofList d.rfc3339)) := by
    show Json.quoted d.text = Json.quoted (String.ofList d.rfc3339).toList
    rw [DateTime.text_eq_rfc3339 hyear hoffset, htext]
  have hread : readDateTime? none (String.ofList d.rfc3339).toList = some d := by
    rw [readDateTime?, htext, Rfc3339.read?_rfc3339 hyear hoffset]
    rfl
  refine ⟨String.ofList d.rfc3339, htext, hcompact, ?_, apply_dateTime_of_read hread, ?_⟩
  · rw [hcompact]
    exact Json.read?_of_spells (.string _) (Nat.zero_le _) (Json.spells_compact (.string _))
  · have horder : Value.order? (.dateTime d) (.dateTime d) = some .eq :=
      congrArg some Std.ReflCmp.compare_self
    rw [Value.compareWith, horder]
    rfl

/-- A leap second of local time, which is read as the last nanosecond before it. -/
theorem dateTime_survives_json_leap_second :
    let reads := fun (text : String) (d : DateTime) =>
      ∀ mode s, (Accessor.dateTime none).apply mode s (.string text) = .single (.dateTime d)
    ∃ d : DateTime, reads "2016-12-31T18:29:60-05:30" d ∧
      0 ≤ d.date.year ∧ d.offset.hours ≤ 23 ∧
      Json.read? (Json.compact (.dateTime d)) =
        some (.string "2016-12-31T18:29:59.999999999-05:30") ∧
      reads "2016-12-31T18:29:59.999999999-05:30" d ∧
      Value.compareWith .equal (.dateTime d) (.dateTime d) = .holds := by
  intro reads
  have hread : (readDateTime? none "2016-12-31T18:29:60-05:30".toList).any (fun d =>
      decide (0 ≤ d.date.year ∧ d.offset.hours ≤ 23 ∧
        d.rfc3339 = "2016-12-31T18:29:59.999999999-05:30".toList)) = true := by
    decide +kernel
  obtain ⟨d, hd, hfields⟩ := (Option.any_eq_true _ _).1 hread
  obtain ⟨hyear, hoffset, htext⟩ := of_decide_eq_true hfields
  obtain ⟨t, ht, -, hjson, hback, hequal⟩ := dateTime_survives_json d hyear hoffset
  obtain rfl := String.toList_inj.1 (ht.trans htext)
  exact ⟨d, apply_dateTime_of_read hd, hyear, hoffset, hjson, hback, hequal⟩

end JsonPath
