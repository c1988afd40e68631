import JsonPath.Calendar.Rfc3339
import JsonPath.Calendar.Template
import JsonPath.Proofs.Calendar.Written

/-!
# Templates read back what they spell

A template says how a date-time is written as well as how it is read: each field with all its
digits, the offset hour with the sign of the offset, and each literal character as it is.  The
items are the ones that a cut from left to right finds if it takes the longest field at each
place (`TemplateItem.Cuts`, `ofChars_eq_of_cuts`).

* Each field is as long as the reader of the field wants it, so that the items are read one after
  the other in any order, and whatever the characters between them are (`readField_written`,
  `readItems_written`).
* What has been read is then a whole date, and the fields of the time and the offset that the
  template names (`toFields?_of`, `time?_fieldsOf`).
* Of the fields that are missing the time is midnight and the offset UTC (`resolve_fieldsOf`),
  which is all of the date-time if there was no more to it (`DateTime.only_eq`).
-/

namespace JsonPath

/-! ## The items of a template -/

namespace TemplateItem

/-- The cutting of a template from left to right: at each place the longest field that is
spelled there, and a literal character where none is. -/
inductive Cuts : List Char → List TemplateItem → Prop
  | nil : Cuts [] []
  | field {spelling rest : List Char} {component : Component} {items : List TemplateItem}
      (hspelling : (spelling, component) ∈ Component.spellings)
      (hlongest : ∀ other ∈ Component.spellings, other.1 <+: spelling ++ rest →
        other.1.length ≤ spelling.length)
      (h : Cuts rest items) : Cuts (spelling ++ rest) (.field component :: items)
  | literal {c : Char} {rest : List Char} {items : List TemplateItem}
      (hnone : ∀ other ∈ Component.spellings, ¬other.1 <+: c :: rest)
      (h : Cuts rest items) : Cuts (c :: rest) (.literal c :: items)

/-- The first field of the table that fits is the longest one. -/
theorem leadingField?_longest {spelling rest : List Char} {component : Component}
    (hspelling : (spelling, component) ∈ Component.spellings)
    (hlongest : ∀ other ∈ Component.spellings, other.1 <+: spelling ++ rest →
      other.1.length ≤ spelling.length) :
    leadingField? (spelling ++ rest) = some (component, spelling.length) := by
  simp only [Component.spellings, List.mem_cons, Prod.mk.injEq, List.not_mem_nil, or_false]
    at hspelling
  rcases hspelling with ⟨rfl, rfl⟩ | ⟨rfl, rfl⟩ | ⟨rfl, rfl⟩ | ⟨rfl, rfl⟩ | ⟨rfl, rfl⟩ |
    ⟨rfl, rfl⟩ | ⟨rfl, rfl⟩ | ⟨rfl, rfl⟩ | ⟨rfl, rfl⟩ | ⟨rfl, rfl⟩
  case inr.inr.inr.inr.inr.inr.inl =>
    -- the hour alone is spelled in two ways of which one begins the other
    have hshort : ¬['H', 'H', '2', '4'] <+: ['H', 'H'] ++ rest := fun hprefix =>
      absurd (hlongest (['H', 'H', '2', '4'], .hour) (by decide) hprefix) (by decide)
    have hbool : ['H', 'H', '2', '4'].isPrefixOf (['H', 'H'] ++ rest) = false := by
      rw [← Bool.not_eq_true, List.isPrefixOf_iff_prefix]
      exact hshort
    rw [leadingField?, Component.spellings]
    simp only [List.findSome?_cons, hbool]
    rfl
  all_goals rfl

theorem leadingField?_eq_none {text : List Char}
    (h : ∀ other ∈ Component.spellings, ¬other.1 <+: text) : leadingField? text = none := by
  rw [leadingField?, List.findSome?_eq_none_iff]
  intro other hother
  exact if_neg fun hprefix => h other hother (List.isPrefixOf_iff_prefix.1 hprefix)

theorem ofChars_skip (skip : Nat) (text : List Char) :
    ofChars skip text = ofChars 0 (text.drop skip) := by
  induction skip generalizing text with
  | zero => rfl
  | succ skip ih =>
      cases text with
      | nil => rfl
      | cons c rest => exact ih rest

theorem spelling_ne_nil {entry : List Char × Component} (h : entry ∈ Component.spellings) :
    entry.1 ≠ [] := by
  revert entry
  decide

theorem ofChars_eq_of_cuts {text : List Char} {items : List TemplateItem} (h : Cuts text items) :
    ofChars 0 text = items := by
  induction h with
  | nil => rfl
  | @field spelling rest component items hspelling hlongest _ ih =>
      have hleading := leadingField?_longest hspelling hlongest
      cases spelling with
      | nil => exact absurd rfl (spelling_ne_nil hspelling)
      | cons c tail =>
          rw [List.cons_append, ofChars, ← List.cons_append, hleading]
          simp only [List.length_cons, Nat.add_sub_cancel]
          rw [ofChars_skip, List.drop_left, ih]
  | literal hnone _ ih =>
      rw [ofChars, leadingField?_eq_none hnone]
      exact congrArg _ ih

end TemplateItem

/-! ## What a template spells -/

/-- A field of a date-time with all its digits; the offset hour has the sign of the offset. -/
def Component.written (d : DateTime) : Component → List Char
  | year => DateTime.padded 4 d.date.year.natAbs
  | month => DateTime.padded 2 d.date.month
  | day => DateTime.padded 2 d.date.day
  | hour => DateTime.padded 2 d.time.hour
  | minute => DateTime.padded 2 d.time.minute
  | second => DateTime.padded 2 d.time.second
  | fraction => DateTime.padded 9 d.time.nanosecond
  | offsetHour => DateTime.sign d.offset :: DateTime.padded 2 d.offset.hours
  | offsetMinute => DateTime.padded 2 d.offset.minutesPastHour

/-- A field as it is written, a literal character as it is. -/
def TemplateItem.written (d : DateTime) : TemplateItem → List Char
  | field component => component.written d
  | literal c => [c]

/-- Whether a field is among the items. -/
def TemplateItem.names (items : List TemplateItem) (component : Component) : Bool :=
  items.contains (.field component)

theorem TemplateItem.names_literal (c : Char) (items : List TemplateItem) :
    names (.literal c :: items) = names items := by
  funext other
  simp [names]

theorem TemplateItem.names_field (component : Component) (items : List TemplateItem) :
    names (.field component :: items) = fun other => other == component || names items other := by
  funext other
  have hfield : (TemplateItem.field other == .field component) = (other == component) := by
    by_cases h : other = component <;> simp [h]
  rw [names, List.contains_cons, hfield]
  rfl

/-! ## Reading the fields -/

namespace DateTemplate

/-- What has been read of a date-time when some fields have been. -/
def Reading.of (d : DateTime) (named : Component → Bool) : Reading where
  year := if named .year then some d.date.year else none
  month := if named .month then some d.date.month else none
  day := if named .day then some d.date.day else none
  hour := if named .hour then some d.time.hour else none
  minute := if named .minute then some d.time.minute else none
  second := if named .second then some d.time.second else none
  offsetHour :=
    if named .offsetHour then some (decide (d.offset.minutes < 0), d.offset.hours) else none
  offsetMinute := if named .offsetMinute then some d.offset.minutesPastHour else none

theorem takeTwo?_padded {least greatest n : Nat} (h : least ≤ n ∧ n ≤ greatest)
    (hgreatest : greatest < 100) (rest : List Char) :
    takeTwo? least greatest (DateTime.padded 2 n ++ rest) = some (n, rest) := by
  have hn : n < 100 := Nat.lt_of_le_of_lt h.2 hgreatest
  refine Option.bind_eq_some_iff.2 ⟨_, DateTime.takeDigits?_pair hn rest, ?_⟩
  exact if_pos h

theorem takeSign?_digit {c : Char} (h : c.isDigit = true) (rest : List Char) :
    takeSign? (c :: rest) = none := by
  have hplus : c ≠ '+' := by
    rintro rfl
    cases h
  have hminus : c ≠ '-' := by
    rintro rfl
    cases h
  simp [takeSign?, hplus, hminus]

/-- A year is written without a sign. -/
theorem takeSign?_year (d : DateTime) (rest : List Char) :
    takeSign? (DateTime.padded 4 d.date.year.natAbs ++ rest) = none := by
  have hsome : DateTime.padded 4 d.date.year.natAbs ≠ [] :=
    List.append_ne_nil_of_right_ne_nil _ Nat.toDigits_ne_nil
  obtain ⟨c, digits, hdigits⟩ := List.exists_cons_of_ne_nil hsome
  have hc : c ∈ DateTime.padded 4 d.date.year.natAbs := by simp [hdigits]
  rw [hdigits]
  exact takeSign?_digit (DateTime.isDigit_of_mem_padded hc) _

variable {d : DateTime} {named : Component → Bool}

/-- Each field reads what has been written for it. -/
theorem readField_written {component : Component} (hyear : 0 ≤ d.date.year)
    (hfraction : component ≠ .fraction) (rest : List Char) :
    readField (.of d named) component (component.written d ++ rest) =
      some (.of d fun other => other == component || named other, rest) := by
  cases component with
  | fraction => exact absurd rfl hfraction
  | year =>
      have hvalue : (d.date.year.natAbs : Int) = d.date.year := Int.natAbs_of_nonneg hyear
      rw [readField, Component.written, takeSign?_year]
      refine Option.bind_eq_some_iff.2 ⟨_, d.date.takeDigits?_year rest, ?_⟩
      show some ({ Reading.of d named with year := some (d.date.year.natAbs : Int) }, rest) = _
      rw [hvalue]
      rfl
  | month =>
      exact Option.bind_eq_some_iff.2
        ⟨_, takeTwo?_padded d.date.month_bounds (by decide) rest, rfl⟩
  | day =>
      have hday : 1 ≤ d.date.day ∧ d.date.day ≤ 31 := ⟨d.date.day_bounds.1, d.date.day_le⟩
      exact Option.bind_eq_some_iff.2 ⟨_, takeTwo?_padded hday (by decide) rest, rfl⟩
  | hour =>
      have hhour : 0 ≤ d.time.hour ∧ d.time.hour ≤ 23 :=
        ⟨Nat.zero_le _, Nat.le_of_lt_succ d.time.hour_lt⟩
      exact Option.bind_eq_some_iff.2 ⟨_, takeTwo?_padded hhour (by decide) rest, rfl⟩
  | minute =>
      have hminute : 0 ≤ d.time.minute ∧ d.time.minute ≤ 59 :=
        ⟨Nat.zero_le _, Nat.le_of_lt_succ d.time.minute_lt⟩
      exact Option.bind_eq_some_iff.2 ⟨_, takeTwo?_padded hminute (by decide) rest, rfl⟩
  | second =>
      have hsecond : 0 ≤ d.time.second ∧ d.time.second ≤ 60 :=
        ⟨Nat.zero_le _, Nat.le_of_lt d.time.second_lt⟩
      exact Option.bind_eq_some_iff.2 ⟨_, takeTwo?_padded hsecond (by decide) rest, rfl⟩
  | offsetHour =>
      have hhours : 0 ≤ d.offset.hours ∧ d.offset.hours ≤ 25 :=
        ⟨Nat.zero_le _, Nat.le_of_lt_succ d.offset.hours_lt⟩
      refine Option.bind_eq_some_iff.2 ⟨_, takeSign?_sign d.offset _, ?_⟩
      exact Option.bind_eq_some_iff.2 ⟨_, takeTwo?_padded hhours (by decide) rest, rfl⟩
  | offsetMinute =>
      have hminutes : 0 ≤ d.offset.minutesPastHour ∧ d.offset.minutesPastHour ≤ 59 :=
        ⟨Nat.zero_le _, Nat.le_of_lt_succ d.offset.minutesPastHour_lt⟩
      exact Option.bind_eq_some_iff.2 ⟨_, takeTwo?_padded hminutes (by decide) rest, rfl⟩

/-- The items are read one after the other, and all fields among them have been read in the
end. -/
theorem readItems_written {items : List TemplateItem} (hyear : 0 ≤ d.date.year)
    (hfraction : TemplateItem.names items .fraction = false) (named : Component → Bool) :
    readItems items (.of d named) (items.flatMap (·.written d)) =
      some (.of d fun component => TemplateItem.names items component || named component) := by
  induction items generalizing named with
  | nil => rfl
  | cons item items ih =>
      rw [List.flatMap_cons]
      cases item with
      | literal c =>
          rw [TemplateItem.names_literal] at hfraction ⊢
          refine Option.bind_eq_some_iff.2 ⟨_, takeChar?_self c _, ?_⟩
          exact ih hfraction named
      | field component =>
          rw [TemplateItem.names_field, Bool.or_eq_false_iff] at hfraction
          have hne : component ≠ .fraction := fun heq => by simp [heq] at hfraction
          refine Option.bind_eq_some_iff.2 ⟨_, readField_written hyear hne _, ?_⟩
          rw [TemplateItem.names_field]
          refine (ih hfraction.2 _).trans ?_
          congr 2
          funext other
          rw [Bool.or_left_comm, Bool.or_assoc]

end DateTemplate

/-! ## The date-time that is meant -/

theorem ite_zero_lt {b : Bool} {n bound : Nat} (h : n < bound) :
    (if b then n else 0) < bound := by
  split
  · exact h
  · exact Nat.zero_lt_of_lt h

/-- Zero for each field that is not named; there is no field for the fraction. -/
def TimeOfDay.only (named : Component → Bool) (t : TimeOfDay) : TimeOfDay where
  hour := if named .hour then t.hour else 0
  minute := if named .minute then t.minute else 0
  second := if named .second then t.second else 0
  nanosecond := 0
  hour_lt := ite_zero_lt t.hour_lt
  minute_lt := ite_zero_lt t.minute_lt
  second_lt := ite_zero_lt t.second_lt
  nanosecond_lt := Nat.zero_lt_of_lt t.nanosecond_lt

namespace UtcOffset

/-- The whole hours, with the sign of the offset. -/
def wholeHours (o : UtcOffset) : UtcOffset where
  minutes := if o.minutes < 0 then -(o.hours * 60 : Nat) else (o.hours * 60 : Nat)
  bounds := by
    have hbounds := o.bounds
    unfold hours
    split <;> omega

/-- UTC where no hours are named, and whole hours where no minutes are. -/
def only (named : Component → Bool) (o : UtcOffset) : UtcOffset :=
  if named .offsetHour then
    if named .offsetMinute then o else o.wholeHours
  else
    .utc

theorem wholeHours_eq {o : UtcOffset} (h : o.minutesPastHour = 0) : o.wholeHours = o := by
  unfold minutesPastHour at h
  refine eq_of_minutes ?_
  unfold wholeHours hours
  dsimp only
  split <;> omega

theorem ofParts?_hours (o : UtcOffset) :
    ofParts? (decide (o.minutes < 0)) o.hours 0 = some o.wholeHours := by
  refine ofParts?_eq_some o.hours_lt (by decide) ?_
  simp only [Nat.add_zero, decide_eq_true_eq]
  rfl

end UtcOffset

/-- The date-time with only the named fields of the time and the offset: midnight where no time
is named, and UTC where no offset is. -/
def DateTime.only (named : Component → Bool) (d : DateTime) : DateTime where
  date := d.date
  time := d.time.only named
  offset := d.offset.only named

/-- The fields that make a date-time: the whole date, no time without its greater fields, no
offset without a time, and no fraction. -/
structure Component.Complete (named : Component → Bool) : Prop where
  year : named .year = true
  month : named .month = true
  day : named .day = true
  minute : named .minute = true → named .hour = true
  second : named .second = true → named .minute = true
  offset : named .offsetHour = true → named .hour = true
  fraction : named .fraction = false

namespace DateTemplate

variable {d : DateTime} {named : Component → Bool}

/-- The fields of the date-time that are named. -/
def fieldsOf (d : DateTime) (named : Component → Bool) : Fields where
  date := d.date
  hour := if named .hour then some d.time.hour else none
  minute := if named .minute then some d.time.minute else none
  second := if named .second then some d.time.second else none
  offset := if named .offsetHour then some (d.offset.only named) else none

theorem toFields?_of (h : Component.Complete named) :
    (Reading.of d named).toFields? = some (fieldsOf d named) := by
  have hyear : (Reading.of d named).year = some d.date.year := if_pos h.year
  have hmonth : (Reading.of d named).month = some d.date.month := if_pos h.month
  have hday : (Reading.of d named).day = some d.date.day := if_pos h.day
  refine Option.bind_eq_some_iff.2 ⟨_, hyear, ?_⟩
  refine Option.bind_eq_some_iff.2 ⟨_, hmonth, ?_⟩
  refine Option.bind_eq_some_iff.2 ⟨_, hday, ?_⟩
  refine Option.bind_eq_some_iff.2 ⟨_, d.date.ofParts?_parts, ?_⟩
  refine congrArg (fun offset => some { fieldsOf d named with offset })
    (?_ : _ = (fieldsOf d named).offset)
  -- the minutes count only with the hours, and have their sign
  unfold Reading.of fieldsOf UtcOffset.only
  cases named .offsetHour with
  | false => rfl
  | true =>
      cases named .offsetMinute with
      | false => exact d.offset.ofParts?_hours
      | true => exact d.offset.ofParts?_parts

/-- A time is read if it has an hour. -/
theorem time?_fieldsOf (h : Component.Complete named) :
    (fieldsOf d named).time? = if named .hour then some (d.time.only named) else none := by
  have htime : TimeOfDay.ofParts? (if named .hour then d.time.hour else 0)
      (if named .minute then d.time.minute else 0) (if named .second then d.time.second else 0) 0 =
        some (d.time.only named) := (d.time.only named).ofParts?_parts
  unfold fieldsOf
  cases hsecond : named .second with
  | true =>
      have hminute := h.second hsecond
      have hhour := h.minute hminute
      simp only [hhour, hminute, hsecond, if_true] at htime ⊢
      exact htime
  | false =>
      cases hminute : named .minute with
      | true =>
          have hhour := h.minute hminute
          simp only [hhour, hminute, hsecond, if_true, Bool.false_eq_true, if_false] at htime ⊢
          exact htime
      | false =>
          cases hhour : named .hour with
          | true =>
              simp only [hhour, hminute, hsecond, if_true, Bool.false_eq_true, if_false] at htime ⊢
              exact htime
          | false => rfl

/-- Without an hour the day begins at midnight. -/
theorem only_of_no_hour (h : Component.Complete named) (hhour : named .hour = false)
    (t : TimeOfDay) : t.only named = .midnight := by
  have hminute : named .minute = false := by
    rw [← Bool.not_eq_true]
    intro hminute
    simp [h.minute hminute] at hhour
  have hsecond : named .second = false := by
    rw [← Bool.not_eq_true]
    intro hsecond
    simp [h.second hsecond] at hminute
  simp only [TimeOfDay.only, hhour, hminute, hsecond]
  rfl

/-- A time without an offset is UTC. -/
theorem resolve_fieldsOf (h : Component.Complete named) :
    (fieldsOf d named).resolve false = d.only named := by
  have htime := time?_fieldsOf (d := d) h
  cases hnamed : named .offsetHour with
  | true =>
      have hoffset : (fieldsOf d named).offset = some (d.offset.only named) := if_pos hnamed
      rw [h.offset hnamed, if_pos rfl] at htime
      rw [Fields.resolve, Fields.zoned?, hoffset]
      dsimp only
      rw [Bool.false_and, if_neg Bool.false_ne_true, htime]
      rfl
  | false =>
      have hoffset : (fieldsOf d named).offset = none := by simp [fieldsOf, hnamed]
      have hutc : d.offset.only named = .utc := by simp [UtcOffset.only, hnamed]
      rw [Fields.resolve, Fields.zoned?, hoffset, DateTime.only, hutc, htime]
      cases hhour : named .hour with
      | true => rfl
      | false =>
          rw [only_of_no_hour h hhour]
          rfl

end DateTemplate

/-- Nothing of the date-time is left out with the fields that are not named. -/
structure DateTime.NamedBy (named : Component → Bool) (d : DateTime) : Prop where
  hour : named .hour = true ∨ d.time.hour = 0
  minute : named .minute = true ∨ d.time.minute = 0
  second : named .second = true ∨ d.time.second = 0
  nanosecond : d.time.nanosecond = 0
  offsetHour : named .offsetHour = true ∨ d.offset = .utc
  offsetMinute : named .offsetMinute = true ∨ d.offset.minutesPastHour = 0

theorem ite_zero_eq {b : Bool} {n : Nat} (h : b = true ∨ n = 0) : (if b then n else 0) = n := by
  cases b <;> simp_all

theorem UtcOffset.only_eq {named : Component → Bool} {o : UtcOffset}
    (hhours : named .offsetHour = true ∨ o = .utc)
    (hminutes : named .offsetMinute = true ∨ o.minutesPastHour = 0) : o.only named = o := by
  unfold only
  split
  · split
    · rfl
    · next hnamed => exact wholeHours_eq (hminutes.resolve_left hnamed)
  · next hnamed => exact (hhours.resolve_left hnamed).symm

theorem DateTime.only_eq {named : Component → Bool} {d : DateTime} (h : d.NamedBy named) :
    d.only named = d := by
  obtain ⟨date, time, offset⟩ := d
  obtain ⟨hhour, hminute, hsecond, hnanosecond, hhours, hminutes⟩ := h
  have htime : time.only named = time := by
    cases time
    simp only [TimeOfDay.only, ite_zero_eq hhour, ite_zero_eq hminute, ite_zero_eq hsecond]
    dsimp only at hnanosecond
    simp only [hnanosecond]
  rw [only]
  dsimp only
  rw [htime, UtcOffset.only_eq hhours hminutes]

/-- A template reads back what it spells.  Its items are found from left to right, the longest
field first, and a text with each field as it is written for a date-time and each literal
character as it is gives that date-time, at midnight where no time is spelled and in UTC where
no offset is.  Nothing is lost of a date-time that has no more than the fields spelled. -/
theorem template_reads_back (t : DateTemplate) {items : List TemplateItem} (d : DateTime)
    (hcuts : TemplateItem.Cuts t.source.toList items)
    (hcomplete : Component.Complete (TemplateItem.names items)) (hyear : 0 ≤ d.date.year) :
    t.read? (items.flatMap (·.written d)) = some (d.only (TemplateItem.names items)) ∧
      (d.NamedBy (TemplateItem.names items) → d.only (TemplateItem.names items) = d) := by
  refine ⟨?_, DateTime.only_eq⟩
  have hitems : t.items = items := TemplateItem.ofChars_eq_of_cuts hcuts
  have hreading : DateTemplate.readItems t.items {} (items.flatMap (·.written d)) =
      some (.of d (TemplateItem.names items)) := by
    have hread := DateTemplate.readItems_written hyear hcomplete.fraction fun _ => false
    simp only [Bool.or_false] at hread
    rw [hitems]
    exact hread
  refine Option.bind_eq_some_iff.2 ⟨_, hreading, ?_⟩
  refine Option.bind_eq_some_iff.2 ⟨_, DateTemplate.toFields?_of hcomplete, ?_⟩
  exact congrArg some (DateTemplate.resolve_fieldsOf hcomplete)

/-- Brackets and letters between the fields, no blank between them, and an offset of less than an
hour. -/
theorem template_reads_back_brackets :
    let template : DateTemplate := { source := "DD.MM[YYYY]HH24:MITZHTZM" }
    let items : List TemplateItem :=
      [.field .day, .literal '.', .field .month, .literal '[', .field .year, .literal ']',
        .field .hour, .literal ':', .field .minute, .field .offsetHour, .field .offsetMinute]
    TemplateItem.Cuts template.source.toList items ∧
      Component.Complete (TemplateItem.names items) ∧
      ∃ d : DateTime, Rfc3339.read? "2024-02-29T23:05:00-00:30".toList = some d ∧
        0 ≤ d.date.year ∧ d.NamedBy (TemplateItem.names items) ∧
        items.flatMap (·.written d) = "29.02[2024]23:05-0030".toList ∧
        template.read? "29.02[2024]23:05-0030".toList = some d := by
  intro template items
  have hsource : template.source.toList = ['D', 'D', '.', 'M', 'M', '[', 'Y', 'Y', 'Y', 'Y', ']',
      'H', 'H', '2', '4', ':', 'M', 'I', 'T', 'Z', 'H', 'T', 'Z', 'M'] := by simp [template]
  have hcuts : TemplateItem.Cuts template.source.toList items := by
    rw [hsource]
    refine @TemplateItem.Cuts.field ['D', 'D'] _ _ _ (by decide) (by decide) ?_
    refine .literal (by decide) ?_
    refine @TemplateItem.Cuts.field ['M', 'M'] _ _ _ (by decide) (by decide) ?_
    refine .literal (by decide) ?_
    refine @TemplateItem.Cuts.field ['Y', 'Y', 'Y', 'Y'] _ _ _ (by decide) (by decide) ?_
    refine .literal (by decide) ?_
    refine @TemplateItem.Cuts.field ['H', 'H', '2', '4'] _ _ _ (by decide) (by decide) ?_
    refine .literal (by decide) ?_
    refine @TemplateItem.Cuts.field ['M', 'I'] _ _ _ (by decide) (by decide) ?_
    refine @TemplateItem.Cuts.field ['T', 'Z', 'H'] _ _ _ (by decide) (by decide) ?_
    exact @TemplateItem.Cuts.field ['T', 'Z', 'M'] _ _ _ (by decide) (by decide) .nil
  have hcomplete : Component.Complete (TemplateItem.names items) := by
    constructor <;> decide
  have hread : (Rfc3339.read? "2024-02-29T23:05:00-00:30".toList).any (fun d =>
      decide (0 ≤ d.date.year ∧ d.time.second = 0 ∧ d.time.nanosecond = 0 ∧
        items.flatMap (·.written d) = "29.02[2024]23:05-0030".toList)) = true := by
    decide +kernel
  obtain ⟨d, hd, hfields⟩ := (Option.any_eq_true _ _).1 hread
  obtain ⟨hyear, hsecond, hnanosecond, htext⟩ := of_decide_eq_true hfields
  have hnamed : d.NamedBy (TemplateItem.names items) :=
    { hour := .inl (by decide)
      minute := .inl (by decide)
      second := .inr hsecond
      nanosecond := hnanosecond
      offsetHour := .inl (by decide)
      offsetMinute := .inl (by decide) }
  have hback := template_reads_back template d hcuts hcomplete hyear
  refine ⟨hcuts, hcomplete, d, hd, hyear, hnamed, htext, ?_⟩
  rw [← htext, hback.1, hback.2 hnamed]

end JsonPath
