import Mathlib
import JsonPath.Eval.Compare
import JsonPath.Proofs.Number.Order
import JsonPath.Proofs.Value.Everywhere

/-!
# Equality and order of values

Structural equality is reflexive and symmetric, and so is the comparison `==`, which
says the same wherever it says anything.  Neither is transitive, and on numbers `<=`
is not either: two integers compare exactly, but an integer and another number
compare after the integer has been rounded, so that a number may be equal to two
different integers.

That is the only way in which transitivity fails.  `Tied` says where it happens in
values of any depth, `structurallyEquals_trans_iff` that equality is handed on
exactly where it does not happen, and `lessEqual_trans_iff` the same of the order of
numbers.

All this is about values without NaN in which the keys of an object are distinct
(`Regular`); for symmetry distinct keys are enough (`DistinctKeys`).
-/

namespace JsonPath

namespace Value

/-! ## Equality of containers -/

theorem mem_of_lookup {members : Members} {key : String} {v : Value}
    (h : members.lookup key = some v) : (key, v) ∈ members := by
  obtain ⟨before, after, hmembers, -⟩ := List.lookup_eq_some_iff.1 h
  rw [hmembers]
  exact List.mem_append_right _ List.mem_cons_self

/-- With distinct keys every member is found. -/
theorem lookup_of_mem {members : Members} {key : String} {v : Value}
    (hkeys : (members.map Prod.fst).Nodup) (h : (key, v) ∈ members) :
    members.lookup key = some v := by
  obtain ⟨before, after, rfl⟩ := List.append_of_mem h
  refine List.lookup_eq_some_iff.2 ⟨before, after, rfl, fun p hp => ?_⟩
  rw [List.map_append, List.nodup_append] at hkeys
  have hne := hkeys.2.2 p.1 (List.mem_map_of_mem hp) key (by simp)
  simp [Ne.symm hne]

theorem elementsEqual_iff {xs ys : List Value} :
    elementsEqual xs ys = true ↔ xs.length = ys.length ∧
      ∀ (i : Nat) x y, xs[i]? = some x → ys[i]? = some y → x.structurallyEquals y = true := by
  induction xs generalizing ys with
  | nil => cases ys <;> simp [elementsEqual]
  | cons x xs ih =>
      cases ys with
      | nil => simp [elementsEqual]
      | cons y ys =>
          rw [elementsEqual, Bool.and_eq_true, ih]
          constructor
          · rintro ⟨hfirst, hlength, hrest⟩
            refine ⟨by simp [hlength], fun i => ?_⟩
            cases i with
            | zero => simpa using hfirst
            | succ i => simpa using hrest i
          · rintro ⟨hlength, hall⟩
            refine ⟨by simpa using hall 0, by simpa using hlength, fun i => ?_⟩
            simpa using hall (i + 1)

theorem membersEqual_iff {ms ns : Members} :
    membersEqual ms ns = true ↔ ∀ key v, (key, v) ∈ ms →
      ∃ w, ns.lookup key = some w ∧ v.structurallyEquals w = true := by
  induction ms with
  | nil => simp [membersEqual]
  | cons m ms ih =>
      obtain ⟨key, v⟩ := m
      rw [membersEqual, Bool.and_eq_true, ih]
      constructor
      · rintro ⟨hfirst, hrest⟩ key' v' hmem
        rcases List.mem_cons.1 hmem with heq | hmem
        · cases heq
          cases hlookup : ns.lookup key with
          | none => simp [hlookup] at hfirst
          | some w => exact ⟨w, rfl, by simpa [hlookup] using hfirst⟩
        · exact hrest key' v' hmem
      · intro hall
        refine ⟨?_, fun key' v' hmem => hall key' v' (List.mem_cons_of_mem _ hmem)⟩
        obtain ⟨w, hlookup, heq⟩ := hall key v List.mem_cons_self
        simpa [hlookup] using heq

theorem array_equals_iff {xs ys : List Value} :
    (array xs).structurallyEquals (array ys) = true ↔ xs.length = ys.length ∧
      ∀ (i : Nat) x y, xs[i]? = some x → ys[i]? = some y → x.structurallyEquals y = true :=
  elementsEqual_iff

theorem object_equals_iff {ms ns : Members} :
    (object ms).structurallyEquals (object ns) = true ↔ ms.length = ns.length ∧
      ∀ key v, (key, v) ∈ ms → ∃ w, ns.lookup key = some w ∧ v.structurallyEquals w = true := by
  rw [structurallyEquals, Bool.and_eq_true, beq_iff_eq, membersEqual_iff]

/-- Keys that are distinct and as many as those among which they all are, are all of
those. -/
theorem keys_subset_of_equals {ms ns : Members} (hkeys : (ms.map Prod.fst).Nodup)
    (h : (object ms).structurallyEquals (object ns) = true) :
    ns.map Prod.fst ⊆ ms.map Prod.fst := by
  obtain ⟨hlength, hmembers⟩ := object_equals_iff.1 h
  have hsubset : ms.map Prod.fst ⊆ ns.map Prod.fst := by
    intro key hkey
    obtain ⟨⟨_, v⟩, hmem, rfl⟩ := List.mem_map.1 hkey
    obtain ⟨w, hlookup, -⟩ := hmembers _ v hmem
    exact List.mem_map.2 ⟨(_, w), mem_of_lookup hlookup, rfl⟩
  have hperm := (List.subperm_of_subset hkeys hsubset).perm_of_length_le (by simp [hlength])
  exact hperm.symm.subset

/-! ## Reflexive and symmetric -/

theorem structurallyEquals_refl {v : Value} (h : v.Regular) : v.structurallyEquals v = true := by
  induction h with
  | null => rfl
  | boolean b => exact beq_self_eq_true b
  | integer n => exact beq_self_eq_true n
  | number hx => exact Binary64.equals_iff.2 ⟨hx, hx, rfl⟩
  | string s => exact beq_self_eq_true s
  | @dateTime d _ => exact beq_self_eq_true d.instant
  | array _ ih =>
      refine array_equals_iff.2 ⟨rfl, fun i x y hx hy => ?_⟩
      cases hx.symm.trans hy
      exact ih x (List.mem_of_getElem? hx)
  | object hkeys _ ih =>
      exact object_equals_iff.2 ⟨rfl, fun key v hmem =>
        ⟨v, lookup_of_mem hkeys hmem, ih _ hmem⟩⟩

theorem DistinctKeys.equals_symm {l r : Value} (hl : l.DistinctKeys) (hr : r.DistinctKeys)
    (h : l.structurallyEquals r = true) : r.structurallyEquals l = true := by
  induction hl generalizing r with
  | null =>
      cases r with
      | null => rfl
      | _ => cases h
  | boolean b =>
      cases r with
      | boolean c => exact beq_iff_eq.2 (beq_iff_eq.1 h).symm
      | _ => cases h
  | integer a =>
      cases r with
      | integer b => exact beq_iff_eq.2 (beq_iff_eq.1 h).symm
      | number y => exact (Binary64.equals_comm _ _).trans h
      | _ => cases h
  | number _ =>
      cases r with
      | integer b => exact (Binary64.equals_comm _ _).trans h
      | number y => exact (Binary64.equals_comm _ _).trans h
      | _ => cases h
  | string s =>
      cases r with
      | string t => exact beq_iff_eq.2 (beq_iff_eq.1 h).symm
      | _ => cases h
  | dateTime _ =>
      cases r with
      | dateTime e => exact beq_iff_eq.2 (beq_iff_eq.1 h).symm
      | _ => cases h
  | @array xs _ ih =>
      cases hr with
      | @array ys hys =>
          obtain ⟨hlength, hitems⟩ := array_equals_iff.1 h
          refine array_equals_iff.2 ⟨hlength.symm, fun i y x hy hx => ?_⟩
          exact ih x (List.mem_of_getElem? hx) (hys y (List.mem_of_getElem? hy))
            (hitems i x y hx hy)
      | _ => cases h
  | @object ms hkeys _ ih =>
      cases hr with
      | @object ns hkeys' hns =>
          obtain ⟨hlength, hmembers⟩ := object_equals_iff.1 h
          refine object_equals_iff.2 ⟨hlength.symm, fun key w hw => ?_⟩
          -- the key is among those on the left, and its value there is equal to `w`
          have hkey := keys_subset_of_equals hkeys h (List.mem_map_of_mem hw)
          obtain ⟨⟨_, v⟩, hv, rfl⟩ := List.mem_map.1 hkey
          obtain ⟨w', hw', heq⟩ := hmembers _ v hv
          cases (lookup_of_mem hkeys' hw).symm.trans hw'
          exact ⟨v, lookup_of_mem hkeys hv, ih _ hv (hns _ hw) heq⟩
      | _ => cases h

theorem DistinctKeys.equals_comm {l r : Value} (hl : l.DistinctKeys) (hr : r.DistinctKeys) :
    l.structurallyEquals r = r.structurallyEquals l := by
  rw [Bool.eq_iff_iff]
  exact ⟨hl.equals_symm hr, hr.equals_symm hl⟩

theorem structurallyEquals_comm {l r : Value} (hl : l.Regular) (hr : r.Regular) :
    l.structurallyEquals r = r.structurallyEquals l :=
  hl.distinctKeys.equals_comm hr.distinctKeys

/-! ## Transitive but for rounding -/

/-- In one place of three values there are two different integers, and between them
a number that both of them are rounded to. -/
inductive Tied : Value → Value → Value → Prop where
  | integers {a b : Int64} {x : Binary64} (hne : a ≠ b)
      (ha : Binary64.equals (.ofInt a.toInt) x = true)
      (hb : Binary64.equals x (.ofInt b.toInt) = true) :
      Tied (.integer a) (.number x) (.integer b)
  | element {xs ys zs : List Value} {x y z : Value} (i : Nat) (hx : xs[i]? = some x)
      (hy : ys[i]? = some y) (hz : zs[i]? = some z) (h : Tied x y z) :
      Tied (.array xs) (.array ys) (.array zs)
  | member {ms ns os : Members} {u v w : Value} (key : String) (hu : ms.lookup key = some u)
      (hv : ns.lookup key = some v) (hw : os.lookup key = some w) (h : Tied u v w) :
      Tied (.object ms) (.object ns) (.object os)

/-- What is tied is not equal. -/
theorem Tied.not_equals {l m r : Value} (h : Tied l m r) : l.structurallyEquals r = false := by
  rw [← Bool.not_eq_true]
  induction h with
  | integers hne _ _ => exact fun heq => hne (beq_iff_eq.1 heq)
  | element i hx _ hz _ ih =>
      intro heq
      exact ih ((array_equals_iff.1 heq).2 i _ _ hx hz)
  | member key hu _ hw _ ih =>
      intro heq
      obtain ⟨w', hw', huw⟩ := (object_equals_iff.1 heq).2 key _ (mem_of_lookup hu)
      cases hw.symm.trans hw'
      exact ih huw

/-- From an integer equality is handed on, unless it comes to another integer through
a number. -/
theorem integer_equals_trans {a : Int64} {m r : Value}
    (hm : (integer a).structurallyEquals m = true) (hr : m.structurallyEquals r = true)
    (htied : ¬Tied (.integer a) m r) : (integer a).structurallyEquals r = true := by
  cases m with
  | integer b =>
      rw [beq_iff_eq.1 hm]
      exact hr
  | number x =>
      cases r with
      | integer b =>
          refine beq_iff_eq.2 ?_
          by_contra hne
          exact htied (.integers hne hm hr)
      | number y => exact Binary64.equals_trans hm hr
      | _ => cases hr
  | _ => cases hm

theorem number_equals_trans {x : Binary64} {m r : Value}
    (hm : (number x).structurallyEquals m = true) (hr : m.structurallyEquals r = true) :
    (number x).structurallyEquals r = true := by
  cases m with
  | integer b =>
      cases r with
      | integer c =>
          rw [← beq_iff_eq.1 hr]
          exact hm
      | number z => exact Binary64.equals_trans hm hr
      | _ => cases hr
  | number y =>
      cases r with
      | integer c => exact Binary64.equals_trans hm hr
      | number z => exact Binary64.equals_trans hm hr
      | _ => cases hr
  | _ => cases hm

theorem array_equals_trans {xs ys zs : List Value}
    (hm : (array xs).structurallyEquals (array ys) = true)
    (hr : (array ys).structurallyEquals (array zs) = true)
    (h : ∀ (i : Nat) x y z, xs[i]? = some x → ys[i]? = some y → zs[i]? = some z →
      x.structurallyEquals y = true → y.structurallyEquals z = true →
        x.structurallyEquals z = true) :
    (array xs).structurallyEquals (array zs) = true := by
  obtain ⟨hlength, hxy⟩ := array_equals_iff.1 hm
  obtain ⟨hlength', hyz⟩ := array_equals_iff.1 hr
  refine array_equals_iff.2 ⟨hlength.trans hlength', fun i x z hx hz => ?_⟩
  obtain ⟨hi, -⟩ := List.getElem?_eq_some_iff.1 hx
  have hy := List.getElem?_eq_getElem (hlength ▸ hi)
  exact h i x _ z hx hy hz (hxy i x _ hx hy) (hyz i _ z hy hz)

theorem object_equals_trans {ms ns os : Members}
    (hm : (object ms).structurallyEquals (object ns) = true)
    (hr : (object ns).structurallyEquals (object os) = true)
    (h : ∀ key u v w, (key, u) ∈ ms → ns.lookup key = some v → os.lookup key = some w →
      u.structurallyEquals v = true → v.structurallyEquals w = true →
        u.structurallyEquals w = true) :
    (object ms).structurallyEquals (object os) = true := by
  obtain ⟨hlength, huv⟩ := object_equals_iff.1 hm
  obtain ⟨hlength', hvw⟩ := object_equals_iff.1 hr
  refine object_equals_iff.2 ⟨hlength.trans hlength', fun key u hu => ?_⟩
  obtain ⟨v, hv, heq⟩ := huv key u hu
  obtain ⟨w, hw, heq'⟩ := hvw key v (mem_of_lookup hv)
  exact ⟨w, hw, h key u v w hu hv hw heq heq'⟩

theorem structurallyEquals_trans {l m r : Value} (hl : l.Regular)
    (hm : l.structurallyEquals m = true) (hr : m.structurallyEquals r = true)
    (htied : ¬Tied l m r) : l.structurallyEquals r = true := by
  induction hl generalizing m r with
  | null =>
      cases m with
      | null => exact hr
      | _ => cases hm
  | boolean b =>
      cases m with
      | boolean c => exact beq_iff_eq.1 hm ▸ hr
      | _ => cases hm
  | integer a => exact integer_equals_trans hm hr htied
  | number _ => exact number_equals_trans hm hr
  | string s =>
      cases m with
      | string t => exact beq_iff_eq.1 hm ▸ hr
      | _ => cases hm
  | dateTime _ =>
      cases m with
      | dateTime e =>
          cases r with
          | dateTime f => exact beq_iff_eq.2 ((beq_iff_eq.1 hm).trans (beq_iff_eq.1 hr))
          | _ => cases hr
      | _ => cases hm
  | array _ ih =>
      cases m with
      | array ys =>
          cases r with
          | array zs =>
              exact array_equals_trans hm hr fun i x y z hx hy hz hxy hyz =>
                ih x (List.mem_of_getElem? hx) hxy hyz fun h => htied (.element i hx hy hz h)
          | _ => cases hr
      | _ => cases hm
  | object hkeys _ ih =>
      cases m with
      | object ns =>
          cases r with
          | object os =>
              exact object_equals_trans hm hr fun key u v w hu hv hw huv hvw =>
                ih (key, u) hu huv hvw fun h =>
                  htied (.member key (lookup_of_mem hkeys hu) hv hw h)
          | _ => cases hr
      | _ => cases hm

/-- Equality is handed on exactly where nothing is tied. -/
theorem structurallyEquals_trans_iff {l m r : Value} (hl : l.Regular)
    (hm : l.structurallyEquals m = true) (hr : m.structurallyEquals r = true) :
    l.structurallyEquals r = true ↔ ¬Tied l m r := by
  constructor
  · intro heq htied
    rw [htied.not_equals] at heq
    cases heq
  · exact structurallyEquals_trans hl hm hr

/-! ## The comparison `==` -/

theorem compareWith_of_order {op : Comparison} {l r : Value} {order : Ordering}
    (h : order? l r = some order) : compareWith op l r = .ofBool (op.holds order) := by
  rw [compareWith, h]

theorem kind_of_toBinary64? {v : Value} {x : Binary64} (h : v.toBinary64? = some x) :
    v.kind = .number := by
  cases v <;> first | rfl | cases h

/-- Two values are not both integers. -/
def Mixed (l r : Value) : Prop := ∀ a b, l = .integer a → r ≠ .integer b

theorem order?_of_mixed {l r : Value} {x y : Binary64} (hl : l.toBinary64? = some x)
    (hr : r.toBinary64? = some y) (hmixed : Mixed l r) :
    order? l r = Binary64.compare? x y := by
  cases l <;> simp only [toBinary64?, Option.some.injEq, reduceCtorEq] at hl <;>
    cases r <;> simp only [toBinary64?, Option.some.injEq, reduceCtorEq] at hr <;>
    rw [← hl, ← hr]
  · exact absurd rfl (hmixed _ _ rfl)
  all_goals rw [order?]

theorem structurallyEquals_of_mixed {l r : Value} {x y : Binary64}
    (hl : l.toBinary64? = some x) (hr : r.toBinary64? = some y) (hmixed : Mixed l r) :
    l.structurallyEquals r = Binary64.equals x y := by
  cases l <;> simp only [toBinary64?, Option.some.injEq, reduceCtorEq] at hl <;>
    cases r <;> simp only [toBinary64?, Option.some.injEq, reduceCtorEq] at hr <;>
    rw [← hl, ← hr]
  · exact absurd rfl (hmixed _ _ rfl)
  all_goals rw [structurallyEquals]

/-- The order of two numbers says whether they are equal. -/
theorem compareWith_equal_of_mixed {l r : Value} {x y : Binary64}
    (hl : l.toBinary64? = some x) (hr : r.toBinary64? = some y) (hmixed : Mixed l r)
    (hx : x ≠ .nan) (hy : y ≠ .nan) :
    compareWith .equal l r =
      if l.kind = r.kind then .ofBool (l.structurallyEquals r) else .unknown := by
  have hkind : l.kind = r.kind := (kind_of_toBinary64? hl).trans (kind_of_toBinary64? hr).symm
  have horder := order?_of_mixed hl hr hmixed
  rw [Binary64.compare?_eq hx hy] at horder
  rw [if_pos hkind, compareWith_of_order horder, structurallyEquals_of_mixed hl hr hmixed,
    Binary64.equals, Binary64.compare?_eq hx hy]
  rfl

/-- Ordered things are equal by their order where they are equal. -/
theorem compare_beq_eq {α : Type} [LinearOrder α] [BEq α] [LawfulBEq α] (a b : α) :
    (compare a b == .eq) = (a == b) := by
  rw [Bool.eq_iff_iff, beq_iff_eq, beq_iff_eq, compare_eq_iff_eq]

/-- Values of one kind are equal or not, others are not compared. -/
theorem compareWith_equal {l r : Value} (hl : l.Regular) (hr : r.Regular) :
    compareWith .equal l r =
      if l.kind = r.kind then .ofBool (l.structurallyEquals r) else .unknown := by
  have hinteger (a : Int64) : Binary64.ofInt a.toInt ≠ .nan :=
    Binary64.ofInt_ne_nan (natAbs_toInt_le a)
  cases hl with
  | null => cases hr <;> rfl
  | boolean b =>
      cases hr with
      | boolean c => cases b <;> cases c <;> rfl
      | _ => rfl
  | integer a =>
      cases hr with
      | integer b =>
          have heq : (compare a.toInt b.toInt == .eq) = (a == b) := by
            rw [Bool.eq_iff_iff, beq_iff_eq, beq_iff_eq, compare_eq_iff_eq, Int64.toInt_inj]
          exact congrArg Truth.ofBool heq
      | number hy => exact compareWith_equal_of_mixed rfl rfl nofun (hinteger a) hy
      | _ => rfl
  | number hx =>
      cases hr with
      | integer b => exact compareWith_equal_of_mixed rfl rfl nofun hx (hinteger b)
      | number hy => exact compareWith_equal_of_mixed rfl rfl nofun hx hy
      | _ => rfl
  | string s =>
      cases hr with
      | string t => exact congrArg Truth.ofBool (compare_beq_eq s t)
      | _ => rfl
  | @dateTime d _ =>
      cases hr with
      | @dateTime e _ => exact congrArg Truth.ofBool (compare_beq_eq d.instant e.instant)
      | _ => rfl
  | array _ => cases hr <;> rfl
  | object _ _ => cases hr <;> rfl

theorem ofBool_eq_holds_iff {b : Bool} : Truth.ofBool b = .holds ↔ b = true := by
  cases b <;> simp [Truth.ofBool]

theorem kind_eq_of_equals {l r : Value} (h : l.structurallyEquals r = true) :
    l.kind = r.kind := by
  cases l <;> cases r <;> first | rfl | cases h

/-- Where `==` holds, values are equal. -/
theorem compareWith_equal_holds_iff {l r : Value} (hl : l.Regular) (hr : r.Regular) :
    compareWith .equal l r = .holds ↔ l.structurallyEquals r = true := by
  rw [compareWith_equal hl hr]
  by_cases hkind : l.kind = r.kind
  · rw [if_pos hkind, ofBool_eq_holds_iff]
  · rw [if_neg hkind]
    exact iff_of_false nofun fun h => hkind (kind_eq_of_equals h)

theorem compareWith_equal_comm {l r : Value} (hl : l.Regular) (hr : r.Regular) :
    compareWith .equal l r = compareWith .equal r l := by
  rw [compareWith_equal hl hr, compareWith_equal hr hl, structurallyEquals_comm hl hr]
  simp only [eq_comm]

/-! ## The comparison `<=` of numbers -/

theorem lessEqual_iff {l r : Value} :
    compareWith .lessEqual l r = .holds ↔ ∃ order, order? l r = some order ∧ order ≠ .gt := by
  have hcontainer : equality? .lessEqual l r = none := by
    unfold equality?
    split <;> rfl
  rw [compareWith, hcontainer]
  cases order? l r with
  | none => simp
  | some order => simp [ofBool_eq_holds_iff, Comparison.holds]

theorem lessEqual_integers_iff {a b : Int64} :
    compareWith .lessEqual (.integer a) (.integer b) = .holds ↔ a.toInt ≤ b.toInt := by
  rw [lessEqual_iff, ← compare_le_iff_le]
  simp [order?]

/-- Numbers that are not both integers compare by rank. -/
theorem lessEqual_numbers_iff {l r : Value} {x y : Binary64} (hl : l.toBinary64? = some x)
    (hr : r.toBinary64? = some y) (hmixed : Mixed l r) :
    compareWith .lessEqual l r = .holds ↔ x ≠ .nan ∧ y ≠ .nan ∧ x.rank ≤ y.rank := by
  rw [lessEqual_iff, order?_of_mixed hl hr hmixed, Binary64.compare?_ne_gt_iff]

theorem exists_toBinary64?_of_kind {v : Value} (h : v.kind = .number) :
    ∃ x, v.toBinary64? = some x := by
  cases v with
  | integer a => exact ⟨_, rfl⟩
  | number x => exact ⟨_, rfl⟩
  | _ => cases h

theorem kind_eq_of_lessEqual {l r : Value} (h : compareWith .lessEqual l r = .holds) :
    l.kind = r.kind := by
  obtain ⟨order, horder, -⟩ := lessEqual_iff.1 h
  cases l <;> cases r <;> first | rfl | cases horder

/-- A number that is at most another one has no higher rank, also where integers
compare exactly. -/
theorem rank_le_of_lessEqual {l r : Value} {x y : Binary64} (hl : l.toBinary64? = some x)
    (hr : r.toBinary64? = some y) (h : compareWith .lessEqual l r = .holds) :
    x ≠ .nan ∧ y ≠ .nan ∧ x.rank ≤ y.rank := by
  by_cases hmixed : Mixed l r
  · exact (lessEqual_numbers_iff hl hr hmixed).1 h
  · simp only [Mixed, not_forall, not_not] at hmixed
    obtain ⟨a, b, rfl, rfl⟩ := hmixed
    simp only [toBinary64?, Option.some.injEq] at hl hr
    rw [← hl, ← hr]
    have ha := natAbs_toInt_le a
    have hb := natAbs_toInt_le b
    exact ⟨Binary64.ofInt_ne_nan ha, Binary64.ofInt_ne_nan hb,
      Binary64.rank_ofInt_mono ha hb (lessEqual_integers_iff.1 h)⟩

/-- Two integers with a number between them, to which both are rounded, although the
first integer is the greater one. -/
def Inverted (l m r : Value) : Prop :=
  ∃ a x b, l = .integer a ∧ m = .number x ∧ r = .integer b ∧ b.toInt < a.toInt

/-- Among numbers `<=` is handed on exactly where no integers are inverted. -/
theorem lessEqual_trans_iff {l m r : Value} (hl : l.kind = .number)
    (hm : compareWith .lessEqual l m = .holds) (hr : compareWith .lessEqual m r = .holds) :
    compareWith .lessEqual l r = .holds ↔ ¬Inverted l m r := by
  by_cases hmixed : Mixed l r
  · have hkind := kind_eq_of_lessEqual hm
    have hkind' := kind_eq_of_lessEqual hr
    obtain ⟨x, hx⟩ := exists_toBinary64?_of_kind hl
    obtain ⟨y, hy⟩ := exists_toBinary64?_of_kind (hkind.symm.trans hl)
    obtain ⟨z, hz⟩ := exists_toBinary64?_of_kind ((hkind.trans hkind').symm.trans hl)
    obtain ⟨hxnan, -, hxy⟩ := rank_le_of_lessEqual hx hy hm
    obtain ⟨-, hznan, hyz⟩ := rank_le_of_lessEqual hy hz hr
    refine iff_of_true ?_ ?_
    · exact (lessEqual_numbers_iff hx hz hmixed).2 ⟨hxnan, hznan, hxy.trans hyz⟩
    · rintro ⟨a, _, b, rfl, -, rfl, -⟩
      exact hmixed a b rfl rfl
  · simp only [Mixed, not_forall, not_not] at hmixed
    obtain ⟨a, b, rfl, rfl⟩ := hmixed
    rw [lessEqual_integers_iff]
    cases m with
    | integer c =>
        rw [lessEqual_integers_iff] at hm hr
        refine iff_of_true (hm.trans hr) ?_
        rintro ⟨_, _, _, -, hc, -⟩
        cases hc
    | number x =>
        constructor
        · rintro hle ⟨_, _, _, ha, -, hb, hlt⟩
          cases ha
          cases hb
          exact absurd hle (not_le_of_gt hlt)
        · intro hinverted
          by_contra hle
          exact hinverted ⟨a, x, b, rfl, rfl, rfl, lt_of_not_ge hle⟩
    | _ => cases kind_eq_of_lessEqual hm

/-! ## Coherence -/

/-- Equality is reflexive and symmetric.  It is transitive, and so is the order of
numbers, but for integers that are rounded to one number. -/
theorem equality_coherent_but_for_rounding (l m r : Value) (hl : l.Regular) (hm : m.Regular)
    (hr : r.Regular) :
    (l.structurallyEquals l = true ∧ compareWith .equal l l = .holds) ∧
    (l.structurallyEquals m = m.structurallyEquals l ∧
      compareWith .equal l m = compareWith .equal m l) ∧
    (l.structurallyEquals m = true → m.structurallyEquals r = true →
      (l.structurallyEquals r = true ↔ ¬Tied l m r)) ∧
    (compareWith .equal l m = .holds → compareWith .equal m r = .holds →
      (compareWith .equal l r = .holds ↔ ¬Tied l m r)) ∧
    (l.kind = .number → compareWith .lessEqual l m = .holds →
      compareWith .lessEqual m r = .holds →
        (compareWith .lessEqual l r = .holds ↔ ¬Inverted l m r)) := by
  refine ⟨⟨structurallyEquals_refl hl, ?_⟩, ⟨structurallyEquals_comm hl hm,
    compareWith_equal_comm hl hm⟩, structurallyEquals_trans_iff hl, ?_, lessEqual_trans_iff⟩
  · rw [compareWith_equal_holds_iff hl hl]
    exact structurallyEquals_refl hl
  · rw [compareWith_equal_holds_iff hl hm, compareWith_equal_holds_iff hm hr,
      compareWith_equal_holds_iff hl hr]
    exact structurallyEquals_trans_iff hl

/-! ## Two integers with one nearest number -/

/-- `2 ^ 53` as a number.  It is also the number nearest to the integer after it. -/
def boundary : Binary64 := .ofInt 9007199254740992

theorem boundary_ne_nan : boundary ≠ .nan :=
  Binary64.ofInt_ne_nan (n := 9007199254740992) (by decide)

theorem above_equals_boundary :
    (integer 9007199254740993).structurallyEquals (number boundary) = true := by
  decide +kernel

theorem boundary_equals_below :
    (number boundary).structurallyEquals (integer 9007199254740992) = true := by
  decide +kernel

theorem above_lessEqual_boundary :
    compareWith .lessEqual (integer 9007199254740993) (number boundary) = .holds := by
  decide +kernel

theorem boundary_lessEqual_below :
    compareWith .lessEqual (number boundary) (integer 9007199254740992) = .holds := by
  decide +kernel

/-- The integer after `2 ^ 53` and `2 ^ 53` itself, with the number that both are
rounded to between them. -/
theorem equality_coherent_but_for_rounding_boundary :
    let above := integer 9007199254740993
    let below := integer 9007199254740992
    above.Regular ∧ (number boundary).Regular ∧ below.Regular ∧
      above.structurallyEquals (number boundary) = true ∧
      (number boundary).structurallyEquals below = true ∧
      Tied above (number boundary) below ∧ above.structurallyEquals below ≠ true ∧
      above.kind = .number ∧ compareWith .lessEqual above (number boundary) = .holds ∧
      compareWith .lessEqual (number boundary) below = .holds ∧
      Inverted above (number boundary) below ∧
      compareWith .lessEqual above below ≠ .holds := by
  intro above below
  have htied : Tied above (number boundary) below :=
    .integers (by decide) above_equals_boundary boundary_equals_below
  have hinverted : Inverted above (number boundary) below :=
    ⟨_, _, _, rfl, rfl, rfl, by decide⟩
  obtain ⟨-, -, hequal, -, horder⟩ := equality_coherent_but_for_rounding above (number boundary)
    below (.integer _) (.number boundary_ne_nan) (.integer _)
  have hnotEqual := mt (hequal above_equals_boundary boundary_equals_below).1 (not_not.2 htied)
  have hnotOrder := mt (horder rfl above_lessEqual_boundary boundary_lessEqual_below).1
    (not_not.2 hinverted)
  exact ⟨.integer _, .number boundary_ne_nan, .integer _, above_equals_boundary,
    boundary_equals_below, htied, hnotEqual, rfl, above_lessEqual_boundary,
    boundary_lessEqual_below, hinverted, hnotOrder⟩

/-- Neither equality nor the order of numbers is transitive. -/
theorem rounding_breaks_transitivity :
    (¬∀ l m r : Value, l.Regular → m.Regular → r.Regular → l.structurallyEquals m = true →
      m.structurallyEquals r = true → l.structurallyEquals r = true) ∧
    (¬∀ l m r : Value, l.Regular → m.Regular → r.Regular → compareWith .equal l m = .holds →
      compareWith .equal m r = .holds → compareWith .equal l r = .holds) ∧
    ¬∀ l m r : Value, l.Regular → m.Regular → r.Regular → l.kind = .number →
      compareWith .lessEqual l m = .holds → compareWith .lessEqual m r = .holds →
        compareWith .lessEqual l r = .holds := by
  have habove : (integer 9007199254740993).Regular := .integer _
  have hboundary : (number boundary).Regular := .number boundary_ne_nan
  have hbelow : (integer 9007199254740992).Regular := .integer _
  refine ⟨fun h => ?_, fun h => ?_, fun h => ?_⟩
  · have heq := h _ _ _ habove hboundary hbelow above_equals_boundary boundary_equals_below
    exact absurd (beq_iff_eq.1 heq) (by decide)
  · have heq := h _ _ _ habove hboundary hbelow
      ((compareWith_equal_holds_iff habove hboundary).2 above_equals_boundary)
      ((compareWith_equal_holds_iff hboundary hbelow).2 boundary_equals_below)
    rw [compareWith_equal_holds_iff habove hbelow] at heq
    exact absurd (beq_iff_eq.1 heq) (by decide)
  · have hle := h _ _ _ habove hboundary hbelow rfl above_lessEqual_boundary
      boundary_lessEqual_below
    exact absurd (lessEqual_integers_iff.1 hle) (by decide)

end Value

end JsonPath
