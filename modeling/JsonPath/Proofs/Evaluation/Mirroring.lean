import JsonPath.Proofs.Evaluation.Keys

/-!
# Comparisons with their sides exchanged

Two expressions compare as the other way round with the converse comparison.  The outcomes
of the pairs then come in another order, and that does not matter: whether any of them is
true, and whether any is unknown, is a question of which there are (`Truth.any_congr`).  Each
single outcome stays the same (`compareWith_converse`): orders are swapped, and containers
are equal in both directions as long as the keys of objects are distinct.

The keys in a scope are distinct because no value is read in which they are not
(`Json.distinctKeys_of_read?`), and an evaluation makes none (`Expr.eval_distinctKeys`).

Values that are ordered are in exactly one order, and the six comparisons follow from it.
-/

namespace JsonPath

/-! ## Any of some outcomes -/

namespace Truth

theorem any_cons (t : Truth) (ts : List Truth) :
    any (t :: ts) =
      if t = .holds ∨ any ts = .holds then .holds
      else if t = .unknown ∨ any ts = .unknown then .unknown
      else .fails := by
  cases t <;> cases hrest : any ts <;> simp [any, hrest]

theorem any_eq_holds_iff {ts : List Truth} : any ts = .holds ↔ .holds ∈ ts := by
  induction ts with
  | nil => exact iff_of_false nofun List.not_mem_nil
  | cons t ts ih =>
      rw [any_cons, List.mem_cons, ← ih]
      cases t <;> cases any ts <;> simp

theorem any_eq_fails_iff {ts : List Truth} : any ts = .fails ↔ ∀ t ∈ ts, t = .fails := by
  induction ts with
  | nil => exact iff_of_true rfl nofun
  | cons t ts ih =>
      rw [any_cons, List.forall_mem_cons, ← ih]
      cases t <;> cases any ts <;> simp

/-- It does not matter where and how often an outcome comes up. -/
theorem any_congr {ts us : List Truth} (h : ∀ t, t ∈ ts ↔ t ∈ us) : any ts = any us := by
  have hholds : any ts = .holds ↔ any us = .holds := by
    rw [any_eq_holds_iff, any_eq_holds_iff, h]
  have hfails : any ts = .fails ↔ any us = .fails := by
    simp only [any_eq_fails_iff, h]
  cases hts : any ts <;> cases hus : any us <;> simp_all

end Truth

theorem anyPair_exchange {test other : Value → Value → Truth} {lefts rights : List Value}
    (h : ∀ l ∈ lefts, ∀ r ∈ rights, test l r = other r l) :
    anyPair test lefts rights = anyPair other rights lefts := by
  refine Truth.any_congr fun t => ?_
  simp only [List.mem_flatMap, List.mem_map]
  constructor
  · rintro ⟨l, hl, r, hr, rfl⟩
    exact ⟨r, hr, l, hl, (h l hl r hr).symm⟩
  · rintro ⟨r, hr, l, hl, rfl⟩
    exact ⟨l, hl, r, hr, h l hl r hr⟩

/-! ## Two values -/

theorem Comparison.holds_converse (op : Comparison) (order : Ordering) :
    op.converse.holds order.swap = op.holds order := by
  cases op <;> cases order <;> rfl

/-- An order satisfies one of the three comparisons that leave no choice. -/
theorem Comparison.existsUnique_holds (order : Ordering) :
    ∃! op, op ∈ [less, equal, greater] ∧ op.holds order = true := by
  cases order with
  | lt =>
      refine ⟨less, by decide, fun op ⟨hop, hholds⟩ => ?_⟩
      revert hop hholds
      cases op <;> decide
  | eq =>
      refine ⟨equal, by decide, fun op ⟨hop, hholds⟩ => ?_⟩
      revert hop hholds
      cases op <;> decide
  | gt =>
      refine ⟨greater, by decide, fun op ⟨hop, hholds⟩ => ?_⟩
      revert hop hholds
      cases op <;> decide

namespace Value

theorem order?_swap (l r : Value) : (order? l r).map Ordering.swap = order? r l := by
  cases l with
  | null => cases r <;> rfl
  | boolean a =>
      cases r with
      | boolean b => exact congrArg some Std.OrientedCmp.eq_swap.symm
      | _ => rfl
  | integer a =>
      cases r with
      | integer b => exact congrArg some (Int.compare_swap _ _)
      | number y => exact Binary64.compare?_swap (.ofInt a.toInt) y
      | _ => rfl
  | number x =>
      cases r with
      | integer b => exact Binary64.compare?_swap x (.ofInt b.toInt)
      | number y => exact Binary64.compare?_swap x y
      | _ => rfl
  | string a =>
      cases r with
      | string b => exact congrArg some Std.OrientedCmp.eq_swap.symm
      | _ => rfl
  | array _ => cases r <;> rfl
  | object _ => cases r <;> rfl
  | dateTime d =>
      cases r with
      | dateTime e => exact congrArg some Std.OrientedCmp.eq_swap.symm
      | _ => rfl

section Exchange

variable {op : Comparison} {l r : Value}

theorem equality?_converse (hl : l.DistinctKeys) (hr : r.DistinctKeys) :
    equality? op.converse r l = equality? op l r := by
  have hequals := hl.equals_comm hr
  cases l with
  | array xs =>
      cases r with
      | array ys => cases op <;> simp only [equality?, Comparison.converse, hequals]
      | _ => rfl
  | object ms =>
      cases r with
      | object ns => cases op <;> simp only [equality?, Comparison.converse, hequals]
      | _ => rfl
  | _ => cases r <;> rfl

/-- Exchanged values compare the same by the converse comparison. -/
theorem compareWith_converse (hl : l.DistinctKeys) (hr : r.DistinctKeys) :
    compareWith op.converse r l = compareWith op l r := by
  rw [compareWith, compareWith, equality?_converse hl hr, ← order?_swap l r]
  cases order? l r with
  | none => rfl
  | some order =>
      show Truth.ofBool (op.converse.holds order.swap) = _
      rw [Comparison.holds_converse]

end Exchange

/-- Only ordered values are less or not less. -/
theorem exists_order?_of_less {l r : Value} (h : compareWith .less l r ≠ .unknown) :
    ∃ order, order? l r = some order := by
  cases horder : order? l r with
  | some order => exact ⟨order, rfl⟩
  | none =>
      have hcontainer : equality? .less l r = none := by
        unfold equality?
        split <;> rfl
      rw [compareWith, horder, hcontainer] at h
      exact absurd rfl h

/-- Ordered values are in one order, which decides all comparisons. -/
theorem trichotomy {l r : Value} (h : compareWith .less l r ≠ .unknown) :
    (∃! op, op ∈ [Comparison.less, .equal, .greater] ∧ compareWith op l r = .holds) ∧
      (∀ op, compareWith op l r ≠ .unknown) ∧
      compareWith .lessEqual l r = (compareWith .greater l r).negate ∧
      compareWith .greaterEqual l r = (compareWith .less l r).negate := by
  obtain ⟨order, horder⟩ := exists_order?_of_less h
  have htruth (op : Comparison) : compareWith op l r = .ofBool (op.holds order) :=
    compareWith_of_order horder
  simp only [htruth, ofBool_eq_holds_iff]
  refine ⟨Comparison.existsUnique_holds order, fun op => ?_, ?_, ?_⟩
  · cases op.holds order <;> decide
  · cases order <;> rfl
  · cases order <;> rfl

theorem equality?_notEqual (l r : Value) :
    equality? .notEqual l r = (equality? .equal l r).map (!·) := by
  unfold equality?
  split <;> rfl

theorem notEqual_eq_negate {l r : Value} (h : compareWith .equal l r ≠ .unknown) :
    compareWith .notEqual l r = (compareWith .equal l r).negate := by
  have hnegate (b : Bool) : Truth.ofBool (!b) = (Truth.ofBool b).negate := by cases b <;> rfl
  cases horder : order? l r with
  | some order =>
      rw [compareWith_of_order horder, compareWith_of_order horder, ← hnegate]
      rfl
  | none =>
      simp only [compareWith, horder, equality?_notEqual] at h ⊢
      cases hequal : equality? .equal l r with
      | none =>
          rw [hequal] at h
          exact absurd rfl h
      | some b => exact hnegate b

end Value

/-! ## Two expressions -/

section Expressions

variable {mode : Mode} {s : Scope}

/-- The truth of a comparison is that of the converse comparison of the exchanged sides, and
one is an error if the other is; which error it is depends on the side that comes first. -/
theorem truth_compare_converse (h : s.DistinctKeys) (op : Comparison) (l r : Expr) :
    (∃ t, (Predicate.compare op l r).truth mode s = .ok t ∧
      (Predicate.compare op.converse r l).truth mode s = .ok t) ∨
    ∃ e e', (Predicate.compare op l r).truth mode s = .error e ∧
      (Predicate.compare op.converse r l).truth mode s = .error e' := by
  rw [truth_compare, truth_compare]
  cases hlefts : (l.eval mode s).results.values with
  | error e =>
      cases (r.eval mode s).results.values with
      | error e' => exact .inr ⟨e, e', rfl, rfl⟩
      | ok rights => exact .inr ⟨e, e, rfl, rfl⟩
  | ok lefts =>
      cases hrights : (r.eval mode s).results.values with
      | error e => exact .inr ⟨e, e, rfl, rfl⟩
      | ok rights =>
          refine .inl ⟨_, rfl, congrArg Except.ok (anyPair_exchange fun v hv w hw => ?_)⟩
          have hkeys : (l.eval mode s).results.DistinctKeys := l.eval_distinctKeys h
          have hkeys' : (r.eval mode s).results.DistinctKeys := r.eval_distinctKeys h
          rw [Results.values_eq_ok_iff.1 hlefts] at hkeys
          rw [Results.values_eq_ok_iff.1 hrights] at hkeys'
          exact Value.compareWith_converse (hkeys w (List.mem_map_of_mem hw))
            (hkeys' v (List.mem_map_of_mem hv))

end Expressions

/-- Exchanging the sides of a comparison does not change its truth.  Of two values that are
ordered exactly one of `<`, `==` and `>` is true, and the other comparisons are negations. -/
theorem comparison_mirrored (mode : Mode) (s : Scope) (h : s.DistinctKeys) :
    (∀ op l r,
      (∃ t, (Predicate.compare op l r).truth mode s = .ok t ∧
        (Predicate.compare op.converse r l).truth mode s = .ok t) ∨
      ∃ e e', (Predicate.compare op l r).truth mode s = .error e ∧
        (Predicate.compare op.converse r l).truth mode s = .error e') ∧
    (∀ v w, Value.compareWith .less v w ≠ .unknown →
      (∃! op, op ∈ [Comparison.less, .equal, .greater] ∧ Value.compareWith op v w = .holds) ∧
      (∀ op, Value.compareWith op v w ≠ .unknown) ∧
      Value.compareWith .lessEqual v w = (Value.compareWith .greater v w).negate ∧
      Value.compareWith .greaterEqual v w = (Value.compareWith .less v w).negate) ∧
    ∀ v w, Value.compareWith .equal v w ≠ .unknown →
      Value.compareWith .notEqual v w = (Value.compareWith .equal v w).negate :=
  ⟨truth_compare_converse h, fun _ _ => Value.trichotomy, fun _ _ => Value.notEqual_eq_negate⟩

/-- Two objects whose members are in different orders, and a number. -/
def mixedItems : Value :=
  .array [.object [("a", .integer 1), ("b", .null)], .object [("b", .null), ("a", .integer 1)],
    .integer 1]

/-- Some of the items are not comparable with a number, and one is less than it. -/
theorem comparison_mirrored_mixed :
    let s : Scope := { root := mixedItems, vars := [] }
    s.DistinctKeys ∧
      (Predicate.compare .greater (.integer 2) (.access .root .elementWildcard)).truth .lax s =
        .ok .holds ∧
      Value.compareWith .lessEqual (.integer 1) (.integer 2) =
        (Value.compareWith .greater (.integer 1) (.integer 2)).negate ∧
      Value.compareWith .notEqual mixedItems mixedItems =
        (Value.compareWith .equal mixedItems mixedItems).negate := by
  intro s
  have hroot : mixedItems.DistinctKeys := by
    refine .array fun v hv => ?_
    simp only [List.mem_cons, List.not_mem_nil, or_false] at hv
    rcases hv with rfl | rfl | rfl
    · refine .object (by decide) fun m hm => ?_
      simp only [List.mem_cons, List.not_mem_nil, or_false] at hm
      rcases hm with rfl | rfl
      · exact .integer 1
      · exact .null
    · refine .object (by decide) fun m hm => ?_
      simp only [List.mem_cons, List.not_mem_nil, or_false] at hm
      rcases hm with rfl | rfl
      · exact .null
      · exact .integer 1
    · exact .integer 1
  have hs : s.DistinctKeys := ⟨hroot, nofun, nofun⟩
  obtain ⟨hmirrored, hordered, hnotEqual⟩ := comparison_mirrored .lax s hs
  have hless : (Predicate.compare .less (.access .root .elementWildcard) (.integer 2)).truth
      .lax s = .ok .holds := by
    decide +kernel
  refine ⟨hs, ?_, (hordered _ _ (by decide)).2.2.1, hnotEqual _ _ (by decide +kernel)⟩
  rcases hmirrored .less (.access .root .elementWildcard) (.integer 2) with
    ⟨t, ht, hgreater⟩ | ⟨e, e', he, -⟩
  · cases ht.symm.trans hless
    exact hgreater
  · cases he.symm.trans hless

end JsonPath
