import Mathlib.Data.List.Forall2
import JsonPath.Proofs.Evaluation.Sequencing

/-!
# Subscripts

A range of indexes is cut out of the array in one piece, a list of indexes is selected one
by one.  Both ways come to the same elements, and where strict mode fails for one it fails
for the other.

* `indexesBetween` enumerates a range; `slice_eq_filterMap` says that the piece is what the
  enumeration selects.
* `selectAll_indices_lax` and `selectAll_indices_strict` are about a list of indexes, the
  latter up to the first one that is missing.
* `selectAll_eq_ok_iff` and `selectAll_eq_error_iff` take any list of subscripts apart.
* `subscripts_enumerate_and_concatenate` says all this of the accessor.
* `whole_range_eq_wildcard` is about the range that is the whole array.
-/

namespace JsonPath

variable {mode : Mode} {s : Scope} {items : List Value}

/-! ## The indexes of a range -/

/-- The indexes from one to another, both included. -/
def indexesBetween (low high : Int64) : List Int64 :=
  (List.range (high.toInt + 1 - low.toInt).toNat).map fun i : Nat => .ofInt (low.toInt + i)

theorem toInt_ofInt_between (low high : Int64) {n : Int} (hlow : low.toInt ≤ n)
    (hhigh : n ≤ high.toInt) : (Int64.ofInt n).toInt = n :=
  Int64.toInt_ofInt_of_le (Int.le_trans low.minValue_le_toInt hlow)
    (Int.lt_add_one_of_le (Int.le_trans hhigh high.toInt_le))

theorem mem_indexesBetween {low high k : Int64} :
    k ∈ indexesBetween low high ↔ low ≤ k ∧ k ≤ high := by
  simp only [indexesBetween, List.mem_map, List.mem_range, Int64.le_iff_toInt_le]
  constructor
  · rintro ⟨i, hi, rfl⟩
    rw [toInt_ofInt_between low high (by omega) (by omega)]
    omega
  · rintro ⟨hlow, hhigh⟩
    refine ⟨(k.toInt - low.toInt).toNat, by omega, ?_⟩
    rw [← Int64.toInt_inj, toInt_ofInt_between low high (by omega) (by omega)]
    omega

/-- A piece that is not empty grows by the element at its end, if there is one. -/
theorem slice_succ (items : List Value) {low high : Int} (h : low ≤ high) :
    slice items low high = slice items low (high - 1) ++
      (if 0 ≤ high then items[high.toNat]? else none).toList := by
  simp only [slice, Int.sub_add_cancel]
  by_cases hnegative : high < 0
  · rw [if_neg (by omega)]
    have hstop : (min (high + 1) items.length).toNat = 0 := by omega
    have hstop' : (min high items.length).toNat = 0 := by omega
    simp [hstop, hstop']
  rw [if_pos (by omega)]
  by_cases hinside : high < items.length
  · have hstop : (min (high + 1) items.length).toNat - (max low 0).toNat =
        (min high items.length).toNat - (max low 0).toNat + 1 := by
      omega
    have hindex : (max low 0).toNat + ((min high items.length).toNat - (max low 0).toNat) =
        high.toNat := by
      omega
    rw [hstop, List.take_add_one, List.getElem?_drop, hindex]
  · have hstop : min (high + 1) items.length = min high items.length := by omega
    rw [hstop, List.getElem?_eq_none (by omega)]
    simp

/-- The induction is on the number of indexes. -/
theorem slice_eq_filterMap_range (items : List Value) (low : Int) (n : Nat) :
    slice items low (low + n - 1) = (List.range n).filterMap fun i : Nat =>
      if 0 ≤ low + i then items[(low + i).toNat]? else none := by
  induction n with
  | zero =>
      have hstop : (min low items.length).toNat - (max low 0).toNat = 0 := by omega
      simp [slice, hstop]
  | succ n ih =>
      have hend : low + (n + 1 : Nat) - 1 = low + n := by omega
      rw [hend, slice_succ items (by omega), ih, List.range_succ, List.filterMap_append]
      rfl

/-- The elements from one index to another are those at the indexes in between. -/
theorem slice_eq_filterMap (items : List Value) (low high : Int64) :
    slice items low.toInt high.toInt = (indexesBetween low high).filterMap (elementAt? items) := by
  by_cases h : low.toInt ≤ high.toInt
  · have hend : low.toInt + (high.toInt + 1 - low.toInt).toNat - 1 = high.toInt := by omega
    rw [indexesBetween, List.filterMap_map, ← hend, slice_eq_filterMap_range, hend]
    refine List.filterMap_congr fun i hi => ?_
    have hi' := List.mem_range.1 hi
    have hindex := toInt_ofInt_between low high (n := low.toInt + i) (by omega) (by omega)
    simp only [Function.comp_apply, elementAt?, hindex]
  · have hcount : (high.toInt + 1 - low.toInt).toNat = 0 := by omega
    have hstop : (min (high.toInt + 1) items.length).toNat - (max low.toInt 0).toNat = 0 := by
      omega
    simp [slice, indexesBetween, hcount, hstop]

theorem elementAt?_isSome_iff {k : Int64} :
    (elementAt? items k).isSome ↔ 0 ≤ k.toInt ∧ k.toInt < items.length := by
  unfold elementAt?
  split
  · next hk =>
      rw [Option.isSome_iff_ne_none, ne_eq, List.getElem?_eq_none_iff]
      omega
  · next hk => simp [hk]

/-! ## A list of indexes -/

/-- The expression is a single value that serves as this index. -/
def Expr.IsIndex (mode : Mode) (s : Scope) (e : Expr) (k : Int64) : Prop :=
  ∃ v, (e.eval mode s).results = [.ok v] ∧ asIndex v = .ok k

theorem isIndex_integer (k : Int64) : (Expr.integer k).IsIndex mode s k := ⟨_, rfl, rfl⟩

/-- The fraction of a number is cut off. -/
theorem isIndex_number {x : Binary64} {n : Int} (h : x.trunc? = some n) :
    (Expr.number x).IsIndex mode s (nearestInt64 n) :=
  ⟨_, rfl, by simp only [asIndex, h]⟩

/-- In an empty array the last index is -1. -/
theorem isIndex_last (n : Nat) :
    Expr.last.IsIndex mode (s.withLength n) (.ofInt ((n : Int) - 1)) := ⟨_, rfl, rfl⟩

theorem rangeBound_of_isIndex {e : Expr} {k : Int64} (h : e.IsIndex mode s k) :
    rangeBound (e.eval mode s).results = .ok k := by
  obtain ⟨v, hresults, hindex⟩ := h
  rw [hresults]
  exact hindex

theorem select_of_isIndex {e : Expr} {k : Int64} (h : e.IsIndex mode s k) :
    (Subscript.indices e).select mode s items = select mode items k := by
  obtain ⟨v, hresults, hindex⟩ := h
  rw [Subscript.select, hresults, selectEach, hindex]
  show (select mode items k >>= fun here => .ok (here ++ [])) = _
  cases select mode items k <;> simp [bind, Except.bind]

theorem select_range_of_isIndex {low high : Expr} {a b : Int64} (ha : low.IsIndex mode s a)
    (hb : high.IsIndex mode s b) :
    (Subscript.range low high).select mode s items = selectRange mode items a b := by
  rw [select_range, rangeBound_of_isIndex ha, rangeBound_of_isIndex hb]
  rfl

/-- Lax mode selects the elements that exist. -/
theorem selectAll_indices_lax {positions : List Expr} {ks : List Int64}
    (h : List.Forall₂ (Expr.IsIndex .lax s) positions ks) :
    selectAll .lax s items (positions.map .indices) = .ok (ks.filterMap (elementAt? items)) := by
  induction h with
  | nil => rfl
  | @cons e k positions ks hk _ ih =>
      rw [List.map_cons, selectAll_cons, select_of_isIndex hk, select_lax, ih, List.filterMap_cons]
      cases elementAt? items k <;> rfl

/-- Strict mode fails at the first index that is out of range. -/
theorem selectAll_indices_strict {positions : List Expr} {ks : List Int64}
    (h : List.Forall₂ (Expr.IsIndex .strict s) positions ks) :
    selectAll .strict s items (positions.map .indices) =
      match ks.find? fun k => (elementAt? items k).isNone with
      | some k => .error (.indexOutOfRange k items.length)
      | none => .ok (ks.filterMap (elementAt? items)) := by
  induction h with
  | nil => rfl
  | @cons e k positions ks hk _ ih =>
      rw [List.map_cons, selectAll_cons, select_of_isIndex hk, ih]
      cases hfound : elementAt? items k with
      | none =>
          simp only [select, hfound, List.find?_cons, Option.isNone_none]
          rfl
      | some v =>
          simp only [select, hfound, List.find?_cons, Option.isNone_some, List.filterMap_cons]
          cases ks.find? fun k => (elementAt? items k).isNone <;> rfl

/-! ## Ranges -/

theorem indexesBetween_eq_nil {a b : Int64} (h : b < a) : indexesBetween a b = [] := by
  rw [List.eq_nil_iff_forall_not_mem]
  intro k hk
  obtain ⟨hlow, hhigh⟩ := mem_indexesBetween.1 hk
  exact Int64.not_lt.2 (Int64.le_trans hlow hhigh) h

theorem selectRange_lax (a b : Int64) :
    selectRange .lax items a b = .ok ((indexesBetween a b).filterMap (elementAt? items)) := by
  rw [selectRange, slice_eq_filterMap]

/-- Strict mode looks at both ends only: what lies between two elements is an element. -/
theorem selectRange_strict (items : List Value) {a b : Int64} (h : a ≤ b) :
    (selectRange .strict items a b = .ok ((indexesBetween a b).filterMap (elementAt? items)) ∧
        ∀ k ∈ indexesBetween a b, (elementAt? items k).isSome) ∨
      ∃ k ∈ indexesBetween a b, elementAt? items k = none ∧
        selectRange .strict items a b = .error (.indexOutOfRange k items.length) := by
  simp only [selectRange, slice_eq_filterMap]
  cases ha : elementAt? items a with
  | none => exact .inr ⟨a, mem_indexesBetween.2 ⟨Int64.le_refl a, h⟩, ha, rfl⟩
  | some first =>
      cases hb : elementAt? items b with
      | none => exact .inr ⟨b, mem_indexesBetween.2 ⟨h, Int64.le_refl b⟩, hb, rfl⟩
      | some final =>
          have hfirst := elementAt?_isSome_iff.1 (Option.isSome_of_mem ha)
          have hfinal := elementAt?_isSome_iff.1 (Option.isSome_of_mem hb)
          refine .inl ⟨by simp [Int64.not_lt.2 h], fun k hk => elementAt?_isSome_iff.2 ?_⟩
          obtain ⟨hlow, hhigh⟩ := mem_indexesBetween.1 hk
          rw [Int64.le_iff_toInt_le] at hlow hhigh
          omega

theorem selectRange_strict_reversed {a b : Int64} (h : b < a) :
    ∃ k ∈ [a, b], selectRange .strict items a b = .error (.indexOutOfRange k items.length) := by
  simp only [selectRange, h, if_true]
  cases elementAt? items a with
  | none => exact ⟨a, by simp, rfl⟩
  | some first =>
      cases elementAt? items b with
      | none => exact ⟨b, by simp, rfl⟩
      | some final => exact ⟨a, by simp, rfl⟩

/-- A range and the list of its indexes select the same elements, unless some are missing in
strict mode. -/
theorem selectRange_and_selectAll (items : List Value) {a b : Int64} (hab : a ≤ b)
    {positions : List Expr}
    (h : List.Forall₂ (Expr.IsIndex mode s) positions (indexesBetween a b)) :
    let found := (indexesBetween a b).filterMap (elementAt? items)
    let missing := (indexesBetween a b).filter fun k => (elementAt? items k).isNone
    (selectRange mode items a b = .ok found ∧
        selectAll mode s items (positions.map .indices) = .ok found) ∨
      mode = .strict ∧
        (∃ k ∈ missing, selectRange mode items a b = .error (.indexOutOfRange k items.length)) ∧
        ∃ k ∈ missing, selectAll mode s items (positions.map .indices) =
          .error (.indexOutOfRange k items.length) := by
  intro found missing
  cases mode with
  | lax => exact .inl ⟨selectRange_lax a b, selectAll_indices_lax h⟩
  | strict =>
      rw [selectAll_indices_strict h]
      rcases selectRange_strict items hab with ⟨hrange, hall⟩ | ⟨k, hk, hnone, hrange⟩
      · have hfind : (indexesBetween a b).find? (fun k => (elementAt? items k).isNone) = none := by
          rw [List.find?_eq_none]
          intro k hk
          rw [← Option.not_isSome, hall k hk]
          decide
        rw [hfind]
        exact .inl ⟨hrange, rfl⟩
      · have hmissing : k ∈ missing := List.mem_filter.2 ⟨hk, by rw [hnone]; rfl⟩
        refine .inr ⟨rfl, ⟨k, hmissing, hrange⟩, ?_⟩
        cases hfind : (indexesBetween a b).find? (fun k => (elementAt? items k).isNone) with
        | none => exact absurd (List.of_mem_filter hmissing) (List.find?_eq_none.1 hfind k hk)
        | some k' =>
            have hk' := List.mem_of_find?_eq_some hfind
            have hnone' := List.find?_some (p := fun k => (elementAt? items k).isNone) hfind
            exact ⟨k', List.mem_filter.2 ⟨hk', hnone'⟩, rfl⟩

/-! ## Lists of subscripts -/

theorem selectAll_eq_ok_iff {subs : List Subscript} {vs : List Value} :
    selectAll mode s items subs = .ok vs ↔
      ∃ parts, List.Forall₂ (fun sub part => sub.select mode s items = .ok part) subs parts ∧
        vs = parts.flatten := by
  induction subs generalizing vs with
  | nil => simp [selectAll, eq_comm]
  | cons sub subs ih =>
      simp only [selectAll_cons, bind_eq_ok_iff, ih]
      constructor
      · rintro ⟨here, hsub, more, ⟨parts, hparts, rfl⟩, hvs⟩
        cases hvs
        exact ⟨here :: parts, .cons hsub hparts, List.flatten_cons.symm⟩
      · rintro ⟨parts, hparts, rfl⟩
        cases hparts with
        | @cons _ here _ parts hsub hparts =>
            exact ⟨here, hsub, _, ⟨parts, hparts, rfl⟩, by rw [List.flatten_cons]⟩

theorem selectAll_eq_error_iff {subs : List Subscript} {e : EvalError} :
    selectAll mode s items subs = .error e ↔
      ∃ front parts failing back, subs = front ++ failing :: back ∧
        List.Forall₂ (fun sub part => sub.select mode s items = .ok part) front parts ∧
        failing.select mode s items = .error e := by
  induction subs with
  | nil => simp [selectAll]
  | cons sub subs ih =>
      simp only [selectAll_cons, bind_eq_error_iff, ih]
      constructor
      · rintro (hsub | ⟨here, hsub, ⟨front, parts, failing, back, rfl, hfront, hfailing⟩ | h⟩)
        · exact ⟨[], [], sub, subs, rfl, .nil, hsub⟩
        · exact ⟨sub :: front, here :: parts, failing, back, rfl, .cons hsub hfront, hfailing⟩
        · obtain ⟨more, -, h⟩ := h
          cases h
      · rintro ⟨front, parts, failing, back, hsubs, hfront, hfailing⟩
        cases hfront with
        | nil =>
            cases hsubs
            exact .inl hfailing
        | @cons _ here front parts hsub hfront =>
            cases hsubs
            exact .inr ⟨here, hsub, .inl ⟨front, parts, failing, back, rfl, hfront, hfailing⟩⟩

/-! ## The accessor -/

namespace Sequence

theorem ofExcept_eq_ofValues_iff {x : Except EvalError (List Value)} {vs : List Value} :
    ofExcept x = ofValues vs ↔ x = .ok vs := by
  refine ⟨fun h => ?_, fun h => by rw [h]; rfl⟩
  cases x with
  | error e =>
      have hresults := congrArg results h
      cases vs <;> simp [ofExcept, Results.ofValues] at hresults
  | ok ws =>
      rw [ofExcept, ofValues, ofValues, deferred.injEq] at h
      exact congrArg _ (List.map_injective_iff.2 (fun _ _ h => Except.ok.inj h) h)

theorem ofExcept_eq_failed_iff {x : Except EvalError (List Value)} {e : EvalError} :
    ofExcept x = failed e ↔ x = .error e := by
  refine ⟨fun h => ?_, fun h => by rw [h]; rfl⟩
  have hresults := congrArg results h
  cases x with
  | error e' => simpa [ofExcept] using hresults
  | ok ws => cases ws <;> simp [ofExcept, Results.ofValues] at hresults

end Sequence

/-- Only strict mode refuses to take a value for an array. -/
theorem subscripted_eq_ok {v : Value} (h : mode = .lax ∨ ∃ vs, v = .array vs) :
    subscripted mode v = .ok v.elements := by
  rcases h with rfl | ⟨vs, rfl⟩
  · exact subscripted_lax v
  · rfl

theorem apply_subscripts (v : Value) (subs : List Subscript) :
    (Accessor.subscripts subs).apply mode s v = .ofExcept (subscripted mode v >>= fun items =>
      selectAll mode (s.withLength items.length) items subs) := by
  rw [Accessor.apply]
  cases subscripted mode v <;> rfl

theorem apply_subscripts_of_array {v : Value} (h : mode = .lax ∨ ∃ vs, v = .array vs)
    (subs : List Subscript) :
    (Accessor.subscripts subs).apply mode s v =
      .ofExcept (selectAll mode (s.withLength v.elements.length) v.elements subs) := by
  rw [apply_subscripts, subscripted_eq_ok h]
  rfl

theorem apply_subscripts_of_not_array {v : Value} (h : ∀ vs, v ≠ .array vs)
    (subs : List Subscript) :
    (Accessor.subscripts subs).apply .strict s v = .failed (.notAnArray .subscript v.kind) := by
  cases v with
  | array vs => exact absurd rfl (h vs)
  | _ => rfl

theorem selectAll_singleton (sub : Subscript) :
    selectAll mode s items [sub] = sub.select mode s items := by
  rw [selectAll_cons]
  cases sub.select mode s items with
  | error e => rfl
  | ok here =>
      show Except.ok (here ++ []) = _
      rw [List.append_nil]

theorem apply_range {v : Value} (h : mode = .lax ∨ ∃ vs, v = .array vs) {low high : Expr}
    {a b : Int64} (ha : low.IsIndex mode (s.withLength v.elements.length) a)
    (hb : high.IsIndex mode (s.withLength v.elements.length) b) :
    (Accessor.subscripts [.range low high]).apply mode s v =
      .ofExcept (selectRange mode v.elements a b) := by
  rw [apply_subscripts_of_array h, selectAll_singleton, select_range_of_isIndex ha hb]

/-- The elements of several subscripts are those of each of them. -/
theorem apply_subscripts_eq_ofValues_iff (v : Value) (sub : Subscript) (subs : List Subscript)
    (vs : List Value) :
    (Accessor.subscripts (sub :: subs)).apply mode s v = .ofValues vs ↔
      ∃ parts, List.Forall₂ (fun sub part =>
          (Accessor.subscripts [sub]).apply mode s v = .ofValues part) (sub :: subs) parts ∧
        vs = parts.flatten := by
  simp only [apply_subscripts, Sequence.ofExcept_eq_ofValues_iff, selectAll_singleton]
  cases subscripted mode v with
  | ok items => exact selectAll_eq_ok_iff
  | error e =>
      constructor
      · intro h
        cases h
      · rintro ⟨parts, hparts, -⟩
        cases hparts with
        | cons h _ => cases h

/-- The error of several subscripts is that of the first one that fails. -/
theorem apply_subscripts_eq_failed_iff (v : Value) (sub : Subscript) (subs : List Subscript)
    (e : EvalError) :
    (Accessor.subscripts (sub :: subs)).apply mode s v = .failed e ↔
      ∃ front parts failing back, sub :: subs = front ++ failing :: back ∧
        List.Forall₂ (fun sub part =>
          (Accessor.subscripts [sub]).apply mode s v = .ofValues part) front parts ∧
        (Accessor.subscripts [failing]).apply mode s v = .failed e := by
  simp only [apply_subscripts, Sequence.ofExcept_eq_ofValues_iff,
    Sequence.ofExcept_eq_failed_iff, selectAll_singleton]
  cases subscripted mode v with
  | ok items => exact selectAll_eq_error_iff
  | error e' =>
      -- no subscript selects anything, so that the first one fails
      constructor
      · exact fun h => ⟨[], [], sub, subs, rfl, .nil, h⟩
      · rintro ⟨front, parts, failing, back, -, -, h⟩
        exact h

/-- A range selects what the list of its indexes selects, and several subscripts what each
of them selects alone, one after the other.  In strict mode only, a range or a list that
reaches outside the array fails, and so does every subscript of a value that is no array.
Indexes are all integers, finite numbers without their fractions, and `last`. -/
theorem subscripts_enumerate_and_concatenate (mode : Mode) (s : Scope) (v : Value) :
    let inner := s.withLength v.elements.length
    let selects := fun subs => (Accessor.subscripts subs).apply mode s v
    let outside := fun k => Sequence.failed (.indexOutOfRange k v.elements.length)
    ((∀ k, (Expr.integer k).IsIndex mode inner k) ∧
      (∀ x n, x.trunc? = some n → (Expr.number x).IsIndex mode inner (nearestInt64 n)) ∧
      Expr.last.IsIndex mode inner (.ofInt ((v.elements.length : Int) - 1))) ∧
    (mode = .lax ∨ (∃ vs, v = .array vs) → ∀ low high a b,
      low.IsIndex mode inner a → high.IsIndex mode inner b →
        (b < a →
          mode = .lax ∧ selects [.range low high] = .ofValues [] ∨
            mode = .strict ∧ ∃ k ∈ [a, b], selects [.range low high] = outside k) ∧
        (a ≤ b → ∀ positions,
          List.Forall₂ (Expr.IsIndex mode inner) positions (indexesBetween a b) →
            let found := (indexesBetween a b).filterMap (elementAt? v.elements)
            let missing := (indexesBetween a b).filter fun k => (elementAt? v.elements k).isNone
            (selects [.range low high] = .ofValues found ∧
                selects (positions.map .indices) = .ofValues found) ∨
              mode = .strict ∧ (∃ k ∈ missing, selects [.range low high] = outside k) ∧
                ∃ k ∈ missing, selects (positions.map .indices) = outside k)) ∧
    (mode = .strict → (∀ vs, v ≠ .array vs) →
      ∀ subs, selects subs = .failed (.notAnArray .subscript v.kind)) ∧
    ∀ sub subs,
      (∀ vs, selects (sub :: subs) = .ofValues vs ↔
        ∃ parts, List.Forall₂ (fun sub part => selects [sub] = .ofValues part) (sub :: subs) parts ∧
          vs = parts.flatten) ∧
      (∀ e, selects (sub :: subs) = .failed e ↔
        ∃ front parts failing back, sub :: subs = front ++ failing :: back ∧
          List.Forall₂ (fun sub part => selects [sub] = .ofValues part) front parts ∧
          selects [failing] = .failed e) ∧
      ((∃ vs, selects (sub :: subs) = .ofValues vs) ∨
        ∃ e, selects (sub :: subs) = .failed e) := by
  intro inner selects outside
  refine ⟨⟨isIndex_integer, fun x n => isIndex_number, isIndex_last _⟩, ?_, ?_, ?_⟩
  · intro harray low high a b ha hb
    have hrange : selects [.range low high] = _ := apply_range harray ha hb
    constructor
    · intro hba
      cases mode with
      | lax =>
          rw [selectRange_lax, indexesBetween_eq_nil hba] at hrange
          exact .inl ⟨rfl, hrange⟩
      | strict =>
          obtain ⟨k, hk, houtside⟩ := selectRange_strict_reversed hba
          rw [houtside] at hrange
          exact .inr ⟨rfl, k, hk, hrange⟩
    · intro hab positions hpositions found missing
      have hlist : selects (positions.map .indices) = _ := apply_subscripts_of_array harray _
      rw [hrange, hlist]
      rcases selectRange_and_selectAll v.elements hab hpositions with
        ⟨hrange, hlist⟩ | ⟨hmode, ⟨k, hk, hrange⟩, k', hk', hlist⟩
      · rw [hrange, hlist]
        exact .inl ⟨rfl, rfl⟩
      · rw [hrange, hlist]
        exact .inr ⟨hmode, ⟨k, hk, rfl⟩, k', hk', rfl⟩
  · rintro rfl hv subs
    exact apply_subscripts_of_not_array hv subs
  · intro sub subs
    refine ⟨apply_subscripts_eq_ofValues_iff v sub subs, apply_subscripts_eq_failed_iff v sub subs,
      ?_⟩
    have hselects : selects (sub :: subs) = _ := apply_subscripts v _
    rw [hselects]
    generalize subscripted mode v >>= _ = x
    cases x with
    | ok vs => exact .inl ⟨vs, rfl⟩
    | error e => exact .inr ⟨e, rfl⟩

/-- The range from one and a half to the last element, and a list whose second subscript is
the first that fails. -/
theorem subscripts_enumerate_and_concatenate_last :
    let s : Scope := { root := .null, vars := [] }
    let v : Value := .array [.integer 10, .integer 20, .integer 30]
    let x : Binary64 := .round false (3 * Binary64.unitsPerOne) 2
    let selects := fun subs => (Accessor.subscripts subs).apply .strict s v
    (Expr.number x).IsIndex .strict (s.withLength 3) 1 ∧
      Expr.last.IsIndex .strict (s.withLength 3) 2 ∧
      selects [.range (.number x) .last] = .ofValues [.integer 20, .integer 30] ∧
      selects [.indices (.integer 1), .indices (.integer 2)] =
        .ofValues [.integer 20, .integer 30] ∧
      (∃ k ∈ [2, 1], selects [.range .last (.number x)] = .failed (.indexOutOfRange k 3)) ∧
      selects [.indices .last, .indices (.integer 5), .indices .null] =
        .failed (.indexOutOfRange 5 3) := by
  intro s v x selects
  obtain ⟨⟨-, hnumber, hlast⟩, hranges, -, hlists⟩ :=
    subscripts_enumerate_and_concatenate .strict s v
  have hx : (Expr.number x).IsIndex .strict (s.withLength 3) 1 :=
    hnumber x 1 (by decide +kernel)
  have hpositions : List.Forall₂ (Expr.IsIndex .strict (s.withLength 3))
      [.integer 1, .integer 2] (indexesBetween 1 2) :=
    .cons (isIndex_integer 1) (.cons (isIndex_integer 2) .nil)
  obtain ⟨-, hforth⟩ := hranges (.inr ⟨_, rfl⟩) _ _ 1 2 hx hlast
  obtain ⟨hback, -⟩ := hranges (.inr ⟨_, rfl⟩) _ _ 2 1 hlast hx
  have hfailing : selects [.indices .last, .indices (.integer 5), .indices .null] =
      .failed (.indexOutOfRange 5 3) :=
    ((hlists _ _).2.1 _).2 ⟨[.indices .last], [[.integer 30]], .indices (.integer 5),
      [.indices .null], rfl, .cons rfl .nil, rfl⟩
  rcases hforth (by decide) _ hpositions with ⟨hrange, hlist⟩ | ⟨-, ⟨k, hk, -⟩, -⟩
  · obtain ⟨hmode, -⟩ | ⟨-, houtside⟩ := hback (by decide)
    · cases hmode
    · exact ⟨hx, hlast, hrange, hlist, houtside, hfailing⟩
  · cases hk

/-! ## The whole array -/

/-- The greatest index of an array fits 64 bits, as that of every array in memory does. -/
def Value.IsIndexable (v : Value) : Prop := (v.elements.length : Int) - 1 ≤ Int64.maxValue.toInt

/-- The last index of an empty array is -1. -/
theorem toInt_lastIndex {v : Value} (h : v.IsIndexable) :
    (Int64.ofInt ((v.elements.length : Int) - 1)).toInt = v.elements.length - 1 := by
  refine Int64.toInt_ofInt_of_le ?_ (Int.lt_add_one_of_le h)
  show Int64.minValue.toInt ≤ _
  have hmin : Int64.minValue.toInt ≤ -1 := by decide
  omega

theorem slice_whole (items : List Value) : slice items 0 ((items.length : Int) - 1) = items := by
  simp [slice]

/-- An accessor sees the values of its base one by one; errors stay in their places. -/
theorem Expr.results_access {e : Expr} {stage : Accessor} {found : Value → Results}
    (h : ∀ v, .ok v ∈ (e.eval mode s).results → (stage.apply mode s v).results = found v) :
    ((Expr.access e stage).eval mode s).results =
      (e.eval mode s).results.flatMap fun
        | .ok v => found v
        | .error failure => [.error failure] := by
  rw [Expr.eval, Sequence.results_andThen]
  refine List.flatMap_congr fun r hr => ?_
  cases r with
  | error failure => rfl
  | ok v => exact h v hr

theorem elementWildcard_lax (v : Value) :
    (elementWildcard .lax v).results = Results.ofValues v.elements := by
  cases v <;> rfl

/-- The range from 0 to `last` leaves nothing out. -/
theorem apply_whole_range {v : Value} (h : v.IsIndexable) :
    (Accessor.subscripts [.range (.integer 0) .last]).apply .lax s v = .ofValues v.elements := by
  have hlast : Expr.last.IsIndex .lax (s.withLength v.elements.length)
      (.ofInt ((v.elements.length : Int) - 1)) := isIndex_last _
  have hzero : (0 : Int64).toInt = 0 := rfl
  rw [apply_range (.inl rfl) (isIndex_integer 0) hlast, selectRange, hzero, toInt_lastIndex h,
    slice_whole]
  rfl

/-- In lax mode `[0 to last]` is `[*]`: on whatever the base yields, both give the elements of
every array and every other value itself, in their order, and leave errors in their places. -/
theorem whole_range_eq_wildcard (s : Scope) (e : Expr)
    (h : ∀ v, .ok v ∈ (e.eval .lax s).results → v.IsIndexable) :
    let elements : Results := (e.eval .lax s).results.flatMap fun
      | .ok v => Results.ofValues v.elements
      | .error failure => [.error failure]
    ((Expr.access e .elementWildcard).eval .lax s).results = elements ∧
      ((Expr.access e (.subscripts [.range (.integer 0) .last])).eval .lax s).results =
        elements := by
  intro elements
  constructor
  · exact Expr.results_access fun v _ => elementWildcard_lax v
  · exact Expr.results_access fun v hv => congrArg Sequence.results (apply_whole_range (h v hv))

/-- An array, an empty one, an error and a number from one base. -/
theorem whole_range_eq_wildcard_mixed :
    let pair : List Value := [.integer 1, .null]
    let s : Scope :=
      { root := .array [.object [("a", .array pair), ("b", .array [])], .integer 3,
          .object [("c", .integer 5)]]
        vars := [] }
    let e : Expr :=
      .access (.access (.access .root .elementWildcard) (.method .keyValue)) (.member "value")
    let mismatch : EvalError := .notAnObject .keyValue .number
    (e.eval .lax s).results =
        [.ok (.array pair), .ok (.array []), .error mismatch, .ok (.integer 5)] ∧
      (∀ v, .ok v ∈ (e.eval .lax s).results → v.IsIndexable) ∧
      ((Expr.access e .elementWildcard).eval .lax s).results =
        [.ok (.integer 1), .ok .null, .error mismatch, .ok (.integer 5)] ∧
      ((Expr.access e (.subscripts [.range (.integer 0) .last])).eval .lax s).results =
        [.ok (.integer 1), .ok .null, .error mismatch, .ok (.integer 5)] := by
  intro pair s e mismatch
  have hbase : (e.eval .lax s).results =
      [.ok (.array pair), .ok (.array []), .error mismatch, .ok (.integer 5)] := rfl
  have hindexable : ∀ v, .ok v ∈ (e.eval .lax s).results → v.IsIndexable := by
    intro v hv
    rw [hbase] at hv
    simp only [List.mem_cons, Except.ok.injEq, reduceCtorEq, List.not_mem_nil, or_false,
      false_or] at hv
    rcases hv with rfl | rfl | rfl
    · show (2 : Int) - 1 ≤ _
      decide
    · show (0 : Int) - 1 ≤ _
      decide
    · show (1 : Int) - 1 ≤ _
      decide
  obtain ⟨hwildcard, hrange⟩ := whole_range_eq_wildcard s e hindexable
  rw [hbase] at hwildcard hrange
  exact ⟨hbase, hindexable, hwildcard, hrange⟩

end JsonPath
