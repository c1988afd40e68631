import JsonPath.Proofs.Evaluation.ArithmeticErrors
import JsonPath.Proofs.Evaluation.FilterChains
import JsonPath.Proofs.Evaluation.Unwrapping

/-!
# Distinct keys in results

Members are a list, and there are lists in which a key stands twice.  An evaluation makes no
object of that kind: if the keys of the objects in a scope are distinct, so are those in all
results (`Expr.eval_distinctKeys`).

Most of an evaluation passes on parts of the values that it is given.  What it makes itself
are scalars, and the records of `.keyvalue()`, which have three keys each.
-/

namespace JsonPath

variable {mode : Mode} {s : Scope}

/-! ## Parts of values -/

namespace Value

variable {v w : Value}

/-- Only containers have keys inside of them. -/
theorem distinctKeys_of_kind (harray : v.kind ≠ .array) (hobject : v.kind ≠ .object) :
    v.DistinctKeys := by
  cases v with
  | null => exact .null
  | boolean b => exact .boolean b
  | integer n => exact .integer n
  | number x => exact .number trivial
  | string s => exact .string s
  | array items => exact absurd rfl harray
  | object members => exact absurd rfl hobject
  | dateTime d => exact .dateTime trivial

theorem distinctKeys_of_kind_number (h : v.kind = .number) : v.DistinctKeys :=
  distinctKeys_of_kind (by rw [h]; decide) (by rw [h]; decide)

theorem DistinctKeys.of_mem_elements (h : v.DistinctKeys) (hw : w ∈ v.elements) :
    w.DistinctKeys := by
  cases v with
  | array items =>
      cases h with
      | array h => exact h w hw
  | _ =>
      rw [List.mem_singleton.1 hw]
      exact h

theorem DistinctKeys.of_mem_memberValues (h : v.DistinctKeys) (hw : w ∈ v.memberValues) :
    w.DistinctKeys := by
  cases h with
  | object _ h =>
      obtain ⟨m, hm, rfl⟩ := List.mem_map.1 hw
      exact h m hm
  | _ => cases hw

theorem DistinctKeys.of_member? {name : String} (h : v.DistinctKeys)
    (hw : v.member? name = some w) : w.DistinctKeys := by
  cases h with
  | object _ h => exact h (name, w) (mem_of_lookup hw)
  | _ => cases hw

end Value

/-! ## Results -/

/-- The keys in all values among the results are distinct. -/
def Results.DistinctKeys (results : Results) : Prop := ∀ v, .ok v ∈ results → v.DistinctKeys

theorem Results.distinctKeys_nil : Results.DistinctKeys [] := fun _ hv => nomatch hv

theorem Results.distinctKeys_error (e : EvalError) : Results.DistinctKeys [.error e] := by
  intro v hv
  cases List.mem_singleton.1 hv

theorem Results.distinctKeys_ofValues {vs : List Value} (h : ∀ v ∈ vs, v.DistinctKeys) :
    (Results.ofValues vs).DistinctKeys := by
  intro v hv
  obtain ⟨w, hw, heq⟩ := List.mem_map.1 hv
  cases heq
  exact h v hw

namespace Sequence

theorem distinctKeys_single {v : Value} (h : v.DistinctKeys) :
    (single v).results.DistinctKeys := by
  intro w hw
  cases List.mem_singleton.1 hw
  exact h

theorem distinctKeys_failed (e : EvalError) : (failed e).results.DistinctKeys := by
  rw [results_failed]
  exact Results.distinctKeys_error e

theorem distinctKeys_ofResult {r : Result} (h : ∀ v, r = .ok v → v.DistinctKeys) :
    (ofResult r).results.DistinctKeys := by
  cases r with
  | ok v => exact distinctKeys_single (h v rfl)
  | error e => exact distinctKeys_failed e

theorem distinctKeys_ofExcept {r : Except EvalError (List Value)}
    (h : ∀ vs, r = .ok vs → ∀ v ∈ vs, v.DistinctKeys) : (ofExcept r).results.DistinctKeys := by
  cases r with
  | ok vs => exact Results.distinctKeys_ofValues (h vs rfl)
  | error e => exact distinctKeys_failed e

theorem distinctKeys_andThen {sequence : Sequence} {stage : Value → Sequence}
    (h : sequence.results.DistinctKeys)
    (hstage : ∀ v, v.DistinctKeys → (stage v).results.DistinctKeys) :
    (sequence.andThen stage).results.DistinctKeys := by
  intro w hw
  rw [results_andThen] at hw
  obtain ⟨r, hr, hw⟩ := List.mem_flatMap.1 hw
  cases r with
  | ok v => exact hstage v (h v hr) w hw
  | error e => cases List.mem_singleton.1 hw

theorem distinctKeys_combine {f : Results → Results → Result} {left right : Sequence}
    (h : ∀ ls rs v, f ls rs = .ok v → v.DistinctKeys) :
    (combine f left right).results.DistinctKeys := by
  unfold combine
  split
  · exact Results.distinctKeys_error _
  · exact Results.distinctKeys_error _
  · exact distinctKeys_ofResult (h _ _)

end Sequence

/-! ## What an evaluation makes -/

theorem kind_of_binary {op : ArithmeticOp} {left right : Results} {v : Value}
    (h : binary mode op left right = .ok v) : v.kind = .number := by
  rcases raises_or_numeric mode op left right with ⟨e, he⟩ | ⟨w, hw, heq⟩
  · cases h.symm.trans he.binary_eq
  · cases h.symm.trans heq
    exact hw

theorem kind_of_applySign {op : SignOp} {v w : Value} (h : applySign op v = .ok w) :
    w.kind = .number := by
  unfold applySign at h
  split at h <;> (try split at h) <;> cases h <;> rfl

theorem kind_of_double {v w : Value} (h : double v = .ok w) : w.kind = .number := by
  unfold double at h
  split at h <;> (try split at h) <;> cases h <;> rfl

theorem kind_rounded (x : Binary64) (nearest : Option Int) :
    (rounded x nearest).kind = .number := by
  unfold rounded
  split <;> rfl

theorem kind_of_ceiling {v w : Value} (h : ceiling v = .ok w) : w.kind = .number := by
  cases v with
  | integer n => cases h; rfl
  | number x => cases h; exact kind_rounded x _
  | _ => cases h

theorem kind_of_floor {v w : Value} (h : floor v = .ok w) : w.kind = .number := by
  cases v with
  | integer n => cases h; rfl
  | number x => cases h; exact kind_rounded x _
  | _ => cases h

theorem kind_of_absolute {v w : Value} (h : absolute v = .ok w) : w.kind = .number := by
  cases v with
  | integer n =>
      cases h
      unfold integerOrNearest
      split <;> rfl
  | number x => cases h; rfl
  | _ => cases h

theorem kind_of_toDateTime {template : Option DateTemplate} {v w : Value}
    (h : toDateTime template v = .ok w) : w.kind = .date := by
  unfold toDateTime at h
  split at h
  · split at h
    · cases h
      rfl
    · cases h
  · cases h

theorem distinctKeys_of_mem_memberRecords {position : Nat} {members : Members} {record : Value}
    (h : (Value.object members).DistinctKeys) (hrecord : record ∈ memberRecords position members) :
    record.DistinctKeys := by
  cases h with
  | object _ h =>
      obtain ⟨⟨key, v⟩, hm, rfl⟩ := List.mem_map.1 hrecord
      have hkeys : ["id", "key", "value"].Nodup := by decide
      refine .object hkeys fun m hmember => ?_
      simp only [List.mem_cons, List.not_mem_nil, or_false] at hmember
      rcases hmember with rfl | rfl | rfl
      · exact .integer _
      · exact .string key
      · exact h (key, v) hm

theorem distinctKeys_of_recordsFrom {values : List Value} (h : ∀ v ∈ values, v.DistinctKeys)
    {position : Nat} {records : List Value} (hrecords : recordsFrom position values = .ok records) :
    ∀ record ∈ records, record.DistinctKeys := by
  induction values generalizing position records with
  | nil =>
      cases hrecords
      exact fun _ hrecord => nomatch hrecord
  | cons v values ih =>
      cases v with
      | object members =>
          obtain ⟨more, hmore, heq⟩ := bind_eq_ok_iff.1 hrecords
          cases heq
          intro record hrecord
          rcases List.mem_append.1 hrecord with hhere | hrest
          · exact distinctKeys_of_mem_memberRecords (h _ List.mem_cons_self) hhere
          · exact ih (fun v hv => h v (List.mem_cons_of_mem _ hv)) hmore record hrest
      | _ => cases hrecords

/-! ## Selected elements -/

section Selection

variable {items : List Value}

theorem mem_of_elementAt? {index : Int64} {v : Value} (h : elementAt? items index = some v) :
    v ∈ items := by
  unfold elementAt? at h
  split at h
  · exact List.mem_of_getElem? h
  · cases h

theorem select_subset {index : Int64} {vs : List Value} (h : select mode items index = .ok vs) :
    vs ⊆ items := by
  unfold select at h
  split at h
  · next v hv =>
      cases h
      exact List.cons_subset.2 ⟨mem_of_elementAt? hv, List.nil_subset _⟩
  · cases h
  · cases h
    exact List.nil_subset _

theorem selectEach_subset {positions : Results} {vs : List Value}
    (h : selectEach mode items positions = .ok vs) : vs ⊆ items := by
  induction positions generalizing vs with
  | nil =>
      cases h
      exact List.nil_subset _
  | cons r positions ih =>
      cases r with
      | error e => cases h
      | ok v =>
          obtain ⟨index, -, h⟩ := bind_eq_ok_iff.1 h
          obtain ⟨here, hhere, h⟩ := bind_eq_ok_iff.1 h
          obtain ⟨more, hmore, h⟩ := bind_eq_ok_iff.1 h
          cases h
          exact List.append_subset.2 ⟨select_subset hhere, ih hmore⟩

theorem slice_subset (items : List Value) (low high : Int) : slice items low high ⊆ items :=
  List.Subset.trans (List.take_subset _ _) (List.drop_subset _ _)

theorem selectRange_subset {low high : Int64} {vs : List Value}
    (h : selectRange mode items low high = .ok vs) : vs ⊆ items := by
  unfold selectRange at h
  split at h
  · cases h
    exact slice_subset items _ _
  · split at h
    · cases h
    split at h
    · cases h
    split at h
    · cases h
    · cases h
      exact slice_subset items _ _

theorem Subscript.select_subset {sub : Subscript} {vs : List Value}
    (h : sub.select mode s items = .ok vs) : vs ⊆ items := by
  cases sub with
  | indices positions =>
      rw [Subscript.select] at h
      exact selectEach_subset h
  | range low high =>
      rw [select_range] at h
      obtain ⟨start, -, h⟩ := bind_eq_ok_iff.1 h
      obtain ⟨stop, -, h⟩ := bind_eq_ok_iff.1 h
      exact selectRange_subset h

/-- Subscripts select nothing but elements. -/
theorem selectAll_subset {subs : List Subscript} {vs : List Value}
    (h : selectAll mode s items subs = .ok vs) : vs ⊆ items := by
  induction subs generalizing vs with
  | nil =>
      cases h
      exact List.nil_subset _
  | cons sub subs ih =>
      rw [selectAll_cons] at h
      obtain ⟨here, hhere, h⟩ := bind_eq_ok_iff.1 h
      obtain ⟨more, hmore, h⟩ := bind_eq_ok_iff.1 h
      cases h
      exact List.append_subset.2 ⟨sub.select_subset hhere, ih hmore⟩

theorem subscripted_subset {v : Value} (h : subscripted mode v = .ok items) :
    items ⊆ v.elements := by
  cases mode with
  | lax =>
      rw [subscripted_lax] at h
      cases h
      exact List.Subset.refl _
  | strict =>
      cases v with
      | array elements =>
          cases h
          exact List.Subset.refl _
      | _ => cases h

end Selection

theorem mem_elements_of_mem_candidates {v c : Value} (h : c ∈ candidates mode v) :
    c = v ∨ c ∈ v.elements := by
  cases mode with
  | lax => exact .inr h
  | strict => exact .inl (List.mem_singleton.1 h)

/-! ## Steps -/

section Steps

variable {v : Value}

theorem member_distinctKeys (name : String) (h : v.DistinctKeys) :
    (member mode name v).results.DistinctKeys := by
  unfold member
  split
  · split
    · next found hfound =>
        exact Sequence.distinctKeys_single (h.of_member? hfound)
    · exact Sequence.distinctKeys_failed _
    · exact Results.distinctKeys_nil
  · exact Sequence.distinctKeys_failed _
  · refine Results.distinctKeys_ofValues fun w hw => ?_
    obtain ⟨element, helement, hfound⟩ := List.mem_filterMap.1 hw
    exact (h.of_mem_elements helement).of_member? hfound

theorem memberWildcard_distinctKeys (h : v.DistinctKeys) :
    (memberWildcard mode v).results.DistinctKeys := by
  unfold memberWildcard
  split
  · exact Results.distinctKeys_ofValues fun w hw => h.of_mem_memberValues hw
  · exact Sequence.distinctKeys_failed _
  · refine Results.distinctKeys_ofValues fun w hw => ?_
    obtain ⟨element, helement, hw⟩ := List.mem_flatMap.1 hw
    exact (h.of_mem_elements helement).of_mem_memberValues hw

theorem elementWildcard_distinctKeys (h : v.DistinctKeys) :
    (elementWildcard mode v).results.DistinctKeys := by
  unfold elementWildcard
  split
  · exact Results.distinctKeys_ofValues fun w hw => h.of_mem_elements hw
  · exact Sequence.distinctKeys_failed _
  · exact Sequence.distinctKeys_single h

theorem onItems_distinctKeys {f : Value → Result} (hf : ∀ w u, f w = .ok u → u.DistinctKeys) :
    (onItems mode f v).results.DistinctKeys := by
  unfold onItems
  split
  · intro u hu
    obtain ⟨w, -, hw⟩ := List.mem_map.1 hu
    exact hf w u hw
  · exact Sequence.distinctKeys_ofResult (hf v)

theorem onItems_distinctKeys_of_number {f : Value → Result}
    (hf : ∀ {w u}, f w = .ok u → u.kind = .number) : (onItems mode f v).results.DistinctKeys :=
  onItems_distinctKeys fun _ _ hu => Value.distinctKeys_of_kind_number (hf hu)

theorem keyValue_distinctKeys (h : v.DistinctKeys) :
    (keyValue mode v).results.DistinctKeys := by
  unfold keyValue
  split
  · exact Sequence.distinctKeys_ofExcept fun records hrecords =>
      distinctKeys_of_recordsFrom (fun w hw => h.of_mem_elements hw) hrecords
  · refine Sequence.distinctKeys_ofExcept fun records hrecords =>
      distinctKeys_of_recordsFrom (fun w hw => ?_) hrecords
    rwa [List.mem_singleton.1 hw]

theorem ItemMethod.apply_distinctKeys (method : ItemMethod) (h : v.DistinctKeys) :
    (method.apply mode v).results.DistinctKeys := by
  cases method with
  | type => exact Sequence.distinctKeys_single (.string _)
  | size => cases v <;> exact Sequence.distinctKeys_single (.integer _)
  | double => exact onItems_distinctKeys_of_number kind_of_double
  | ceiling => exact onItems_distinctKeys_of_number kind_of_ceiling
  | floor => exact onItems_distinctKeys_of_number kind_of_floor
  | abs => exact onItems_distinctKeys_of_number kind_of_absolute
  | keyValue => exact keyValue_distinctKeys h

theorem dateTime_distinctKeys (template : Option DateTemplate) :
    (dateTime mode template v).results.DistinctKeys := by
  refine onItems_distinctKeys fun w u hu => ?_
  have hkind := kind_of_toDateTime hu
  exact Value.distinctKeys_of_kind (by rw [hkind]; decide) (by rw [hkind]; decide)

theorem unary_distinctKeys (op : SignOp) : (unary mode op v).results.DistinctKeys := by
  unfold unary
  split
  · refine Sequence.distinctKeys_ofExcept fun ws hws w hw => ?_
    rw [forEach_eq_values, Results.values_eq_ok_iff] at hws
    have hresult : .ok w ∈ Results.ofValues ws := List.mem_map_of_mem hw
    rw [← hws] at hresult
    obtain ⟨u, -, hu⟩ := List.mem_map.1 hresult
    exact Value.distinctKeys_of_kind_number (kind_of_applySign hu)
  · exact Sequence.distinctKeys_ofResult fun w hw =>
      Value.distinctKeys_of_kind_number (kind_of_applySign hw)

/-- What a filter keeps are candidates, whatever its predicate. -/
theorem Accessor.apply_distinctKeys (step : Accessor) (h : v.DistinctKeys) :
    (step.apply mode s v).results.DistinctKeys := by
  cases step <;> rw [Accessor.apply]
  case member name => exact member_distinctKeys name h
  case memberWildcard => exact memberWildcard_distinctKeys h
  case elementWildcard => exact elementWildcard_distinctKeys h
  case subscripts subs =>
    split
    · exact Sequence.distinctKeys_failed _
    · next items hitems =>
        refine Sequence.distinctKeys_ofExcept fun vs hvs w hw => ?_
        exact h.of_mem_elements (subscripted_subset hitems (selectAll_subset hvs hw))
  case filter condition =>
    intro w hw
    obtain ⟨c, hc, hkept⟩ := List.mem_flatMap.1 hw
    obtain ⟨rfl, -⟩ := of_ok_mem_kept hkept
    rcases mem_elements_of_mem_candidates hc with rfl | helement
    · exact h
    · exact h.of_mem_elements helement
  case method m => exact m.apply_distinctKeys h
  case dateTime template => exact dateTime_distinctKeys template

end Steps

/-! ## Expressions -/

/-- The keys in all values that references stand for are distinct. -/
structure Scope.DistinctKeys (s : Scope) : Prop where
  root : s.root.DistinctKeys
  vars : ∀ m ∈ s.vars, m.2.DistinctKeys
  current : ∀ v, s.current = some v → v.DistinctKeys

theorem Scope.DistinctKeys.candidate (h : s.DistinctKeys) : s.candidate.DistinctKeys := by
  rw [Scope.candidate]
  cases hcurrent : s.current with
  | none => exact h.root
  | some v => exact h.current v hcurrent

theorem Scope.DistinctKeys.of_lookup (h : s.DistinctKeys) {name : String} {v : Value}
    (hv : s.lookup name = .ok v) : v.DistinctKeys := by
  unfold Scope.lookup at hv
  split at hv
  · next w hw =>
      cases hv
      exact h.vars _ (Value.mem_of_lookup hw)
  · cases hv

theorem distinctKeys_lastIndex (s : Scope) : s.lastIndex.results.DistinctKeys := by
  unfold Scope.lastIndex
  split
  · exact Sequence.distinctKeys_single (.integer _)
  · exact Results.distinctKeys_nil

/-- An evaluation makes no object that has a key twice. -/
theorem Expr.eval_distinctKeys (h : s.DistinctKeys) (e : Expr) :
    (e.eval mode s).results.DistinctKeys := by
  match e with
  | .integer _ | .number _ | .string _ | .boolean _ | .null =>
      rw [Expr.eval]
      exact Sequence.distinctKeys_single (Value.distinctKeys_of_kind nofun nofun)
  | .root =>
      rw [Expr.eval]
      exact Sequence.distinctKeys_single h.root
  | .current =>
      rw [Expr.eval]
      exact Sequence.distinctKeys_single h.candidate
  | .last =>
      rw [Expr.eval]
      exact distinctKeys_lastIndex s
  | .variable name =>
      rw [Expr.eval]
      exact Sequence.distinctKeys_ofResult fun _ => h.of_lookup
  | .signed op operand =>
      rw [Expr.eval]
      exact Sequence.distinctKeys_andThen (operand.eval_distinctKeys h) fun _ _ =>
        unary_distinctKeys op
  | .binary op left right =>
      rw [Expr.eval]
      exact Sequence.distinctKeys_combine fun _ _ _ hv =>
        Value.distinctKeys_of_kind_number (kind_of_binary hv)
  | .access base step =>
      rw [Expr.eval]
      exact Sequence.distinctKeys_andThen (base.eval_distinctKeys h) fun _ =>
        step.apply_distinctKeys

end JsonPath
