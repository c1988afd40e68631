import JsonPath.Proofs.Evaluation.Sequencing
import Mathlib.Data.List.Basic

/-!
# Lax mode unwraps one level of arrays

An operation that wants an object, a number or a text takes an array in lax mode for its
elements, and any other value for the one element of an array (`Value.elements`).  With
each element it does what strict mode does.  The operations differ in what becomes of the
elements on which strict mode fails:

* members leave them out (`member_lax`, `memberWildcard_lax`),
* methods on numbers and dates keep the errors in their places (`OnEach`),
* signs drop everything for the first error (`AllOrNothing`),
* filters do not fail (`filtered_lax`).

Strict mode unwraps nothing, so that an array among the elements stays an array.
-/

namespace JsonPath

/-! ## Results with and without errors -/

namespace Results

/-- The results that are values. -/
def withoutErrors (results : Results) : Results := results.filter Except.isOk

/-- All results if none of them is an error, and otherwise the first error alone. -/
def allOrFirstError (results : Results) : Results :=
  match results.find? fun r => !r.isOk with
  | some failure => [failure]
  | none => results

theorem withoutErrors_ofValues (values : List Value) :
    (ofValues values).withoutErrors = ofValues values := by
  rw [withoutErrors, List.filter_eq_self]
  intro r hr
  obtain ⟨v, -, rfl⟩ := List.mem_map.1 hr
  rfl

theorem allOrFirstError_ofValues (values : List Value) :
    (ofValues values).allOrFirstError = ofValues values := by
  have hnone : (ofValues values).find? (fun r => !r.isOk) = none := by
    rw [List.find?_eq_none]
    intro r hr
    obtain ⟨v, -, rfl⟩ := List.mem_map.1 hr
    exact nofun
  rw [allOrFirstError, hnone]

/-- The error with which the collection of values ends is the first one. -/
theorem find?_of_values_eq_error {results : Results} {e : EvalError}
    (h : results.values = .error e) :
    results.find? (fun r => !r.isOk) = some (.error e) := by
  induction results with
  | nil => cases h
  | cons r results ih =>
      cases r with
      | error e' =>
          cases h
          rfl
      | ok v =>
          rw [values] at h
          cases hrest : values results with
          | error e' =>
              rw [hrest] at h
              cases h
              exact ih hrest
          | ok vs =>
              rw [hrest] at h
              cases h

/-- To collect values is all or nothing. -/
theorem results_ofExcept_values (results : Results) :
    (Sequence.ofExcept results.values).results = results.allOrFirstError := by
  cases h : results.values with
  | error e =>
      rw [allOrFirstError, find?_of_values_eq_error h]
      exact Sequence.results_failed e
  | ok vs =>
      rw [values_eq_ok_iff.1 h, allOrFirstError_ofValues]
      rfl

end Results

/-! ## Members -/

theorem member_strict (name : String) (v : Value) :
    (member .strict name v).results.withoutErrors =
      Results.ofValues (v.member? name).toList := by
  cases v with
  | object members =>
      simp only [member, Value.member?]
      cases Members.get? members name <;> rfl
  | _ => rfl

theorem member_lax (name : String) (v : Value) :
    (member .lax name v).results =
      v.elements.flatMap fun element => (member .strict name element).results.withoutErrors := by
  have hfilter : (member .lax name v).results =
      Results.ofValues (v.elements.filterMap (Value.member? name)) := by
    cases v with
    | object members =>
        simp only [member, Value.elements, List.filterMap_cons, Value.member?]
        cases Members.get? members name <;> rfl
    | _ => rfl
  simp only [hfilter, member_strict, Results.ofValues, List.filterMap_eq_flatMap_toList,
    List.map_flatMap]

theorem memberWildcard_strict (v : Value) :
    (memberWildcard .strict v).results.withoutErrors = Results.ofValues v.memberValues := by
  cases v with
  | object members => exact Results.withoutErrors_ofValues _
  | _ => rfl

theorem memberWildcard_lax (v : Value) :
    (memberWildcard .lax v).results =
      v.elements.flatMap fun element => (memberWildcard .strict element).results.withoutErrors := by
  have hflat : (memberWildcard .lax v).results =
      Results.ofValues (v.elements.flatMap Value.memberValues) := by
    cases v with
    | object members => simp [memberWildcard, Value.elements, Value.memberValues]
    | _ => rfl
  simp only [hflat, memberWildcard_strict, Results.ofValues, List.map_flatMap]

/-! ## Filters -/

/-- A filter takes a value for its only candidate, unless it unwraps an array. -/
theorem candidates_eq_singleton {mode : Mode} {item : Value}
    (h : mode = .strict ∨ ∀ vs, item ≠ .array vs) : candidates mode item = [item] := by
  cases mode with
  | strict => rfl
  | lax =>
      cases item with
      | array vs => exact absurd rfl (h.resolve_left nofun vs)
      | _ => rfl

/-- A filter whose predicate is any test of a candidate. -/
def filtered (mode : Mode) (test : Value → Except EvalError Truth) (v : Value) : Sequence :=
  .deferred ((candidates mode v).flatMap fun candidate => kept candidate (test candidate))

theorem Accessor.apply_filter (mode : Mode) (s : Scope) (p : Predicate) (v : Value) :
    (Accessor.filter p).apply mode s v =
      filtered mode (fun candidate => p.truth mode (s.withCurrent candidate)) v := rfl

theorem filtered_strict (test : Value → Except EvalError Truth) (v : Value) :
    (filtered .strict test v).results = kept v (test v) :=
  List.flatMap_singleton _ v

theorem filtered_lax (test : Value → Except EvalError Truth) (v : Value) :
    (filtered .lax test v).results =
      v.elements.flatMap fun element => (filtered .strict test element).results := by
  simp only [filtered_strict]
  rfl

/-! ## Methods -/

/-- Lax mode does with each element what strict mode does with a value, errors in their
places.  An array is nothing that strict mode has a value for. -/
def OnEach (operation : Mode → Value → Sequence) : Prop :=
  ∃ outcome : Value → Result,
    (∀ v, (operation .strict v).results = [outcome v]) ∧
    (∀ items, ∃ e, outcome (.array items) = .error e) ∧
    ∀ v, (operation .lax v).results = v.elements.map outcome

theorem onItems_onEach {f : Value → Result} (hf : ∀ items, ∃ e, f (.array items) = .error e) :
    OnEach (onItems · f) := by
  refine ⟨f, fun v => ?_, hf, fun v => ?_⟩
  · cases v <;> exact Sequence.results_ofResult _
  · cases v with
    | array items => rfl
    | _ => exact Sequence.results_ofResult _

/-! ## Signs -/

/-- Lax mode does with all elements what strict mode does with a value, or fails as it
does on the first element on which it fails. -/
def AllOrNothing (operation : Mode → Value → Sequence) : Prop :=
  ∃ outcome : Value → Result,
    (∀ v, (operation .strict v).results = [outcome v]) ∧
    (∀ items, ∃ e, outcome (.array items) = .error e) ∧
    ∀ v, (operation .lax v).results = Results.allOrFirstError (v.elements.map outcome)

theorem forEach_eq_values (f : Value → Result) (values : List Value) :
    forEach f values = Results.values (values.map f) := by
  induction values with
  | nil => rfl
  | cons v values ih =>
      rw [forEach, List.map_cons]
      cases f v with
      | error e => rfl
      | ok w =>
          cases hrest : forEach f values <;> simp only [Results.values, ← ih, hrest]

theorem unary_allOrNothing (op : SignOp) : AllOrNothing (unary · op) := by
  refine ⟨applySign op, fun v => ?_, fun items => ?_, fun v => ?_⟩
  · cases v <;> exact Sequence.results_ofResult _
  · cases op <;> exact ⟨_, rfl⟩
  · have hsingle (w : Value) : Results.allOrFirstError [applySign op w] = [applySign op w] := by
      cases applySign op w <;> rfl
    cases v with
    | array items =>
        show (Sequence.ofExcept (forEach (applySign op) items)).results = _
        rw [forEach_eq_values, Results.results_ofExcept_values]
        rfl
    | _ => exact (Sequence.results_ofResult _).trans (hsingle _).symm

/-! ## One level -/

/-- Lax mode is strict mode on the elements of an array, and on the elements only.  The
predicate of a filter is given to it as a test of candidates, and the same test stands on
both sides. -/
theorem lax_unwraps_once (s : Scope) :
    (∀ name v, ((Accessor.member name).apply .lax s v).results =
      v.elements.flatMap fun element =>
        ((Accessor.member name).apply .strict s element).results.withoutErrors) ∧
    (∀ v, (Accessor.memberWildcard.apply .lax s v).results =
      v.elements.flatMap fun element =>
        (Accessor.memberWildcard.apply .strict s element).results.withoutErrors) ∧
    (∀ mode p v, (Accessor.filter p).apply mode s v =
      filtered mode (fun candidate => p.truth mode (s.withCurrent candidate)) v) ∧
    (∀ test v, (filtered .lax test v).results =
      v.elements.flatMap fun element => (filtered .strict test element).results) ∧
    OnEach ((Accessor.method .double).apply · s) ∧
    OnEach ((Accessor.method .ceiling).apply · s) ∧
    OnEach ((Accessor.method .floor).apply · s) ∧
    OnEach ((Accessor.method .abs).apply · s) ∧
    (∀ template, OnEach ((Accessor.dateTime template).apply · s)) ∧
    (∀ op, AllOrNothing (unary · op)) ∧
    (∀ items name, ((Accessor.member name).apply .strict s (.array items)).results =
      [.error (.notAnObject .member .array)]) ∧
    (∀ items, (Accessor.memberWildcard.apply .strict s (.array items)).results =
      [.error (.notAnObject .wildcard .array)]) ∧
    (∀ test items, (filtered .strict test (.array items)).results =
      kept (.array items) (test (.array items))) :=
  ⟨member_lax, memberWildcard_lax, fun mode p v => Accessor.apply_filter mode s p v, filtered_lax,
    onItems_onEach fun _ => ⟨_, rfl⟩, onItems_onEach fun _ => ⟨_, rfl⟩,
    onItems_onEach fun _ => ⟨_, rfl⟩, onItems_onEach fun _ => ⟨_, rfl⟩,
    fun _ => onItems_onEach fun _ => ⟨_, rfl⟩, unary_allOrNothing, fun _ _ => rfl, fun _ => rfl,
    fun test items => filtered_strict test (.array items)⟩

-- The array among the elements has a member `a` inside, which is not found.
example :
    (member .lax "a" (.array [.array [.object [("a", .integer 1)]], .object [("a", .integer 2)],
      .integer 3])).results = [.ok (.integer 2)] := rfl

end JsonPath
