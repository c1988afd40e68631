import JsonPath.Eval.Semantics

/-!
# One step of an evaluation after the other

The operations that fail as a whole evaluate their parts from left to right and
end with the first error.  Here each of them is written as a chain of binds, so
that what holds of `bind` holds of all of them.
-/

namespace JsonPath

variable {mode : Mode} {s : Scope}

section Bind

variable {α β : Type} {x : Except EvalError α} {f : α → Except EvalError β}

theorem bind_eq_ok_iff {b : β} : (x >>= f) = .ok b ↔ ∃ a, x = .ok a ∧ f a = .ok b := by
  cases x with
  | error e => simp [bind, Except.bind]
  | ok a => simp [bind, Except.bind]

theorem bind_eq_error_iff {e : EvalError} :
    (x >>= f) = .error e ↔ x = .error e ∨ ∃ a, x = .ok a ∧ f a = .error e := by
  cases x with
  | error e' => simp [bind, Except.bind]
  | ok a => simp [bind, Except.bind]

end Bind

theorem Results.values_eq_ok_iff {results : Results} {vs : List Value} :
    results.values = .ok vs ↔ results = ofValues vs := by
  induction results generalizing vs with
  | nil => cases vs <;> simp [values, ofValues]
  | cons r results ih =>
      cases r with
      | error e => cases vs <;> simp [values, ofValues]
      | ok v =>
          cases vs with
          | nil => cases h : values results <;> simp [values, h, ofValues]
          | cons w vs =>
              have ih' := @ih vs
              cases h : values results <;> rw [h] at ih' <;> simp_all [values, ofValues]

/-! ## Selection -/

theorem subscripted_lax (v : Value) : subscripted .lax v = .ok v.elements := by
  cases v <;> rfl

theorem select_lax (items : List Value) (index : Int64) :
    select .lax items index = .ok (elementAt? items index).toList := by
  unfold select
  cases elementAt? items index <;> rfl

theorem rangeBound_eq_bind (results : Results) :
    rangeBound results = results.values >>= fun
      | [v] => asIndex v
      | vs => .error (.typeMismatch (.rangeBound vs.length)) := by
  rw [rangeBound]
  cases results.values with
  | error e => rfl
  | ok vs =>
      match vs with
      | [] | [_] | _ :: _ :: _ => rfl

theorem selectAll_cons (items : List Value) (sub : Subscript) (subs : List Subscript) :
    selectAll mode s items (sub :: subs) =
      sub.select mode s items >>= fun here =>
        selectAll mode s items subs >>= fun more => .ok (here ++ more) := by
  rw [selectAll]
  cases sub.select mode s items with
  | error e => rfl
  | ok here => cases selectAll mode s items subs <;> rfl

theorem select_range (items : List Value) (low high : Expr) :
    (Subscript.range low high).select mode s items =
      rangeBound (low.eval mode s).results >>= fun start =>
        rangeBound (high.eval mode s).results >>= fun stop =>
          selectRange mode items start stop := by
  rw [Subscript.select]
  cases rangeBound (low.eval mode s).results with
  | error e => rfl
  | ok start => cases rangeBound (high.eval mode s).results <;> rfl

/-! ## Predicates -/

theorem truth_compare (op : Comparison) (left right : Expr) :
    (Predicate.compare op left right).truth mode s =
      (left.eval mode s).results.values >>= fun lefts =>
        (right.eval mode s).results.values >>= fun rights =>
          .ok (anyPair (Value.compareWith op) lefts rights) := by
  rw [Predicate.truth]
  cases (left.eval mode s).results.values with
  | error e => rfl
  | ok lefts => cases (right.eval mode s).results.values <;> rfl

theorem truth_startsWith (subject start : Expr) :
    (Predicate.startsWith subject start).truth mode s =
      (subject.eval mode s).results.values >>= fun subjects =>
        (start.eval mode s).results.values >>= fun starts =>
          .ok (anyPair Value.startsWith subjects starts) := by
  rw [Predicate.truth]
  cases (subject.eval mode s).results.values with
  | error e => rfl
  | ok subjects => cases (start.eval mode s).results.values <;> rfl

theorem truth_likeRegex (subject : Expr) (pattern : LikePattern) :
    (Predicate.likeRegex subject pattern).truth mode s =
      (subject.eval mode s).results.values >>= fun subjects =>
        .ok (anyOf pattern.test subjects) := by
  rw [Predicate.truth]
  cases (subject.eval mode s).results.values <;> rfl

theorem truth_condition (e : Expr) :
    (Predicate.condition e).truth mode s =
      (e.eval mode s).results.values >>= fun values => .ok (anyOf Value.condition values) := by
  rw [Predicate.truth]
  cases (e.eval mode s).results.values <;> rfl

theorem truth_negation (p : Predicate) :
    (Predicate.negation p).truth mode s = p.truth mode s >>= fun t => .ok t.negate := by
  rw [Predicate.truth]
  cases p.truth mode s <;> rfl

theorem truth_isUnknown (p : Predicate) :
    (Predicate.isUnknown p).truth mode s = p.truth mode s >>= fun t => .ok t.isUnknown := by
  rw [Predicate.truth]
  cases p.truth mode s <;> rfl

end JsonPath
