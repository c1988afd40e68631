import JsonPath.Proofs.Evaluation.Sequencing
import Mathlib.Data.List.Defs

/-!
# Lax mode extends strict mode

Without filters, lax mode changes nothing that strict mode has delivered: the
values before the first strict error stand in the same places of the lax results,
and where strict mode meets no error the two modes agree.

* `Extends` relates the results of strict mode with those of lax mode.  Nothing
  is said about what follows an error of strict mode.
* `Keeps` is the same for what fails as a whole: subscripts, operands, predicates.
* Each operation that depends on the mode has a lemma of its own; errors inside
  the operands pass through `andThen` and `combine`.  `Expr.eval_extends` and its
  companions are the induction over statements.

A filter does not extend: in lax mode it takes the elements of an array for its
candidates.  Neither does `exists`, which turns an error into unknown.
-/

namespace JsonPath

/-! ## Statements without filters -/

mutual

/-- No filter stands anywhere in an expression, subscripts included. -/
def Expr.FilterFree : Expr → Prop
  | .integer _ | .number _ | .string _ | .boolean _ | .null | .root | .current | .last
  | .variable _ => True
  | .signed _ operand => operand.FilterFree
  | .binary _ left right => left.FilterFree ∧ right.FilterFree
  | .access base step => base.FilterFree ∧ step.FilterFree

/-- An accessor is no filter, and none stands in it. -/
def Accessor.FilterFree : Accessor → Prop
  | .member _ | .memberWildcard | .elementWildcard | .method _ | .dateTime _ => True
  | .subscripts subs => subscriptsFilterFree subs
  | .filter _ => False

/-- No filter stands in some subscripts. -/
def subscriptsFilterFree : List Subscript → Prop
  | [] => True
  | sub :: subs => sub.FilterFree ∧ subscriptsFilterFree subs

/-- No filter stands in a subscript. -/
def Subscript.FilterFree : Subscript → Prop
  | .indices positions => positions.FilterFree
  | .range low high => low.FilterFree ∧ high.FilterFree

end

mutual

/-- No filter stands anywhere in a predicate, and no `exists`. -/
def Predicate.Extensible : Predicate → Prop
  | .compare _ left right => left.FilterFree ∧ right.FilterFree
  | .existence _ => False
  | .startsWith subject start => subject.FilterFree ∧ start.FilterFree
  | .likeRegex subject _ => subject.FilterFree
  | .conjunction operands | .disjunction operands => predicatesExtensible operands
  | .negation operand | .isUnknown operand => operand.Extensible
  | .condition e => e.FilterFree

/-- No filter stands in some predicates, and no `exists`. -/
def predicatesExtensible : List Predicate → Prop
  | [] => True
  | p :: ps => p.Extensible ∧ predicatesExtensible ps

end

/-! ## Results and outcomes of the two modes -/

/-- The values in front of the first error. -/
def Results.beforeError : Results → List Value
  | [] => []
  | .error _ :: _ => []
  | .ok v :: rest => v :: beforeError rest

/-- The lax results go on as the strict ones do, up to the first strict error. -/
inductive Extends : (strict lax : Results) → Prop where
  | nil : Extends [] []
  | error (e : EvalError) (strict lax : Results) : Extends (.error e :: strict) lax
  | value (v : Value) {strict lax : Results} :
      Extends strict lax → Extends (.ok v :: strict) (.ok v :: lax)

/-- What strict mode yields, lax mode yields as well. -/
def Keeps {α : Type} (strict lax : Except EvalError α) : Prop := ∀ a, strict = .ok a → lax = .ok a

namespace Extends

variable {strict lax strict' lax' : Results} {s l : Sequence}

theorem refl (results : Results) : Extends results results := by
  induction results with
  | nil => exact .nil
  | cons r results ih =>
      cases r with
      | error e => exact .error e _ _
      | ok v => exact .value v ih

theorem beforeError_isPrefix (h : Extends strict lax) :
    Results.ofValues strict.beforeError <+: lax := by
  induction h with
  | nil => exact List.nil_prefix
  | error e strict lax => exact List.nil_prefix
  | value v _ ih => exact List.cons_prefix_cons.2 ⟨rfl, ih⟩

theorem eq_of_noError (h : Extends strict lax) (hs : ∀ e, .error e ∉ strict) : lax = strict := by
  induction h with
  | nil => rfl
  | error e strict lax => exact absurd List.mem_cons_self (hs e)
  | value v _ ih => rw [ih fun e he => hs e (List.mem_cons_of_mem _ he)]

theorem eq_of_values {vs : List Value} (h : Extends strict lax) (hs : strict.values = .ok vs) :
    lax = strict := by
  refine h.eq_of_noError fun e he => ?_
  rw [Results.values_eq_ok_iff.1 hs, Results.ofValues] at he
  simp at he

/-- All values or the first error: strict values are kept. -/
theorem values_keeps (h : Extends strict lax) : Keeps strict.values lax.values := by
  intro vs hs
  rw [h.eq_of_values hs, hs]

theorem append (h : Extends strict lax) (h' : Extends strict' lax') :
    Extends (strict ++ strict') (lax ++ lax') := by
  induction h with
  | nil => exact h'
  | error e strict lax => exact .error e _ _
  | value v _ ih => exact .value v ih

/-- A stage that extends on each value extends on results. -/
theorem andThen {stage stage' : Value → Sequence} (h : Extends s.results l.results)
    (hstage : ∀ v, Extends (stage v).results (stage' v).results) :
    Extends (s.andThen stage).results (l.andThen stage').results := by
  rw [Sequence.results_andThen, Sequence.results_andThen]
  generalize s.results = strict, l.results = lax at h ⊢
  induction h with
  | nil => exact .nil
  | error e strict lax => exact .error e _ _
  | value v _ ih => exact (hstage v).append ih

theorem ofResult {strict lax : Result} (h : Keeps strict lax) :
    Extends (Sequence.ofResult strict).results (Sequence.ofResult lax).results := by
  rw [Sequence.results_ofResult, Sequence.results_ofResult]
  cases strict with
  | error e => exact .error e _ _
  | ok v =>
      rw [h v rfl]
      exact .refl _

theorem ofExcept {strict lax : Except EvalError (List Value)} (h : Keeps strict lax) :
    Extends (Sequence.ofExcept strict).results (Sequence.ofExcept lax).results := by
  cases strict with
  | error e =>
      rw [Sequence.ofExcept, Sequence.results_failed]
      exact .error e _ _
  | ok vs =>
      rw [h vs rfl]
      exact .refl _

/-- A failure of strict mode is extended by anything. -/
theorem failed (e : EvalError) (results : Results) :
    Extends (Sequence.failed e).results results := by
  rw [Sequence.results_failed]
  exact .error e _ _

end Extends

namespace Keeps

variable {α β : Type}

theorem refl (x : Except EvalError α) : Keeps x x := fun _ h => h

theorem error (e : EvalError) (x : Except EvalError α) : Keeps (.error e) x := nofun

theorem bind {strict lax : Except EvalError α} {f g : α → Except EvalError β}
    (h : Keeps strict lax) (hf : ∀ a, Keeps (f a) (g a)) : Keeps (strict >>= f) (lax >>= g) := by
  cases strict with
  | error e => exact .error e _
  | ok a =>
      rw [h a rfl]
      exact hf a

end Keeps

/-! ## Members and elements -/

theorem member_extends (name : String) (v : Value) :
    Extends (member .strict name v).results (member .lax name v).results := by
  cases v with
  | object members =>
      cases h : Members.get? members name with
      | some found =>
          simp only [member, h]
          exact .refl _
      | none =>
          simp only [member, h]
          exact .failed _ _
  | _ => exact .failed _ _

theorem memberWildcard_extends (v : Value) :
    Extends (memberWildcard .strict v).results (memberWildcard .lax v).results := by
  cases v with
  | object members => exact .refl _
  | _ => exact .failed _ _

theorem elementWildcard_extends (v : Value) :
    Extends (elementWildcard .strict v).results (elementWildcard .lax v).results := by
  cases v with
  | array items => exact .refl _
  | _ => exact .failed _ _

theorem subscripted_keeps (v : Value) : Keeps (subscripted .strict v) (subscripted .lax v) := by
  cases v with
  | array items => exact .refl _
  | _ => exact .error _ _

theorem select_keeps (items : List Value) (index : Int64) :
    Keeps (select .strict items index) (select .lax items index) := by
  cases h : elementAt? items index with
  | some v =>
      simp only [select, h]
      exact .refl _
  | none =>
      simp only [select, h]
      exact .error _ _

theorem selectEach_keeps (items : List Value) {strict lax : Results} (h : Extends strict lax) :
    Keeps (selectEach .strict items strict) (selectEach .lax items lax) := by
  induction h with
  | nil => exact .refl _
  | error e strict lax => exact .error e _
  | value v _ ih =>
      exact .bind (.refl (asIndex v)) fun index => .bind (select_keeps items index) fun here =>
        .bind ih fun more => .refl _

theorem rangeBound_keeps {strict lax : Results} (h : Extends strict lax) :
    Keeps (rangeBound strict) (rangeBound lax) := by
  rw [rangeBound_eq_bind, rangeBound_eq_bind]
  exact .bind h.values_keeps fun _ => .refl _

theorem selectRange_keeps (items : List Value) (low high : Int64) :
    Keeps (selectRange .strict items low high) (selectRange .lax items low high) := by
  intro vs h
  simp only [selectRange] at h
  split at h
  · cases h
  · split at h
    · cases h
    · split at h
      · cases h
      · exact h

/-! ## Arithmetic -/

/-- Nothing has ended a sequence that has no errors. -/
theorem abortion?_eq_none {s : Sequence} (h : ∀ e, .error e ∉ s.results) :
    s.abortion? = none := by
  cases s with
  | aborted e => exact absurd List.mem_cons_self (h e)
  | _ => rfl

/-- In strict mode an operand is its only result. -/
theorem operand_strict_eq_ok_iff {mismatch : Nat → Mismatch} {results : Results} {v : Value} :
    operand .strict mismatch results = .ok v ↔ results = [.ok v] := by
  constructor
  · intro h
    rw [operand] at h
    split at h
    · cases h
    · next vs hvs =>
        rw [Results.values_eq_ok_iff.1 hvs]
        split at h
        · next w hw =>
            cases h
            rw [show vs = [v] from hw]
            rfl
        · cases h
  · rintro rfl
    rfl

/-- Lax mode takes an operand that is no array as it is. -/
theorem operand_lax_of_not_array {mismatch : Nat → Mismatch} {v : Value}
    (hv : ∀ items, v ≠ .array items) : operand .lax mismatch [.ok v] = .ok v := by
  cases v with
  | array items => exact absurd rfl (hv items)
  | _ => rfl

/-- There is no arithmetic on arrays. -/
theorem arithmetic_eq_ok {op : ArithmeticOp} {left right v : Value}
    (h : arithmetic op left right = .ok v) :
    (∀ items, left ≠ .array items) ∧ ∀ items, right ≠ .array items := by
  constructor
  · rintro items rfl
    cases h
  · rintro items rfl
    cases left <;> cases h

theorem binary_strict_eq_ok {op : ArithmeticOp} {left right : Results} {v : Value}
    (h : binary .strict op left right = .ok v) :
    ∃ l r, left = [.ok l] ∧ right = [.ok r] ∧ arithmetic op l r = .ok v := by
  rw [binary] at h
  split at h
  · cases h
  · next l hl =>
      split at h
      · cases h
      · next r hr =>
          exact ⟨l, r, operand_strict_eq_ok_iff.1 hl, operand_strict_eq_ok_iff.1 hr, h⟩

/-- Operands that strict mode accepts are single values and no arrays, so that lax
mode has nothing to take apart. -/
theorem binary_extends (op : ArithmeticOp) {s l s' l' : Sequence}
    (h : Extends s.results l.results) (h' : Extends s'.results l'.results) :
    Extends (Sequence.combine (binary .strict op) s s').results
      (Sequence.combine (binary .lax op) l l').results := by
  unfold Sequence.combine
  split
  · exact .error _ _ _
  · exact .error _ _ _
  · cases hb : binary .strict op s.results s'.results with
    | error e => exact .failed e _
    | ok v =>
        obtain ⟨a, b, ha, hb, hv⟩ := binary_strict_eq_ok hb
        rw [ha] at h
        rw [hb] at h'
        have hl : l.results = [.ok a] := h.eq_of_noError (by simp)
        have hl' : l'.results = [.ok b] := h'.eq_of_noError (by simp)
        have hnone : l.abortion? = none := abortion?_eq_none (by simp [hl])
        have hnone' : l'.abortion? = none := abortion?_eq_none (by simp [hl'])
        have hlax : binary .lax op l.results l'.results = .ok v := by
          obtain ⟨hleft, hright⟩ := arithmetic_eq_ok hv
          rw [binary, hl, hl', operand_lax_of_not_array hleft]
          simp only [operand_lax_of_not_array hright, hv]
        simp only [hnone, hnone', hlax]
        exact .refl _

/-- A sign that strict mode accepts stands before a number. -/
theorem unary_extends (op : SignOp) (v : Value) :
    Extends (unary .strict op v).results (unary .lax op v).results := by
  cases v with
  | array items => cases op <;> exact .failed (.typeMismatch (.signed _ .array)) _
  | _ => exact .refl _

/-! ## Methods -/

/-- A method that fails on arrays extends to the elements of arrays. -/
theorem onItems_extends {f : Value → Result} (hf : ∀ items, ∃ e, f (.array items) = .error e)
    (v : Value) : Extends (onItems .strict f v).results (onItems .lax f v).results := by
  cases v with
  | array items =>
      obtain ⟨e, he⟩ := hf items
      show Extends (Sequence.ofResult (f (.array items))).results _
      rw [he]
      exact .failed e _
  | _ => exact .refl _

theorem keyValue_extends (v : Value) :
    Extends (keyValue .strict v).results (keyValue .lax v).results := by
  cases v with
  | array items => exact .failed (.notAnObject .keyValue .array) _
  | _ => exact .refl _

theorem ItemMethod.apply_extends (m : ItemMethod) (v : Value) :
    Extends (m.apply .strict v).results (m.apply .lax v).results := by
  cases m with
  | type | size => exact .refl _
  | double | ceiling | floor | abs => exact onItems_extends (fun _ => ⟨_, rfl⟩) v
  | keyValue => exact keyValue_extends v

theorem dateTime_extends (template : Option DateTemplate) (v : Value) :
    Extends (dateTime .strict template v).results (dateTime .lax template v).results :=
  onItems_extends (fun _ => ⟨_, rfl⟩) v

/-! ## Connectives -/

theorem conjunction_keeps {strict lax : List (Except EvalError Truth)}
    (h : List.Forall₂ Keeps strict lax) :
    Keeps (Truth.conjunction strict) (Truth.conjunction lax) := by
  induction h with
  | nil => exact .refl _
  | @cons x y _ _ hxy _ ih =>
      cases x with
      | error e => exact .error e _
      | ok t =>
          rw [hxy t rfl]
          cases t with
          | holds => exact ih
          | fails | unknown => exact .refl _

theorem disjunction_keeps {strict lax : List (Except EvalError Truth)}
    (h : List.Forall₂ Keeps strict lax) :
    Keeps (Truth.disjunction strict) (Truth.disjunction lax) := by
  induction h with
  | nil => exact .refl _
  | @cons x y _ _ hxy _ ih =>
      cases x with
      | error e => exact .error e _
      | ok t =>
          rw [hxy t rfl]
          cases t with
          | holds => exact .refl _
          | fails | unknown => exact ih

/-! ## Statements -/

mutual

theorem Expr.eval_extends : ∀ (e : Expr) (s : Scope), e.FilterFree →
    Extends (e.eval .strict s).results (e.eval .lax s).results
  | .integer _, _, _ | .number _, _, _ | .string _, _, _ | .boolean _, _, _ | .null, _, _
  | .root, _, _ | .current, _, _ | .last, _, _ | .variable _, _, _ => .refl _
  | .signed op operand, s, h => (operand.eval_extends s h).andThen (unary_extends op)
  | .binary op left right, s, h =>
      binary_extends op (left.eval_extends s h.1) (right.eval_extends s h.2)
  | .access base step, s, h => (base.eval_extends s h.1).andThen (step.apply_extends s h.2)

theorem Accessor.apply_extends : ∀ (step : Accessor) (s : Scope), step.FilterFree → ∀ v,
    Extends (step.apply .strict s v).results (step.apply .lax s v).results
  | .member name, _, _, v => member_extends name v
  | .memberWildcard, _, _, v => memberWildcard_extends v
  | .elementWildcard, _, _, v => elementWildcard_extends v
  | .subscripts subs, s, h, v => by
      cases hs : subscripted .strict v with
      | error e =>
          rw [Accessor.apply, hs]
          exact .failed e _
      | ok items =>
          rw [Accessor.apply, Accessor.apply, hs, subscripted_keeps v items hs]
          exact .ofExcept (selectAll_keeps subs (s.withLength items.length) h items)
  | .method m, _, _, v => m.apply_extends v
  | .dateTime template, _, _, v => dateTime_extends template v

theorem selectAll_keeps : ∀ (subs : List Subscript) (s : Scope), subscriptsFilterFree subs →
    ∀ items, Keeps (selectAll .strict s items subs) (selectAll .lax s items subs)
  | [], _, _, _ => .refl _
  | sub :: subs, s, h, items => by
      rw [selectAll_cons, selectAll_cons]
      exact .bind (sub.select_keeps s h.1 items) fun _ =>
        .bind (selectAll_keeps subs s h.2 items) fun _ => .refl _

theorem Subscript.select_keeps : ∀ (sub : Subscript) (s : Scope), sub.FilterFree →
    ∀ items, Keeps (sub.select .strict s items) (sub.select .lax s items)
  | .indices positions, s, h, items => selectEach_keeps items (positions.eval_extends s h)
  | .range low high, s, h, items => by
      rw [select_range, select_range]
      exact .bind (rangeBound_keeps (low.eval_extends s h.1)) fun start =>
        .bind (rangeBound_keeps (high.eval_extends s h.2)) fun stop =>
          selectRange_keeps items start stop

end

mutual

theorem Predicate.truth_keeps : ∀ (p : Predicate) (s : Scope), p.Extensible →
    Keeps (p.truth .strict s) (p.truth .lax s)
  | .compare _ left right, s, h => by
      rw [truth_compare, truth_compare]
      exact .bind (left.eval_extends s h.1).values_keeps fun _ =>
        .bind (right.eval_extends s h.2).values_keeps fun _ => .refl _
  | .startsWith subject start, s, h => by
      rw [truth_startsWith, truth_startsWith]
      exact .bind (subject.eval_extends s h.1).values_keeps fun _ =>
        .bind (start.eval_extends s h.2).values_keeps fun _ => .refl _
  | .likeRegex subject _, s, h => by
      rw [truth_likeRegex, truth_likeRegex]
      exact .bind (subject.eval_extends s h).values_keeps fun _ => .refl _
  | .conjunction operands, s, h => conjunction_keeps (truths_keeps operands s h)
  | .disjunction operands, s, h => disjunction_keeps (truths_keeps operands s h)
  | .negation operand, s, h => by
      rw [truth_negation, truth_negation]
      exact .bind (operand.truth_keeps s h) fun _ => .refl _
  | .isUnknown operand, s, h => by
      rw [truth_isUnknown, truth_isUnknown]
      exact .bind (operand.truth_keeps s h) fun _ => .refl _
  | .condition e, s, h => by
      rw [truth_condition, truth_condition]
      exact .bind (e.eval_extends s h).values_keeps fun _ => .refl _

theorem truths_keeps : ∀ (ps : List Predicate) (s : Scope), predicatesExtensible ps →
    List.Forall₂ Keeps (truths .strict s ps) (truths .lax s ps)
  | [], _, _ => .nil
  | p :: ps, s, h => .cons (p.truth_keeps s h.1) (truths_keeps ps s h.2)

end

/-- Lax mode conservatively extends strict mode. -/
theorem lax_extends_strict (s : Scope) :
    (∀ e : Expr, e.FilterFree →
      Results.ofValues (e.eval .strict s).results.beforeError <+: (e.eval .lax s).results ∧
        ((∀ error, .error error ∉ (e.eval .strict s).results) →
          (e.eval .lax s).results = (e.eval .strict s).results)) ∧
      ∀ p : Predicate, p.Extensible → ∀ t, p.truth .strict s = .ok t → p.truth .lax s = .ok t :=
  ⟨fun e he => ⟨(e.eval_extends s he).beforeError_isPrefix, (e.eval_extends s he).eq_of_noError⟩,
    fun p hp => p.truth_keeps s hp⟩

/-- A path that fails on the second element in strict mode and not in lax mode,
one on which the modes agree, and a comparison with that. -/
theorem lax_extends_strict_members :
    let s : Scope :=
      { root := .array [.object [("a", .integer 1)], .object []], vars := [] }
    let each : Expr := .access (.access .root .elementWildcard) (.member "a")
    let one : Expr := .access (.access .root (.subscripts [.indices (.integer 0)])) (.member "a")
    Results.ofValues [.integer 1] <+: (each.eval .lax s).results ∧
      (one.eval .lax s).results = [.ok (.integer 1)] ∧
      (Predicate.compare .equal one (.integer 1)).truth .lax s = .ok .holds := by
  intro s each one
  have heach : each.FilterFree := ⟨⟨trivial, trivial⟩, trivial⟩
  have hone : one.FilterFree := ⟨⟨trivial, trivial, trivial⟩, trivial⟩
  have hstrict : (one.eval .strict s).results = [.ok (.integer 1)] := rfl
  refine ⟨((lax_extends_strict s).1 each heach).1, ?_, ?_⟩
  · rw [((lax_extends_strict s).1 one hone).2 (by simp [hstrict]), hstrict]
  · exact (lax_extends_strict s).2 (.compare .equal one (.integer 1)) ⟨hone, trivial⟩ .holds rfl

end JsonPath
