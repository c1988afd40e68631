import JsonPath.Proofs.Evaluation.Sequencing

/-!
# When an evaluation overflows

The one fatal error is that of the least integer divided by minus one.  Here it is
followed from the division through everything that evaluates it: `Overflows` says
of an expression, an accessor, a subscript or a predicate that its evaluation
comes to such a division, and `eval_overflow_iff` and its companions that exactly
then the error is among what it yields.

An operand that overflows does not always matter, since an evaluation may end
before with another error.  Where operands are collected, `Overflows` therefore
asks that the overflow is the first error there (`OverflowsFirst`).  A binary
operation is the exception: an operand that is known at once overflows before
either of the two is collected.
-/

namespace JsonPath

variable {mode : Mode} {s : Scope}

/-! ## Among results -/

/-- The overflow is among the results. -/
def Results.HasOverflow (results : Results) : Prop := .error .quotientOverflow ∈ results

/-- The overflow is the first error, so that collecting the values ends with it. -/
def Results.OverflowsFirst (results : Results) : Prop := results.values = .error .quotientOverflow

theorem Results.overflowsFirst_error_cons {e : EvalError} {results : Results} :
    OverflowsFirst (.error e :: results) ↔ e = .quotientOverflow := by
  simp [OverflowsFirst, values]

theorem Results.overflowsFirst_ok_cons {v : Value} {results : Results} :
    OverflowsFirst (.ok v :: results) ↔ OverflowsFirst results := by
  simp only [OverflowsFirst, values]
  cases values results <;> simp

theorem Results.OverflowsFirst.hasOverflow {results : Results} (h : results.OverflowsFirst) :
    results.HasOverflow := by
  induction results with
  | nil => cases h
  | cons r results ih =>
      cases r with
      | error e =>
          rw [overflowsFirst_error_cons.1 h]
          exact List.mem_cons_self
      | ok v => exact List.mem_cons_of_mem _ (ih (overflowsFirst_ok_cons.1 h))

theorem Results.hasOverflow_and_overflowsFirst_iff {results : Results} :
    results.HasOverflow ∧ results.OverflowsFirst ↔ results.OverflowsFirst :=
  and_iff_right_of_imp OverflowsFirst.hasOverflow

/-! ## Sequences -/

namespace Sequence

/-- What a sequence is ended with before its first result is an overflow. -/
def AbortsOnOverflow (sequence : Sequence) : Prop :=
  ∀ e, sequence.abortion? = some e → e = .quotientOverflow

theorem abortsOnOverflow_of_eq_none {sequence : Sequence} (h : sequence.abortion? = none) :
    sequence.AbortsOnOverflow := by
  intro e he
  rw [h] at he
  cases he

theorem overflowsFirst_of_aborted {sequence : Sequence}
    (h : sequence.abortion? = some .quotientOverflow) : sequence.results.OverflowsFirst := by
  cases sequence <;> cases h
  rfl

theorem failed_abortsOnOverflow (e : EvalError) : (failed e).AbortsOnOverflow := by
  rw [failed]
  split
  · next hfatal =>
      intro e' h
      cases h
      exact eq_of_beq hfatal
  · exact abortsOnOverflow_of_eq_none rfl

theorem ofResult_abortsOnOverflow (r : Result) : (ofResult r).AbortsOnOverflow := by
  cases r with
  | error e => exact failed_abortsOnOverflow e
  | ok v => exact abortsOnOverflow_of_eq_none rfl

theorem ofExcept_abortsOnOverflow (r : Except EvalError (List Value)) :
    (ofExcept r).AbortsOnOverflow := by
  cases r with
  | error e => exact failed_abortsOnOverflow e
  | ok vs => exact abortsOnOverflow_of_eq_none rfl

theorem AbortsOnOverflow.andThen {sequence : Sequence} {stage : Value → Sequence}
    (h : sequence.AbortsOnOverflow) (hstage : ∀ v, (stage v).AbortsOnOverflow) :
    (sequence.andThen stage).AbortsOnOverflow := by
  cases sequence with
  | single v => exact hstage v
  | aborted e => exact h
  | deferred results => exact abortsOnOverflow_of_eq_none rfl

theorem AbortsOnOverflow.combine {f : Results → Results → Result} {left right : Sequence}
    (h : left.AbortsOnOverflow) (h' : right.AbortsOnOverflow) :
    (Sequence.combine f left right).AbortsOnOverflow := by
  rw [Sequence.combine]
  split
  · next hleft =>
      intro e he
      cases he
      exact h _ hleft
  · next hright =>
      intro e he
      cases he
      exact h' _ hright
  · exact ofResult_abortsOnOverflow _

/-- A stage on results overflows if a result did or the stage does on a value. -/
theorem andThen_hasOverflow_iff (sequence : Sequence) (stage : Value → Sequence) :
    (sequence.andThen stage).results.HasOverflow ↔ sequence.results.HasOverflow ∨
      ∃ v, .ok v ∈ sequence.results ∧ (stage v).results.HasOverflow := by
  rw [results_andThen, Results.HasOverflow, List.mem_flatMap]
  constructor
  · rintro ⟨r, hr, hmem⟩
    cases r with
    | error e =>
        cases List.mem_singleton.1 hmem
        exact .inl hr
    | ok v => exact .inr ⟨v, hr, hmem⟩
  · rintro (h | ⟨v, hv, hmem⟩)
    · exact ⟨_, h, List.mem_singleton_self _⟩
    · exact ⟨_, hv, hmem⟩

theorem ofResult_hasOverflow_iff {r : Result} :
    (ofResult r).results.HasOverflow ↔ r = .error .quotientOverflow := by
  simp [Results.HasOverflow, eq_comm]

theorem ofExcept_hasOverflow_iff {r : Except EvalError (List Value)} :
    (ofExcept r).results.HasOverflow ↔ r = .error .quotientOverflow := by
  cases r with
  | error e => simp [ofExcept, Results.HasOverflow, eq_comm]
  | ok vs => simp [ofExcept, Results.HasOverflow, Results.ofValues]

/-- A sequence that no overflow is in and that none has ended. -/
def Harmless (sequence : Sequence) : Prop :=
  ¬sequence.results.HasOverflow ∧ sequence.abortion? = none

namespace Harmless

theorem abortsOnOverflow {sequence : Sequence} (h : sequence.Harmless) :
    sequence.AbortsOnOverflow :=
  abortsOnOverflow_of_eq_none h.2

theorem single (v : Value) : (single v).Harmless :=
  ⟨by simp [Results.HasOverflow, results], rfl⟩

theorem ofValues (values : List Value) : (ofValues values).Harmless :=
  ⟨by simp [Results.HasOverflow, Results.ofValues], rfl⟩

theorem failed {e : EvalError} (h : e ≠ .quotientOverflow) : (failed e).Harmless := by
  have hfatal : e.isFatal ≠ true := fun hfatal => h (EvalError.isFatal_iff.1 hfatal)
  rw [Sequence.failed, if_neg hfatal]
  exact ⟨by simp [Results.HasOverflow, results, Ne.symm h], rfl⟩

theorem ofResult {r : Result} (h : r ≠ .error .quotientOverflow) : (ofResult r).Harmless := by
  cases r with
  | error e => exact failed fun he => h (by rw [he])
  | ok v => exact single v

theorem ofExcept {r : Except EvalError (List Value)} (h : r ≠ .error .quotientOverflow) :
    (ofExcept r).Harmless := by
  cases r with
  | error e => exact failed fun he => h (by rw [he])
  | ok vs => exact ofValues vs

theorem deferred {results : Results} (h : ¬results.HasOverflow) : (deferred results).Harmless :=
  ⟨h, rfl⟩

end Harmless

end Sequence

/-! ## Operations on values

None of them overflows. -/

open Sequence (Harmless)

theorem member_harmless (name : String) (v : Value) : (member mode name v).Harmless := by
  unfold member
  split
  · split
    · exact .single _
    · exact .failed nofun
    · exact .ofValues []
  · exact .failed nofun
  · exact .ofValues _

theorem memberWildcard_harmless (v : Value) : (memberWildcard mode v).Harmless := by
  unfold memberWildcard
  split
  · exact .ofValues _
  · exact .failed nofun
  · exact .ofValues _

theorem elementWildcard_harmless (v : Value) : (elementWildcard mode v).Harmless := by
  unfold elementWildcard
  split
  · exact .ofValues _
  · exact .failed nofun
  · exact .single v

theorem applySign_ne_overflow (op : SignOp) (v : Value) :
    applySign op v ≠ .error .quotientOverflow := by
  unfold applySign
  split <;> (try split) <;> nofun

theorem forEach_ne_overflow {f : Value → Result} (hf : ∀ v, f v ≠ .error .quotientOverflow)
    (vs : List Value) : forEach f vs ≠ .error .quotientOverflow := by
  induction vs with
  | nil => nofun
  | cons v vs ih =>
      intro h
      rw [forEach] at h
      split at h
      · next e he =>
          cases h
          exact hf v he
      · split at h
        · next e he =>
            cases h
            exact ih he
        · cases h

theorem unary_harmless (op : SignOp) (v : Value) : (unary mode op v).Harmless := by
  unfold unary
  split
  · exact .ofExcept (forEach_ne_overflow (applySign_ne_overflow op) _)
  · exact .ofResult (applySign_ne_overflow op v)

theorem onItems_harmless {f : Value → Result} (hf : ∀ v, f v ≠ .error .quotientOverflow)
    (v : Value) : (onItems mode f v).Harmless := by
  unfold onItems
  split
  · refine .deferred fun h => ?_
    obtain ⟨item, -, hitem⟩ := List.mem_map.1 h
    exact hf item hitem
  · exact .ofResult (hf v)

theorem recordsFrom_ne_overflow (position : Nat) (vs : List Value) :
    recordsFrom position vs ≠ .error .quotientOverflow := by
  induction vs generalizing position with
  | nil => nofun
  | cons v vs ih =>
      cases v with
      | object members =>
          intro h
          rw [recordsFrom] at h
          rcases bind_eq_error_iff.1 h with h | ⟨more, -, h⟩
          · exact ih _ h
          · cases h
      | _ => nofun

theorem keyValue_harmless (v : Value) : (keyValue mode v).Harmless := by
  unfold keyValue
  split <;> exact .ofExcept (recordsFrom_ne_overflow _ _)

theorem double_ne_overflow (v : Value) : double v ≠ .error .quotientOverflow := by
  unfold double
  split <;> (try split) <;> simp

theorem ceiling_ne_overflow (v : Value) : ceiling v ≠ .error .quotientOverflow := by
  unfold ceiling
  split <;> simp

theorem floor_ne_overflow (v : Value) : floor v ≠ .error .quotientOverflow := by
  unfold floor
  split <;> simp

theorem absolute_ne_overflow (v : Value) : absolute v ≠ .error .quotientOverflow := by
  unfold absolute
  split <;> simp

theorem toDateTime_ne_overflow (template : Option DateTemplate) (v : Value) :
    toDateTime template v ≠ .error .quotientOverflow := by
  unfold toDateTime
  split <;> (try split) <;> simp

theorem ItemMethod.apply_harmless (m : ItemMethod) (v : Value) : (m.apply mode v).Harmless := by
  cases m with
  | type => exact .single _
  | size => cases v <;> exact .single _
  | double => exact onItems_harmless double_ne_overflow v
  | ceiling => exact onItems_harmless ceiling_ne_overflow v
  | floor => exact onItems_harmless floor_ne_overflow v
  | abs => exact onItems_harmless absolute_ne_overflow v
  | keyValue => exact keyValue_harmless v

theorem dateTime_harmless (template : Option DateTemplate) (v : Value) :
    (dateTime mode template v).Harmless :=
  onItems_harmless (toDateTime_ne_overflow template) v

theorem lookup_ne_overflow (name : String) : s.lookup name ≠ .error .quotientOverflow := by
  unfold Scope.lookup
  split <;> nofun

theorem lastIndex_harmless : s.lastIndex.Harmless := by
  unfold Scope.lastIndex
  split
  · exact .single _
  · exact .ofValues []

/-! ## The division -/

theorem approximate_ne_overflow (op : ArithmeticOp) (x y : Binary64) :
    approximate op x y ≠ .error .quotientOverflow := by
  unfold approximate
  dsimp only
  split
  · nofun
  · split <;> nofun

theorem integerOr_ne_overflow (op : ArithmeticOp) (a b : Int64) (exact : Int) :
    integerOr op a b exact ≠ .error .quotientOverflow := by
  unfold integerOr
  split
  · nofun
  · exact approximate_ne_overflow _ _ _

/-- The one pair of integers on which arithmetic overflows. -/
theorem integerArithmetic_eq_overflow_iff {op : ArithmeticOp} {a b : Int64} :
    integerArithmetic op a b = .error .quotientOverflow ↔
      op = .divide ∧ a = Int64.minValue ∧ b = -1 := by
  cases op with
  | add => exact iff_of_false (integerOr_ne_overflow _ _ _ _) nofun
  | subtract => exact iff_of_false (integerOr_ne_overflow _ _ _ _) nofun
  | multiply => exact iff_of_false (integerOr_ne_overflow _ _ _ _) nofun
  | modulo =>
      refine iff_of_false ?_ nofun
      simp only [integerArithmetic]
      split
      · nofun
      · exact integerOr_ne_overflow _ _ _ _
  | divide =>
      have hone : b.toInt = -1 ↔ b = -1 :=
        ⟨fun h => Int64.toInt_inj.1 (h.trans (by decide)), fun h => by rw [h]; decide⟩
      simp only [integerArithmetic, true_and]
      split
      · next hzero =>
          refine iff_of_false nofun ?_
          rintro ⟨-, rfl⟩
          exact absurd hzero (by decide)
      · split
        · next h => exact iff_of_true rfl ⟨h.1, hone.1 h.2⟩
        · next h =>
            refine iff_of_false ?_ fun h' => h ⟨h'.1, hone.2 h'.2⟩
            split
            · exact integerOr_ne_overflow _ _ _ _
            · exact approximate_ne_overflow _ _ _

theorem arithmetic_eq_overflow_iff {op : ArithmeticOp} {left right : Value} :
    arithmetic op left right = .error .quotientOverflow ↔
      op = .divide ∧ left = .integer Int64.minValue ∧ right = .integer (-1) := by
  unfold arithmetic
  split
  · simp only [integerArithmetic_eq_overflow_iff, Value.integer.injEq]
  · next hne =>
      refine iff_of_false ?_ fun h => hne _ _ h.2.1 h.2.2
      split
      · exact approximate_ne_overflow _ _ _
      · nofun

/-- Collecting an operand overflows only with the operand itself. -/
theorem operand_eq_overflow_iff {mismatch : Nat → Mismatch} {results : Results} :
    operand mode mismatch results = .error .quotientOverflow ↔ results.OverflowsFirst := by
  rw [operand, Results.OverflowsFirst]
  cases results.values with
  | error e => simp
  | ok values =>
      dsimp only
      match operandItems mode values with
      | [] | [_] | _ :: _ :: _ => simp

/-- The operands of a division are the least integer and minus one. -/
def DividesLeast (mode : Mode) (op : ArithmeticOp) (left right : Results) : Prop :=
  op = .divide ∧ operand mode (.leftOperand op) left = .ok (.integer Int64.minValue) ∧
    operand mode (.rightOperand op) right = .ok (.integer (-1))

theorem binary_eq_overflow_iff {op : ArithmeticOp} {left right : Results} :
    binary mode op left right = .error .quotientOverflow ↔ left.OverflowsFirst ∨
      (∃ l, operand mode (.leftOperand op) left = .ok l) ∧ right.OverflowsFirst ∨
        DividesLeast mode op left right := by
  rw [← @operand_eq_overflow_iff mode (.leftOperand op),
    ← @operand_eq_overflow_iff mode (.rightOperand op), DividesLeast, binary]
  cases operand mode (.leftOperand op) left with
  | error e => simp
  | ok l =>
      cases operand mode (.rightOperand op) right with
      | error e => simp
      | ok r => simp [arithmetic_eq_overflow_iff]

/-- Two operands overflow together if the right one does at once or their operation
does. -/
theorem combine_hasOverflow_iff {op : ArithmeticOp} {left right : Sequence}
    (h : left.AbortsOnOverflow) (h' : right.AbortsOnOverflow) :
    (Sequence.combine (binary mode op) left right).results.HasOverflow ↔
      right.abortion? = some .quotientOverflow ∨
        binary mode op left.results right.results = .error .quotientOverflow := by
  unfold Sequence.combine
  split
  · next e _ hleft =>
      cases h _ hleft
      exact iff_of_true List.mem_cons_self
        (.inr (binary_eq_overflow_iff.2 (.inl (Sequence.overflowsFirst_of_aborted hleft))))
  · next e _ hright =>
      cases h' _ hright
      exact iff_of_true List.mem_cons_self (.inl hright)
  · next hright =>
      rw [Sequence.ofResult_hasOverflow_iff, hright]
      simp

/-! ## Where a division is reached -/

mutual

/-- The evaluation of an expression comes to a division of the least integer by
minus one, and the overflow is among its results. -/
def Expr.Overflows (mode : Mode) (s : Scope) : Expr → Prop
  | .integer _ | .number _ | .string _ | .boolean _ | .null | .root | .current | .last
  | .variable _ => False
  | .signed _ operand => operand.Overflows mode s
  | .binary op left right =>
      left.Overflows mode s ∧ (left.eval mode s).results.OverflowsFirst ∨
        right.Overflows mode s ∧
          ((right.eval mode s).abortion? = some .quotientOverflow ∨
            (∃ l, operand mode (.leftOperand op) (left.eval mode s).results = .ok l) ∧
              (right.eval mode s).results.OverflowsFirst) ∨
        DividesLeast mode op (left.eval mode s).results (right.eval mode s).results
  | .access base step =>
      base.Overflows mode s ∨
        ∃ v, .ok v ∈ (base.eval mode s).results ∧ step.Overflows mode s v

/-- An accessor on one value overflows. -/
def Accessor.Overflows (mode : Mode) (s : Scope) : Accessor → Value → Prop
  | .subscripts subs, v =>
      ∃ items, subscripted mode v = .ok items ∧
        subscriptsOverflow mode (s.withLength items.length) items subs
  | .filter condition, v =>
      ∃ candidate ∈ candidates mode v, condition.Overflows mode (s.withCurrent candidate)
  | .member _, _ | .memberWildcard, _ | .elementWildcard, _ | .method _, _ | .dateTime _, _ => False

/-- Some subscript overflows, and those before it select elements. -/
def subscriptsOverflow (mode : Mode) (s : Scope) (items : List Value) : List Subscript → Prop
  | [] => False
  | sub :: subs =>
      sub.Overflows mode s items ∨
        (∃ here, sub.select mode s items = .ok here) ∧ subscriptsOverflow mode s items subs

/-- The selection by a subscript ends with an overflow, in one of its bounds. -/
def Subscript.Overflows (mode : Mode) (s : Scope) (items : List Value) : Subscript → Prop
  | .indices positions =>
      positions.Overflows mode s ∧
        selectEach mode items (positions.eval mode s).results = .error .quotientOverflow
  | .range low high =>
      low.Overflows mode s ∧ (low.eval mode s).results.OverflowsFirst ∨
        (∃ start, rangeBound (low.eval mode s).results = .ok start) ∧
          high.Overflows mode s ∧ (high.eval mode s).results.OverflowsFirst

/-- The evaluation of a predicate ends with an overflow. -/
def Predicate.Overflows (mode : Mode) (s : Scope) : Predicate → Prop
  | .compare _ left right | .startsWith left right =>
      left.Overflows mode s ∧ (left.eval mode s).results.OverflowsFirst ∨
        (∃ vs, (left.eval mode s).results.values = .ok vs) ∧
          right.Overflows mode s ∧ (right.eval mode s).results.OverflowsFirst
  | .existence e | .likeRegex e _ | .condition e =>
      e.Overflows mode s ∧ (e.eval mode s).results.OverflowsFirst
  | .conjunction operands => conjunctionOverflows mode s operands
  | .disjunction operands => disjunctionOverflows mode s operands
  | .negation operand | .isUnknown operand => operand.Overflows mode s

/-- Some operand overflows, and those before it are true. -/
def conjunctionOverflows (mode : Mode) (s : Scope) : List Predicate → Prop
  | [] => False
  | p :: ps =>
      p.Overflows mode s ∨ p.truth mode s = .ok .holds ∧ conjunctionOverflows mode s ps

/-- Some operand overflows, and those before it are not true. -/
def disjunctionOverflows (mode : Mode) (s : Scope) : List Predicate → Prop
  | [] => False
  | p :: ps =>
      p.Overflows mode s ∨
        (∃ t, p.truth mode s = .ok t ∧ t ≠ .holds) ∧ disjunctionOverflows mode s ps

end

theorem Accessor.apply_abortsOnOverflow (step : Accessor) (v : Value) :
    (step.apply mode s v).AbortsOnOverflow := by
  cases step <;> rw [Accessor.apply]
  case member name => exact (member_harmless name v).abortsOnOverflow
  case memberWildcard => exact (memberWildcard_harmless v).abortsOnOverflow
  case elementWildcard => exact (elementWildcard_harmless v).abortsOnOverflow
  case subscripts subs =>
    split
    · exact Sequence.failed_abortsOnOverflow _
    · exact Sequence.ofExcept_abortsOnOverflow _
  case filter condition => exact Sequence.abortsOnOverflow_of_eq_none rfl
  case method m => exact (m.apply_harmless v).abortsOnOverflow
  case dateTime template => exact (dateTime_harmless template v).abortsOnOverflow

/-- Nothing but an overflow ends an evaluation before its first result. -/
theorem Expr.eval_abortsOnOverflow (e : Expr) : (e.eval mode s).AbortsOnOverflow := by
  match e with
  | .integer _ | .number _ | .string _ | .boolean _ | .null | .root | .current =>
      rw [Expr.eval]
      exact (Harmless.single _).abortsOnOverflow
  | .last =>
      rw [Expr.eval]
      exact lastIndex_harmless.abortsOnOverflow
  | .variable name =>
      rw [Expr.eval]
      exact Sequence.ofResult_abortsOnOverflow (s.lookup name)
  | .signed op operand =>
      rw [Expr.eval]
      exact operand.eval_abortsOnOverflow.andThen fun v => (unary_harmless op v).abortsOnOverflow
  | .binary _ left right =>
      rw [Expr.eval]
      exact left.eval_abortsOnOverflow.combine right.eval_abortsOnOverflow
  | .access base step =>
      rw [Expr.eval]
      exact base.eval_abortsOnOverflow.andThen step.apply_abortsOnOverflow

/-! ## What collects results -/

theorem asIndex_ne_overflow (v : Value) : asIndex v ≠ .error .quotientOverflow := by
  unfold asIndex
  split <;> (try split) <;> simp

theorem select_ne_overflow (items : List Value) (index : Int64) :
    select mode items index ≠ .error .quotientOverflow := by
  unfold select
  split <;> simp

theorem selectRange_ne_overflow (items : List Value) (low high : Int64) :
    selectRange mode items low high ≠ .error .quotientOverflow := by
  unfold selectRange
  split
  · nofun
  · split
    · nofun
    · split
      · nofun
      · split <;> nofun

theorem subscripted_ne_overflow (v : Value) :
    subscripted mode v ≠ .error .quotientOverflow := by
  unfold subscripted
  split <;> nofun

theorem rangeBound_eq_overflow_iff {results : Results} :
    rangeBound results = .error .quotientOverflow ↔ results.OverflowsFirst := by
  rw [rangeBound_eq_bind, bind_eq_error_iff]
  refine ⟨fun h => h.resolve_right ?_, .inl⟩
  rintro ⟨vs, -, h⟩
  match vs, h with
  | [v], h => exact asIndex_ne_overflow v h
  | [], h => cases h
  | _ :: _ :: _, h => cases h

theorem collect_eq_overflow_iff {results : Results} {f : List Value → Truth} :
    (results.values >>= fun vs => Except.ok (f vs)) = .error .quotientOverflow ↔
      results.OverflowsFirst := by
  rw [bind_eq_error_iff, Results.OverflowsFirst]
  simp

/-- What collects two operands overflows with the first, or with the second if the
first has no error. -/
theorem collect_pair_eq_overflow_iff {left right : Results} {f : List Value → List Value → Truth} :
    (left.values >>= fun ls => right.values >>= fun rs => Except.ok (f ls rs)) =
        .error .quotientOverflow ↔
      left.OverflowsFirst ∨ (∃ vs, left.values = .ok vs) ∧ right.OverflowsFirst := by
  rw [bind_eq_error_iff]
  simp only [collect_eq_overflow_iff, exists_and_right]
  rfl

/-- Indices overflow only with the expression that yields them. -/
theorem hasOverflow_of_selectEach {items : List Value} {results : Results}
    (h : selectEach mode items results = .error .quotientOverflow) : results.HasOverflow := by
  induction results with
  | nil => cases h
  | cons r results ih =>
      cases r with
      | error e =>
          cases h
          exact List.mem_cons_self
      | ok v =>
          refine List.mem_cons_of_mem _ (ih ?_)
          rcases bind_eq_error_iff.1 h with h | ⟨index, -, h⟩
          · exact absurd h (asIndex_ne_overflow v)
          rcases bind_eq_error_iff.1 h with h | ⟨here, -, h⟩
          · exact absurd h (select_ne_overflow items index)
          rcases bind_eq_error_iff.1 h with h | ⟨more, -, h⟩
          · exact h
          · cases h

/-- No filter drops an overflow. -/
theorem mem_kept_iff {v : Value} {t : Except EvalError Truth} :
    .error .quotientOverflow ∈ kept v t ↔ t = .error .quotientOverflow := by
  match t with
  | .ok .holds | .ok .fails | .ok .unknown => simp [kept]
  | .error e =>
      rw [kept]
      split
      · simp [eq_comm]
      · next hfatal =>
          refine iff_of_false List.not_mem_nil ?_
          rintro ⟨⟩
          exact hfatal (by decide)

/-- Neither does `exists` turn one into unknown. -/
theorem existence_eq_overflow_iff {results : Results} :
    Truth.existence EvalError.isFatal results = .error .quotientOverflow ↔
      results.OverflowsFirst := by
  induction results with
  | nil => exact iff_of_false nofun nofun
  | cons r results ih =>
      cases r with
      | error e =>
          rw [Results.overflowsFirst_error_cons, Truth.existence]
          split
          · simp
          · next hfatal =>
              refine iff_of_false nofun ?_
              rintro rfl
              exact hfatal (by decide)
      | ok v =>
          rw [Results.overflowsFirst_ok_cons, ← ih, Truth.existence]
          match Truth.existence EvalError.isFatal results with
          | .error e => exact Iff.rfl
          | .ok .holds | .ok .fails | .ok .unknown => exact iff_of_false nofun nofun

/-! ## The induction -/

mutual

theorem Expr.eval_overflow_iff : ∀ (e : Expr) (s : Scope),
    (e.eval mode s).results.HasOverflow ↔ e.Overflows mode s
  | .integer _, _ | .number _, _ | .string _, _ | .boolean _, _ | .null, _ | .root, _
  | .current, _ => by
      rw [Expr.eval, Expr.Overflows]
      exact iff_of_false (Harmless.single _).1 id
  | .last, _ => by
      rw [Expr.eval, Expr.Overflows]
      exact iff_of_false lastIndex_harmless.1 id
  | .variable name, _ => by
      rw [Expr.eval, Expr.Overflows]
      exact iff_of_false (Harmless.ofResult (lookup_ne_overflow name)).1 id
  | .signed op operand, s => by
      rw [Expr.eval, Sequence.andThen_hasOverflow_iff, Expr.Overflows, operand.eval_overflow_iff s]
      refine or_iff_left ?_
      rintro ⟨v, -, h⟩
      exact (unary_harmless op v).1 h
  | .binary op left right, s => by
      rw [Expr.eval, combine_hasOverflow_iff left.eval_abortsOnOverflow right.eval_abortsOnOverflow,
        binary_eq_overflow_iff, Expr.Overflows, ← left.eval_overflow_iff s,
        ← right.eval_overflow_iff s, Results.hasOverflow_and_overflowsFirst_iff, and_or_left,
        and_left_comm, Results.hasOverflow_and_overflowsFirst_iff,
        and_iff_right_of_imp fun h => (Sequence.overflowsFirst_of_aborted h).hasOverflow]
      simp only [or_assoc, or_left_comm]
  | .access base step, s => by
      rw [Expr.eval, Sequence.andThen_hasOverflow_iff, Expr.Overflows, base.eval_overflow_iff s]
      simp only [step.apply_overflow_iff]

theorem Accessor.apply_overflow_iff : ∀ (step : Accessor) (s : Scope) (v : Value),
    (step.apply mode s v).results.HasOverflow ↔ step.Overflows mode s v
  | .member name, _, v => by
      rw [Accessor.apply, Accessor.Overflows]
      exact iff_of_false (member_harmless name v).1 id
  | .memberWildcard, _, v => by
      rw [Accessor.apply, Accessor.Overflows]
      exact iff_of_false (memberWildcard_harmless v).1 id
  | .elementWildcard, _, v => by
      rw [Accessor.apply, Accessor.Overflows]
      exact iff_of_false (elementWildcard_harmless v).1 id
  | .subscripts subs, s, v => by
      rw [Accessor.apply, Accessor.Overflows]
      cases hitems : subscripted mode v with
      | error e =>
          refine iff_of_false (Harmless.failed ?_).1 nofun
          rintro rfl
          exact subscripted_ne_overflow v hitems
      | ok items =>
          rw [Sequence.ofExcept_hasOverflow_iff, selectAll_overflow_iff subs]
          simp
  | .filter condition, s, v => by
      rw [Accessor.apply, Accessor.Overflows, Sequence.results, Results.HasOverflow,
        List.mem_flatMap]
      simp only [mem_kept_iff, condition.truth_overflow_iff]
  | .method m, _, v => by
      rw [Accessor.apply, Accessor.Overflows]
      exact iff_of_false (m.apply_harmless v).1 id
  | .dateTime template, _, v => by
      rw [Accessor.apply, Accessor.Overflows]
      exact iff_of_false (dateTime_harmless template v).1 id

theorem selectAll_overflow_iff : ∀ (subs : List Subscript) (s : Scope) (items : List Value),
    selectAll mode s items subs = .error .quotientOverflow ↔
      subscriptsOverflow mode s items subs
  | [], _, _ => iff_of_false nofun id
  | sub :: subs, s, items => by
      rw [selectAll_cons, subscriptsOverflow, bind_eq_error_iff, sub.select_overflow_iff s items,
        ← selectAll_overflow_iff subs s items]
      simp [bind_eq_error_iff]

theorem Subscript.select_overflow_iff : ∀ (sub : Subscript) (s : Scope) (items : List Value),
    sub.select mode s items = .error .quotientOverflow ↔ sub.Overflows mode s items
  | .indices positions, s, items => by
      rw [Subscript.select, Subscript.Overflows, ← positions.eval_overflow_iff s]
      exact ⟨fun h => ⟨hasOverflow_of_selectEach h, h⟩, And.right⟩
  | .range low high, s, items => by
      rw [select_range, Subscript.Overflows, ← low.eval_overflow_iff s,
        ← high.eval_overflow_iff s, Results.hasOverflow_and_overflowsFirst_iff,
        Results.hasOverflow_and_overflowsFirst_iff, bind_eq_error_iff, rangeBound_eq_overflow_iff]
      simp only [bind_eq_error_iff, rangeBound_eq_overflow_iff, selectRange_ne_overflow, and_false,
        exists_false, or_false, exists_and_right]

theorem Predicate.truth_overflow_iff : ∀ (p : Predicate) (s : Scope),
    p.truth mode s = .error .quotientOverflow ↔ p.Overflows mode s
  | .compare op left right, s => by
      rw [truth_compare, collect_pair_eq_overflow_iff, Predicate.Overflows,
        ← left.eval_overflow_iff s, ← right.eval_overflow_iff s,
        Results.hasOverflow_and_overflowsFirst_iff, Results.hasOverflow_and_overflowsFirst_iff]
  | .existence e, s => by
      rw [Predicate.truth, existence_eq_overflow_iff, Predicate.Overflows,
        ← e.eval_overflow_iff s, Results.hasOverflow_and_overflowsFirst_iff]
  | .startsWith subject start, s => by
      rw [truth_startsWith, collect_pair_eq_overflow_iff, Predicate.Overflows,
        ← subject.eval_overflow_iff s, ← start.eval_overflow_iff s,
        Results.hasOverflow_and_overflowsFirst_iff, Results.hasOverflow_and_overflowsFirst_iff]
  | .likeRegex subject pattern, s => by
      rw [truth_likeRegex, collect_eq_overflow_iff, Predicate.Overflows,
        ← subject.eval_overflow_iff s, Results.hasOverflow_and_overflowsFirst_iff]
  | .conjunction operands, s => by
      rw [Predicate.truth, Predicate.Overflows]
      exact conjunction_overflow_iff operands s
  | .disjunction operands, s => by
      rw [Predicate.truth, Predicate.Overflows]
      exact disjunction_overflow_iff operands s
  | .negation operand, s => by
      rw [truth_negation, bind_eq_error_iff, Predicate.Overflows, operand.truth_overflow_iff s]
      simp
  | .isUnknown operand, s => by
      rw [truth_isUnknown, bind_eq_error_iff, Predicate.Overflows, operand.truth_overflow_iff s]
      simp
  | .condition e, s => by
      rw [truth_condition, collect_eq_overflow_iff, Predicate.Overflows, ← e.eval_overflow_iff s,
        Results.hasOverflow_and_overflowsFirst_iff]

theorem conjunction_overflow_iff : ∀ (ps : List Predicate) (s : Scope),
    Truth.conjunction (truths mode s ps) = .error .quotientOverflow ↔
      conjunctionOverflows mode s ps
  | [], _ => iff_of_false nofun id
  | p :: ps, s => by
      rw [truths, conjunctionOverflows, ← p.truth_overflow_iff s,
        ← conjunction_overflow_iff ps s]
      match p.truth mode s with
      | .error e => simp [Truth.conjunction]
      | .ok .holds => simp [Truth.conjunction]
      | .ok .fails => simp [Truth.conjunction]
      | .ok .unknown => simp [Truth.conjunction]

theorem disjunction_overflow_iff : ∀ (ps : List Predicate) (s : Scope),
    Truth.disjunction (truths mode s ps) = .error .quotientOverflow ↔
      disjunctionOverflows mode s ps
  | [], _ => iff_of_false nofun id
  | p :: ps, s => by
      rw [truths, disjunctionOverflows, ← p.truth_overflow_iff s,
        ← disjunction_overflow_iff ps s]
      match p.truth mode s with
      | .error e => simp [Truth.disjunction]
      | .ok .holds => simp [Truth.disjunction]
      | .ok .fails => simp [Truth.disjunction]
      | .ok .unknown => simp [Truth.disjunction]

end

end JsonPath
