import JsonPath.Proofs.Evaluation.Cutting
import JsonPath.Proofs.Evaluation.Overflow
import JsonPath.Proofs.Evaluation.Unwrapping
import JsonPath.Proofs.Number.Order
import JsonPath.Statement

/-!
# The errors of lax mode

Lax mode does not complain about the shape of the data: no member is missing in it, no
index is out of range, nothing has to be an array, and only `.keyvalue()` wants objects.
The other errors may arise in it as well as in strict mode.

* `Results.ErrorsIn` and `FailsIn` confine the errors among results, and that of a step
  which fails as a whole.  Both pass through everything that puts steps together.
* `EvalError.InLax` are the errors of lax mode.  Each operation has a lemma of its own, and
  `Expr.eval_inLax` with its companions is the induction over the syntax.  A filter needs
  no induction, since it drops all errors but an overflow.
* `Accessor.Navigates` are the accessors that have no errors at all in lax mode, filters
  among them whatever their predicates are.
-/

namespace JsonPath

open Grammar (walk)

variable {P : EvalError → Prop} {α β : Type}

/-! ## Confined errors -/

/-- All errors among the results satisfy `P`. -/
def Results.ErrorsIn (P : EvalError → Prop) (results : Results) : Prop :=
  ∀ e, .error e ∈ results → P e

/-- An outcome that is an error satisfies `P`. -/
def FailsIn (P : EvalError → Prop) (x : Except EvalError α) : Prop := ∀ e, x = .error e → P e

namespace FailsIn

@[simp]
theorem ok (a : α) : FailsIn P (.ok a) := nofun

theorem error {e : EvalError} (h : P e) : FailsIn P (.error e : Except EvalError α) := by
  rintro e' ⟨⟩
  exact h

@[simp]
theorem error_iff {e : EvalError} : FailsIn P (.error e : Except EvalError α) ↔ P e :=
  ⟨fun h => h e rfl, error⟩

theorem bind {x : Except EvalError α} {f : α → Except EvalError β} (h : FailsIn P x)
    (hf : ∀ a, FailsIn P (f a)) : FailsIn P (x >>= f) := by
  intro e he
  rcases bind_eq_error_iff.1 he with he | ⟨a, -, he⟩
  · exact h e he
  · exact hf a e he

/-- The error with which the collection of values ends is one of the results. -/
theorem values {results : Results} (h : results.ErrorsIn P) : FailsIn P results.values := by
  intro e he
  exact h e (List.mem_of_find?_eq_some (Results.find?_of_values_eq_error he))

theorem existence {results : Results} (h : results.ErrorsIn P) (fatal : EvalError → Bool) :
    FailsIn P (Truth.existence fatal results) := by
  induction results with
  | nil => exact .ok _
  | cons r results ih =>
      have hrest := ih fun e he => h e (List.mem_cons_of_mem _ he)
      cases r with
      | error e =>
          rw [Truth.existence]
          split
          · exact .error (h e List.mem_cons_self)
          · exact .ok _
      | ok v =>
          rw [Truth.existence]
          split
          · next e he => exact .error (hrest e he)
          · exact .ok _
          · exact .ok _

theorem conjunction {truths : List (Except EvalError Truth)} (h : ∀ t ∈ truths, FailsIn P t) :
    FailsIn P (Truth.conjunction truths) := by
  induction truths with
  | nil => exact .ok _
  | cons t truths ih =>
      obtain ⟨ht, hrest⟩ := List.forall_mem_cons.1 h
      match t with
      | .error e => exact .error (ht e rfl)
      | .ok .holds => exact ih hrest
      | .ok .fails | .ok .unknown => exact .ok _

theorem disjunction {truths : List (Except EvalError Truth)} (h : ∀ t ∈ truths, FailsIn P t) :
    FailsIn P (Truth.disjunction truths) := by
  induction truths with
  | nil => exact .ok _
  | cons t truths ih =>
      obtain ⟨ht, hrest⟩ := List.forall_mem_cons.1 h
      match t with
      | .error e => exact .error (ht e rfl)
      | .ok .holds => exact .ok _
      | .ok .fails | .ok .unknown => exact ih hrest

end FailsIn

namespace Results.ErrorsIn

theorem ofValues (values : List Value) : ErrorsIn P (ofValues values) := by
  intro e he
  obtain ⟨v, -, ⟨⟩⟩ := List.mem_map.1 he

theorem single (v : Value) : ErrorsIn P (Sequence.single v).results := ofValues [v]

theorem ofResult {r : Result} (h : FailsIn P r) : ErrorsIn P (Sequence.ofResult r).results := by
  intro e he
  rw [Sequence.results_ofResult, List.mem_singleton] at he
  exact h e he.symm

theorem ofExcept {x : Except EvalError (List Value)} (h : FailsIn P x) :
    ErrorsIn P (Sequence.ofExcept x).results := by
  cases x with
  | error e => exact ofResult (.error (h e rfl))
  | ok vs => exact ofValues vs

theorem andThen {sequence : Sequence} {stage : Value → Sequence}
    (h : ErrorsIn P sequence.results) (hstage : ∀ v, ErrorsIn P (stage v).results) :
    ErrorsIn P (sequence.andThen stage).results := by
  intro e he
  rw [Sequence.results_andThen, List.mem_flatMap] at he
  obtain ⟨r, hr, he⟩ := he
  cases r with
  | error e' =>
      cases List.mem_singleton.1 he
      exact h e hr
  | ok v => exact hstage v e he

theorem through {mode : Mode} {s : Scope} {steps : List Accessor} {sequence : Sequence}
    (h : ErrorsIn P sequence.results)
    (hsteps : ∀ step ∈ steps, ∀ v, ErrorsIn P (step.apply mode s v).results) :
    ErrorsIn P (sequence.through mode s steps).results := by
  induction steps generalizing sequence with
  | nil => exact h
  | cons step steps ih =>
      obtain ⟨hstep, hrest⟩ := List.forall_mem_cons.1 hsteps
      rw [through_cons]
      exact ih (h.andThen hstep) hrest

/-- What has ended one of two sequences is one of its results. -/
theorem combine {f : Results → Results → Result} {left right : Sequence}
    (h : ErrorsIn P left.results) (h' : ErrorsIn P right.results)
    (hf : FailsIn P (f left.results right.results)) :
    ErrorsIn P (Sequence.combine f left right).results := by
  have haborted {sequence : Sequence} {e : EvalError} (h : ErrorsIn P sequence.results)
      (he : sequence.abortion? = some e) : ErrorsIn P (Sequence.aborted e).results := by
    cases sequence <;> cases he
    exact h
  unfold Sequence.combine
  split
  · next hleft => exact haborted h hleft
  · next hright => exact haborted h' hright
  · exact ofResult hf

end Results.ErrorsIn

open Results (ErrorsIn)

/-! ## Operations in lax mode -/

/-- The errors that lax mode may yield.  Of those about the shape of the data there are
only the ones of `.keyvalue()`, and these where `keyed` says that it may be applied. -/
def EvalError.InLax (keyed : Prop) : EvalError → Prop
  | .keyNotFound _ | .indexOutOfRange _ _ | .notAnArray _ _ => False
  | .notAnObject _ _ => keyed
  | .typeMismatch _ | .unparsable _ _ | .unknownVariable _ | .unsupportedOperator _ _ _
  | .divisionByZero | .quotientOverflow => True

attribute [simp] EvalError.InLax

open EvalError (InLax)

variable {keyed : Prop} {s : Scope}

theorem member_errors (name : String) (v : Value) : ErrorsIn P (member .lax name v).results := by
  intro e he
  rw [member_lax, List.mem_flatMap] at he
  obtain ⟨element, -, he⟩ := he
  cases (List.mem_filter.1 he).2

theorem memberWildcard_errors (v : Value) : ErrorsIn P (memberWildcard .lax v).results := by
  intro e he
  rw [memberWildcard_lax, List.mem_flatMap] at he
  obtain ⟨element, -, he⟩ := he
  cases (List.mem_filter.1 he).2

theorem elementWildcard_errors (v : Value) : ErrorsIn P (elementWildcard .lax v).results := by
  cases v with
  | array items => exact .ofValues items
  | _ => exact .single _

theorem asIndex_inLax (v : Value) : FailsIn (InLax keyed) (asIndex v) := by
  unfold asIndex
  split <;> (try split) <;> simp

theorem selectEach_inLax (items : List Value) {results : Results}
    (h : results.ErrorsIn (InLax keyed)) :
    FailsIn (InLax keyed) (selectEach .lax items results) := by
  induction results with
  | nil => exact .ok _
  | cons r results ih =>
      have hrest := ih fun e he => h e (List.mem_cons_of_mem _ he)
      cases r with
      | error e => exact .error (h e List.mem_cons_self)
      | ok v =>
          refine (asIndex_inLax v).bind fun index => ?_
          rw [select_lax]
          exact .bind (.ok _) fun here => hrest.bind fun more => .ok _

theorem rangeBound_inLax {results : Results} (h : results.ErrorsIn (InLax keyed)) :
    FailsIn (InLax keyed) (rangeBound results) := by
  rw [rangeBound_eq_bind]
  refine (FailsIn.values h).bind fun values => ?_
  match values with
  | [v] => exact asIndex_inLax v
  | [] | _ :: _ :: _ => exact .error trivial

theorem applySign_inLax (op : SignOp) (v : Value) : FailsIn (InLax keyed) (applySign op v) := by
  unfold applySign
  split <;> (try split) <;> simp

theorem unary_inLax (op : SignOp) (v : Value) :
    (unary .lax op v).results.ErrorsIn (InLax keyed) := by
  unfold unary
  split
  · next items =>
      rw [forEach_eq_values]
      refine .ofExcept (.values fun e he => ?_)
      obtain ⟨item, -, hitem⟩ := List.mem_map.1 he
      exact applySign_inLax op item e hitem
  · exact .ofResult (applySign_inLax op _)

theorem approximate_inLax (op : ArithmeticOp) (x y : Binary64) :
    FailsIn (InLax keyed) (approximate op x y) := by
  unfold approximate
  dsimp only
  split
  · simp
  · split <;> simp

theorem integerOr_inLax (op : ArithmeticOp) (a b : Int64) (exact : Int) :
    FailsIn (InLax keyed) (integerOr op a b exact) := by
  unfold integerOr
  split
  · exact .ok _
  · exact approximate_inLax _ _ _

theorem integerArithmetic_inLax (op : ArithmeticOp) (a b : Int64) :
    FailsIn (InLax keyed) (integerArithmetic op a b) := by
  cases op with
  | add | subtract | multiply => exact integerOr_inLax _ _ _ _
  | divide =>
      simp only [integerArithmetic]
      split
      · exact .error trivial
      · split
        · exact .error trivial
        · split
          · exact integerOr_inLax _ _ _ _
          · exact approximate_inLax _ _ _
  | modulo =>
      simp only [integerArithmetic]
      split
      · exact .error trivial
      · exact integerOr_inLax _ _ _ _

theorem arithmetic_inLax (op : ArithmeticOp) (left right : Value) :
    FailsIn (InLax keyed) (arithmetic op left right) := by
  unfold arithmetic
  split
  · exact integerArithmetic_inLax _ _ _
  · split
    · exact approximate_inLax _ _ _
    · exact .error trivial

theorem operand_inLax (mismatch : Nat → Mismatch) {results : Results}
    (h : results.ErrorsIn (InLax keyed)) :
    FailsIn (InLax keyed) (operand .lax mismatch results) := by
  unfold operand
  split
  · next e he => exact .error (FailsIn.values h e he)
  · split
    · exact .ok _
    · exact .error trivial

theorem binary_inLax (op : ArithmeticOp) {left right : Results}
    (h : left.ErrorsIn (InLax keyed)) (h' : right.ErrorsIn (InLax keyed)) :
    FailsIn (InLax keyed) (binary .lax op left right) := by
  unfold binary
  split
  · next e he => exact .error (operand_inLax _ h e he)
  · split
    · next e he => exact .error (operand_inLax _ h' e he)
    · exact arithmetic_inLax _ _ _

theorem onItems_inLax {f : Value → Result} (hf : ∀ v, FailsIn (InLax keyed) (f v))
    (v : Value) : (onItems .lax f v).results.ErrorsIn (InLax keyed) := by
  unfold onItems
  split
  · intro e he
    obtain ⟨item, -, hitem⟩ := List.mem_map.1 he
    exact hf item e hitem
  · exact .ofResult (hf _)

theorem double_inLax (v : Value) : FailsIn (InLax keyed) (double v) := by
  unfold double
  split <;> (try split) <;> simp

theorem ceiling_inLax (v : Value) : FailsIn (InLax keyed) (ceiling v) := by
  unfold ceiling
  split <;> simp

theorem floor_inLax (v : Value) : FailsIn (InLax keyed) (floor v) := by
  unfold floor
  split <;> simp

theorem absolute_inLax (v : Value) : FailsIn (InLax keyed) (absolute v) := by
  unfold absolute
  split <;> simp

theorem toDateTime_inLax (template : Option DateTemplate) (v : Value) :
    FailsIn (InLax keyed) (toDateTime template v) := by
  unfold toDateTime
  split <;> (try split) <;> simp

theorem recordsFrom_inLax (h : keyed) (position : Nat) (values : List Value) :
    FailsIn (InLax keyed) (recordsFrom position values) := by
  induction values generalizing position with
  | nil => exact .ok _
  | cons v values ih =>
      cases v with
      | object members => exact (ih (position + 1)).bind fun _ => .ok _
      | _ => exact .error h

theorem ItemMethod.apply_inLax (m : ItemMethod) (h : m = .keyValue → keyed) (v : Value) :
    (m.apply .lax v).results.ErrorsIn (InLax keyed) := by
  cases m with
  | type => exact .single _
  | size => cases v <;> exact .single _
  | double => exact onItems_inLax double_inLax v
  | ceiling => exact onItems_inLax ceiling_inLax v
  | floor => exact onItems_inLax floor_inLax v
  | abs => exact onItems_inLax absolute_inLax v
  | keyValue =>
      rw [ItemMethod.apply]
      unfold JsonPath.keyValue
      split <;> exact .ofExcept (recordsFrom_inLax (h rfl) _ _)

theorem lookup_inLax (name : String) : FailsIn (InLax keyed) (s.lookup name) := by
  unfold Scope.lookup
  split <;> simp

theorem lastIndex_errors : s.lastIndex.results.ErrorsIn P := by
  unfold Scope.lastIndex
  split
  · exact .single _
  · exact .ofValues []

/-- No filter passes an error on but an overflow. -/
theorem kept_errors (v : Value) (t : Except EvalError Truth) :
    (kept v t).ErrorsIn (· = .quotientOverflow) := by
  intro e he
  match t with
  | .ok .holds => cases List.mem_singleton.1 he
  | .ok .fails | .ok .unknown => cases he
  | .error e' =>
      rw [kept] at he
      split at he
      · next hfatal =>
          cases List.mem_singleton.1 he
          exact eq_of_beq hfatal
      · cases he

theorem Accessor.filter_errors (condition : Predicate) (mode : Mode) (v : Value) :
    ((Accessor.filter condition).apply mode s v).results.ErrorsIn (· = .quotientOverflow) := by
  intro e he
  obtain ⟨candidate, -, he⟩ := List.mem_flatMap.1 he
  exact kept_errors candidate _ e he

/-! ## Statements in lax mode -/

mutual

/-- The methods that occur in an expression, in filters and subscripts too. -/
def Expr.methods : Expr → List ItemMethod
  | .integer _ | .number _ | .string _ | .boolean _ | .null | .root | .current | .last
  | .variable _ => []
  | .signed _ operand => operand.methods
  | .binary _ left right => left.methods ++ right.methods
  | .access base step => base.methods ++ step.methods

/-- The methods that occur in an accessor. -/
def Accessor.methods : Accessor → List ItemMethod
  | .member _ | .memberWildcard | .elementWildcard | .dateTime _ => []
  | .subscripts subs => subscriptsMethods subs
  | .filter condition => condition.methods
  | .method m => [m]

/-- The methods that occur in some subscripts. -/
def subscriptsMethods : List Subscript → List ItemMethod
  | [] => []
  | sub :: subs => sub.methods ++ subscriptsMethods subs

/-- The methods that occur in a subscript. -/
def Subscript.methods : Subscript → List ItemMethod
  | .indices positions => positions.methods
  | .range low high => low.methods ++ high.methods

/-- The methods that occur in a predicate. -/
def Predicate.methods : Predicate → List ItemMethod
  | .compare _ left right => left.methods ++ right.methods
  | .existence operand => operand.methods
  | .startsWith subject start => subject.methods ++ start.methods
  | .likeRegex subject _ => subject.methods
  | .conjunction operands | .disjunction operands => predicatesMethods operands
  | .negation operand | .isUnknown operand => operand.methods
  | .condition e => e.methods

/-- The methods that occur in some predicates. -/
def predicatesMethods : List Predicate → List ItemMethod
  | [] => []
  | p :: ps => p.methods ++ predicatesMethods ps

end

/-- The methods that occur in a statement. -/
def Body.methods : Body → List ItemMethod
  | .path e => e.methods
  | .predicate p => p.methods

/-- What holds if a method occurs on the left or on the right, holds if it occurs on the
left. -/
theorem of_mem_append_left {m : ItemMethod} {ms ns : List ItemMethod}
    (h : m ∈ ms ++ ns → keyed) : m ∈ ms → keyed :=
  fun hm => h (List.mem_append_left _ hm)

theorem of_mem_append_right {m : ItemMethod} {ms ns : List ItemMethod}
    (h : m ∈ ms ++ ns → keyed) : m ∈ ns → keyed :=
  fun hm => h (List.mem_append_right _ hm)

mutual

theorem Expr.eval_inLax : ∀ (e : Expr) (s : Scope), (.keyValue ∈ e.methods → keyed) →
    (e.eval .lax s).results.ErrorsIn (InLax keyed)
  | .integer _, _, _ | .number _, _, _ | .string _, _, _ | .boolean _, _, _ | .null, _, _
  | .root, _, _ | .current, _, _ => by
      rw [Expr.eval]
      exact .single _
  | .last, _, _ => lastIndex_errors
  | .variable name, _, _ => .ofResult (lookup_inLax name)
  | .signed op operand, s, h => (operand.eval_inLax s h).andThen (unary_inLax op)
  | .binary op left right, s, h => by
      have hleft := left.eval_inLax s (of_mem_append_left h)
      have hright := right.eval_inLax s (of_mem_append_right h)
      exact hleft.combine hright (binary_inLax op hleft hright)
  | .access base step, s, h =>
      (base.eval_inLax s (of_mem_append_left h)).andThen
        (step.apply_inLax s (of_mem_append_right h))

theorem Accessor.apply_inLax : ∀ (step : Accessor) (s : Scope),
    (.keyValue ∈ step.methods → keyed) → ∀ v,
      (step.apply .lax s v).results.ErrorsIn (InLax keyed)
  | .member name, _, _, v => member_errors name v
  | .memberWildcard, _, _, v => memberWildcard_errors v
  | .elementWildcard, _, _, v => elementWildcard_errors v
  | .subscripts subs, s, h, v => by
      rw [Accessor.apply, subscripted_lax]
      exact .ofExcept (selectAll_inLax subs _ h _)
  | .filter condition, s, _, v => by
      intro e he
      rw [Accessor.filter_errors condition .lax v e he]
      trivial
  | .method m, _, h, v => m.apply_inLax (fun hm => h (by rw [hm]; exact List.mem_cons_self)) v
  | .dateTime template, _, _, v => onItems_inLax (toDateTime_inLax template) v

theorem selectAll_inLax : ∀ (subs : List Subscript) (s : Scope),
    (.keyValue ∈ subscriptsMethods subs → keyed) → ∀ items,
      FailsIn (InLax keyed) (selectAll .lax s items subs)
  | [], _, _, _ => .ok _
  | sub :: subs, s, h, items => by
      rw [selectAll_cons]
      exact (sub.select_inLax s (of_mem_append_left h) items).bind fun _ =>
        (selectAll_inLax subs s (of_mem_append_right h) items).bind fun _ => .ok _

theorem Subscript.select_inLax : ∀ (sub : Subscript) (s : Scope),
    (.keyValue ∈ sub.methods → keyed) → ∀ items,
      FailsIn (InLax keyed) (sub.select .lax s items)
  | .indices positions, s, h, items => selectEach_inLax items (positions.eval_inLax s h)
  | .range low high, s, h, items => by
      rw [select_range]
      exact (rangeBound_inLax (low.eval_inLax s (of_mem_append_left h))).bind fun _ =>
        (rangeBound_inLax (high.eval_inLax s (of_mem_append_right h))).bind fun _ => .ok _

end

mutual

theorem Predicate.truth_inLax : ∀ (p : Predicate) (s : Scope),
    (.keyValue ∈ p.methods → keyed) → FailsIn (InLax keyed) (p.truth .lax s)
  | .compare _ left right, s, h => by
      rw [truth_compare]
      exact (FailsIn.values (left.eval_inLax s (of_mem_append_left h))).bind fun _ =>
        (FailsIn.values (right.eval_inLax s (of_mem_append_right h))).bind fun _ => .ok _
  | .existence operand, s, h => by
      rw [Predicate.truth]
      exact .existence (operand.eval_inLax s h) _
  | .startsWith subject start, s, h => by
      rw [truth_startsWith]
      exact (FailsIn.values (subject.eval_inLax s (of_mem_append_left h))).bind fun _ =>
        (FailsIn.values (start.eval_inLax s (of_mem_append_right h))).bind fun _ => .ok _
  | .likeRegex subject _, s, h => by
      rw [truth_likeRegex]
      exact (FailsIn.values (subject.eval_inLax s h)).bind fun _ => .ok _
  | .conjunction operands, s, h => by
      rw [Predicate.truth]
      exact .conjunction (truths_inLax operands s h)
  | .disjunction operands, s, h => by
      rw [Predicate.truth]
      exact .disjunction (truths_inLax operands s h)
  | .negation operand, s, h => by
      rw [truth_negation]
      exact (operand.truth_inLax s h).bind fun _ => .ok _
  | .isUnknown operand, s, h => by
      rw [truth_isUnknown]
      exact (operand.truth_inLax s h).bind fun _ => .ok _
  | .condition e, s, h => by
      rw [truth_condition]
      exact (FailsIn.values (e.eval_inLax s h)).bind fun _ => .ok _

theorem truths_inLax : ∀ (ps : List Predicate) (s : Scope),
    (.keyValue ∈ predicatesMethods ps → keyed) →
      ∀ t ∈ truths .lax s ps, FailsIn (InLax keyed) t
  | [], _, _ => nofun
  | p :: ps, s, h => by
      rw [truths, List.forall_mem_cons]
      exact ⟨p.truth_inLax s (of_mem_append_left h), truths_inLax ps s (of_mem_append_right h)⟩

end

theorem Body.eval_inLax (body : Body) (s : Scope) (h : .keyValue ∈ body.methods → keyed) :
    (body.eval .lax s).results.ErrorsIn (InLax keyed) := by
  cases body with
  | path e => exact e.eval_inLax s h
  | predicate p =>
      refine .ofResult fun e he => p.truth_inLax s h e ?_
      cases htruth : p.truth .lax s with
      | error e' =>
          rw [htruth] at he
          cases he
          rfl
      | ok t =>
          rw [htruth] at he
          cases he

/-! ## Paths without errors -/

/-- An index that is written as a number or `last`, with signs before it.  A number is
what the tokens of a text take for one. -/
inductive Expr.PlainIndex : Expr → Prop where
  | numeral {text rest : List Char} {token : Token} {e : Expr} :
      Lexer.readNumber text = .ok (token, rest) → Grammar.Atom token e → PlainIndex e
  | last : PlainIndex .last
  | signed (op : SignOp) {e : Expr} : PlainIndex e → PlainIndex (.signed op e)

/-- A subscript of plain indices. -/
def Subscript.Plain : Subscript → Prop
  | .indices positions => positions.PlainIndex
  | .range low high => low.PlainIndex ∧ high.PlainIndex

/-- An accessor that only moves to other values or asks for a type or a size. -/
def Accessor.Navigates : Accessor → Prop
  | .member _ | .memberWildcard | .elementWildcard | .filter _ => True
  | .subscripts subs => ∀ sub ∈ subs, sub.Plain
  | .method m => m = .type ∨ m = .size
  | .dateTime _ => False

/-- A number that is neither infinite nor NaN. -/
inductive Value.IsFinite : Value → Prop where
  | integer (n : Int64) : IsFinite (.integer n)
  | number (negative : Bool) (m : Magnitude) : IsFinite (.number (.finite negative m))

namespace Value.IsFinite

theorem of_isFinite {x : Binary64} (h : x.isFinite = true) : (Value.number x).IsFinite := by
  cases x with
  | finite negative m => exact .number negative m
  | _ => cases h

theorem exists_asIndex {v : Value} (h : v.IsFinite) : ∃ index, asIndex v = .ok index := by
  cases h <;> exact ⟨_, rfl⟩

theorem exists_unary {v : Value} (h : v.IsFinite) (op : SignOp) :
    ∃ w, unary .lax op v = .single w ∧ w.IsFinite := by
  cases h with
  | integer n =>
      cases op with
      | plus => exact ⟨_, rfl, .integer n⟩
      | minus =>
          simp only [unary, applySign]
          split
          · exact ⟨_, rfl, .integer _⟩
          · -- the negation of the least integer
            obtain ⟨m, -, hm⟩ := Binary64.ofInt_eq_finite (natAbs_toInt_le n)
            rw [hm]
            exact ⟨_, rfl, .number _ m⟩
  | number negative m => cases op <;> exact ⟨_, rfl, .number _ m⟩

end Value.IsFinite

/-- A written number is finite. -/
theorem Lexer.readNumber_finite {text rest : List Char} {token : Token}
    (h : readNumber text = .ok (token, rest)) :
    (∃ n, token = .integer n) ∨ ∃ x, token = .number x ∧ x.isFinite = true := by
  have hfinite {x : Binary64} {literal : List Char} (h : finiteToken x literal = .ok token) :
      ∃ x, token = .number x ∧ x.isFinite = true := by
    unfold finiteToken at h
    split at h
    · next hx =>
        cases h
        exact ⟨x, rfl, hx⟩
    · cases h
  have hnumber {whole fraction : List Char} {exponent : Option (List Char × List Char)}
      (h : numberToken whole fraction exponent = .ok token) :
      (∃ n, token = .integer n) ∨ ∃ x, token = .number x ∧ x.isFinite = true := by
    unfold numberToken at h
    dsimp only at h
    split at h
    · split at h
      · cases h
      · exact .inr (hfinite h)
    · split at h
      · cases h
        exact .inl ⟨_, rfl⟩
      · exact .inr (hfinite h)
  simp only [readNumber] at h
  split at h
  · next htoken =>
      cases h
      exact hnumber htoken
  · cases h

/-- In a subscript a plain index is one finite number. -/
theorem Expr.PlainIndex.exists_eval {e : Expr} (h : e.PlainIndex) (s : Scope) (n : Nat) :
    ∃ v, e.eval .lax (s.withLength n) = .single v ∧ v.IsFinite := by
  induction h with
  | numeral hread hatom =>
      rcases Lexer.readNumber_finite hread with ⟨m, rfl⟩ | ⟨x, rfl, hx⟩
      · cases hatom
        exact ⟨_, rfl, .integer m⟩
      · cases hatom
        exact ⟨_, rfl, .of_isFinite hx⟩
  | last => exact ⟨_, rfl, .integer _⟩
  | signed op _ ih =>
      obtain ⟨v, hv, hfinite⟩ := ih
      rw [Expr.eval, hv]
      exact hfinite.exists_unary op

theorem Subscript.Plain.exists_select {sub : Subscript} (h : sub.Plain) (s : Scope)
    (items : List Value) :
    ∃ here, sub.select .lax (s.withLength items.length) items = .ok here := by
  cases sub with
  | indices positions =>
      obtain ⟨v, hv, hfinite⟩ := Expr.PlainIndex.exists_eval h s items.length
      obtain ⟨index, hindex⟩ := hfinite.exists_asIndex
      rw [Subscript.select, hv, Sequence.results, selectEach, hindex]
      simp only [select_lax]
      exact ⟨_, rfl⟩
  | range low high =>
      have hbound {e : Expr} (he : e.PlainIndex) : ∃ index,
          rangeBound (e.eval .lax (s.withLength items.length)).results = .ok index := by
        obtain ⟨v, hv, hfinite⟩ := he.exists_eval s items.length
        rw [hv]
        exact hfinite.exists_asIndex
      obtain ⟨start, hstart⟩ := hbound h.1
      obtain ⟨stop, hstop⟩ := hbound h.2
      rw [select_range, hstart, hstop]
      exact ⟨_, rfl⟩

theorem exists_selectAll {subs : List Subscript} (h : ∀ sub ∈ subs, sub.Plain) (s : Scope)
    (items : List Value) :
    ∃ selected, selectAll .lax (s.withLength items.length) items subs = .ok selected := by
  induction subs with
  | nil => exact ⟨[], rfl⟩
  | cons sub subs ih =>
      obtain ⟨hsub, hsubs⟩ := List.forall_mem_cons.1 h
      obtain ⟨here, hhere⟩ := hsub.exists_select s items
      obtain ⟨more, hmore⟩ := ih hsubs
      rw [selectAll_cons, hhere, hmore]
      exact ⟨_, rfl⟩

/-- Only an overflow in a filter is an error of an accessor that navigates. -/
theorem Accessor.Navigates.errors {step : Accessor} (h : step.Navigates) (s : Scope) (v : Value) :
    (step.apply .lax s v).results.ErrorsIn (· = .quotientOverflow) := by
  cases step with
  | member name => exact member_errors name v
  | memberWildcard => exact memberWildcard_errors v
  | elementWildcard => exact elementWildcard_errors v
  | subscripts subs =>
      obtain ⟨selected, hselected⟩ := exists_selectAll h s v.elements
      rw [Accessor.apply, subscripted_lax]
      simp only [hselected]
      exact .ofValues selected
  | filter condition => exact Accessor.filter_errors condition .lax v
  | method m =>
      rcases h with rfl | rfl
      · exact .single _
      · cases v <;> exact .single _
  | dateTime template => exact h.elim

theorem walk_errors {base : Expr} (hbase : base = .root ∨ base = .current)
    {steps : List Accessor} (h : ∀ step ∈ steps, step.Navigates) (s : Scope) :
    ((walk base steps).eval .lax s).results.ErrorsIn (· = .quotientOverflow) := by
  rw [eval_walk]
  have hstart : (base.eval .lax s).results.ErrorsIn (· = .quotientOverflow) := by
    rcases hbase with rfl | rfl <;> exact .single _
  exact hstart.through fun step hstep v => (h step hstep).errors s v

/-! ## No structural errors -/

/-- Lax mode has no errors about the shape of the data but those of `.keyvalue()`.  A path
that only navigates has no errors at all, unless a predicate in it overflows. -/
theorem lax_no_structural_errors (statement : Statement) (h : statement.mode = .lax)
    (vars : Variables) (item : Value) :
    (∀ key, .error (.keyNotFound key) ∉ (statement.evaluate vars item).results) ∧
    (∀ index length,
      .error (.indexOutOfRange index length) ∉ (statement.evaluate vars item).results) ∧
    (∀ access found,
      .error (.notAnArray access found) ∉ (statement.evaluate vars item).results) ∧
    (∀ access found, .error (.notAnObject access found) ∈ (statement.evaluate vars item).results →
      .keyValue ∈ statement.body.methods) ∧
    ∀ base steps, base = Expr.root ∨ base = .current →
      (∀ step ∈ steps, Accessor.Navigates step) →
        ∀ s, ∀ r ∈ ((walk base steps).eval .lax s).results,
          (∃ v, r = .ok v) ∨ r = .error .quotientOverflow := by
  have herrors : (statement.evaluate vars item).results.ErrorsIn
      (InLax (.keyValue ∈ statement.body.methods)) := by
    rw [Statement.evaluate, h]
    exact statement.body.eval_inLax _ id
  refine ⟨fun key => herrors _, fun index length => herrors _, fun access found => herrors _,
    fun access found => herrors _, fun base steps hbase hsteps s r hr => ?_⟩
  cases r with
  | ok v => exact .inl ⟨v, rfl⟩
  | error e => exact .inr (congrArg _ (walk_errors hbase hsteps s e hr))

/-- `.keyvalue()` on an array with a number in it; and a path to a member that is missing
in one of two objects, with an index that is out of range. -/
theorem lax_no_structural_errors_keyValue :
    let statement : Statement :=
      { source := "$.keyvalue()", mode := .lax, body := .path (.access .root (.method .keyValue)) }
    let item : Value := .array [.object [("a", .array [.integer 4, .string "z"])], .integer 5]
    let steps : List Accessor :=
      [.elementWildcard, .member "a",
        .subscripts [.indices (.integer 7), .range (.integer 0) .last],
        .filter (.compare .greater .current (.binary .modulo (.integer 3) (.integer 2)))]
    statement.mode = .lax ∧
      .error (.notAnObject .keyValue .number) ∈ (statement.evaluate [] item).results ∧
      .keyValue ∈ statement.body.methods ∧
      (∀ step ∈ steps, step.Navigates) ∧
      ∀ r ∈ ((walk .root steps).eval .lax { root := item, vars := [] }).results,
        (∃ v, r = .ok v) ∨ r = .error .quotientOverflow := by
  intro statement item steps
  obtain ⟨-, -, -, hkeyed, hpath⟩ := lax_no_structural_errors statement rfl [] item
  have herror : .error (.notAnObject .keyValue .number) ∈ (statement.evaluate [] item).results :=
    List.mem_cons_self
  have hseven : (Expr.integer 7).PlainIndex :=
    .numeral (show Lexer.readNumber ['7'] = .ok (.integer 7, []) from rfl) (.integer 7)
  have hzero : (Expr.integer 0).PlainIndex :=
    .numeral (show Lexer.readNumber ['0'] = .ok (.integer 0, []) from rfl) (.integer 0)
  have hsteps : ∀ step ∈ steps, step.Navigates := by
    simp only [steps, List.forall_mem_cons, Accessor.Navigates, Subscript.Plain]
    exact ⟨trivial, trivial, ⟨hseven, ⟨hzero, .last⟩, List.forall_mem_nil _⟩, trivial,
      List.forall_mem_nil _⟩
  exact ⟨rfl, herror, hkeyed _ _ herror, hsteps, hpath .root steps (.inl rfl) hsteps _⟩

end JsonPath
