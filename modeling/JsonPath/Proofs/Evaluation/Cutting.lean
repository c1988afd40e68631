import JsonPath.Proofs.Evaluation.Scoping
import JsonPath.Proofs.Parsing.Grammar

/-!
# Where a path may be cut

A path is a base and a chain of accessors.  It may be cut anywhere in the chain: the
results of the front part are taken one by one, each value is put into a variable, and
the rest of the chain is applied to that variable.  Errors of the front part stay in
their places, and what follows them is still worked on.

* `Sequence.through` is a chain of accessors on a sequence, `eval_walk` says that a path
  is the chain on the results of its base.
* `results_through` takes the chain apart result by result.  Only the results count, not
  how the sequence came by them.
* A variable that no accessor names may be set before the chain is applied
  (`through_bind`).
-/

namespace JsonPath

open Grammar (walk)

variable {mode : Mode} {s : Scope}

/-- A chain of accessors on a sequence, each on what the one before it yields. -/
def Sequence.through (mode : Mode) (s : Scope) (steps : List Accessor) (sequence : Sequence) :
    Sequence :=
  steps.foldl (fun sequence step => sequence.andThen (step.apply mode s)) sequence

theorem through_cons (step : Accessor) (steps : List Accessor) (sequence : Sequence) :
    sequence.through mode s (step :: steps) =
      (sequence.andThen (step.apply mode s)).through mode s steps := rfl

theorem eval_walk (steps : List Accessor) (base : Expr) :
    (walk base steps).eval mode s = (base.eval mode s).through mode s steps := by
  induction steps generalizing base with
  | nil => rfl
  | cons step steps ih =>
      have hstep := ih (.access base step)
      rw [Expr.eval] at hstep
      exact hstep

/-- The results of a chain are those on each value, with the errors in their places. -/
theorem results_through (steps : List Accessor) (sequence : Sequence) :
    (sequence.through mode s steps).results = sequence.results.flatMap fun
      | .ok v => ((Sequence.single v).through mode s steps).results
      | .error e => [.error e] := by
  induction steps generalizing sequence with
  | nil =>
      have hone (r : Result) : (match r with
          | .ok v => ((Sequence.single v).through mode s []).results
          | .error e => [.error e]) = [r] := by
        cases r <;> rfl
      simp only [hone, List.flatMap_singleton']
      rfl
  | cons step steps ih =>
      rw [through_cons, ih, Sequence.results_andThen, List.flatMap_assoc]
      congr 1
      funext r
      cases r with
      | error e => simp
      | ok v => exact (ih (step.apply mode s v)).symm

/-- Sequences with the same results are the same to a chain. -/
theorem through_congr (steps : List Accessor) {left right : Sequence}
    (h : left.results = right.results) :
    (left.through mode s steps).results = (right.through mode s steps).results := by
  rw [results_through, results_through steps right, h]

/-- An accessor that does not name a variable does not see it. -/
theorem Accessor.apply_bind {step : Accessor} {x : String} (hx : .named x ∉ step.globals)
    (v : Value) : step.apply mode (s.bind x v) = step.apply mode s := by
  have hagree : s.AgreeOn (s.bind x v) step.globals := by
    intro g hg
    exact (s.global_withCurrent v g).symm.trans (agreeOn_bind hx s v g hg)
  funext w
  exact step.apply_congr (s := s) (t := s.bind x v) rfl rfl hagree w

/-- A variable that no accessor of a chain names does not show in its results. -/
theorem through_bind {steps : List Accessor} {x : String}
    (hx : ∀ step ∈ steps, .named x ∉ step.globals) (v : Value) (sequence : Sequence) :
    sequence.through mode (s.bind x v) steps = sequence.through mode s steps := by
  induction steps generalizing sequence with
  | nil => rfl
  | cons step steps ih =>
      obtain ⟨hstep, hsteps⟩ := List.forall_mem_cons.1 hx
      rw [through_cons, through_cons, Accessor.apply_bind hstep v]
      exact ih hsteps _

/-- A path cut between its base and a chain of accessors. -/
theorem path_cut (mode : Mode) (s : Scope) (e : Expr) (steps : List Accessor) (x : String)
    (hx : ∀ step ∈ steps, .named x ∉ step.globals) :
    ((walk e steps).eval mode s).results =
      ((e.eval mode s).results.flatMap fun
        | .ok v => ((walk (.variable x) steps).eval mode (s.bind x v)).results
        | .error error => [.error error]) ∧
    ∀ sequence : Sequence, sequence.results = (e.eval mode s).results →
      (sequence.through mode s steps).results = ((walk e steps).eval mode s).results := by
  constructor
  · have hvariable (v : Value) : (walk (.variable x) steps).eval mode (s.bind x v) =
        (Sequence.single v).through mode s steps := by
      rw [eval_walk, through_bind hx, Expr.eval, Scope.lookup_bind, if_pos rfl]
      rfl
    simp only [hvariable, eval_walk, results_through steps (e.eval mode s)]
  · intro sequence h
    rw [eval_walk]
    exact through_congr steps h

/-- Three members behind which a chain with a subscript and a filter goes on; the second
one is missing, and its error stands between the results of the others. -/
theorem path_cut_at_missing_member :
    let s : Scope :=
      { root := .array [.object [("a", .array [.integer 1, .integer 5])], .object [],
          .object [("a", .array [.integer 7])]]
        vars := [("y", .integer 3)] }
    let members : Expr := .access (.access .root .elementWildcard) (.member "a")
    let chain : List Accessor := [.subscripts [.indices .last],
      .filter (.compare .greater .current (.variable "y"))]
    (∀ step ∈ chain, .named "x" ∉ step.globals) ∧
      ((walk members chain).eval .strict s).results =
        [.ok (.integer 5), .error (.keyNotFound "a"), .ok (.integer 7)] ∧
      ((walk (.variable "x") chain).eval .strict
        (s.bind "x" (.array [.integer 1, .integer 5]))).results = [.ok (.integer 5)] := by
  intro s members chain
  have hx : ∀ step ∈ chain, .named "x" ∉ step.globals := by decide
  have hback : ((walk (.variable "x") chain).eval .strict
      (s.bind "x" (.array [.integer 1, .integer 5]))).results = [.ok (.integer 5)] := rfl
  refine ⟨hx, ?_, hback⟩
  rw [(path_cut .strict s members chain "x" hx).1]
  rfl

end JsonPath
