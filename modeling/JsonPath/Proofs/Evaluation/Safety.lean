import Mathlib
import JsonPath.Proofs.Evaluation.Domains
import JsonPath.Proofs.Evaluation.Overflow
import JsonPath.Statement

/-!
# What can go wrong with a statement

A statement is asked for results, for values, for matches and for matching items.
Each of these ends with an overflow exactly when, on one of the items, an
evaluation comes to divide the least integer by minus one and what is asked for
gets as far as that.  All other partial operations stay inside their domains.

* Results are all delivered, so any overflow among them counts.
* Values are delivered up to the first error of an item, which no default
  replaces if it is an overflow.
* A match only asks for the first result.
-/

namespace JsonPath

variable {mode : Mode}

/-- The evaluation of a body comes to an overflow. -/
def Body.Overflows (mode : Mode) (s : Scope) : Body → Prop
  | .path e => e.Overflows mode s
  | .predicate p => p.Overflows mode s

theorem Body.eval_overflow_iff (body : Body) (s : Scope) :
    (body.eval mode s).results.HasOverflow ↔ body.Overflows mode s := by
  cases body with
  | path e => exact e.eval_overflow_iff s
  | predicate p =>
      rw [Body.eval, Sequence.ofResult_hasOverflow_iff, Body.Overflows, ← p.truth_overflow_iff s]
      cases p.truth mode s <;> simp [Except.map]

namespace Statement

variable {statement : Statement} {vars : Variables} {defaults : Defaults} {items : List Value}

/-- The evaluation of a statement on an item comes to an overflow. -/
def Overflows (statement : Statement) (vars : Variables) (item : Value) : Prop :=
  statement.body.Overflows statement.mode { root := item, vars }

theorem evaluate_hasOverflow_iff {item : Value} :
    (statement.evaluate vars item).results.HasOverflow ↔ statement.Overflows vars item :=
  statement.body.eval_overflow_iff _

/-! ## Values -/

theorem onFailure_eq_overflow_iff {e : EvalError} :
    onFailure defaults e = .error .quotientOverflow ↔ e = .quotientOverflow := by
  rw [onFailure]
  cases defaults.onError with
  | none => simp
  | some v =>
      dsimp only
      split
      · simp
      · next hfatal =>
          refine iff_of_false nofun ?_
          rintro rfl
          exact hfatal (by decide)

/-- Whatever has been delivered before, an overflow is delivered if it is the first
error. -/
theorem deliver_hasOverflow_iff {produced : Bool} {results : Results} :
    (deliver defaults produced results).HasOverflow ↔ results.OverflowsFirst := by
  induction results generalizing produced with
  | nil =>
      refine iff_of_false ?_ nofun
      unfold deliver
      split <;> simp [Results.HasOverflow]
  | cons r results ih =>
      cases r with
      | ok v =>
          rw [Results.overflowsFirst_ok_cons, ← @ih true, deliver]
          simp [Results.HasOverflow]
      | error e =>
          rw [Results.overflowsFirst_error_cons, deliver]
          cases produced with
          | true => simp [Results.HasOverflow, eq_comm]
          | false =>
              rw [← @onFailure_eq_overflow_iff defaults]
              simp [Results.HasOverflow, eq_comm]

theorem values_hasOverflow_iff :
    (statement.values vars defaults items).HasOverflow ↔ ∃ item ∈ items,
      statement.Overflows vars item ∧
        (statement.evaluate vars item).results.OverflowsFirst := by
  rw [Results.HasOverflow, values, List.mem_flatMap]
  simp only [← evaluate_hasOverflow_iff, Results.hasOverflow_and_overflowsFirst_iff]
  exact exists_congr fun item => and_congr_right fun _ => deliver_hasOverflow_iff

/-! ## Matches -/

theorem isMatch_eq_overflow_iff {body : Body} {results : Results} :
    isMatch body results = .error .quotientOverflow ↔
      results.head? = some (.error .quotientOverflow) := by
  match results with
  | [] => simp [isMatch]
  | .error e :: _ => simp [isMatch]
  | .ok v :: _ =>
      refine iff_of_false ?_ nofun
      cases body with
      | path e => nofun
      | predicate p => cases v <;> nofun

/-- A match ends with an overflow if the first result is one. -/
theorem matchesItem_eq_overflow_iff {item : Value} :
    statement.matchesItem vars item = .error .quotientOverflow ↔
      statement.Overflows vars item ∧
        (statement.evaluate vars item).results.head? = some (.error .quotientOverflow) := by
  rw [matchesItem, isMatch_eq_overflow_iff, ← evaluate_hasOverflow_iff]
  exact (and_iff_right_of_imp List.mem_of_head?).symm

theorem matchesEach_overflow_iff :
    .error .quotientOverflow ∈ statement.matchesEach vars items ↔ ∃ item ∈ items,
      statement.Overflows vars item ∧
        (statement.evaluate vars item).results.head? = some (.error .quotientOverflow) := by
  rw [matchesEach, List.mem_map]
  simp only [matchesItem_eq_overflow_iff]

theorem queryItem_eq_overflow_iff {item : Value} :
    statement.queryItem vars item = some (.error .quotientOverflow) ↔
      statement.matchesItem vars item = .error .quotientOverflow := by
  rw [queryItem]
  match statement.matchesItem vars item with
  | .ok true => simp
  | .ok false => simp
  | .error e => simp

theorem query_hasOverflow_iff :
    (statement.query vars items).HasOverflow ↔ ∃ item ∈ items,
      statement.Overflows vars item ∧
        (statement.evaluate vars item).results.head? = some (.error .quotientOverflow) := by
  rw [Results.HasOverflow, query, List.mem_filterMap]
  simp only [queryItem_eq_overflow_iff, matchesItem_eq_overflow_iff]

end Statement

/-! ## The one way to fail -/

open Checked in
/-- The one overflow, and no partial operation outside its domain but that one
division. -/
theorem safe_but_for_least_quotient (statement : Statement) (vars : Variables)
    (defaults : Defaults) (items : List Value) :
    (∀ item, (statement.evaluate vars item).results.HasOverflow ↔
      statement.Overflows vars item) ∧
    ((statement.values vars defaults items).HasOverflow ↔ ∃ item ∈ items,
      statement.Overflows vars item ∧
        (statement.evaluate vars item).results.OverflowsFirst) ∧
    (.error .quotientOverflow ∈ statement.matchesEach vars items ↔ ∃ item ∈ items,
      statement.Overflows vars item ∧
        (statement.evaluate vars item).results.head? = some (.error .quotientOverflow)) ∧
    ((statement.query vars items).HasOverflow ↔ ∃ item ∈ items,
      statement.Overflows vars item ∧
        (statement.evaluate vars item).results.head? = some (.error .quotientOverflow)) ∧
    (∀ mode array index, select? mode array index = some (select mode array index)) ∧
    (∀ mode (array : List Value), array.length < 2 ^ 63 → ∀ low high,
      selectRange? mode array low high = some (selectRange mode array low high)) ∧
    (∀ mode mismatch results,
      operand? mode mismatch results = some (operand mode mismatch results)) ∧
    (∀ results, rangeBound? results = some (rangeBound results)) ∧
    (∀ op a b, integerArithmetic? op a b =
      if op = .divide ∧ a = Int64.minValue ∧ b = -1 then none
      else some (integerArithmetic op a b)) :=
  ⟨fun _ => Statement.evaluate_hasOverflow_iff, Statement.values_hasOverflow_iff,
    Statement.matchesEach_overflow_iff, Statement.query_hasOverflow_iff, select?_eq,
    fun mode _ h => selectRange?_eq mode h, operand?_eq, rangeBound?_eq, integerArithmetic?_eq⟩

/-- A range over an array of two elements stays inside it. -/
theorem safe_but_for_least_quotient_range :
    [Value.integer 4, .integer 5].length < 2 ^ 63 ∧
      Checked.selectRange? .lax [.integer 4, .integer 5] 1 7 =
        some (selectRange .lax [.integer 4, .integer 5] 1 7) := by
  have hlength : [Value.integer 4, .integer 5].length < 2 ^ 63 := by decide
  obtain ⟨-, -, -, -, -, hrange, -⟩ :=
    safe_but_for_least_quotient ⟨"$", .lax, .path .root⟩ [] ⟨none, none⟩ []
  exact ⟨hlength, hrange .lax _ hlength 1 7⟩

/-- Statements that are read without an error can still overflow. -/
theorem read_statement_overflows :
    ¬∀ source statement vars item, Statement.read source = .ok statement →
      ¬(statement.evaluate vars item).results.HasOverflow := by
  intro h
  have hread : Statement.read "$ / -1" =
      .ok ⟨"$ / -1", .lax, .path (.binary .divide .root (.signed .minus (.integer 1)))⟩ := by
    cbv
  exact h _ _ [] (.integer Int64.minValue) hread List.mem_cons_self

end JsonPath
