import JsonPath.Proofs.Evaluation.Calls
import JsonPath.Proofs.Evaluation.References
import JsonPath.Proofs.Evaluation.Unwrapping

/-!
# Filtering the item and asking about it

There are two ways to put a condition to an item.  The path `$ ? (p)` keeps the item if
the predicate holds of it as the candidate; a statement whose body is the predicate, with
`$` in the place of `@`, yields its truth.  They find the same items, and differ in what
becomes of an error: a filter drops it, a statement reports it.

* `represents_root` makes the candidate and the item the same thing, so that both ways
  come to one truth (`filtering_results`, `asking_results`).
* `root_filter_agrees` compares their results on one item, and their queries on many.
-/

namespace JsonPath

variable {mode : Mode}

/-- Where the item is the candidate, `$` yields what `@` yields. -/
theorem represents_root (mode : Mode) (s : Scope) :
    Replacement.Represents { current := .root } mode (s.withCurrent s.root) s := by
  constructor
  · intro length
    rfl
  · intro current
    rfl

/-- The truth of a predicate for the item as the candidate. -/
theorem Predicate.truth_root (p : Predicate) (s : Scope) :
    p.truth mode (s.withCurrent s.root) = (p.replace { current := .root }).truth mode s :=
  (p.truth_replace (represents_root mode s) fun g _ => s.global_withCurrent s.root g).symm

namespace Results

/-- The results without the errors that filters catch. -/
def withoutCaught (results : Results) : Results :=
  results.filter fun
    | .ok _ => true
    | .error e => e.isFatal

/-- But for the one error that nothing catches, all errors are caught. -/
theorem withoutCaught_eq {results : Results} (h : .error .quotientOverflow ∉ results) :
    results.withoutCaught = results.withoutErrors := by
  rw [withoutCaught, withoutErrors]
  refine List.filter_congr fun r hr => ?_
  cases r with
  | ok v => rfl
  | error e => exact EvalError.isFatal_eq_false_iff.2 fun he => h (he ▸ hr)

end Results

namespace Statement

variable {statement : Statement} {vars : Variables} {p : Predicate}

/-- The statement `$ ? (p)`. -/
def filteringRoot (statement : Statement) (p : Predicate) : Statement :=
  { statement with body := .path (.access .root (.filter p)) }

/-- The statement that is the predicate itself, about `$` where it was about `@`. -/
def askingOfRoot (statement : Statement) (p : Predicate) : Statement :=
  { statement with body := Parser.bodyOf (p.replace { current := .root }) }

/-- What the predicate says of an item. -/
def verdict (statement : Statement) (vars : Variables) (p : Predicate) (item : Value) :
    Except EvalError Truth :=
  (p.replace { current := .root }).truth statement.mode { root := item, vars }

/-- The filter keeps the item by the verdict. -/
theorem filtering_results {item : Value}
    (hitem : statement.mode = .strict ∨ ∀ vs, item ≠ .array vs) :
    ((statement.filteringRoot p).evaluate vars item).results =
      kept item (statement.verdict vars p item) := by
  have htruth : p.truth statement.mode _ = statement.verdict vars p item :=
    p.truth_root { root := item, vars }
  show ((candidates statement.mode item).flatMap fun candidate =>
    kept candidate (p.truth statement.mode _)) = _
  rw [candidates_eq_singleton hitem, List.flatMap_singleton]
  exact congrArg (kept item) htruth

theorem askingOfRoot_body (hp : ∀ e, p ≠ .condition e) :
    (statement.askingOfRoot p).body = .predicate (p.replace { current := .root }) := by
  cases p with
  | condition e => exact absurd rfl (hp e)
  | _ => rfl

/-- A predicate that is no bare expression yields the verdict. -/
theorem asking_results (hp : ∀ e, p ≠ .condition e) (item : Value) :
    ((statement.askingOfRoot p).evaluate vars item).results =
      [(statement.verdict vars p item).map Truth.toValue] := by
  rw [evaluate, askingOfRoot_body hp]
  exact Body.results_predicate _ _ _

/-! ## Queries -/

/-- What the query of the filter delivers for an item. -/
theorem filtering_queryItem {item : Value}
    (hitem : statement.mode = .strict ∨ ∀ vs, item ≠ .array vs) :
    (statement.filteringRoot p).queryItem vars item =
      (kept item (statement.verdict vars p item)).head? := by
  rw [queryItem, matchesItem, filtering_results hitem]
  cases statement.verdict vars p item with
  | ok t => cases t <;> rfl
  | error e => cases e <;> rfl

/-- What the query of the predicate delivers for an item. -/
theorem asking_queryItem (hp : ∀ e, p ≠ .condition e) (item : Value) :
    (statement.askingOfRoot p).queryItem vars item =
      match statement.verdict vars p item with
      | .ok .holds => some (.ok item)
      | .ok _ => none
      | .error e => some (.error e) := by
  rw [queryItem, matchesItem, asking_results hp, askingOfRoot_body hp]
  cases statement.verdict vars p item with
  | ok t => cases t <;> rfl
  | error e => rfl

/-- The query of the filter delivers what that of the predicate does, but for the errors
that the filter catches. -/
theorem filtering_query (hp : ∀ e, p ≠ .condition e) {items : List Value}
    (hitems : statement.mode = .strict ∨ ∀ item ∈ items, ∀ vs, item ≠ .array vs) :
    (statement.filteringRoot p).query vars items =
      ((statement.askingOfRoot p).query vars items).withoutCaught := by
  simp only [query, Results.withoutCaught, List.filter_filterMap]
  refine List.filterMap_congr fun item hitem => ?_
  rw [filtering_queryItem (hitems.imp_right fun h => h item hitem), asking_queryItem hp]
  cases statement.verdict vars p item with
  | ok t => cases t <;> rfl
  | error e => cases e <;> rfl

/-- The query of the predicate reports the items for which the predicate is an error. -/
theorem error_mem_asking_query_iff (hp : ∀ e, p ≠ .condition e) (items : List Value)
    (e : EvalError) :
    .error e ∈ (statement.askingOfRoot p).query vars items ↔
      ∃ item ∈ items, ((statement.askingOfRoot p).evaluate vars item).results = [.error e] := by
  rw [query, List.mem_filterMap]
  refine exists_congr fun item => and_congr_right fun _ => ?_
  rw [asking_queryItem hp, asking_results hp]
  cases statement.verdict vars p item with
  | ok t => cases t <;> simp [Except.map]
  | error e' => simp [Except.map]

end Statement

/-! ## Agreement -/

open Statement in
/-- On an item that is not unwrapped the filter keeps the item if the predicate is true
of it, and otherwise nothing.  So a query finds the same items either way, and only that
of the predicate reports the items on which the predicate is an error.  An error that
nothing catches is the same for both. -/
theorem root_filter_agrees (statement : Statement) (vars : Variables) (p : Predicate)
    (hp : ∀ e, p ≠ .condition e) :
    (∀ item, statement.mode = .strict ∨ (∀ vs, item ≠ .array vs) →
      let results := ((statement.filteringRoot p).evaluate vars item).results
      let answer := ((statement.askingOfRoot p).evaluate vars item).results
      (answer = [.ok (.boolean true)] ∧ results = [.ok item]) ∨
        (answer = [.ok (.boolean false)] ∧ results = []) ∨
        (answer = [.ok .null] ∧ results = []) ∨
        (∃ e, e ≠ .quotientOverflow ∧ answer = [.error e] ∧ results = []) ∨
        (answer = [.error .quotientOverflow] ∧ results = [.error .quotientOverflow])) ∧
    ∀ items, statement.mode = .strict ∨ (∀ item ∈ items, ∀ vs, item ≠ .array vs) →
      let found := (statement.filteringRoot p).query vars items
      let answers := (statement.askingOfRoot p).query vars items
      found = answers.withoutCaught ∧
        (.error .quotientOverflow ∉ answers → found = answers.withoutErrors) ∧
        ∀ e, .error e ∈ answers ↔ ∃ item ∈ items,
          ((statement.askingOfRoot p).evaluate vars item).results = [.error e] := by
  constructor
  · intro item hitem results answer
    have hresults : results = kept item (statement.verdict vars p item) :=
      filtering_results hitem
    have hanswer : answer = [(statement.verdict vars p item).map Truth.toValue] :=
      asking_results hp item
    rw [hresults, hanswer]
    cases statement.verdict vars p item with
    | ok t => cases t <;> simp [kept, Except.map, Truth.toValue]
    | error e => cases e <;> simp [kept, Except.map, EvalError.isFatal]
  · intro items hitems found answers
    have hfound : found = answers.withoutCaught := filtering_query hp hitems
    refine ⟨hfound, fun hno => ?_, error_mem_asking_query_iff hp items⟩
    rw [hfound, Results.withoutCaught_eq hno]

/-- The item whose member is missing is left out by the filter and reported by the
predicate; the filter inside has an `@` of its own. -/
theorem root_filter_agrees_missing_member :
    let statement : Statement := { source := "", mode := .strict, body := .path .root }
    let a : Expr := .access .current (.member "a")
    let positive : Expr := .access a (.filter (.compare .greater .current (.integer 0)))
    let p : Predicate := .compare .greater positive (.integer 1)
    let two : Value := .object [("a", .integer 2)]
    let zero : Value := .object [("a", .integer 0)]
    let items : List Value := [two, .object [], zero]
    (∀ e, p ≠ .condition e) ∧
      (statement.filteringRoot p).query [] items = [.ok two] ∧
      (statement.askingOfRoot p).query [] items = [.ok two, .error (.keyNotFound "a")] ∧
      ((statement.filteringRoot p).evaluate [] zero).results = [] := by
  intro statement a positive p two zero items
  have hp : ∀ e, p ≠ .condition e := nofun
  obtain ⟨hone, hmany⟩ := root_filter_agrees statement [] p hp
  obtain ⟨-, hfound, -⟩ := hmany items (.inl rfl)
  have hanswers : (statement.askingOfRoot p).query [] items =
      [.ok two, .error (.keyNotFound "a")] := rfl
  rw [hanswers] at hfound
  have hzero : ((statement.askingOfRoot p).evaluate [] zero).results =
      [.ok (.boolean false)] := rfl
  refine ⟨hp, hfound (by simp), hanswers, ?_⟩
  have hdrop := hone zero (.inl rfl)
  rw [hzero] at hdrop
  simpa using hdrop

end JsonPath
