import JsonPath.Proofs.Evaluation.Defaults
import JsonPath.Proofs.Evaluation.Overflow

/-!
# The calls of a statement agree

A statement is asked for results, for values, for matches and for matching items.
All four answers on an item can be read off its results.

* `IsEntry` says which entry results call for.  It is settled by the first of them;
  the body matters only where that is a value.
* A query is determined by the entries (`query_eq`), and a path matches an item if
  its values, without defaults, begin with a value (`matchesItem_iff_next`).
* The predicate `exists` looks at all results where a match looks at the first one.
  `existence_of_values` and `existence_of_error` are its outcomes; where it is not
  unknown it agrees with the match (`matchesItem_of_existence`).
-/

namespace JsonPath

/-! ## Entries -/

/-- The entry that the results of an item call for.  A body that is a predicate has
a single result. -/
structure IsEntry (body : Body) (results : Results) (entry : Except EvalError Bool) : Prop where
  error_iff : ∀ e, entry = .error e ↔ results.head? = some (.error e)
  false_iff : entry = .ok false ↔
    results = [] ∨ ∃ p v, body = .predicate p ∧ results = [.ok v] ∧ v ≠ .boolean true
  true_iff : entry = .ok true ↔
    ∃ v, results.head? = some (.ok v) ∧ ∀ p, body = .predicate p → v = .boolean true

theorem Body.results_predicate (mode : Mode) (s : Scope) (p : Predicate) :
    (Body.eval mode s (.predicate p)).results = [(p.truth mode s).map Truth.toValue] :=
  Sequence.results_ofResult _

namespace Statement

variable {statement : Statement} {vars : Variables} {item : Value}

/-- A predicate that is not true is no match, whatever else its value is. -/
theorem isMatch_predicate (p : Predicate) (v : Value) (rest : Results) :
    isMatch (.predicate p) (.ok v :: rest) = .ok true ↔ v = .boolean true := by
  cases v <;> simp [isMatch]

theorem isMatch_ok (body : Body) (v : Value) (rest : Results) :
    ∃ b, isMatch body (.ok v :: rest) = .ok b := by
  cases body with
  | path e => exact ⟨true, rfl⟩
  | predicate p => cases v <;> exact ⟨_, rfl⟩

theorem matchesItem_isEntry (statement : Statement) (vars : Variables) (item : Value) :
    IsEntry statement.body (statement.evaluate vars item).results
      (statement.matchesItem vars item) := by
  unfold matchesItem
  cases hresults : (statement.evaluate vars item).results with
  | nil => constructor <;> simp [isMatch]
  | cons r rest =>
      cases r with
      | error e => constructor <;> simp [isMatch]
      | ok v =>
          cases hbody : statement.body with
          | path e => constructor <;> simp [isMatch]
          | predicate p =>
              -- a predicate has no other result than this one
              have hsingle : rest = [] := by
                have hone := Body.results_predicate statement.mode { root := item, vars } p
                rw [← hbody] at hone
                rw [evaluate, hone] at hresults
                exact (List.cons.inj hresults).2.symm
              obtain ⟨b, hb⟩ := isMatch_ok (.predicate p) v rest
              have htrue := isMatch_predicate p v rest
              rw [hb] at htrue ⊢
              constructor
              · simp
              · cases b <;> simp_all
              · cases b <;> simp_all

/-- What a query delivers for an item, by its entry. -/
def ofEntry (item : Value) : Except EvalError Bool → Results
  | .ok true => [.ok item]
  | .ok false => []
  | .error e => [.error e]

theorem queryItem_toList (statement : Statement) (vars : Variables) (item : Value) :
    (statement.queryItem vars item).toList = ofEntry item (statement.matchesItem vars item) := by
  unfold queryItem
  split <;> next h => rw [h]; rfl

/-- The entries determine the query. -/
theorem query_eq (statement : Statement) (vars : Variables) (items : List Value) :
    statement.query vars items =
      (items.zip (statement.matchesEach vars items)).flatMap fun (item, entry) =>
        ofEntry item entry := by
  induction items with
  | nil => rfl
  | cons item items ih =>
      have hitem := queryItem_toList statement vars item
      have hcons : statement.query vars (item :: items) =
          (statement.queryItem vars item).toList ++ statement.query vars items := by
        rw [query, List.filterMap_cons]
        cases statement.queryItem vars item <;> rfl
      rw [hcons, hitem, ih]
      rfl

/-! ## Matches and values -/

/-- A path matches an item if its values begin with a value. -/
theorem matchesItem_iff_next {e : Expr} (hbody : statement.body = .path e) (vars : Variables)
    (item : Value) :
    statement.matchesItem vars item = .ok true ↔
      ∃ v, (Delivery.start statement vars ⟨none, none⟩ [item]).next.1 = some (.ok v) := by
  obtain ⟨hnext, -⟩ := (Delivery.start statement vars ⟨none, none⟩ [item]).next_remaining
  have hentry := (statement.matchesItem_isEntry vars item).true_iff
  rw [hnext, hentry, Delivery.start_remaining]
  simp only [values, List.flatMap_singleton, hbody]
  -- the first value is delivered as it is, and so is an error for want of a default
  cases (statement.evaluate vars item).results with
  | nil => simp [deliver]
  | cons r rest => cases r <;> simp [deliver, onFailure]

end Statement

/-! ## Existence -/

namespace Truth

variable {results : Results}

theorem existence_of_values (values : List Value) :
    existence EvalError.isFatal (Results.ofValues values) =
      .ok (if values = [] then fails else holds) := by
  induction values with
  | nil => rfl
  | cons v values ih =>
      rw [Results.ofValues, List.map_cons, existence]
      rw [Results.ofValues] at ih
      rw [ih]
      cases values <;> rfl

/-- An error makes existence unknown, wherever it stands. -/
theorem existence_of_error (hno : .error .quotientOverflow ∉ results)
    (herror : ∃ e, .error e ∈ results) :
    existence EvalError.isFatal results = .ok unknown := by
  induction results with
  | nil => simp at herror
  | cons r results ih =>
      cases r with
      | error e =>
          have hfatal : e.isFatal = false :=
            EvalError.isFatal_eq_false_iff.2 fun he => hno (he ▸ List.mem_cons_self)
          simp [existence, hfatal]
      | ok v =>
          have hrest : ∃ e, .error e ∈ results := by simpa using herror
          rw [existence, ih (fun h => hno (List.mem_cons_of_mem _ h)) hrest]

end Truth

/-- Results are values all, or there is an error among them. -/
theorem Results.eq_ofValues_or_error (results : Results) :
    (∃ values, results = ofValues values) ∨ ∃ e, .error e ∈ results := by
  induction results with
  | nil => exact .inl ⟨[], rfl⟩
  | cons r results ih =>
      cases r with
      | error e => exact .inr ⟨e, List.mem_cons_self⟩
      | ok v =>
          rcases ih with ⟨values, rfl⟩ | ⟨e, he⟩
          · exact .inl ⟨v :: values, rfl⟩
          · exact .inr ⟨e, List.mem_cons_of_mem _ he⟩

namespace Statement

variable {statement : Statement} {vars : Variables} {item : Value}

/-- The statement that asks for the results of an expression. -/
def asking (statement : Statement) (e : Expr) : Statement := { statement with body := .path e }

/-- The statement that asks whether an expression has results. -/
def askingExistence (statement : Statement) (e : Expr) : Statement :=
  { statement with body := .predicate (.existence e) }

/-- What `exists` says of an expression all of whose results are values, and that the
match of the expression says the same. -/
theorem existence_of_ofValues {e : Expr} {values : List Value}
    (h : ((statement.asking e).evaluate vars item).results = Results.ofValues values) :
    ((statement.askingExistence e).evaluate vars item).results =
        [.ok (.boolean (!values.isEmpty))] ∧
      (statement.asking e).matchesItem vars item = .ok (!values.isEmpty) := by
  have htruth := Truth.existence_of_values values
  rw [← h] at htruth
  constructor
  · refine (Body.results_predicate _ _ _).trans ?_
    show [Except.map Truth.toValue (Truth.existence EvalError.isFatal
      ((statement.asking e).evaluate vars item).results)] = _
    rw [htruth]
    cases values <;> rfl
  · rw [matchesItem, h]
    cases values <;> rfl

/-- What `exists` says of an expression with an error among its results. -/
theorem existence_of_mem_error {e : Expr}
    (hno : .error .quotientOverflow ∉ ((statement.asking e).evaluate vars item).results)
    (herror : ∃ e', .error e' ∈ ((statement.asking e).evaluate vars item).results) :
    ((statement.askingExistence e).evaluate vars item).results = [.ok .null] := by
  refine (Body.results_predicate _ _ _).trans ?_
  show [Except.map Truth.toValue (Truth.existence EvalError.isFatal
    ((statement.asking e).evaluate vars item).results)] = _
  rw [Truth.existence_of_error hno herror]
  rfl

end Statement

/-! ## Agreement -/

open Statement in
/-- The matches, the query, the first value of a path and the predicate `exists` all
follow from the results on the items. -/
theorem four_calls_agree (statement : Statement) (vars : Variables) (items : List Value) :
    List.Forall₂
      (fun item entry =>
        IsEntry statement.body (statement.evaluate vars item).results entry)
      items (statement.matchesEach vars items) ∧
    statement.query vars items =
      ((items.zip (statement.matchesEach vars items)).flatMap fun (item, entry) =>
        ofEntry item entry) ∧
    (∀ e, statement.body = .path e → ∀ item,
      statement.matchesEach vars [item] = [.ok true] ↔
        ∃ v, (Delivery.start statement vars ⟨none, none⟩ [item]).next.1 = some (.ok v)) ∧
    ∀ e item,
      let results := ((statement.asking e).evaluate vars item).results
      let existence := ((statement.askingExistence e).evaluate vars item).results
      .error .quotientOverflow ∉ results →
        (existence = [.ok (.boolean true)] ↔ results ≠ [] ∧ ∀ e', .error e' ∉ results) ∧
        (existence = [.ok (.boolean false)] ↔ results = []) ∧
        (existence = [.ok .null] ↔ ∃ e', .error e' ∈ results) ∧
        ∀ b, existence = [.ok (.boolean b)] →
          (statement.asking e).matchesEach vars [item] = [.ok b] := by
  refine ⟨?_, query_eq statement vars items, ?_, ?_⟩
  · rw [matchesEach, List.forall₂_map_right_iff, List.forall₂_same]
    exact fun item _ => statement.matchesItem_isEntry vars item
  · intro e hbody item
    rw [← matchesItem_iff_next hbody]
    simp [matchesEach]
  · intro e item results existence hno
    rcases results.eq_ofValues_or_error with ⟨values, hvalues⟩ | herror
    · obtain ⟨hexistence, hmatch⟩ := existence_of_ofValues hvalues
      have hnone : ∀ e', .error e' ∉ Results.ofValues values := by simp [Results.ofValues]
      have hempty : Results.ofValues values = [] ↔ values = [] := List.map_eq_nil_iff
      rw [show existence = _ from hexistence, hvalues]
      refine ⟨?_, ?_, ?_, ?_⟩
      · simp [hnone, hempty]
      · simp [hempty]
      · simp [hnone]
      · intro b hb
        have hb' : (!values.isEmpty) = b := by simpa using hb
        rw [matchesEach, List.map_singleton, hmatch, hb']
    · have hne : results ≠ [] := by
        rintro hnil
        simp [hnil] at herror
      rw [show existence = _ from existence_of_mem_error hno herror]
      obtain ⟨e', he'⟩ := herror
      refine ⟨?_, ?_, ?_, ?_⟩
      · simp only [List.cons.injEq, Except.ok.injEq, reduceCtorEq, false_and, false_iff]
        exact fun h => h.2 e' he'
      · simp [hne]
      · exact iff_of_true rfl ⟨e', he'⟩
      · intro b hb
        simp at hb

/-- A value in front of an error: the item matches, but `exists` is unknown. -/
theorem four_calls_agree_late_error :
    let statement : Statement :=
      { source := "strict $[*].a", mode := .strict
        body := .path (.access (.access .root .elementWildcard) (.member "a")) }
    let e : Expr := .access (.access .root .elementWildcard) (.member "a")
    let item : Value := .array [.object [("a", .integer 1)], .object []]
    .error .quotientOverflow ∉ ((statement.asking e).evaluate [] item).results ∧
      statement.matchesEach [] [item] = [.ok true] ∧
      ((statement.askingExistence e).evaluate [] item).results = [.ok .null] := by
  intro statement e item
  have hresults : ((statement.asking e).evaluate [] item).results =
      [.ok (.integer 1), .error (.keyNotFound "a")] := rfl
  have hno : .error .quotientOverflow ∉ ((statement.asking e).evaluate [] item).results := by
    simp [hresults]
  obtain ⟨-, -, hfirst, hexistence⟩ := four_calls_agree statement [] [item]
  obtain ⟨-, -, hnull, -⟩ := hexistence e item hno
  exact ⟨hno, (hfirst e rfl item).2 ⟨.integer 1, rfl⟩,
    hnull.2 ⟨.keyNotFound "a", by simp [hresults]⟩⟩

end JsonPath
