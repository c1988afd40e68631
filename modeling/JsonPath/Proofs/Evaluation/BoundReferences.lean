import Mathlib
import JsonPath.Proofs.Evaluation.Sequencing
import JsonPath.Proofs.Parsing.Reading

/-!
# References are bound where they are read

Outside of all filters nothing binds `@`, and outside of all subscripts nothing binds
`last`.  For these places there is a fallback: the item, and no result at all.  It is
never used by a statement that has been read, because the parser refuses references in
such places.  So any other fallback gives the same results.

* `Expr.evalWith` and its companions evaluate with any fallback.
* `Scope.nesting` is what a scope binds, in the words of the parser.  A filter and a
  subscript change it as the parser changes its own record of what surrounds a place.
* `Expr.evalWith_eq` and its companions are the induction over the syntax.  It carries
  `Fallback.Unread`: a reference that may occur is bound, or has the usual fallback.
  The second case makes `evalWith` with the usual fallback the evaluation itself.
-/

namespace JsonPath

open JsonPath.Parser (Nesting)

/-! ## Evaluation with any fallback -/

/-- What references yield where nothing binds them. -/
structure Fallback where
  /-- For `@` outside of filters. -/
  current : Scope → Sequence
  /-- For `last` outside of subscripts. -/
  last : Scope → Sequence

namespace Fallback

/-- The item, and no result. -/
def usual : Fallback where
  current s := .single s.root
  last _ := .empty

/-- What `@` yields. -/
def candidate (f : Fallback) (s : Scope) : Sequence :=
  match s.current with
  | some v => .single v
  | none => f.current s

/-- What `last` yields. -/
def lastIndex (f : Fallback) (s : Scope) : Sequence :=
  match s.length with
  | some n => .single (.integer (.ofInt ((n : Int) - 1)))
  | none => f.last s

end Fallback

mutual

/-- The results of an expression with a fallback for its references. -/
def Expr.evalWith (f : Fallback) (mode : Mode) (s : Scope) : Expr → Sequence
  | .current => f.candidate s
  | .last => f.lastIndex s
  | .signed op operand => (operand.evalWith f mode s).andThen (unary mode op)
  | .binary op left right =>
      .combine (JsonPath.binary mode op) (left.evalWith f mode s) (right.evalWith f mode s)
  | .access base step => (base.evalWith f mode s).andThen (step.applyWith f mode s)
  | e => e.eval mode s

/-- Applies an accessor to one value, where the fallback supplies what the scope lacks. -/
def Accessor.applyWith (f : Fallback) (mode : Mode) (s : Scope) : Accessor → Value → Sequence
  | .subscripts subs, v =>
      match subscripted mode v with
      | .error e => .failed e
      | .ok items => .ofExcept (selectAllWith f mode (s.withLength items.length) items subs)
  | .filter condition, v =>
      .deferred <| (candidates mode v).flatMap fun candidate =>
        kept candidate (condition.truthWith f mode (s.withCurrent candidate))
  | step, v => step.apply mode s v

/-- The elements that some subscripts select, one subscript after the other. -/
def selectAllWith (f : Fallback) (mode : Mode) (s : Scope) (items : List Value) :
    List Subscript → Except EvalError (List Value)
  | [] => .ok []
  | sub :: subs =>
      sub.selectWith f mode s items >>= fun here =>
        selectAllWith f mode s items subs >>= fun more => .ok (here ++ more)

/-- The elements that a subscript selects. -/
def Subscript.selectWith (f : Fallback) (mode : Mode) (s : Scope) (items : List Value) :
    Subscript → Except EvalError (List Value)
  | .indices positions => selectEach mode items (positions.evalWith f mode s).results
  | .range low high =>
      rangeBound (low.evalWith f mode s).results >>= fun start =>
        rangeBound (high.evalWith f mode s).results >>= fun stop =>
          selectRange mode items start stop

/-- The truth of a predicate, where the fallback supplies what the scope lacks. -/
def Predicate.truthWith (f : Fallback) (mode : Mode) (s : Scope) :
    Predicate → Except EvalError Truth
  | .compare op left right =>
      (left.evalWith f mode s).results.values >>= fun lefts =>
        (right.evalWith f mode s).results.values >>= fun rights =>
          .ok (anyPair (Value.compareWith op) lefts rights)
  | .existence operand => Truth.existence EvalError.isFatal (operand.evalWith f mode s).results
  | .startsWith subject start =>
      (subject.evalWith f mode s).results.values >>= fun subjects =>
        (start.evalWith f mode s).results.values >>= fun starts =>
          .ok (anyPair Value.startsWith subjects starts)
  | .likeRegex subject pattern =>
      (subject.evalWith f mode s).results.values >>= fun subjects =>
        .ok (anyOf pattern.test subjects)
  | .conjunction operands => Truth.conjunction (truthsWith f mode s operands)
  | .disjunction operands => Truth.disjunction (truthsWith f mode s operands)
  | .negation operand => operand.truthWith f mode s >>= fun t => .ok t.negate
  | .isUnknown operand => operand.truthWith f mode s >>= fun t => .ok t.isUnknown
  | .condition e =>
      (e.evalWith f mode s).results.values >>= fun values => .ok (anyOf Value.condition values)

/-- The truths of some predicates, each by itself. -/
def truthsWith (f : Fallback) (mode : Mode) (s : Scope) :
    List Predicate → List (Except EvalError Truth)
  | [] => []
  | p :: ps => p.truthWith f mode s :: truthsWith f mode s ps

end

/-- Evaluates a statement, where the fallback supplies what the scope lacks. -/
def Body.evalWith (f : Fallback) (mode : Mode) (s : Scope) : Body → Sequence
  | .path e => e.evalWith f mode s
  | .predicate p => .ofResult ((p.truthWith f mode s).map Truth.toValue)

/-! ## What a scope binds -/

/-- What may be referred to in a scope. -/
def Scope.nesting (s : Scope) : Nesting where
  inFilter := s.current.isSome
  inSubscript := s.length.isSome

variable {f : Fallback} {mode : Mode} {s : Scope} {c : Nesting}

/-- Of the references that may occur at a place, those that the scope does not bind have
the usual fallback. -/
structure Fallback.Unread (f : Fallback) (c : Nesting) (s : Scope) : Prop where
  current : c.inFilter = true → s.current = none → f.current = usual.current
  last : c.inSubscript = true → s.length = none → f.last = usual.last

namespace Fallback.Unread

/-- The usual fallback may be read. -/
theorem usual (c : Nesting) (s : Scope) : usual.Unread c s :=
  ⟨fun _ _ => rfl, fun _ _ => rfl⟩

/-- Where only bound references occur, every fallback is unread. -/
theorem of_nesting (f : Fallback) (s : Scope) : f.Unread s.nesting s := by
  constructor
  · intro hfilter hnone
    simp [Scope.nesting, hnone] at hfilter
  · intro hsubscript hnone
    simp [Scope.nesting, hnone] at hsubscript

theorem withCurrent (h : f.Unread c s) (v : Value) :
    f.Unread { c with inFilter := true } (s.withCurrent v) :=
  ⟨fun _ => nofun, h.last⟩

theorem withLength (h : f.Unread c s) (n : Nat) :
    f.Unread { c with inSubscript := true } (s.withLength n) :=
  ⟨h.current, fun _ => nofun⟩

theorem candidate_eq (h : f.Unread c s) (hc : c.inFilter = true) :
    f.candidate s = .single s.candidate := by
  rw [Fallback.candidate, Scope.candidate]
  cases hcurrent : s.current with
  | some v => rfl
  | none =>
      show f.current s = _
      rw [h.current hc hcurrent]
      rfl

theorem lastIndex_eq (h : f.Unread c s) (hc : c.inSubscript = true) :
    f.lastIndex s = s.lastIndex := by
  rw [Fallback.lastIndex, Scope.lastIndex]
  cases hlength : s.length with
  | some n => rfl
  | none =>
      show f.last s = _
      rw [h.last hc hlength]
      rfl

end Fallback.Unread

/-! ## A fallback that is not read -/

mutual

theorem Expr.evalWith_eq : ∀ (e : Expr) {c : Nesting} {s : Scope},
    e.Scoped c → f.Unread c s → e.evalWith f mode s = e.eval mode s
  | .integer _, _, _, _, _ | .number _, _, _, _, _ | .string _, _, _, _, _
  | .boolean _, _, _, _, _ | .null, _, _, _, _ | .root, _, _, _, _
  | .variable _, _, _, _, _ => rfl
  | .current, _, _, hc, h => h.candidate_eq hc
  | .last, _, _, hc, h => h.lastIndex_eq hc
  | .signed op operand, _, _, hc, h => by
      rw [Expr.evalWith, Expr.eval, operand.evalWith_eq hc h]
  | .binary op left right, _, _, hc, h => by
      rw [Expr.evalWith, Expr.eval, left.evalWith_eq hc.1 h, right.evalWith_eq hc.2 h]
  | .access base step, _, _, hc, h => by
      rw [Expr.evalWith, Expr.eval, base.evalWith_eq hc.1 h,
        funext fun v => step.applyWith_eq hc.2 h v]

theorem Accessor.applyWith_eq : ∀ (step : Accessor) {c : Nesting} {s : Scope},
    step.Scoped c → f.Unread c s → ∀ v, step.applyWith f mode s v = step.apply mode s v
  | .member _, _, _, _, _, _ | .memberWildcard, _, _, _, _, _
  | .elementWildcard, _, _, _, _, _ | .method _, _, _, _, _, _
  | .dateTime _, _, _, _, _, _ => rfl
  | .subscripts subs, _, _, hc, h, v => by
      rw [Accessor.applyWith, Accessor.apply]
      cases subscripted mode v with
      | error e => rfl
      | ok items =>
          have hselect := selectAllWith_eq subs hc (h.withLength items.length) items
          simp only [hselect]
  | .filter condition, _, s, hc, h, v => by
      have htruth (candidate : Value) :
          condition.truthWith f mode (s.withCurrent candidate) =
            condition.truth mode (s.withCurrent candidate) :=
        condition.truthWith_eq hc (h.withCurrent candidate)
      simp only [Accessor.applyWith, Accessor.apply, htruth]

theorem selectAllWith_eq : ∀ (subs : List Subscript) {c : Nesting} {s : Scope},
    subscriptsScoped c subs → f.Unread c s → ∀ items,
      selectAllWith f mode s items subs = selectAll mode s items subs
  | [], _, _, _, _, _ => rfl
  | sub :: subs, _, _, hc, h, items => by
      rw [selectAllWith, selectAll_cons, sub.selectWith_eq hc.1 h items,
        selectAllWith_eq subs hc.2 h items]

theorem Subscript.selectWith_eq : ∀ (sub : Subscript) {c : Nesting} {s : Scope},
    sub.Scoped c → f.Unread c s → ∀ items,
      sub.selectWith f mode s items = sub.select mode s items
  | .indices positions, _, _, hc, h, items => by
      rw [Subscript.selectWith, Subscript.select, positions.evalWith_eq hc h]
  | .range low high, _, _, hc, h, items => by
      rw [Subscript.selectWith, select_range, low.evalWith_eq hc.1 h, high.evalWith_eq hc.2 h]

theorem Predicate.truthWith_eq : ∀ (p : Predicate) {c : Nesting} {s : Scope},
    p.Scoped c → f.Unread c s → p.truthWith f mode s = p.truth mode s
  | .compare _ left right, _, _, hc, h => by
      rw [Predicate.truthWith, truth_compare, left.evalWith_eq hc.1 h, right.evalWith_eq hc.2 h]
  | .existence operand, _, _, hc, h => by
      rw [Predicate.truthWith, Predicate.truth, operand.evalWith_eq hc h]
  | .startsWith subject start, _, _, hc, h => by
      rw [Predicate.truthWith, truth_startsWith, subject.evalWith_eq hc.1 h,
        start.evalWith_eq hc.2 h]
  | .likeRegex subject _, _, _, hc, h => by
      rw [Predicate.truthWith, truth_likeRegex, subject.evalWith_eq hc h]
  | .conjunction operands, _, _, hc, h => by
      rw [Predicate.truthWith, Predicate.truth, truthsWith_eq operands hc h]
  | .disjunction operands, _, _, hc, h => by
      rw [Predicate.truthWith, Predicate.truth, truthsWith_eq operands hc h]
  | .negation operand, _, _, hc, h => by
      rw [Predicate.truthWith, truth_negation, operand.truthWith_eq hc h]
  | .isUnknown operand, _, _, hc, h => by
      rw [Predicate.truthWith, truth_isUnknown, operand.truthWith_eq hc h]
  | .condition e, _, _, hc, h => by
      rw [Predicate.truthWith, truth_condition, e.evalWith_eq hc h]

theorem truthsWith_eq : ∀ (ps : List Predicate) {c : Nesting} {s : Scope},
    predicatesScoped c ps → f.Unread c s → truthsWith f mode s ps = truths mode s ps
  | [], _, _, _, _ => rfl
  | p :: ps, _, _, hc, h => by
      rw [truthsWith, truths, p.truthWith_eq hc.1 h, truthsWith_eq ps hc.2 h]

end

/-- With the usual fallback an evaluation is what it is, references bound or not. -/
theorem Body.evalWith_usual (body : Body) : body.evalWith .usual mode s = body.eval mode s := by
  cases body with
  | path e => exact e.evalWith_eq e.scoped_anywhere (.usual _ s)
  | predicate p =>
      rw [Body.evalWith, Body.eval, p.truthWith_eq p.scoped_anywhere (.usual _ s)]

/-! ## Statements that have been read -/

/-- A body begins in a scope that binds nothing. -/
theorem Body.evalWith_eq {body : Body} (h : body.Scoped) (f : Fallback) (mode : Mode)
    (item : Value) (vars : Variables) :
    body.evalWith f mode { root := item, vars } = body.eval mode { root := item, vars } := by
  have hunread : f.Unread { inFilter := false, inSubscript := false } { root := item, vars } :=
    .of_nesting f { root := item, vars }
  cases body with
  | path e => exact e.evalWith_eq h hunread
  | predicate p => rw [Body.evalWith, Body.eval, p.truthWith_eq h hunread]

/-- The parser takes `@` where the scope binds it. -/
theorem Parser.atom?_current_iff {ts : Tokens} (h : next ts = .at) :
    atom? s.nesting ts = some (.ok .current) ↔ ∃ v, s.current = some v := by
  rw [atom?_eq_some_ok_iff, h, ← Option.isSome_iff_exists]
  exact and_iff_right .current

/-- The parser takes `last` where the scope binds it. -/
theorem Parser.atom?_last_iff {ts : Tokens} (h : next ts = .word "last") :
    atom? s.nesting ts = some (.ok .last) ↔ ∃ n, s.length = some n := by
  rw [atom?_eq_some_ok_iff, h, ← Option.isSome_iff_exists]
  exact and_iff_right .last

/-- A predicate that the parser reads where a scope binds what it expects uses no
fallback in that scope. -/
theorem Predicate.truthWith_of_read {fuel : Nat} {ts rest : Parser.Tokens} {p : Predicate}
    (h : Parser.disjunction fuel s.nesting ts = .ok (p, rest)) :
    p.truthWith f mode s = p.truth mode s := by
  obtain ⟨-, -, -, hscoped⟩ := (Parser.soundAt fuel).disjunction h
  exact p.truthWith_eq hscoped (.of_nesting f s)

theorem Expr.evalWith_of_read {fuel : Nat} {ts rest : Parser.Tokens} {e : Expr}
    (h : Parser.sum fuel s.nesting ts = .ok (e, rest)) :
    e.evalWith f mode s = e.eval mode s := by
  obtain ⟨-, -, -, hscoped⟩ := (Parser.soundAt fuel).sum h
  exact e.evalWith_eq hscoped (.of_nesting f s)

namespace Statement

/-- `evaluate` with a fallback. -/
def evaluateWith (f : Fallback) (statement : Statement) (vars : Variables) (item : Value) :
    Sequence :=
  statement.body.evalWith f statement.mode { root := item, vars }

/-- `values` with a fallback. -/
def valuesWith (f : Fallback) (statement : Statement) (vars : Variables) (defaults : Defaults)
    (items : List Value) : Results :=
  items.flatMap fun item => deliver defaults false (statement.evaluateWith f vars item).results

/-- `matchesItem` with a fallback. -/
def matchesItemWith (f : Fallback) (statement : Statement) (vars : Variables) (item : Value) :
    Except EvalError Bool :=
  isMatch statement.body (statement.evaluateWith f vars item).results

/-- `matchesEach` with a fallback. -/
def matchesEachWith (f : Fallback) (statement : Statement) (vars : Variables)
    (items : List Value) : List (Except EvalError Bool) :=
  items.map (statement.matchesItemWith f vars)

/-- `query` with a fallback. -/
def queryWith (f : Fallback) (statement : Statement) (vars : Variables) (items : List Value) :
    Results :=
  items.filterMap fun item =>
    match statement.matchesItemWith f vars item with
    | .ok true => some (.ok item)
    | .ok false => none
    | .error e => some (.error e)

end Statement

open JsonPath.Parser in
/-- A statement that has been read gives the same answers with every fallback.  For the
parser knows of each place what the scopes bind there: a filter and a subscript extend
both alike, a reference is taken exactly where it is bound, and what is read at a place
uses no fallback in the scopes of that place. -/
theorem read_references_bound (f : Fallback) (source : String) (statement : Statement)
    (h : Statement.read source = .ok statement) :
    (∀ mode s (body : Body), body.evalWith .usual mode s = body.eval mode s) ∧
    (∀ mode vars item, statement.body.evalWith f mode { root := item, vars } =
      statement.body.eval mode { root := item, vars }) ∧
    (∀ vars item, statement.evaluateWith f vars item = statement.evaluate vars item) ∧
    (∀ vars defaults items,
      statement.valuesWith f vars defaults items = statement.values vars defaults items) ∧
    (∀ vars items, statement.matchesEachWith f vars items = statement.matchesEach vars items) ∧
    (∀ vars items, statement.queryWith f vars items = statement.query vars items) ∧
    (∀ (s : Scope) v, (s.withCurrent v).nesting = { s.nesting with inFilter := true }) ∧
    (∀ (s : Scope) n, (s.withLength n).nesting = { s.nesting with inSubscript := true }) ∧
    (∀ (s : Scope) ts, next ts = .at →
      (atom? s.nesting ts = some (.ok .current) ↔ ∃ v, s.current = some v)) ∧
    (∀ (s : Scope) ts, next ts = .word "last" →
      (atom? s.nesting ts = some (.ok .last) ↔ ∃ n, s.length = some n)) ∧
    (∀ mode (s : Scope) fuel ts p rest, disjunction fuel s.nesting ts = .ok (p, rest) →
      p.truthWith f mode s = p.truth mode s) ∧
    (∀ mode (s : Scope) fuel ts e rest, sum fuel s.nesting ts = .ok (e, rest) →
      e.evalWith f mode s = e.eval mode s) := by
  have hscoped := Statement.scoped_of_read h
  have heval (mode : Mode) (vars : Variables) (item : Value) :=
    Body.evalWith_eq hscoped f mode item vars
  have hevaluate (vars : Variables) (item : Value) :
      statement.evaluateWith f vars item = statement.evaluate vars item :=
    heval statement.mode vars item
  have hmatches (vars : Variables) :
      statement.matchesItemWith f vars = statement.matchesItem vars := by
    funext item
    rw [Statement.matchesItemWith, hevaluate, Statement.matchesItem]
  refine ⟨fun _ _ body => body.evalWith_usual, heval, hevaluate, fun vars defaults items => ?_,
    fun vars items => ?_, fun vars items => ?_, fun _ _ => rfl, fun _ _ => rfl,
    fun _ _ => atom?_current_iff, fun _ _ => atom?_last_iff,
    fun _ _ _ _ p _ => p.truthWith_of_read, fun _ _ _ _ e _ => e.evalWith_of_read⟩
  · simp only [Statement.valuesWith, hevaluate, Statement.values]
  · rw [Statement.matchesEachWith, hmatches, Statement.matchesEach]
  · simp only [Statement.queryWith, hmatches]
    rfl

/-- A fallback that ends the evaluation shows nowhere, though an `@` stands in a subscript
and a `last` in a filter. -/
theorem read_references_bound_nested :
    let source := "$[*] ? (@.a[last] > @.b[@.a[0] to last])"
    let aborting : Fallback :=
      { current := fun _ => .aborted .quotientOverflow
        last := fun _ => .aborted .quotientOverflow }
    let item : Value := .array [.object
      [("a", .array [.integer 1, .integer 5]), ("b", .array [.integer 9, .integer 4])]]
    ∃ statement, Statement.read source = .ok statement ∧
      (statement.evaluateWith aborting [] item).results.length = 1 := by
  intro source aborting item
  have hread : Statement.read source = .ok ⟨source, .lax, .path
      (.access (.access .root .elementWildcard) (.filter (.compare .greater
        (.access (.access .current (.member "a")) (.subscripts [.indices .last]))
        (.access (.access .current (.member "b")) (.subscripts [.range
          (.access (.access .current (.member "a")) (.subscripts [.indices (.integer 0)]))
          .last])))))⟩ := by
    cbv
  refine ⟨_, hread, ?_⟩
  rw [(read_references_bound aborting source _ hread).2.2.1]
  rfl

end JsonPath
