import Mathlib
import JsonPath.Proofs.Evaluation.Defaults
import JsonPath.Proofs.Parsing.Globals
import JsonPath.Proofs.Parsing.Reading

/-!
# What a statement depends on

Two evaluations of one statement have the same results if they agree on the globals that
its source names: the item, if it names `$`, and the variables behind its other dollar
signs.  Other variables may be set, changed or removed.

* `Body.eval_congr` compares two evaluations of a body in different scopes.  It asks for
  scoped references: outside of all filters `@` would stand for the item, which no token
  names.  The idea is to put both evaluations inside of one and the same candidate, which
  a scoped body does not see (`Expr.eval_withCurrent`).
* `depends_on_named_globals` is about sources and the four calls.
-/

namespace JsonPath

variable {mode : Mode} {s t : Scope}

/-! ## Bodies -/

/-- The literal `null` yields what `@` yields where the candidate is null. -/
theorem represents_null (mode : Mode) (s : Scope) :
    Replacement.Represents { current := .null } mode (s.withCurrent .null) s := by
  constructor
  · intro length
    rfl
  · intro current
    rfl

/-- What stands outside of all filters does not see a candidate. -/
theorem Expr.eval_withCurrent {e : Expr} (s : Scope)
    (h : e.Scoped { inFilter := false, inSubscript := false }) :
    e.eval mode s = e.eval mode (s.withCurrent .null) := by
  have heval := e.eval_replace (represents_null mode s) fun g _ => s.global_withCurrent .null g
  rwa [e.replace_of_keeps (.nowhere _) h] at heval

theorem Predicate.truth_withCurrent {p : Predicate} (s : Scope)
    (h : p.Scoped { inFilter := false, inSubscript := false }) :
    p.truth mode s = p.truth mode (s.withCurrent .null) := by
  have htruth := p.truth_replace (represents_null mode s) fun g _ => s.global_withCurrent .null g
  rwa [p.replace_of_keeps (.nowhere _) h] at htruth

/-- A body depends on the globals that occur in it. -/
theorem Body.eval_congr {body : Body} (h : body.Scoped) (hg : s.AgreeOn t body.globals)
    (hlast : t.lastIndex = s.lastIndex) : body.eval mode t = body.eval mode s := by
  -- inside of one candidate the scopes differ in no reference
  have hself : Replacement.Represents {} mode (s.withCurrent .null) (t.withCurrent .null) :=
    represents_self rfl hlast
  cases body with
  | path e =>
      show e.eval mode t = e.eval mode s
      have heval := e.eval_replace hself (hg.withCurrent .null)
      rw [e.replace_self] at heval
      rw [e.eval_withCurrent t h, e.eval_withCurrent s h, heval]
  | predicate p =>
      have htruth := p.truth_replace hself (hg.withCurrent .null)
      rw [p.replace_self] at htruth
      rw [Body.eval, Body.eval, p.truth_withCurrent t h, p.truth_withCurrent s h, htruth]

/-! ## Statements -/

/-- A global that agrees in two evaluations: the item is the same, or the variable has the
same value in both or in none. -/
theorem agreeOn_of_named {body : Body} {ts : List Token} {item item' : Value}
    {vars vars' : Variables} (hbody : body.globals = globalsNamed ts)
    (hitem : .dollar ∈ ts → item = item')
    (hvars : ∀ name, .variable name ∈ ts → Members.get? vars name = Members.get? vars' name) :
    Scope.AgreeOn { root := item, vars } { root := item', vars := vars' } body.globals := by
  rw [hbody]
  intro g hg
  cases g with
  | root => exact congrArg Except.ok (hitem (root_mem_globalsNamed_iff.1 hg))
  | named name =>
      simp only [Scope.global, Scope.lookup, hvars name (named_mem_globalsNamed_iff.1 hg)]

namespace Statement

variable {source : String} {statement : Statement} {vars vars' : Variables}

/-- A statement yields the same for items and variables that agree on what its source
names. -/
theorem evaluate_congr {tokens : List SourceToken} {item item' : Value}
    (h : read source = .ok statement) (htokens : tokenize source = .ok tokens)
    (hitem : .dollar ∈ tokens.map (·.token) → item = item')
    (hvars : ∀ name, .variable name ∈ tokens.map (·.token) →
      Members.get? vars name = Members.get? vars' name) :
    statement.evaluate vars item = statement.evaluate vars' item' := by
  obtain ⟨tokens', htokens', hgrammar, hscoped⟩ := grammatical_of_read h
  obtain rfl : tokens = tokens' := Except.ok.inj (htokens.symm.trans htokens')
  have hagree := agreeOn_of_named hgrammar.globals_eq hitem hvars
  exact (Body.eval_congr hscoped hagree rfl).symm

/-- The other calls see the variables in the results only. -/
theorem matchesItem_congr
    (h : ∀ item, statement.evaluate vars item = statement.evaluate vars' item) :
    statement.matchesItem vars = statement.matchesItem vars' := by
  funext item
  rw [matchesItem, matchesItem, h item]

theorem values_congr (h : ∀ item, statement.evaluate vars item = statement.evaluate vars' item)
    (defaults : Defaults) (items : List Value) :
    statement.values vars defaults items = statement.values vars' defaults items := by
  simp only [values, h]

theorem query_congr (h : ∀ item, statement.evaluate vars item = statement.evaluate vars' item)
    (items : List Value) : statement.query vars items = statement.query vars' items := by
  have hqueryItem : statement.queryItem vars = statement.queryItem vars' := by
    funext item
    rw [queryItem, queryItem, matchesItem_congr h]
  rw [query, query, hqueryItem]

end Statement

/-- Variables that agree on the names in the source give the same answers to all calls,
also to those that take values one by one.  Without `$` in the source the item has no
influence either. -/
theorem depends_on_named_globals (source : String) (statement : Statement)
    (h : Statement.read source = .ok statement) :
    ∃ tokens, tokenize source = .ok tokens ∧
      (∀ vars vars' : Variables,
        (∀ name, .variable name ∈ tokens.map (·.token) →
          Members.get? vars name = Members.get? vars' name) →
        (∀ item, statement.evaluate vars item = statement.evaluate vars' item) ∧
        (∀ defaults items,
          statement.values vars defaults items = statement.values vars' defaults items) ∧
        (∀ defaults items count,
          ((Delivery.start statement vars defaults items).take count).1 =
            ((Delivery.start statement vars' defaults items).take count).1) ∧
        (∀ items, statement.matchesEach vars items = statement.matchesEach vars' items) ∧
        ∀ items, statement.query vars items = statement.query vars' items) ∧
      (.dollar ∉ tokens.map (·.token) → ∀ vars item item',
        statement.evaluate vars item = statement.evaluate vars item') := by
  obtain ⟨tokens, htokens, -, -⟩ := Statement.grammatical_of_read h
  refine ⟨tokens, htokens, fun vars vars' hvars => ?_, fun hroot vars item item' => ?_⟩
  · have heval (item : Value) : statement.evaluate vars item = statement.evaluate vars' item :=
      Statement.evaluate_congr h htokens (fun _ => rfl) hvars
    refine ⟨heval, Statement.values_congr heval, fun defaults items count => ?_,
      fun items => ?_, Statement.query_congr heval⟩
    · rw [(Delivery.take_remaining _ count).1, (Delivery.take_remaining _ count).1,
        Delivery.start_remaining, Delivery.start_remaining, Statement.values_congr heval]
    · rw [Statement.matchesEach, Statement.matchesEach, Statement.matchesItem_congr heval]
  · exact Statement.evaluate_congr h htokens (fun hmem => absurd hmem hroot) fun _ _ => rfl

/-- A variable that is not named is dropped and the others change places; and a source
whose only dollar sign is that of a variable, on two items. -/
theorem depends_on_named_globals_only :
    let source := "$[$i to 2] ? (@ > $p)"
    let vars : Variables := [("i", .integer 1), ("p", .integer 5), ("q", .null)]
    let vars' : Variables := [("p", .integer 5), ("i", .integer 1)]
    let item : Value := .array [.integer 8, .integer 7, .integer 4]
    let constant := "$i + 1"
    (∃ statement, Statement.read source = .ok statement ∧
      (statement.evaluate vars item).results = [.ok (.integer 7)] ∧
      statement.query vars [item] = statement.query vars' [item]) ∧
    ∃ statement, Statement.read constant = .ok statement ∧
      (statement.evaluate vars item).results = [.ok (.integer 2)] ∧
      statement.evaluate vars item = statement.evaluate vars .null := by
  intro source vars vars' item constant
  have hread : Statement.read source = .ok ⟨source, .lax, .path
      (.access (.access .root (.subscripts [.range (.variable "i") (.integer 2)]))
        (.filter (.compare .greater .current (.variable "p"))))⟩ := by
    cbv
  have hread' : Statement.read constant = .ok ⟨constant, .lax, .path
      (.binary .add (.variable "i") (.integer 1))⟩ := by
    cbv
  have hkinds : (tokenize source).map (fun tokens => tokens.map (·.token)) = .ok [.dollar,
      .openBracket, .variable "i", .word "to", .integer 2, .closeBracket, .question, .openParen,
      .at, .greater, .variable "p", .closeParen, .endOfInput] := by
    cbv
  have hkinds' : (tokenize constant).map (fun tokens => tokens.map (·.token)) =
      .ok [.variable "i", .plus, .integer 1, .endOfInput] := by
    cbv
  obtain ⟨tokens, htokens, hvars, -⟩ := depends_on_named_globals source _ hread
  obtain ⟨tokens', htokens', -, hroot⟩ := depends_on_named_globals constant _ hread'
  simp only [htokens, htokens', Except.map, Except.ok.injEq] at hkinds hkinds'
  refine ⟨⟨_, hread, by rfl, ?_⟩, _, hread', by rfl, hroot ?_ _ _ _⟩
  · refine (hvars vars vars' ?_).2.2.2.2 [item]
    rw [hkinds]
    intro name hname
    obtain rfl | rfl : name = "i" ∨ name = "p" := by simpa using hname
    · rfl
    · rfl
  · rw [hkinds']
    decide

end JsonPath
