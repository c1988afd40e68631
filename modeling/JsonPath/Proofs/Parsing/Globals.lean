import JsonPath.Proofs.Evaluation.References

/-!
# Globals are named in the source

The item and the variables that a statement refers to are those that its tokens name, in
the order of the source, wherever the tokens stand: in a filter, in a subscript, behind a
`starts with`.

`Grammar.Derives.globals_eq` is the induction over the productions.  It is about the tree of
any phrase (`Nonterminal.globals`), and it leaves out no token and adds no global.
`Grammar.Statement.globals_eq` is the case of a whole statement.
-/

namespace JsonPath

/-! ## Tokens -/

/-- The global that a token names. -/
def Token.global? : Token → Option Global
  | .dollar => some .root
  | .variable name => some (.named name)
  | _ => none

theorem Token.global?_eq_root_iff {t : Token} : t.global? = some .root ↔ t = .dollar := by
  cases t <;> simp [global?]

theorem Token.global?_eq_named_iff {t : Token} {name : String} :
    t.global? = some (.named name) ↔ t = .variable name := by
  cases t <;> simp [global?]

/-- The globals that tokens name, in their order. -/
def globalsNamed (ts : List Token) : List Global := ts.filterMap Token.global?

section

variable {ts us : List Token}

theorem globalsNamed_append : globalsNamed (ts ++ us) = globalsNamed ts ++ globalsNamed us :=
  List.filterMap_append

/-- A token that names no global may be left out. -/
theorem globalsNamed_cons {t : Token} (h : t.global? = none) :
    globalsNamed (t :: ts) = globalsNamed ts :=
  List.filterMap_cons_none h

theorem root_mem_globalsNamed_iff : .root ∈ globalsNamed ts ↔ .dollar ∈ ts := by
  simp [globalsNamed, Token.global?_eq_root_iff]

theorem named_mem_globalsNamed_iff {name : String} :
    .named name ∈ globalsNamed ts ↔ .variable name ∈ ts := by
  simp [globalsNamed, Token.global?_eq_named_iff]

end

namespace Grammar

/-! ## Phrases -/

/-- The globals that occur in the tree of a phrase. -/
def Nonterminal.globals : (n : Nonterminal) → n.Tree → List Global
  | .disjunction, p | .conjunction, p | .negation, p | .simple, p => Predicate.globals p
  | .disjuncts, ps | .conjuncts, ps => predicatesGlobals ps
  | .sum, e | .product, e | .signed, e | .path, e | .primary, e => Expr.globals e
  | .terms, operands | .factors, operands => operands.flatMap fun operand => operand.2.globals
  | .accessors, steps => steps.flatMap Accessor.globals
  | .accessor, step => Accessor.globals step
  | .subscripts, subs => subscriptsGlobals subs
  | .subscript, sub => Subscript.globals sub

theorem chain_globals (operands : List (ArithmeticOp × Expr)) (left : Expr) :
    (chain left operands).globals = left.globals ++ Nonterminal.terms.globals operands := by
  induction operands generalizing left with
  | nil => exact (List.append_nil _).symm
  | cons operand operands ih =>
      refine (ih (.binary operand.1 left operand.2)).trans ?_
      simp only [Expr.globals, Nonterminal.globals, List.flatMap_cons, List.append_assoc]

theorem walk_globals (steps : List Accessor) (base : Expr) :
    (walk base steps).globals = base.globals ++ Nonterminal.accessors.globals steps := by
  induction steps generalizing base with
  | nil => exact (List.append_nil _).symm
  | cons step steps ih =>
      refine (ih (.access base step)).trans ?_
      simp only [Expr.globals, Nonterminal.globals, List.flatMap_cons, List.append_assoc]

theorem Comparing.global? {x : Token} {op : Comparison} (h : Comparing x op) :
    x.global? = none := by
  cases h <;> rfl

theorem Additive.global? {x : Token} {op : ArithmeticOp} (h : Additive x op) :
    x.global? = none := by
  cases h <;> rfl

theorem Multiplicative.global? {x : Token} {op : ArithmeticOp} (h : Multiplicative x op) :
    x.global? = none := by
  cases h <;> rfl

theorem Sign.global? {x : Token} {op : SignOp} (h : Sign x op) : x.global? = none := by
  cases h <;> rfl

/-- The globals of a tree are those that its tokens name. -/
theorem Derives.globals_eq {n : Nonterminal} {ts : List Token} {t : n.Tree}
    (h : Derives n ts t) : n.globals t = globalsNamed ts := by
  induction h with
  | compare _ hop _ ih ih' =>
      rw [globalsNamed_append, globalsNamed_cons hop.global?, ← ih, ← ih']
      rfl
  | startsWith _ hstart ih =>
      rw [globalsNamed_append, ← ih]
      cases hstart <;> rfl
  | likeRegex _ _ ih | likeRegexFlag _ _ ih =>
      rw [globalsNamed_append, ← ih]
      exact (List.append_nil _).symm
  | sum _ _ ih ih' | product _ _ ih ih' =>
      rw [globalsNamed_append, ← ih, ← ih']
      exact chain_globals _ _
  | path _ _ ih ih' =>
      rw [globalsNamed_append, ← ih, ← ih']
      exact walk_globals _ _
  | term hop _ _ ih ih' =>
      rw [List.cons_append, globalsNamed_cons hop.global?, globalsNamed_append, ← ih, ← ih']
      rfl
  | factor hop _ _ ih ih' =>
      rw [List.cons_append, globalsNamed_cons hop.global?, globalsNamed_append, ← ih, ← ih']
      rfl
  | sign hop _ ih =>
      rw [globalsNamed_cons hop.global?, ← ih]
      rfl
  | atom h => cases h <;> rfl
  | member h => cases h <;> rfl
  -- the other productions only put words, signs and brackets between their parts
  | _ =>
      simp_all [Nonterminal.globals, Predicate.globals, predicatesGlobals, Accessor.globals,
        subscriptsGlobals, Subscript.globals, globalsNamed, Token.global?, List.filterMap_cons]

end Grammar

/-! ## Statements -/

/-- The globals that occur in a body. -/
def Body.globals : Body → List Global
  | .path e => e.globals
  | .predicate p => p.globals

theorem Parser.bodyOf_globals (p : Predicate) : (bodyOf p).globals = p.globals := by
  cases p <;> rfl

namespace Grammar

variable {ts : List Token} {b : Body}

theorem DerivesBody.globals_eq (h : DerivesBody ts b) : b.globals = globalsNamed ts := by
  cases h with
  | predicate h => exact (Parser.bodyOf_globals _).trans h.globals_eq
  | path h => exact h.globals_eq

/-- The mode and the end of a statement name no global. -/
theorem Statement.globals_eq {m : Mode} (h : Statement ts (m, b)) :
    b.globals = globalsNamed ts := by
  cases h with
  | unmarked h | lax h | strict h =>
      rw [h.globals_eq]
      simp [globalsNamed, Token.global?, List.filterMap_cons]

end Grammar

end JsonPath
