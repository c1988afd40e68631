import JsonPath.Syntax.Parser

/-!
# The grammar of statements

The grammar of the path language as a relation between lists of tokens and
syntax trees.  It is written down apart from the parser: nothing here says in
which order alternatives are tried, how far ahead one looks, or how much of the
input is consumed.

* `Derives` has one constructor for each production.  A repetition `(…)*` is a
  nonterminal of its own, whose tree is a list; a chain of operators folds that
  list from the left.  Words are keywords only where a production names them.
* A production carries the condition under which its tree exists: that a method
  is known, that a pattern with its flags can be read.  Every datetime template
  is one, so that there is nothing to ask of it.
* `Scoped` is the other side condition, on trees: every `@` is inside a filter
  and every `last` inside a subscript.
* `Grammar.Statement` is a whole statement with its mode and its end.
-/

namespace JsonPath

namespace Grammar

/-! ## Terminals with a meaning -/

/-- Literals, references and variables, each of them one token. -/
inductive Atom : Token → Expr → Prop where
  | integer (n : Int64) : Atom (.integer n) (.integer n)
  | number (x : Binary64) : Atom (.number x) (.number x)
  | string (s : String) : Atom (.string s) (.string s)
  | variable (name : String) : Atom (.variable name) (.variable name)
  | root : Atom .dollar .root
  | current : Atom .at .current
  | last : Atom (.word "last") .last
  | yes : Atom (.word "true") (.boolean true)
  | no : Atom (.word "false") (.boolean false)
  | null : Atom (.word "null") .null

/-- The name of a member, bare or quoted. -/
inductive MemberName : Token → String → Prop where
  | word (name : String) : MemberName (.word name) name
  | string (name : String) : MemberName (.string name) name

/-- What a `starts with` compares with. -/
inductive Start : Token → Expr → Prop where
  | string (s : String) : Start (.string s) (.string s)
  | variable (name : String) : Start (.variable name) (.variable name)

/-- The tokens that are signs. -/
inductive Sign : Token → SignOp → Prop where
  | plus : Sign .plus .plus
  | minus : Sign .minus .minus

/-- The tokens that join terms. -/
inductive Additive : Token → ArithmeticOp → Prop where
  | plus : Additive .plus .add
  | minus : Additive .minus .subtract

/-- The tokens that join factors. -/
inductive Multiplicative : Token → ArithmeticOp → Prop where
  | star : Multiplicative .star .multiply
  | slash : Multiplicative .slash .divide
  | percent : Multiplicative .percent .modulo

/-- The tokens that compare. -/
inductive Comparing : Token → Comparison → Prop where
  | equal : Comparing .equal .equal
  | notEqual : Comparing .notEqual .notEqual
  | less : Comparing .less .less
  | lessEqual : Comparing .lessEqual .lessEqual
  | greater : Comparing .greater .greater
  | greaterEqual : Comparing .greaterEqual .greaterEqual

/-! ## Phrases -/

/-- The nonterminals.  `disjuncts`, `conjuncts`, `terms`, `factors`, `accessors`
and `subscripts` stand for the repetitions. -/
inductive Nonterminal where
  | disjunction
  | disjuncts
  | conjunction
  | conjuncts
  | negation
  | simple
  | sum
  | terms
  | product
  | factors
  | signed
  | path
  | accessors
  | primary
  | accessor
  | subscripts
  | subscript
  deriving DecidableEq, Repr

/-- What a phrase stands for. -/
abbrev Nonterminal.Tree : Nonterminal → Type
  | disjunction | conjunction | negation | simple => Predicate
  | disjuncts | conjuncts => List Predicate
  | sum | product | signed | path | primary => Expr
  | terms | factors => List (ArithmeticOp × Expr)
  | accessors => List Accessor
  | accessor => Accessor
  | subscripts => List Subscript
  | subscript => Subscript

/-- A chain of binary operators, from left to right. -/
def chain (left : Expr) (operands : List (ArithmeticOp × Expr)) : Expr :=
  operands.foldl (fun e (op, operand) => .binary op e operand) left

/-- A chain of accessors. -/
def walk (base : Expr) (steps : List Accessor) : Expr := steps.foldl .access base

/-- The productions. -/
inductive Derives : (n : Nonterminal) → List Token → n.Tree → Prop where
  -- `disjunction := conjunction ('||' conjunction)*`; one operand is itself
  | alone {ts : List Token} {p : Predicate} :
      Derives .disjuncts ts [p] → Derives .disjunction ts p
  | either {ts : List Token} {p q : Predicate} {ps : List Predicate} :
      Derives .disjuncts ts (p :: q :: ps) →
      Derives .disjunction ts (.disjunction (p :: q :: ps))
  | lastDisjunct {ts : List Token} {p : Predicate} :
      Derives .conjunction ts p → Derives .disjuncts ts [p]
  | disjunct {ts us : List Token} {p : Predicate} {ps : List Predicate} :
      Derives .conjunction ts p → Derives .disjuncts us ps →
      Derives .disjuncts (ts ++ .orOr :: us) (p :: ps)
  -- `conjunction := negation ('&&' negation)*`
  | single {ts : List Token} {p : Predicate} :
      Derives .conjuncts ts [p] → Derives .conjunction ts p
  | both {ts : List Token} {p q : Predicate} {ps : List Predicate} :
      Derives .conjuncts ts (p :: q :: ps) →
      Derives .conjunction ts (.conjunction (p :: q :: ps))
  | lastConjunct {ts : List Token} {p : Predicate} :
      Derives .negation ts p → Derives .conjuncts ts [p]
  | conjunct {ts us : List Token} {p : Predicate} {ps : List Predicate} :
      Derives .negation ts p → Derives .conjuncts us ps →
      Derives .conjuncts (ts ++ .andAnd :: us) (p :: ps)
  -- `negation := '!' negation | simple | '(' disjunction ')' ['is' 'unknown']`
  | not {ts : List Token} {p : Predicate} :
      Derives .negation ts p → Derives .negation (.exclamation :: ts) (.negation p)
  | plain {ts : List Token} {p : Predicate} :
      Derives .simple ts p → Derives .negation ts p
  | group {ts : List Token} {p : Predicate} :
      Derives .disjunction ts p → Derives .negation (.openParen :: ts ++ [.closeParen]) p
  | unknown {ts : List Token} {p : Predicate} :
      Derives .disjunction ts p →
      Derives .negation (.openParen :: ts ++ [.closeParen, .word "is", .word "unknown"])
        (.isUnknown p)
  -- `simple := 'exists' '(' sum ')' | sum op sum | sum 'starts' 'with' (string | variable)`
  -- `  | sum 'like_regex' string ['flag' string] | sum`
  | existence {ts : List Token} {e : Expr} :
      Derives .sum ts e →
      Derives .simple (.word "exists" :: .openParen :: ts ++ [.closeParen]) (.existence e)
  | compare {ts us : List Token} {x : Token} {op : Comparison} {left right : Expr} :
      Derives .sum ts left → Comparing x op → Derives .sum us right →
      Derives .simple (ts ++ x :: us) (.compare op left right)
  | startsWith {ts : List Token} {x : Token} {subject start : Expr} :
      Derives .sum ts subject → Start x start →
      Derives .simple (ts ++ [.word "starts", .word "with", x]) (.startsWith subject start)
  | likeRegex {ts : List Token} {subject : Expr} {text : String} {pattern : LikePattern} :
      Derives .sum ts subject → LikePattern.read text "" = .ok pattern →
      Derives .simple (ts ++ [.word "like_regex", .string text]) (.likeRegex subject pattern)
  | likeRegexFlag {ts : List Token} {subject : Expr} {text flags : String}
      {pattern : LikePattern} :
      Derives .sum ts subject → LikePattern.read text flags = .ok pattern →
      Derives .simple (ts ++ [.word "like_regex", .string text, .word "flag", .string flags])
        (.likeRegex subject pattern)
  | condition {ts : List Token} {e : Expr} :
      Derives .sum ts e → Derives .simple ts (.condition e)
  -- `sum := product (('+' | '-') product)*`
  | sum {ts us : List Token} {left : Expr} {operands : List (ArithmeticOp × Expr)} :
      Derives .product ts left → Derives .terms us operands →
      Derives .sum (ts ++ us) (chain left operands)
  | noTerm : Derives .terms [] []
  | term {ts us : List Token} {x : Token} {op : ArithmeticOp} {operand : Expr}
      {operands : List (ArithmeticOp × Expr)} :
      Additive x op → Derives .product ts operand → Derives .terms us operands →
      Derives .terms (x :: ts ++ us) ((op, operand) :: operands)
  -- `product := signed (('*' | '/' | '%') signed)*`
  | product {ts us : List Token} {left : Expr} {operands : List (ArithmeticOp × Expr)} :
      Derives .signed ts left → Derives .factors us operands →
      Derives .product (ts ++ us) (chain left operands)
  | noFactor : Derives .factors [] []
  | factor {ts us : List Token} {x : Token} {op : ArithmeticOp} {operand : Expr}
      {operands : List (ArithmeticOp × Expr)} :
      Multiplicative x op → Derives .signed ts operand → Derives .factors us operands →
      Derives .factors (x :: ts ++ us) ((op, operand) :: operands)
  -- `signed := ('+' | '-') signed | path`
  | sign {ts : List Token} {x : Token} {op : SignOp} {operand : Expr} :
      Sign x op → Derives .signed ts operand → Derives .signed (x :: ts) (.signed op operand)
  | unsigned {ts : List Token} {e : Expr} : Derives .path ts e → Derives .signed ts e
  -- `path := primary accessor*`
  | path {ts us : List Token} {base : Expr} {steps : List Accessor} :
      Derives .primary ts base → Derives .accessors us steps →
      Derives .path (ts ++ us) (walk base steps)
  | noAccessor : Derives .accessors [] []
  | accessor {ts us : List Token} {step : Accessor} {steps : List Accessor} :
      Derives .accessor ts step → Derives .accessors us steps →
      Derives .accessors (ts ++ us) (step :: steps)
  -- `primary := '(' sum ')' | literal | '$' | '@' | 'last' | variable`
  | parenthesised {ts : List Token} {e : Expr} :
      Derives .sum ts e → Derives .primary (.openParen :: ts ++ [.closeParen]) e
  | atom {x : Token} {e : Expr} : Atom x e → Derives .primary [x] e
  -- `accessor := '.' name | '.*' | '[*]' | '[' subscripts ']' | '?' '(' disjunction ')'`
  -- `  | '.' method '(' ')' | '.datetime' '(' [string] ')'`
  | member {x : Token} {name : String} :
      MemberName x name → Derives .accessor [.dot, x] (.member name)
  | memberWildcard : Derives .accessor [.dot, .star] .memberWildcard
  | elementWildcard : Derives .accessor [.openBracket, .star, .closeBracket] .elementWildcard
  | subscripted {ts : List Token} {subs : List Subscript} :
      Derives .subscripts ts subs →
      Derives .accessor (.openBracket :: ts ++ [.closeBracket]) (.subscripts subs)
  | filter {ts : List Token} {p : Predicate} :
      Derives .disjunction ts p →
      Derives .accessor (.question :: .openParen :: ts ++ [.closeParen]) (.filter p)
  | method {name : String} {m : ItemMethod} :
      ItemMethod.ofName? name = some m →
      Derives .accessor [.dot, .word name, .openParen, .closeParen] (.method m)
  | dateTime :
      Derives .accessor [.dot, .word "datetime", .openParen, .closeParen] (.dateTime none)
  | dateTimeTemplate (template : String) :
      Derives .accessor [.dot, .word "datetime", .openParen, .string template, .closeParen]
        (.dateTime (some ⟨template⟩))
  -- `subscripts := subscript (',' subscript)*`, `subscript := sum ('to' sum)?`
  | lastSubscript {ts : List Token} {sub : Subscript} :
      Derives .subscript ts sub → Derives .subscripts ts [sub]
  | subscript {ts us : List Token} {sub : Subscript} {subs : List Subscript} :
      Derives .subscript ts sub → Derives .subscripts us subs →
      Derives .subscripts (ts ++ .comma :: us) (sub :: subs)
  | indices {ts : List Token} {e : Expr} : Derives .sum ts e → Derives .subscript ts (.indices e)
  | range {ts us : List Token} {low high : Expr} :
      Derives .sum ts low → Derives .sum us high →
      Derives .subscript (ts ++ .word "to" :: us) (.range low high)

end Grammar

/-! ## Scoping -/

section Scoping

open JsonPath.Parser (Nesting)

mutual

/-- Every `@` of an expression has a filter around it and every `last` a
subscript, counting those that `c` says are outside the expression. -/
def Expr.Scoped (c : Nesting) : Expr → Prop
  | .integer _ | .number _ | .string _ | .boolean _ | .null | .root | .variable _ => True
  | .current => c.inFilter = true
  | .last => c.inSubscript = true
  | .signed _ operand => operand.Scoped c
  | .binary _ left right => left.Scoped c ∧ right.Scoped c
  | .access base step => base.Scoped c ∧ step.Scoped c

/-- The references of an accessor are bound, `last` in subscripts and `@` in a filter. -/
def Accessor.Scoped (c : Nesting) : Accessor → Prop
  | .member _ | .memberWildcard | .elementWildcard | .method _ | .dateTime _ => True
  | .subscripts subs => subscriptsScoped { c with inSubscript := true } subs
  | .filter condition => condition.Scoped { c with inFilter := true }

/-- The references of some subscripts are bound. -/
def subscriptsScoped (c : Nesting) : List Subscript → Prop
  | [] => True
  | sub :: subs => sub.Scoped c ∧ subscriptsScoped c subs

/-- The references of a subscript are bound. -/
def Subscript.Scoped (c : Nesting) : Subscript → Prop
  | .indices positions => positions.Scoped c
  | .range low high => low.Scoped c ∧ high.Scoped c

/-- The references of a predicate are bound. -/
def Predicate.Scoped (c : Nesting) : Predicate → Prop
  | .compare _ left right => left.Scoped c ∧ right.Scoped c
  | .existence operand => operand.Scoped c
  | .startsWith subject start => subject.Scoped c ∧ start.Scoped c
  | .likeRegex subject _ => subject.Scoped c
  | .conjunction operands | .disjunction operands => predicatesScoped c operands
  | .negation operand | .isUnknown operand => operand.Scoped c
  | .condition e => e.Scoped c

/-- The references of some predicates are bound. -/
def predicatesScoped (c : Nesting) : List Predicate → Prop
  | [] => True
  | p :: ps => p.Scoped c ∧ predicatesScoped c ps

end

/-- A body stands inside no filter and no subscript. -/
def Body.Scoped : Body → Prop
  | .path e => e.Scoped { inFilter := false, inSubscript := false }
  | .predicate p => p.Scoped { inFilter := false, inSubscript := false }

/-! Inside of a filter and a subscript all references are in place. -/

mutual

theorem Expr.scoped_anywhere : ∀ e : Expr, e.Scoped { inFilter := true, inSubscript := true }
  | .integer _ | .number _ | .string _ | .boolean _ | .null | .root | .variable _ => trivial
  | .current | .last => rfl
  | .signed _ operand => operand.scoped_anywhere
  | .binary _ left right => ⟨left.scoped_anywhere, right.scoped_anywhere⟩
  | .access base step => ⟨base.scoped_anywhere, step.scoped_anywhere⟩

theorem Accessor.scoped_anywhere :
    ∀ step : Accessor, step.Scoped { inFilter := true, inSubscript := true }
  | .member _ | .memberWildcard | .elementWildcard | .method _ | .dateTime _ => trivial
  | .subscripts subs => subscripts_scoped_anywhere subs
  | .filter condition => condition.scoped_anywhere

theorem subscripts_scoped_anywhere :
    ∀ subs, subscriptsScoped { inFilter := true, inSubscript := true } subs
  | [] => trivial
  | sub :: subs => ⟨sub.scoped_anywhere, subscripts_scoped_anywhere subs⟩

theorem Subscript.scoped_anywhere :
    ∀ sub : Subscript, sub.Scoped { inFilter := true, inSubscript := true }
  | .indices positions => positions.scoped_anywhere
  | .range low high => ⟨low.scoped_anywhere, high.scoped_anywhere⟩

theorem Predicate.scoped_anywhere :
    ∀ p : Predicate, p.Scoped { inFilter := true, inSubscript := true }
  | .compare _ left right => ⟨left.scoped_anywhere, right.scoped_anywhere⟩
  | .existence operand => operand.scoped_anywhere
  | .startsWith subject start => ⟨subject.scoped_anywhere, start.scoped_anywhere⟩
  | .likeRegex subject _ => subject.scoped_anywhere
  | .conjunction operands | .disjunction operands => predicates_scoped_anywhere operands
  | .negation operand | .isUnknown operand => operand.scoped_anywhere
  | .condition e => e.scoped_anywhere

theorem predicates_scoped_anywhere :
    ∀ ps, predicatesScoped { inFilter := true, inSubscript := true } ps
  | [] => trivial
  | p :: ps => ⟨p.scoped_anywhere, predicates_scoped_anywhere ps⟩

end

end Scoping

namespace Grammar

/-- The references in the tree of a phrase are where they may be. -/
def Nonterminal.Scoped (c : Parser.Nesting) : (n : Nonterminal) → n.Tree → Prop
  | .disjunction, p | .conjunction, p | .negation, p | .simple, p => Predicate.Scoped c p
  | .disjuncts, ps | .conjuncts, ps => predicatesScoped c ps
  | .sum, e | .product, e | .signed, e | .path, e | .primary, e => Expr.Scoped c e
  | .terms, operands | .factors, operands => ∀ operand ∈ operands, Expr.Scoped c operand.2
  | .accessors, steps => ∀ step ∈ steps, Accessor.Scoped c step
  | .accessor, step => Accessor.Scoped c step
  | .subscripts, subs => subscriptsScoped c subs
  | .subscript, sub => Subscript.Scoped c sub

theorem chain_scoped {c : Parser.Nesting} (operands : List (ArithmeticOp × Expr)) (left : Expr) :
    (chain left operands).Scoped c ↔ left.Scoped c ∧ Nonterminal.terms.Scoped c operands := by
  induction operands generalizing left with
  | nil => simp [chain, Nonterminal.Scoped]
  | cons operand operands ih =>
      have h := ih (.binary operand.1 left operand.2)
      simp only [chain, Nonterminal.Scoped, Expr.Scoped] at h ⊢
      simp only [List.foldl_cons, h, List.forall_mem_cons, and_assoc]

theorem walk_scoped {c : Parser.Nesting} (steps : List Accessor) (base : Expr) :
    (walk base steps).Scoped c ↔ base.Scoped c ∧ Nonterminal.accessors.Scoped c steps := by
  induction steps generalizing base with
  | nil => simp [walk, Nonterminal.Scoped]
  | cons step steps ih =>
      have h := ih (.access base step)
      simp only [walk, Nonterminal.Scoped, Expr.Scoped] at h ⊢
      simp only [List.foldl_cons, h, List.forall_mem_cons, and_assoc]

/-! ## Parenthesised expressions

A group derives a predicate, and if that predicate is only an expression, it
derives the expression as an operand too, with the same tree. -/

/-- If the tree of a phrase is only an expression, the phrase derives that
expression. -/
def Derives.Collapses : (n : Nonterminal) → List Token → n.Tree → Prop
  | .disjunction, ts, p | .conjunction, ts, p | .negation, ts, p | .simple, ts, p =>
      ∀ e, p = .condition e → Derives .sum ts e
  | .disjuncts, ts, ps | .conjuncts, ts, ps => ∀ e, ps = [.condition e] → Derives .sum ts e
  | _, _, _ => True

/-- An operand without binary operators. -/
theorem Derives.sum_of_signed {ts : List Token} {e : Expr} (h : Derives .signed ts e) :
    Derives .sum ts e := by
  have hf : Derives .product (ts ++ []) e := .product h .noFactor
  simpa [chain] using Derives.sum hf .noTerm

/-- A path without operators is an operand. -/
theorem Derives.sum_of_path {ts : List Token} {e : Expr} (h : Derives .path ts e) :
    Derives .sum ts e :=
  .sum_of_signed (.unsigned h)

/-- A parenthesised expression is a primary expression, and so an operand. -/
theorem Derives.sum_of_primary {ts : List Token} {e : Expr} (h : Derives .primary ts e) :
    Derives .sum ts e := by
  have hp : Derives .path (ts ++ []) e := .path h .noAccessor
  simpa using hp.sum_of_path

theorem Derives.collapses {n : Nonterminal} {ts : List Token} {t : n.Tree}
    (h : Derives n ts t) : Derives.Collapses n ts t := by
  induction h with
  | alone _ ih => exact fun e he => ih e (by rw [he])
  | lastDisjunct _ ih => exact fun e he => ih e (by simpa using he)
  | single _ ih => exact fun e he => ih e (by rw [he])
  | lastConjunct _ ih => exact fun e he => ih e (by simpa using he)
  | plain _ ih => exact ih
  | group _ ih => exact fun e he => .sum_of_primary (.parenthesised (ih e he))
  | condition h _ => exact fun e he => by cases he; exact h
  | disjunct _ h _ _ =>
      intro e he
      cases h <;> simp at he
  | conjunct _ h _ _ =>
      intro e he
      cases h <;> simp at he
  | either | both | not | unknown | existence | compare | startsWith | likeRegex
  | likeRegexFlag => exact nofun
  | _ => trivial

/-- A predicate that is only an expression is derived as one. -/
theorem Derives.sum_of_disjunction {ts : List Token} {e : Expr}
    (h : Derives .disjunction ts (.condition e)) : Derives .sum ts e :=
  h.collapses e rfl

/-! ## Statements -/

/-- What a statement asks for, `disjunction | sum`.  A predicate that is only an
expression asks for the values of that expression. -/
inductive DerivesBody : List Token → Body → Prop where
  | predicate {ts : List Token} {p : Predicate} :
      Derives .disjunction ts p → DerivesBody ts (Parser.bodyOf p)
  | path {ts : List Token} {e : Expr} : Derives .sum ts e → DerivesBody ts (.path e)

/-- `statement := ['lax' | 'strict'] body end`. -/
inductive Statement : List Token → Mode × Body → Prop where
  | unmarked {ts : List Token} {b : Body} :
      DerivesBody ts b → Statement (ts ++ [.endOfInput]) (.lax, b)
  | lax {ts : List Token} {b : Body} :
      DerivesBody ts b → Statement (.word "lax" :: ts ++ [.endOfInput]) (.lax, b)
  | strict {ts : List Token} {b : Body} :
      DerivesBody ts b → Statement (.word "strict" :: ts ++ [.endOfInput]) (.strict, b)

end Grammar

end JsonPath
