import JsonPath.Proofs.Parsing.Soundness

/-!
# Parsing does not look at places

Two lists of tokens that differ in the places of the tokens only are parsed alike.

* `Alike R` relates two lists of the same tokens with the same images; `R` relates the
  places of each token in the one and in the other.
* `Outcomes R` relates two results: both are trees, or both are the same complaint at
  places related by `R`.
* `parse_outcomes`: the statements read from like tokens are equal, and if there is none,
  the complaints are equal, at the same token.

The parser compares tokens and cites images in its complaints, and every place that it
reports is that of a token in front of it.  `ParallelAt` states this of every function for
one budget; it passes from each budget to the next, one lemma for each function.
-/

namespace JsonPath

/-- A token behind which nothing is read. -/
def Token.isEnd : Token → Bool
  | .endOfInput => true
  | _ => false

theorem Token.isEnd_eq_false_iff {t : Token} : t.isEnd = false ↔ t ≠ .endOfInput := by
  cases t <;> simp [isEnd]

namespace Parser

variable {R : Position → Position → Prop} {α β : Type}

/-! ## Like tokens and like outcomes -/

/-- The same token in two sources. -/
structure Twins (R : Position → Position → Prop) (t t' : SourceToken) : Prop where
  token_eq : t.token = t'.token
  image_eq : t.image = t'.image
  places : R t.position t'.position

/-- The same tokens in two sources, up to the end of input. -/
inductive Alike (R : Position → Position → Prop) : Tokens → Tokens → Prop where
  | last {t t' : SourceToken} (h : Twins R t t') (hend : t.token = .endOfInput) :
      Alike R [t] [t']
  | cons {t t' : SourceToken} {ts ts' : Tokens} (h : Twins R t t') (hrest : Alike R ts ts') :
      Alike R (t :: ts) (t' :: ts')

/-- Two results that are related by `S`, or the same complaint in two sources. -/
inductive Outcomes (R : Position → Position → Prop) (S : α → β → Prop) :
    Except SyntaxError α → Except SyntaxError β → Prop where
  | ok {a : α} {b : β} (h : S a b) : Outcomes R S (.ok a) (.ok b)
  | error {complaint : Complaint} {p p' : Position} (h : R p p') :
      Outcomes R S (.error ⟨complaint, p⟩) (.error ⟨complaint, p'⟩)

/-- The same tree, with like tokens behind it. -/
def Parts (R : Position → Position → Prop) (a b : α × Tokens) : Prop :=
  a.1 = b.1 ∧ Alike R a.2 b.2

/-- Two readings of the same tree, with like tokens behind it, or the same complaint. -/
abbrev Parallel (R : Position → Position → Prop) (x y : Except SyntaxError (α × Tokens)) : Prop :=
  Outcomes R (Parts R) x y

namespace Alike

variable {ts ts' : Tokens}

theorem first (h : Alike R ts ts') : Twins R (first ts) (first ts') := by
  cases h with
  | last h _ => exact h
  | cons h _ => exact h

theorem next_eq (h : Alike R ts ts') : next ts' = next ts := h.first.token_eq.symm

theorem map_eq (h : Alike R ts ts') :
    ts'.map (fun t => (t.token, t.image)) = ts.map fun t => (t.token, t.image) := by
  induction h with
  | last h _ => simp only [List.map_cons, List.map_nil, h.token_eq, h.image_eq]
  | cons h _ ih => simp only [List.map_cons, h.token_eq, h.image_eq, ih]

theorem mono {R' : Position → Position → Prop} (h : Alike R ts ts')
    (hR : ∀ p p', R p p' → R' p p') : Alike R' ts ts' := by
  induction h with
  | last h hend => exact .last ⟨h.token_eq, h.image_eq, hR _ _ h.places⟩ hend
  | cons h _ ih => exact .cons ⟨h.token_eq, h.image_eq, hR _ _ h.places⟩ ih

theorem peek_eq (h : Alike R ts ts') : next ts'.tail = next ts.tail := by
  cases h with
  | last _ _ => rfl
  | cons _ hrest => exact hrest.next_eq

/-- The end of input stays when another token is consumed. -/
theorem tail {t : Token} (h : Alike R ts ts') (hx : next ts = t) (ht : t.isEnd = false) :
    Alike R ts.tail ts'.tail := by
  cases h with
  | last _ hend => exact absurd (hx.symm.trans hend) (Token.isEnd_eq_false_iff.1 ht)
  | cons _ hrest => exact hrest

end Alike

namespace Outcomes

variable {S : α → β → Prop} {x : Except SyntaxError α} {y : Except SyntaxError β} {α' β' : Type}
  {S' : α' → β' → Prop} {f : α → Except SyntaxError α'} {g : β → Except SyntaxError β'}

theorem bind (h : Outcomes R S x y) (hf : ∀ a b, S a b → Outcomes R S' (f a) (g b)) :
    Outcomes R S' (x >>= f) (y >>= g) := by
  cases h with
  | ok h => exact hf _ _ h
  | error h => exact .error h

end Outcomes

/-- What follows two readings of the same tree. -/
theorem Parallel.bind {x y : Except SyntaxError (α × Tokens)} {S : β → β → Prop}
    {f g : α × Tokens → Except SyntaxError β} (h : Parallel R x y)
    (hf : ∀ a rest rest', Alike R rest rest' → Outcomes R S (f (a, rest)) (g (a, rest'))) :
    Outcomes R S (x >>= f) (y >>= g) := by
  refine Outcomes.bind h ?_
  rintro ⟨a, rest⟩ ⟨_, rest'⟩ ⟨rfl, hrest⟩
  exact hf a rest rest' hrest

/-! ## The next token -/

variable {fuel : Nat} {c : Nesting} {ts ts' : Tokens}

theorem complain_outcomes {S : α → β → Prop} (complaint : Complaint) (h : Alike R ts ts') :
    Outcomes R S (complain complaint ts) (complain complaint ts') :=
  .error h.first.places

theorem unexpected_outcomes {S : α → β → Prop} (expected : Expectation) (h : Alike R ts ts') :
    Outcomes R S (unexpected expected ts) (unexpected expected ts') := by
  have hdescribe : (first ts').describe = (first ts).describe := by
    simp only [SourceToken.describe, h.first.token_eq, h.first.image_eq]
  rw [unexpected, unexpected, hdescribe]
  exact complain_outcomes _ h

theorem expect_outcomes (token : Token) {expected : Expectation} (hend : token.isEnd = false)
    (h : Alike R ts ts') :
    Outcomes R (Alike R) (expect token expected ts) (expect token expected ts') := by
  rw [expect, expect, h.next_eq]
  split
  · next hx => exact .ok (h.tail hx hend)
  · exact unexpected_outcomes _ h

/-- A tree that ends with a token that must come next. -/
theorem expect_parallel {token : Token} {expected : Expectation} {a : α}
    (hend : token.isEnd = false) (h : Alike R ts ts') :
    Parallel R (do return (a, ← expect token expected ts))
      (do return (a, ← expect token expected ts')) :=
  (expect_outcomes token hend h).bind fun _ _ hrest => .ok ⟨rfl, hrest⟩

theorem stringLiteral_parallel (h : Alike R ts ts') :
    Parallel R (stringLiteral ts) (stringLiteral ts') := by
  rw [stringLiteral, stringLiteral, h.next_eq]
  split
  · next hx => exact .ok ⟨rfl, h.tail hx rfl⟩
  · exact unexpected_outcomes _ h

/-! ## Parts without expressions -/

theorem wordAtom?_rel (w : String) (h : Alike R ts ts') :
    Option.Rel (Outcomes R Eq) (wordAtom? c ts w) (wordAtom? c ts' w) := by
  unfold wordAtom?
  split
  · exact .some (.ok rfl)
  · exact .some (.ok rfl)
  · exact .some (.ok rfl)
  · split
    · exact .some (.ok rfl)
    · exact .some (complain_outcomes _ h)
  · exact .none

theorem atom?_rel (h : Alike R ts ts') :
    Option.Rel (Outcomes R Eq) (atom? c ts) (atom? c ts') := by
  rw [atom?, atom?, h.next_eq]
  cases next ts with
  | word w => exact wordAtom?_rel w h
  | «at» =>
      show Option.Rel _ (some (if c.inFilter then _ else _)) (some (if c.inFilter then _ else _))
      split
      · exact .some (.ok rfl)
      · exact .some (complain_outcomes _ h)
  | integer | number | string | «variable» | dollar => exact .some (.ok rfl)
  | _ => exact .none

theorem methodStep_parallel {name : String} (h : Alike R ts ts') (hname : next ts = .word name)
    (hopen : next ts.tail = .openParen) :
    Parallel R (methodStep name ts) (methodStep name ts') := by
  have hinside : Alike R ts.tail.tail ts'.tail.tail := (h.tail hname rfl).tail hopen rfl
  unfold methodStep
  split
  · dsimp only
    rw [hinside.next_eq]
    split
    · next hx => exact expect_parallel rfl (hinside.tail hx rfl)
    · exact expect_parallel rfl hinside
  · split
    · exact complain_outcomes _ h
    · exact expect_parallel rfl hinside

theorem dotStep_parallel (h : Alike R ts ts') : Parallel R (dotStep ts) (dotStep ts') := by
  rw [dotStep, dotStep, h.next_eq, h.peek_eq]
  split
  · next hx => exact .ok ⟨rfl, h.tail hx rfl⟩
  · next hx => exact .ok ⟨rfl, h.tail hx rfl⟩
  · next hx =>
      split
      · next hopen => exact methodStep_parallel h hx hopen
      · exact .ok ⟨rfl, h.tail hx rfl⟩
  · exact unexpected_outcomes _ h

theorem startsWithTail_parallel (subject : Expr) (h : Alike R ts ts') :
    Parallel R (startsWithTail subject ts) (startsWithTail subject ts') := by
  refine (expect_outcomes (.word "with") rfl h).bind fun rest rest' hrest => ?_
  rw [hrest.next_eq]
  split
  · next hx => exact .ok ⟨rfl, hrest.tail hx rfl⟩
  · next hx => exact .ok ⟨rfl, hrest.tail hx rfl⟩
  · exact unexpected_outcomes _ hrest

theorem patternFlags_parallel (h : Alike R ts ts') :
    Parallel R (patternFlags ts) (patternFlags ts') := by
  rw [patternFlags, patternFlags, h.next_eq]
  split
  · next hx => exact stringLiteral_parallel (h.tail hx rfl)
  · exact .ok ⟨rfl, h⟩

theorem likeRegexTail_parallel (subject : Expr) (h : Alike R ts ts') :
    Parallel R (likeRegexTail subject ts) (likeRegexTail subject ts') := by
  refine (stringLiteral_parallel h).bind fun text rest rest' hrest => ?_
  refine (patternFlags_parallel hrest).bind fun flags rest rest' hrest => ?_
  dsimp only
  split
  · exact .ok ⟨rfl, hrest⟩
  · exact complain_outcomes _ h

/-! ## One budget after the other -/

/-- What holds of every function of the parser within a budget. -/
structure ParallelAt (R : Position → Position → Prop) (fuel : Nat) : Prop where
  disjunction : ∀ {c ts ts'}, Alike R ts ts' →
    Parallel R (disjunction fuel c ts) (disjunction fuel c ts')
  disjuncts : ∀ {c ts ts'}, Alike R ts ts' →
    Parallel R (disjuncts fuel c ts) (disjuncts fuel c ts')
  conjunction : ∀ {c ts ts'}, Alike R ts ts' →
    Parallel R (conjunction fuel c ts) (conjunction fuel c ts')
  conjuncts : ∀ {c ts ts'}, Alike R ts ts' →
    Parallel R (conjuncts fuel c ts) (conjuncts fuel c ts')
  negation : ∀ {c ts ts'}, Alike R ts ts' →
    Parallel R (negation fuel c ts) (negation fuel c ts')
  groupTail : ∀ {c e ts ts'}, Alike R ts ts' →
    Parallel R (groupTail fuel c e ts) (groupTail fuel c e ts')
  simple : ∀ {c ts ts'}, Alike R ts ts' → Parallel R (simple fuel c ts) (simple fuel c ts')
  simpleTail : ∀ {c left ts ts'}, Alike R ts ts' →
    Parallel R (simpleTail fuel c left ts) (simpleTail fuel c left ts')
  sum : ∀ {c ts ts'}, Alike R ts ts' → Parallel R (sum fuel c ts) (sum fuel c ts')
  sumTail : ∀ {c left ts ts'}, Alike R ts ts' →
    Parallel R (sumTail fuel c left ts) (sumTail fuel c left ts')
  product : ∀ {c ts ts'}, Alike R ts ts' → Parallel R (product fuel c ts) (product fuel c ts')
  productTail : ∀ {c left ts ts'}, Alike R ts ts' →
    Parallel R (productTail fuel c left ts) (productTail fuel c left ts')
  signed : ∀ {c ts ts'}, Alike R ts ts' → Parallel R (signed fuel c ts) (signed fuel c ts')
  primary : ∀ {c ts ts'}, Alike R ts ts' → Parallel R (primary fuel c ts) (primary fuel c ts')
  pathTail : ∀ {c base ts ts'}, Alike R ts ts' →
    Parallel R (pathTail fuel c base ts) (pathTail fuel c base ts')
  bracketStep : ∀ {c ts ts'}, Alike R ts ts' →
    Parallel R (bracketStep fuel c ts) (bracketStep fuel c ts')
  subscripts : ∀ {c ts ts'}, Alike R ts ts' →
    Parallel R (subscripts fuel c ts) (subscripts fuel c ts')
  subscript : ∀ {c ts ts'}, Alike R ts ts' →
    Parallel R (subscript fuel c ts) (subscript fuel c ts')

theorem disjunction_parallel (ih : ParallelAt R fuel) (h : Alike R ts ts') :
    Parallel R (disjunction (fuel + 1) c ts) (disjunction (fuel + 1) c ts') := by
  rw [disjunction, disjunction]
  exact (ih.disjuncts h).bind fun operands rest rest' hrest => .ok ⟨rfl, hrest⟩

theorem disjuncts_parallel (ih : ParallelAt R fuel) (h : Alike R ts ts') :
    Parallel R (disjuncts (fuel + 1) c ts) (disjuncts (fuel + 1) c ts') := by
  rw [disjuncts, disjuncts]
  refine (ih.conjunction h).bind fun p rest rest' hrest => ?_
  dsimp only
  rw [hrest.next_eq]
  split
  · next hx =>
      exact (ih.disjuncts (hrest.tail hx rfl)).bind
        fun ps rest rest' hrest => .ok ⟨rfl, hrest⟩
  · exact .ok ⟨rfl, hrest⟩

theorem conjunction_parallel (ih : ParallelAt R fuel) (h : Alike R ts ts') :
    Parallel R (conjunction (fuel + 1) c ts) (conjunction (fuel + 1) c ts') := by
  rw [conjunction, conjunction]
  exact (ih.conjuncts h).bind fun operands rest rest' hrest => .ok ⟨rfl, hrest⟩

theorem conjuncts_parallel (ih : ParallelAt R fuel) (h : Alike R ts ts') :
    Parallel R (conjuncts (fuel + 1) c ts) (conjuncts (fuel + 1) c ts') := by
  rw [conjuncts, conjuncts]
  refine (ih.negation h).bind fun p rest rest' hrest => ?_
  dsimp only
  rw [hrest.next_eq]
  split
  · next hx =>
      exact (ih.conjuncts (hrest.tail hx rfl)).bind
        fun ps rest rest' hrest => .ok ⟨rfl, hrest⟩
  · exact .ok ⟨rfl, hrest⟩

theorem negation_parallel (ih : ParallelAt R fuel) (h : Alike R ts ts') :
    Parallel R (negation (fuel + 1) c ts) (negation (fuel + 1) c ts') := by
  rw [negation, negation, h.next_eq]
  split
  · next hx =>
      exact (ih.negation (h.tail hx rfl)).bind fun p rest rest' hrest => .ok ⟨rfl, hrest⟩
  · next hx =>
      refine (ih.disjunction (h.tail hx rfl)).bind fun p rest rest' hrest => ?_
      refine (expect_outcomes .closeParen rfl hrest).bind fun rest rest' hrest => ?_
      rw [hrest.next_eq]
      split
      · next his => exact expect_parallel rfl (hrest.tail his rfl)
      · split
        · exact ih.groupTail hrest
        · exact .ok ⟨rfl, hrest⟩
  · exact ih.simple h

theorem groupTail_parallel (ih : ParallelAt R fuel) {e : Expr} (h : Alike R ts ts') :
    Parallel R (groupTail (fuel + 1) c e ts) (groupTail (fuel + 1) c e ts') := by
  rw [groupTail, groupTail]
  refine (ih.pathTail h).bind fun e rest rest' hrest => ?_
  refine (ih.productTail hrest).bind fun e rest rest' hrest => ?_
  refine (ih.sumTail hrest).bind fun e rest rest' hrest => ?_
  exact ih.simpleTail hrest

theorem simple_parallel (ih : ParallelAt R fuel) (h : Alike R ts ts') :
    Parallel R (simple (fuel + 1) c ts) (simple (fuel + 1) c ts') := by
  rw [simple, simple, h.next_eq, h.peek_eq]
  split
  · next hx =>
      have hinside := (h.tail hx.1 rfl).tail hx.2 rfl
      exact (ih.sum hinside).bind fun e rest rest' hrest => expect_parallel rfl hrest
  · exact (ih.sum h).bind fun e rest rest' hrest => ih.simpleTail hrest

theorem simpleTail_parallel (ih : ParallelAt R fuel) {left : Expr} (h : Alike R ts ts') :
    Parallel R (simpleTail (fuel + 1) c left ts) (simpleTail (fuel + 1) c left ts') := by
  rw [simpleTail, simpleTail, h.next_eq]
  split
  · next hop =>
      have hend := comparing_ne_end (comparison?_eq_some_iff.1 hop)
      have hrest := h.tail rfl (Token.isEnd_eq_false_iff.2 hend)
      exact (ih.sum hrest).bind fun right rest rest' hrest => .ok ⟨rfl, hrest⟩
  · split
    · next hx => exact startsWithTail_parallel _ (h.tail hx rfl)
    · next hx => exact likeRegexTail_parallel _ (h.tail hx rfl)
    · exact .ok ⟨rfl, h⟩

theorem sum_parallel (ih : ParallelAt R fuel) (h : Alike R ts ts') :
    Parallel R (sum (fuel + 1) c ts) (sum (fuel + 1) c ts') := by
  rw [sum, sum]
  exact (ih.product h).bind fun left rest rest' hrest => ih.sumTail hrest

theorem sumTail_parallel (ih : ParallelAt R fuel) {left : Expr} (h : Alike R ts ts') :
    Parallel R (sumTail (fuel + 1) c left ts) (sumTail (fuel + 1) c left ts') := by
  rw [sumTail, sumTail, h.next_eq]
  split
  · exact .ok ⟨rfl, h⟩
  · next hop =>
      have hend := additive_ne_end (additive?_eq_some_iff.1 hop)
      have hrest := h.tail rfl (Token.isEnd_eq_false_iff.2 hend)
      exact (ih.product hrest).bind fun right rest rest' hrest => ih.sumTail hrest

theorem product_parallel (ih : ParallelAt R fuel) (h : Alike R ts ts') :
    Parallel R (product (fuel + 1) c ts) (product (fuel + 1) c ts') := by
  rw [product, product]
  exact (ih.signed h).bind fun left rest rest' hrest => ih.productTail hrest

theorem productTail_parallel (ih : ParallelAt R fuel) {left : Expr} (h : Alike R ts ts') :
    Parallel R (productTail (fuel + 1) c left ts) (productTail (fuel + 1) c left ts') := by
  rw [productTail, productTail, h.next_eq]
  split
  · exact .ok ⟨rfl, h⟩
  · next hop =>
      have hend := multiplicative_ne_end (multiplicative?_eq_some_iff.1 hop)
      have hrest := h.tail rfl (Token.isEnd_eq_false_iff.2 hend)
      exact (ih.signed hrest).bind fun right rest rest' hrest => ih.productTail hrest

theorem signed_parallel (ih : ParallelAt R fuel) (h : Alike R ts ts') :
    Parallel R (signed (fuel + 1) c ts) (signed (fuel + 1) c ts') := by
  rw [signed, signed, h.next_eq]
  split
  · next hop =>
      have hend := sign_ne_end (sign?_eq_some_iff.1 hop)
      have hrest := h.tail rfl (Token.isEnd_eq_false_iff.2 hend)
      exact (ih.signed hrest).bind fun operand rest rest' hrest => .ok ⟨rfl, hrest⟩
  · exact (ih.primary h).bind fun e rest rest' hrest => ih.pathTail hrest

theorem primary_parallel (ih : ParallelAt R fuel) (h : Alike R ts ts') :
    Parallel R (primary (fuel + 1) c ts) (primary (fuel + 1) c ts') := by
  rw [primary, primary, h.next_eq]
  split
  · next hx =>
      exact (ih.sum (h.tail hx rfl)).bind
        fun e rest rest' hrest => expect_parallel rfl hrest
  · have hatom := atom?_rel (c := c) h
    generalize hx : atom? c ts = x at hatom ⊢
    generalize atom? c ts' = x' at hatom ⊢
    cases hatom with
    | none => exact unexpected_outcomes _ h
    | some houtcomes =>
        have hend : (next ts).isEnd = false := by
          rw [Token.isEnd_eq_false_iff]
          intro hend
          simp [atom?, hend] at hx
        exact houtcomes.bind fun e e' he => .ok ⟨he, h.tail rfl hend⟩

theorem pathTail_parallel (ih : ParallelAt R fuel) {base : Expr} (h : Alike R ts ts') :
    Parallel R (pathTail (fuel + 1) c base ts) (pathTail (fuel + 1) c base ts') := by
  rw [pathTail, pathTail, h.next_eq]
  split
  · next hx =>
      exact (dotStep_parallel (h.tail hx rfl)).bind
        fun step rest rest' hrest => ih.pathTail hrest
  · next hx =>
      exact (ih.bracketStep (h.tail hx rfl)).bind
        fun step rest rest' hrest => ih.pathTail hrest
  · next hx =>
      have hrest := h.tail hx rfl
      refine (expect_outcomes .openParen rfl hrest).bind fun inside inside' hinside => ?_
      refine (ih.disjunction hinside).bind fun p rest rest' hrest => ?_
      exact (expect_outcomes .closeParen rfl hrest).bind fun rest rest' hrest => ih.pathTail hrest
  · exact .ok ⟨rfl, h⟩

theorem bracketStep_parallel (ih : ParallelAt R fuel) (h : Alike R ts ts') :
    Parallel R (bracketStep (fuel + 1) c ts) (bracketStep (fuel + 1) c ts') := by
  rw [bracketStep, bracketStep, h.next_eq, h.peek_eq]
  split
  · next hx => exact .ok ⟨rfl, (h.tail hx.1 rfl).tail hx.2 rfl⟩
  · exact (ih.subscripts h).bind fun subs rest rest' hrest => expect_parallel rfl hrest

theorem subscripts_parallel (ih : ParallelAt R fuel) (h : Alike R ts ts') :
    Parallel R (subscripts (fuel + 1) c ts) (subscripts (fuel + 1) c ts') := by
  rw [subscripts, subscripts]
  refine (ih.subscript h).bind fun sub rest rest' hrest => ?_
  dsimp only
  rw [hrest.next_eq]
  split
  · next hx =>
      exact (ih.subscripts (hrest.tail hx rfl)).bind
        fun subs rest rest' hrest => .ok ⟨rfl, hrest⟩
  · exact .ok ⟨rfl, hrest⟩

theorem subscript_parallel (ih : ParallelAt R fuel) (h : Alike R ts ts') :
    Parallel R (subscript (fuel + 1) c ts) (subscript (fuel + 1) c ts') := by
  rw [subscript, subscript]
  refine (ih.sum h).bind fun low rest rest' hrest => ?_
  dsimp only
  rw [hrest.next_eq]
  split
  · next hx =>
      exact (ih.sum (hrest.tail hx rfl)).bind fun high rest rest' hrest => .ok ⟨rfl, hrest⟩
  · exact .ok ⟨rfl, hrest⟩

theorem parallelAt (R : Position → Position → Prop) (fuel : Nat) : ParallelAt R fuel := by
  induction fuel with
  | zero =>
      constructor <;>
        · intros
          simp only [disjunction, disjuncts, conjunction, conjuncts, negation, groupTail, simple,
            simpleTail, sum, sumTail, product, productTail, signed, primary, pathTail, bracketStep,
            subscripts, subscript]
          exact complain_outcomes _ ‹_›
  | succ fuel ih =>
      exact {
        disjunction := disjunction_parallel ih
        disjuncts := disjuncts_parallel ih
        conjunction := conjunction_parallel ih
        conjuncts := conjuncts_parallel ih
        negation := negation_parallel ih
        groupTail := groupTail_parallel ih
        simple := simple_parallel ih
        simpleTail := simpleTail_parallel ih
        sum := sum_parallel ih
        sumTail := sumTail_parallel ih
        product := product_parallel ih
        productTail := productTail_parallel ih
        signed := signed_parallel ih
        primary := primary_parallel ih
        pathTail := pathTail_parallel ih
        bracketStep := bracketStep_parallel ih
        subscripts := subscripts_parallel ih
        subscript := subscript_parallel ih }

/-! ## Statements -/

theorem Alike.budget_eq (h : Alike R ts ts') : budget ts' = budget ts := by
  have hlength : ts'.length = ts.length := by
    induction h with
    | last _ _ => rfl
    | cons _ _ ih => simp only [List.length_cons, ih]
  rw [budget, budget, hlength]

theorem mode_parts (h : Alike R ts ts') : Parts R (mode ts) (mode ts') := by
  rw [mode, mode, h.next_eq]
  split
  · next hx => exact ⟨rfl, h.tail hx rfl⟩
  · next hx => exact ⟨rfl, h.tail hx rfl⟩
  · exact ⟨rfl, h⟩

/-- The statements read from like tokens are equal.  If there is none, the complaints are
equal, and they are about the same token. -/
theorem parse_outcomes (h : Alike R ts ts') : Outcomes R Eq (parse ts) (parse ts') := by
  obtain ⟨hmode, hinside⟩ := mode_parts h
  simp only [parse, h.budget_eq, ← hmode]
  refine ((parallelAt R _).disjunction hinside).bind fun p rest rest' hrest => ?_
  dsimp only
  rw [hrest.next_eq]
  split
  · exact .ok rfl
  · exact unexpected_outcomes _ hrest

/-! ## The token of a complaint -/

/-- The places of one token, counted from the first, in two sources. -/
def Corresponding (ts ts' : Tokens) (p p' : Position) : Prop :=
  ∃ (i : Nat) (t t' : SourceToken),
    ts[i]? = some t ∧ ts'[i]? = some t' ∧ p = t.position ∧ p' = t'.position

theorem Alike.corresponding (h : Alike R ts ts') : Alike (Corresponding ts ts') ts ts' := by
  induction h with
  | last h hend => exact .last ⟨h.token_eq, h.image_eq, 0, _, _, rfl, rfl, rfl, rfl⟩ hend
  | cons h _ ih =>
      refine .cons ⟨h.token_eq, h.image_eq, 0, _, _, rfl, rfl, rfl, rfl⟩ (ih.mono ?_)
      rintro p p' ⟨i, t, t', ht, ht', hp, hp'⟩
      exact ⟨i + 1, t, t', ht, ht', hp, hp'⟩

/-- A complaint of the parser is about a token. -/
theorem parse_error_place {e : SyntaxError} (h : Alike R ts ts') (herror : parse ts = .error e) :
    ∃ t ∈ ts, e.position = t.position := by
  have houtcomes := parse_outcomes h.corresponding
  rw [herror] at houtcomes
  generalize parse ts' = y at houtcomes
  cases houtcomes with
  | error h =>
      obtain ⟨i, t, -, ht, -, hp, -⟩ := h
      exact ⟨t, List.mem_of_getElem? ht, hp⟩

end Parser

end JsonPath
