import JsonPath.Proofs.Parsing.Exactness
import JsonPath.Proofs.Parsing.Progress
import JsonPath.Proofs.Pattern.Literal

/-!
# What stands before an unexpected token can be completed

When the parser does not expect the next token, the tokens before it are the beginning of a
phrase of the grammar.

* `Viable` are the beginnings of phrases.
* `FailsBehind` says of a result that a token it does not expect stands behind the beginning
  of a phrase.  `FailsBehind.inside` passes this on from a part to the whole.
* `ViableAt` states the property of every function for one budget; it passes from each budget
  to the next, one lemma for each function.
* `viable_of_parse` is the result for statements.
-/

namespace JsonPath

open Grammar

namespace Parser

/-! ## Beginnings of phrases -/

/-- The tokens can be completed to a phrase whose references are in place. -/
def Viable (n : Nonterminal) (c : Nesting) (xs : List Token) : Prop :=
  ∃ us t, Derives n (xs ++ us) t ∧ n.Scoped c t

/-- A pattern that flags follow is one at least if it is taken literally. -/
def Quotable (xs : List Token) : Prop :=
  ∀ text, [.word "like_regex", .string text, .word "flag"] <:+: xs →
    ∃ pattern, LikePattern.read text "q" = .ok pattern

theorem Quotable.of_infix {xs ys : List Token} (h : Quotable ys) (hxs : xs <:+: ys) :
    Quotable xs :=
  fun text htext => h text (htext.trans hxs)

theorem Viable.of_derives {n : Nonterminal} {c : Nesting} {xs : List Token} {t : n.Tree}
    (d : Derives n xs t) (s : n.Scoped c t) : Viable n c xs :=
  ⟨[], t, by rwa [List.append_nil], s⟩

theorem Viable.of_append {n : Nonterminal} {c : Nesting} {xs us : List Token}
    (h : Viable n c (xs ++ us)) : Viable n c xs := by
  obtain ⟨vs, t, d, s⟩ := h
  exact ⟨us ++ vs, t, by rwa [← List.append_assoc], s⟩

/-- One more token behind a phrase. -/
theorem Begins.snoc {ts rest : Tokens} {xs : List Token} {x : Token} (h : Begins ts xs rest)
    (hx : next rest = x) (hend : x.isEnd = false) : Begins ts (xs ++ [x]) rest.tail :=
  h.append (.one hx (Token.isEnd_eq_false_iff.1 hend))

/-! ## Failing behind the beginning of a phrase -/

/-- A token that is not expected stands behind the beginning of a phrase. -/
def FailsBehind (n : Nonterminal) (c : Nesting) (ts : Tokens) {α : Type}
    (x : Except SyntaxError α) : Prop :=
  ∀ expected found place, x = .error ⟨.unexpectedToken expected found, place⟩ →
    ∃ xs rest, Begins ts xs rest ∧ place = (first rest).position ∧ (Quotable xs → Viable n c xs)

namespace FailsBehind

variable {n n' : Nonterminal} {c c' : Nesting} {ts mid rest : Tokens} {xs ys : List Token}
  {α β : Type} {x : Except SyntaxError α}

theorem ok (a : α) : FailsBehind n c ts (.ok a) := by
  rintro _ _ _ ⟨⟩

theorem unexpected (hb : Begins ts xs rest) (hv : Viable n c xs) (expected : Expectation) :
    FailsBehind n c ts (unexpected expected rest : Except SyntaxError α) := by
  rintro _ _ _ ⟨⟩
  exact ⟨xs, rest, hb, rfl, fun _ => hv⟩

theorem expect {token : Token} {expected : Expectation} (hb : Begins ts xs rest)
    (hv : Viable n c xs) : FailsBehind n c ts (expect token expected rest) := by
  unfold Parser.expect
  split
  · exact ok _
  · exact unexpected hb hv _

theorem bind {f : α → Except SyntaxError β} (hx : FailsBehind n c ts x)
    (hf : ∀ a, x = .ok a → FailsBehind n c ts (f a)) : FailsBehind n c ts (x >>= f) := by
  intro expected found place h
  cases x with
  | error e =>
      cases h
      exact hx expected found place rfl
  | ok a => exact hf a rfl expected found place h

/-- A part of a phrase, behind what stands before the part. -/
theorem inside (h : FailsBehind n' c' mid x) (hb : Begins ts ys mid)
    (hv : ∀ us t, Derives n' us t → n'.Scoped c' t → Viable n c (ys ++ us)) :
    FailsBehind n c ts x := by
  intro expected found place hx
  obtain ⟨xs, rest, hxs, hplace, hviable⟩ := h expected found place hx
  refine ⟨ys ++ xs, rest, hb.append hxs, hplace, fun hq => ?_⟩
  obtain ⟨us, t, d, s⟩ := hviable (hq.of_infix (List.suffix_append ys xs).isInfix)
  have hwhole : Viable n c (ys ++ xs ++ us) := by
    rw [List.append_assoc]
    exact hv _ t d s
  exact hwhole.of_append

/-- The first part of a phrase. -/
theorem front (h : FailsBehind n' c' ts x)
    (hv : ∀ us t, Derives n' us t → n'.Scoped c' t → Viable n c us) : FailsBehind n c ts x :=
  h.inside (.nil ts) hv

end FailsBehind

/-- What holds of every function of the parser within a budget.  A function that continues an
operand is told from which tokens the operand was read. -/
structure ViableAt (fuel : Nat) : Prop where
  disjunction : ∀ {c ts}, FailsBehind .disjunction c ts (disjunction fuel c ts)
  disjuncts : ∀ {c ts}, FailsBehind .disjuncts c ts (disjuncts fuel c ts)
  conjunction : ∀ {c ts}, FailsBehind .conjunction c ts (conjunction fuel c ts)
  conjuncts : ∀ {c ts}, FailsBehind .conjuncts c ts (conjuncts fuel c ts)
  negation : ∀ {c ts}, FailsBehind .negation c ts (negation fuel c ts)
  groupTail : ∀ {c e start ts}, Reads .primary c start e ts →
    FailsBehind .simple c start (groupTail fuel c e ts)
  simple : ∀ {c ts}, FailsBehind .simple c ts (simple fuel c ts)
  simpleTail : ∀ {c left start ts}, Reads .sum c start left ts →
    FailsBehind .simple c start (simpleTail fuel c left ts)
  sum : ∀ {c ts}, FailsBehind .sum c ts (sum fuel c ts)
  sumTail : ∀ {c left ts}, FailsBehind .terms c ts (sumTail fuel c left ts)
  product : ∀ {c ts}, FailsBehind .product c ts (product fuel c ts)
  productTail : ∀ {c left ts}, FailsBehind .factors c ts (productTail fuel c left ts)
  signed : ∀ {c ts}, FailsBehind .signed c ts (signed fuel c ts)
  primary : ∀ {c ts}, FailsBehind .primary c ts (primary fuel c ts)
  pathTail : ∀ {c base ts}, FailsBehind .accessors c ts (pathTail fuel c base ts)
  bracketStep : ∀ {c ts}, next ts = .openBracket →
    FailsBehind .accessor c ts (bracketStep fuel c ts.tail)
  subscripts : ∀ {c ts}, FailsBehind .subscripts c ts (subscripts fuel c ts)
  subscript : ∀ {c ts}, FailsBehind .subscript c ts (subscript fuel c ts)

variable {fuel : Nat} {c : Nesting} {ts start mid rest : Tokens} {xs us : List Token}

/-! ## Parts without expressions -/

theorem startsWithTail_viable {left : Expr} (hl : Reads .sum c start left ts)
    (hword : next ts = .word "starts") :
    FailsBehind .simple c start (startsWithTail left ts.tail) := by
  obtain ⟨xs, hxs, d, s⟩ := hl
  have hstarts := hxs.snoc hword rfl
  have hviable : Viable .simple c (xs ++ [.word "starts"] ++ [.word "with"]) :=
    ⟨[.string ""], .startsWith left (.string ""), by simpa using Derives.startsWith d (.string ""),
      s, trivial⟩
  unfold startsWithTail
  refine .bind (.expect hstarts hviable.of_append) fun rest hrest => ?_
  obtain ⟨hwith, rfl⟩ := expectWord_eq_ok_iff.1 hrest
  split
  · exact .ok _
  · exact .ok _
  · exact .unexpected (hstarts.snoc hwith rfl) hviable _

theorem stringLiteral_viable {n : Nonterminal} (hb : Begins start xs ts) (hv : Viable n c xs) :
    FailsBehind n c start (stringLiteral ts) := by
  unfold stringLiteral
  split
  · exact .ok _
  · exact .unexpected hb hv _

/-- A short text is a pattern if it is taken literally. -/
theorem exists_quoted {text : String}
    (h : (Regex.textBytes (LikePattern.sought text "q")).length ≤ Regex.textLimit) :
    ∃ pattern, LikePattern.read text "q" = .ok pattern := by
  have hletters : ∀ letter ∈ "q".toList, letter ∈ ['q', 's', 'm', 'x'] := by simp
  have hq : 'q' ∈ "q".toList := by simp
  rw [LikePattern.read_eq_of_literal hletters hq, if_pos h]
  exact ⟨_, rfl⟩

/-- Behind a pattern and the word for flags, a pattern that is taken literally is one. -/
theorem likeRegexTail_viable {left : Expr} (hl : Reads .sum c start left ts)
    (hword : next ts = .word "like_regex") :
    FailsBehind .simple c start (likeRegexTail left ts.tail) := by
  obtain ⟨xs, hxs, d, s⟩ := hl
  have hlike := hxs.snoc hword rfl
  unfold likeRegexTail
  refine .bind (stringLiteral_viable hlike ?_) ?_
  · obtain ⟨pattern, hpattern⟩ := @exists_quoted "" (by decide)
    exact ⟨[.string "", .word "flag", .string "q"], .likeRegex left pattern,
      by simpa using Derives.likeRegexFlag d hpattern, s⟩
  · rintro ⟨text, rest⟩ hrest
    obtain ⟨htext, rfl⟩ := stringLiteral_eq_ok_iff.1 hrest
    have hstring := hlike.snoc htext rfl
    refine .bind ?_ ?_
    · unfold patternFlags
      split
      · next hflag =>
          intro expected found place hx
          have hflags := hstring.snoc hflag rfl
          unfold stringLiteral at hx
          split at hx
          · cases hx
          · cases hx
            refine ⟨_, _, hflags, rfl, fun hquotable => ?_⟩
            obtain ⟨pattern, hpattern⟩ := hquotable text ⟨xs, [], by simp⟩
            exact ⟨[.string "q"], .likeRegex left pattern,
              by simpa using Derives.likeRegexFlag d hpattern, s⟩
      · exact .ok _
    · rintro ⟨flags, rest⟩ -
      dsimp only
      split
      · exact .ok _
      · rintro _ _ _ ⟨⟩

theorem methodStep_viable {name : String} (hdot : next ts = .dot)
    (hname : next ts.tail = .word name) (hopen : next ts.tail.tail = .openParen) :
    FailsBehind .accessor c ts (methodStep name ts.tail) := by
  have hinside := (((Begins.nil ts).snoc hdot rfl).snoc hname rfl).snoc hopen rfl
  unfold methodStep
  split
  · next hdate =>
      subst hdate
      dsimp only
      split
      · next template htemplate =>
          refine .bind (.expect (hinside.snoc htemplate rfl) ?_) fun _ _ => .ok _
          exact ⟨[.closeParen], _, .dateTimeTemplate template, trivial⟩
      · refine .bind (.expect hinside ?_) fun _ _ => .ok _
        exact ⟨[.closeParen], _, .dateTime, trivial⟩
  · split
    · rintro _ _ _ ⟨⟩
    · next m hm =>
        refine .bind (.expect hinside ?_) fun _ _ => .ok _
        exact ⟨[.closeParen], _, .method hm, trivial⟩

theorem dotStep_viable (hdot : next ts = .dot) :
    FailsBehind .accessor c ts (dotStep ts.tail) := by
  unfold dotStep
  split
  · exact .ok _
  · exact .ok _
  · next name hname =>
      split
      · next hopen => exact methodStep_viable hdot hname hopen
      · exact .ok _
  · exact .unexpected ((Begins.nil ts).snoc hdot rfl)
      ⟨[.star], _, .memberWildcard, trivial⟩ _

/-! ## One budget after the other -/

/-- An operand is a predicate. -/
theorem derives_condition {e : Expr} (d : Derives .sum xs e) :
    Derives .disjunction xs (.condition e) :=
  .alone (.lastDisjunct (.single (.lastConjunct (.plain (.condition d)))))

theorem disjunction_viable (ih : ViableAt fuel) :
    FailsBehind .disjunction c ts (disjunction (fuel + 1) c ts) := by
  rw [disjunction]
  refine .bind (ih.disjuncts.front fun us ps d s => ?_) fun _ _ => .ok _
  cases ps with
  | nil => cases d
  | cons p ps => cases ps with
    | nil => exact .of_derives (.alone d) s.1
    | cons q ps => exact .of_derives (.either d) s

theorem disjuncts_viable (ih : ViableAt fuel) :
    FailsBehind .disjuncts c ts (disjuncts (fuel + 1) c ts) := by
  rw [disjuncts]
  refine .bind (ih.conjunction.front fun us p d s => ?_) ?_
  · exact .of_derives (t := [p]) (.lastDisjunct d) ⟨s, trivial⟩
  · rintro ⟨p, rest⟩ hp
    obtain ⟨xs, hxs, d, s⟩ := (soundAt fuel).conjunction hp
    dsimp only
    split
    · next hor =>
        refine .bind (ih.disjuncts.inside (hxs.snoc hor rfl) fun us ps d' s' => ?_)
          fun _ _ => .ok _
        exact .of_derives (t := p :: ps) (by simpa using Derives.disjunct d d') ⟨s, s'⟩
    · exact .ok _

theorem conjunction_viable (ih : ViableAt fuel) :
    FailsBehind .conjunction c ts (conjunction (fuel + 1) c ts) := by
  rw [conjunction]
  refine .bind (ih.conjuncts.front fun us ps d s => ?_) fun _ _ => .ok _
  cases ps with
  | nil => cases d
  | cons p ps => cases ps with
    | nil => exact .of_derives (.single d) s.1
    | cons q ps => exact .of_derives (.both d) s

theorem conjuncts_viable (ih : ViableAt fuel) :
    FailsBehind .conjuncts c ts (conjuncts (fuel + 1) c ts) := by
  rw [conjuncts]
  refine .bind (ih.negation.front fun us p d s => ?_) ?_
  · exact .of_derives (t := [p]) (.lastConjunct d) ⟨s, trivial⟩
  · rintro ⟨p, rest⟩ hp
    obtain ⟨xs, hxs, d, s⟩ := (soundAt fuel).negation hp
    dsimp only
    split
    · next hand =>
        refine .bind (ih.conjuncts.inside (hxs.snoc hand rfl) fun us ps d' s' => ?_)
          fun _ _ => .ok _
        exact .of_derives (t := p :: ps) (by simpa using Derives.conjunct d d') ⟨s, s'⟩
    · exact .ok _

/-- In a group that has been read, the tokens are those of a predicate, and also those of an
operand if it is only an expression. -/
theorem negation_viable (ih : ViableAt fuel) :
    FailsBehind .negation c ts (negation (fuel + 1) c ts) := by
  rw [negation]
  split
  · next hnot =>
      refine .bind (ih.negation.inside ((Begins.nil ts).snoc hnot rfl) fun us p d s => ?_)
        fun _ _ => .ok _
      exact .of_derives (.not d) s
  · next hopen =>
      have hinside := (Begins.nil ts).snoc hopen rfl
      refine .bind (ih.disjunction.inside hinside fun us p d s => ?_) ?_
      · exact ⟨[.closeParen], p, .group d, s⟩
      · rintro ⟨p, mid⟩ hp
        obtain ⟨xs, hxs, d, s⟩ := (soundAt fuel).disjunction hp
        have hxs := hinside.append hxs
        refine .bind (.expect hxs ⟨[.closeParen], p, .group d, s⟩) fun rest hrest => ?_
        obtain ⟨hclose, rfl⟩ := expect_eq_ok_iff.1 hrest
        have hgroup := hxs.snoc hclose rfl
        split
        · next his =>
            refine .bind (.expect (hgroup.snoc his rfl) ?_) fun _ _ => .ok _
            exact ⟨[.word "unknown"], .isUnknown p, by simpa using Derives.unknown d, s⟩
        · cases p with
          | condition e =>
              have he : Reads .primary c ts e mid.tail :=
                ⟨_, hgroup, .parenthesised (Derives.sum_of_disjunction d), s⟩
              exact (ih.groupTail he).front fun us p d s => .of_derives (.plain d) s
          | _ => exact .ok _
  · exact ih.simple.front fun us p d s => .of_derives (.plain d) s

/-- Up to some point the tokens are an operand, and the rest of them begins what continues
it. -/
theorem groupTail_viable (ih : ViableAt fuel) {e : Expr} (he : Reads .primary c start e ts) :
    FailsBehind .simple c start (groupTail (fuel + 1) c e ts) := by
  rw [groupTail]
  obtain ⟨xs, hxs, d, s⟩ := he
  refine .bind (ih.pathTail.inside hxs fun us steps d' s' => ?_) ?_
  · have hpath := Derives.sum_of_path (.path d d')
    exact .of_derives (.condition hpath) ((walk_scoped _ _).2 ⟨s, s'⟩)
  · rintro ⟨e₁, ts₁⟩ h₁
    obtain ⟨steps, rfl, hsteps⟩ := (soundAt fuel).pathTail h₁
    have hsigned := Reads.walk_accessors ⟨xs, hxs, d, s⟩ hsteps
    obtain ⟨ys, hys, d, s⟩ := hsigned
    refine .bind (ih.productTail.inside hys fun us factors d' s' => ?_) ?_
    · have hsum := Derives.sum (.product d d') .noTerm
      rw [List.append_nil] at hsum
      exact .of_derives (t := .condition (chain (walk e steps) factors)) (.condition hsum)
        ((chain_scoped _ _).2 ⟨s, s'⟩)
    · rintro ⟨e₂, ts₂⟩ h₂
      obtain ⟨factors, rfl, hfactors⟩ := (soundAt fuel).productTail h₂
      have hproduct := Reads.chain_factors ⟨ys, hys, d, s⟩ hfactors
      obtain ⟨zs, hzs, d, s⟩ := hproduct
      refine .bind (ih.sumTail.inside hzs fun us terms d' s' => ?_) ?_
      · exact .of_derives (.condition (.sum d d')) ((chain_scoped _ _).2 ⟨s, s'⟩)
      · rintro ⟨e₃, ts₃⟩ h₃
        obtain ⟨terms, rfl, hterms⟩ := (soundAt fuel).sumTail h₃
        exact ih.simpleTail (Reads.chain_terms ⟨zs, hzs, d, s⟩ hterms)

theorem simple_viable (ih : ViableAt fuel) :
    FailsBehind .simple c ts (simple (fuel + 1) c ts) := by
  rw [simple]
  split
  · next hexists =>
      have hinside := ((Begins.nil ts).snoc hexists.1 rfl).snoc hexists.2 rfl
      refine .bind (ih.sum.inside hinside fun us e d s => ?_) ?_
      · exact ⟨[.closeParen], _, .existence d, s⟩
      · rintro ⟨e, mid⟩ he
        obtain ⟨xs, hxs, d, s⟩ := (soundAt fuel).sum he
        refine .bind (.expect (hinside.append hxs) ?_) fun _ _ => .ok _
        exact ⟨[.closeParen], _, .existence d, s⟩
  · refine .bind (ih.sum.front fun us e d s => .of_derives (.condition d) s) ?_
    rintro ⟨e, mid⟩ he
    exact ih.simpleTail ((soundAt fuel).sum he)

theorem simpleTail_viable (ih : ViableAt fuel) {left : Expr} (hl : Reads .sum c start left ts) :
    FailsBehind .simple c start (simpleTail (fuel + 1) c left ts) := by
  rw [simpleTail]
  split
  · next op hop =>
      obtain ⟨xs, hxs, d, s⟩ := hl
      have hop := comparison?_eq_some_iff.1 hop
      have hoperator := hxs.append (.one rfl (comparing_ne_end hop))
      refine .bind (ih.sum.inside hoperator fun us right d' s' => ?_) fun _ _ => .ok _
      exact .of_derives (t := .compare op left right) (by simpa using Derives.compare d hop d')
        ⟨s, s'⟩
  · split
    · next hword => exact startsWithTail_viable hl hword
    · next hword => exact likeRegexTail_viable hl hword
    · exact .ok _

theorem sum_viable (ih : ViableAt fuel) : FailsBehind .sum c ts (sum (fuel + 1) c ts) := by
  rw [sum]
  refine .bind (ih.product.front fun us e d s => ?_) ?_
  · exact .of_append (.of_derives (.sum d .noTerm) s)
  · rintro ⟨left, mid⟩ hl
    obtain ⟨xs, hxs, d, s⟩ := (soundAt fuel).product hl
    refine ih.sumTail.inside hxs fun us operands d' s' => ?_
    exact .of_derives (.sum d d') ((chain_scoped _ _).2 ⟨s, s'⟩)

theorem sumTail_viable (ih : ViableAt fuel) {left : Expr} :
    FailsBehind .terms c ts (sumTail (fuel + 1) c left ts) := by
  rw [sumTail]
  split
  · exact .ok _
  · next op hop =>
      have hop := additive?_eq_some_iff.1 hop
      have hoperator := Begins.one rfl (additive_ne_end hop)
      refine .bind (ih.product.inside hoperator fun us right d s => ?_) ?_
      · exact .of_append (.of_derives (t := [(op, right)]) (.term hop d .noTerm)
          (List.forall_mem_singleton.2 s))
      · rintro ⟨right, mid⟩ hr
        obtain ⟨xs, hxs, d, s⟩ := (soundAt fuel).product hr
        refine ih.sumTail.inside (hoperator.append hxs) fun us operands d' s' => ?_
        exact .of_derives (t := (op, right) :: operands) (.term hop d d')
          (List.forall_mem_cons.2 ⟨s, s'⟩)

theorem product_viable (ih : ViableAt fuel) :
    FailsBehind .product c ts (product (fuel + 1) c ts) := by
  rw [product]
  refine .bind (ih.signed.front fun us e d s => ?_) ?_
  · exact .of_append (.of_derives (.product d .noFactor) s)
  · rintro ⟨left, mid⟩ hl
    obtain ⟨xs, hxs, d, s⟩ := (soundAt fuel).signed hl
    refine ih.productTail.inside hxs fun us operands d' s' => ?_
    exact .of_derives (.product d d') ((chain_scoped _ _).2 ⟨s, s'⟩)

theorem productTail_viable (ih : ViableAt fuel) {left : Expr} :
    FailsBehind .factors c ts (productTail (fuel + 1) c left ts) := by
  rw [productTail]
  split
  · exact .ok _
  · next op hop =>
      have hop := multiplicative?_eq_some_iff.1 hop
      have hoperator := Begins.one rfl (multiplicative_ne_end hop)
      refine .bind (ih.signed.inside hoperator fun us right d s => ?_) ?_
      · exact .of_append (.of_derives (t := [(op, right)]) (.factor hop d .noFactor)
          (List.forall_mem_singleton.2 s))
      · rintro ⟨right, mid⟩ hr
        obtain ⟨xs, hxs, d, s⟩ := (soundAt fuel).signed hr
        refine ih.productTail.inside (hoperator.append hxs) fun us operands d' s' => ?_
        exact .of_derives (t := (op, right) :: operands) (.factor hop d d')
          (List.forall_mem_cons.2 ⟨s, s'⟩)

theorem signed_viable (ih : ViableAt fuel) :
    FailsBehind .signed c ts (signed (fuel + 1) c ts) := by
  rw [signed]
  split
  · next op hop =>
      have hop := sign?_eq_some_iff.1 hop
      have hsign := Begins.one rfl (sign_ne_end hop)
      refine .bind (ih.signed.inside hsign fun us operand d s => ?_) fun _ _ => .ok _
      exact .of_derives (t := .signed op operand) (.sign hop d) s
  · refine .bind (ih.primary.front fun us base d s => ?_) ?_
    · exact .of_append (.of_derives (.unsigned (.path d .noAccessor)) s)
    · rintro ⟨base, mid⟩ hb
      obtain ⟨xs, hxs, d, s⟩ := (soundAt fuel).primary hb
      refine ih.pathTail.inside hxs fun us steps d' s' => ?_
      exact .of_derives (.unsigned (.path d d')) ((walk_scoped _ _).2 ⟨s, s'⟩)

theorem primary_viable (ih : ViableAt fuel) :
    FailsBehind .primary c ts (primary (fuel + 1) c ts) := by
  rw [primary]
  split
  · next hopen =>
      have hinside := (Begins.nil ts).snoc hopen rfl
      refine .bind (ih.sum.inside hinside fun us e d s => ?_) ?_
      · exact ⟨[.closeParen], e, .parenthesised d, s⟩
      · rintro ⟨e, mid⟩ he
        obtain ⟨xs, hxs, d, s⟩ := (soundAt fuel).sum he
        refine .bind (.expect (hinside.append hxs) ?_) fun _ _ => .ok _
        exact ⟨[.closeParen], e, .parenthesised d, s⟩
  · split
    · next atom hatom =>
        -- a reference in the wrong place is objected to
        refine .bind (fun expected found place h => ?_) fun _ _ => .ok _
        rw [h] at hatom
        cases atom?_isObjection hatom
    · have hviable : Viable .primary c [] := ⟨[.dollar], Expr.root, .atom .root, trivial⟩
      exact .unexpected (.nil ts) hviable _

theorem pathTail_viable (ih : ViableAt fuel) {base : Expr} :
    FailsBehind .accessors c ts (pathTail (fuel + 1) c base ts) := by
  have front : ∀ us step, Derives .accessor us step → step.Scoped c → Viable .accessors c us := by
    intro us step d s
    exact .of_append (.of_derives (t := [step]) (.accessor d .noAccessor)
      (List.forall_mem_singleton.2 s))
  have more : ∀ {step mid}, Reads .accessor c ts step mid →
      FailsBehind .accessors c ts (pathTail fuel c (.access base step) mid) := by
    rintro step mid ⟨xs, hxs, d, s⟩
    refine ih.pathTail.inside hxs fun us steps d' s' => ?_
    exact .of_derives (t := step :: steps) (.accessor d d') (List.forall_mem_cons.2 ⟨s, s'⟩)
  rw [pathTail]
  split
  · next hdot =>
      refine .bind ((dotStep_viable hdot).front front) ?_
      rintro ⟨step, mid⟩ hs
      exact more (dotStep_sound hdot hs)
  · next hbracket =>
      refine .bind ((ih.bracketStep hbracket).front front) ?_
      rintro ⟨step, mid⟩ hs
      exact more ((soundAt fuel).bracketStep hbracket hs)
  · next hquestion =>
      have hquestion := (Begins.nil ts).snoc hquestion rfl
      have inside : ∀ us p, Derives .disjunction us p → p.Scoped { c with inFilter := true } →
          Viable .accessors c ([.question, .openParen] ++ us) :=
        fun us p d s => (front _ _ (.filter d) s).of_append
      refine .bind (.expect hquestion ?_) fun rest hrest => ?_
      · have hroot := derives_condition (.sum_of_primary (.atom .root))
        have hfilter : Viable .accessors c ([.question] ++ [.openParen, .dollar, .closeParen]) :=
          front _ _ (.filter hroot) trivial
        exact hfilter.of_append
      · obtain ⟨hopen, rfl⟩ := expect_eq_ok_iff.1 hrest
        have hinside := hquestion.snoc hopen rfl
        refine .bind (ih.disjunction.inside hinside inside) ?_
        rintro ⟨p, mid⟩ hp
        obtain ⟨xs, hxs, d, s⟩ := (soundAt fuel).disjunction hp
        have hxs := hinside.append hxs
        refine .bind (.expect hxs (inside xs p d s)) fun rest hrest => ?_
        obtain ⟨hclose, rfl⟩ := expect_eq_ok_iff.1 hrest
        exact more ⟨_, hxs.snoc hclose rfl, .filter d, s⟩
  · exact .ok _

theorem bracketStep_viable (ih : ViableAt fuel) (hbracket : next ts = .openBracket) :
    FailsBehind .accessor c ts (bracketStep (fuel + 1) c ts.tail) := by
  have hinside := (Begins.nil ts).snoc hbracket rfl
  rw [bracketStep]
  split
  · exact .ok _
  · refine .bind (ih.subscripts.inside hinside fun us subs d s => ?_) ?_
    · exact ⟨[.closeBracket], _, .subscripted d, s⟩
    · rintro ⟨subs, mid⟩ hsubs
      obtain ⟨xs, hxs, d, s⟩ := (soundAt fuel).subscripts hsubs
      refine .bind (.expect (hinside.append hxs) ?_) fun _ _ => .ok _
      exact ⟨[.closeBracket], _, .subscripted d, s⟩

theorem subscripts_viable (ih : ViableAt fuel) :
    FailsBehind .subscripts c ts (subscripts (fuel + 1) c ts) := by
  rw [subscripts]
  refine .bind (ih.subscript.front fun us sub d s => ?_) ?_
  · exact .of_derives (t := [sub]) (.lastSubscript d) ⟨s, trivial⟩
  · rintro ⟨sub, mid⟩ hsub
    obtain ⟨xs, hxs, d, s⟩ := (soundAt fuel).subscript hsub
    dsimp only
    split
    · next hcomma =>
        refine .bind (ih.subscripts.inside (hxs.snoc hcomma rfl) fun us subs d' s' => ?_)
          fun _ _ => .ok _
        exact .of_derives (t := sub :: subs) (by simpa using Derives.subscript d d') ⟨s, s'⟩
    · exact .ok _

theorem subscript_viable (ih : ViableAt fuel) :
    FailsBehind .subscript c ts (subscript (fuel + 1) c ts) := by
  rw [subscript]
  refine .bind (ih.sum.front fun us e d s => .of_derives (.indices d) s) ?_
  rintro ⟨low, mid⟩ hlow
  obtain ⟨xs, hxs, d, s⟩ := (soundAt fuel).sum hlow
  dsimp only
  split
  · next hto =>
      refine .bind (ih.sum.inside (hxs.snoc hto rfl) fun us high d' s' => ?_) fun _ _ => .ok _
      exact .of_derives (t := .range low high) (by simpa using Derives.range d d') ⟨s, s'⟩
  · exact .ok _

theorem viableAt (fuel : Nat) : ViableAt fuel := by
  induction fuel with
  | zero =>
      constructor <;>
        · intros
          intro expected found place h
          cases h
  | succ fuel ih =>
      exact {
        disjunction := disjunction_viable ih
        disjuncts := disjuncts_viable ih
        conjunction := conjunction_viable ih
        conjuncts := conjuncts_viable ih
        negation := negation_viable ih
        groupTail := groupTail_viable ih
        simple := simple_viable ih
        simpleTail := simpleTail_viable ih
        sum := sum_viable ih
        sumTail := sumTail_viable ih
        product := product_viable ih
        productTail := productTail_viable ih
        signed := signed_viable ih
        primary := primary_viable ih
        pathTail := pathTail_viable ih
        bracketStep := bracketStep_viable ih
        subscripts := subscripts_viable ih
        subscript := subscript_viable ih }

/-! ## Statements -/

theorem Begins.map_eq (h : Begins ts xs rest) :
    ts.map (·.token) = xs ++ rest.map (·.token) := by
  obtain ⟨phrase, rfl, rfl⟩ := h
  exact List.map_append

/-- The mode of a statement, with the body behind it. -/
theorem begins_mode (ts : Tokens) : ∃ ys, Begins ts ys (mode ts).2 ∧
    ∀ {us b}, DerivesBody us b → Statement (ys ++ us ++ [.endOfInput]) ((mode ts).1, b) := by
  unfold mode
  split
  · next hlax => exact ⟨[.word "lax"], (Begins.nil ts).snoc hlax rfl, .lax⟩
  · next hstrict => exact ⟨[.word "strict"], (Begins.nil ts).snoc hstrict rfl, .strict⟩
  · exact ⟨[], .nil ts, .unmarked⟩

/-- The tokens before one that is not expected are the beginning of a statement. -/
theorem viable_of_parse {expected : Expectation} {found : String} {place : Position}
    (hq : Quotable (ts.map (·.token)))
    (h : parse ts = .error ⟨.unexpectedToken expected found, place⟩) :
    ∃ xs rest us s, Begins ts xs rest ∧ place = (first rest).position ∧
      Statement (xs ++ us ++ [.endOfInput]) s ∧ s.2.Scoped := by
  obtain ⟨ys, hys, hstatement⟩ := begins_mode ts
  have complete {xs us : List Token} {rest : Tokens} {p : Predicate}
      (hxs : Begins (mode ts).2 xs rest) (d : Derives .disjunction (xs ++ us) p)
      (s : p.Scoped { inFilter := false, inSubscript := false }) :
      ∃ xs us s, Begins ts xs rest ∧ Statement (xs ++ us ++ [.endOfInput]) s ∧ s.2.Scoped := by
    have hwhole := hstatement (.predicate d)
    rw [← List.append_assoc] at hwhole
    exact ⟨ys ++ xs, us, _, hys.append hxs, hwhole, bodyOf_scoped.2 s⟩
  rw [parse] at h
  dsimp only at h
  cases hp : disjunction (budget ts) { inFilter := false, inSubscript := false } (mode ts).2 with
  | error e =>
      rw [hp] at h
      cases h
      obtain ⟨xs, rest, hxs, hplace, hviable⟩ := (viableAt _).disjunction _ _ _ hp
      have hinfix : xs <:+: ts.map (·.token) := ⟨ys, _, (hys.append hxs).map_eq.symm⟩
      obtain ⟨us, p, d, s⟩ := hviable (hq.of_infix hinfix)
      obtain ⟨zs, us, b, hzs, hstatement, hscoped⟩ := complete hxs d s
      exact ⟨zs, rest, us, b, hzs, hplace, hstatement, hscoped⟩
  | ok result =>
      obtain ⟨p, rest⟩ := result
      rw [hp] at h
      replace h : (if next rest = .endOfInput then _ else unexpected .endOfInput rest) = _ := h
      split at h
      · cases h
      · cases h
        obtain ⟨xs, hxs, d, s⟩ := (soundAt _).disjunction hp
        rw [← List.append_nil xs] at d
        obtain ⟨zs, us, b, hzs, hstatement, hscoped⟩ := complete hxs d s
        exact ⟨zs, rest, us, b, hzs, rfl, hstatement, hscoped⟩

end Parser

end JsonPath
