import JsonPath.Proofs.Parsing.Soundness

/-!
# What the grammar derives is read by the parser

On tokens that begin with a phrase and go on with a token that cannot continue
it, the function for that phrase returns its tree and leaves the rest.

* `opening` and `looseness` rank tokens by the phrases that they can begin and
  continue; they are the FIRST and FOLLOW sets of the grammar.
* `Complete` says of each nonterminal what its function does on a phrase, with a
  budget of sixteen calls for each token of the phrase and a few more.
* A predicate that begins with a parenthesis is the one place where the parser
  does not follow the derivation: it reads a group first and finds out
  afterwards that it was an operand.  `EntersGroup` says that an operand can be
  entered through the group it begins with, and `negation_of_group` that both
  ways lead to the same tree.
* `complete_of_derives` is the induction over derivations, one lemma for each
  production that takes a step of its own.
-/

namespace JsonPath

open Grammar

namespace Parser

/-! ## First tokens -/

/-- Ranks the tokens that a phrase can begin with: operands, signs, `exists`,
`!`, and the tokens that begin none. -/
def opening : Token → Nat
  | .openParen | .integer _ | .number _ | .string _ | .variable _ | .dollar | .at => 0
  | .word "true" | .word "false" | .word "null" | .word "last" => 0
  | .plus | .minus => 1
  | .word "exists" => 2
  | .exclamation => 3
  | _ => 4

theorem opening_of_sign {x : Token} {op : SignOp} (h : Sign x op) : opening x = 1 := by
  cases h <;> rfl

/-- The phrase `xs` is not empty and begins with a token of at most this rank. -/
def OpensWithin (rank : Nat) (xs : List Token) : Prop := ∃ x ys, xs = x :: ys ∧ opening x ≤ rank

/-- What each phrase can begin with.  An accessor is at least not empty; the
repetitions that are left out here may be. -/
def Opens : Nonterminal → List Token → Prop
  | .primary, xs | .path, xs => OpensWithin 0 xs
  | .signed, xs | .product, xs | .sum, xs | .subscript, xs | .subscripts, xs => OpensWithin 1 xs
  | .simple, xs => OpensWithin 2 xs
  | .negation, xs | .conjuncts, xs | .conjunction, xs | .disjuncts, xs | .disjunction, xs =>
      OpensWithin 3 xs
  | .accessor, xs => OpensWithin 4 xs
  | .terms, _ | .factors, _ | .accessors, _ => True

theorem OpensWithin.append {rank : Nat} {xs : List Token} (h : OpensWithin rank xs)
    (ys : List Token) : OpensWithin rank (xs ++ ys) := by
  obtain ⟨x, zs, rfl, hx⟩ := h
  exact ⟨x, zs ++ ys, rfl, hx⟩

theorem OpensWithin.mono {rank rank' : Nat} {xs : List Token} (h : OpensWithin rank xs)
    (hle : rank ≤ rank') : OpensWithin rank' xs := by
  obtain ⟨x, ys, hx, hr⟩ := h
  exact ⟨x, ys, hx, Nat.le_trans hr hle⟩

theorem OpensWithin.length_pos {rank : Nat} {xs : List Token} (h : OpensWithin rank xs) :
    0 < xs.length := by
  obtain ⟨x, ys, rfl, -⟩ := h
  exact Nat.succ_pos _

theorem opens_of_derives {n : Nonterminal} {xs : List Token} {t : n.Tree}
    (h : Derives n xs t) : Opens n xs := by
  induction h with
  | alone _ ih | either _ ih | lastDisjunct _ ih | single _ ih | both _ ih | lastConjunct _ ih
  | lastSubscript _ ih | indices _ ih => exact ih
  | plain _ ih => exact OpensWithin.mono ih (by decide)
  | condition _ ih | unsigned _ ih => exact OpensWithin.mono ih (by decide)
  | disjunct _ _ ih _ | conjunct _ _ ih _ | subscript _ _ ih _ | range _ _ ih _ | sum _ _ ih _
  | product _ _ ih _ | path _ _ ih _ => exact OpensWithin.append ih _
  | compare _ _ _ ih _ | startsWith _ _ ih | likeRegex _ _ ih | likeRegexFlag _ _ ih =>
      exact (OpensWithin.append ih _).mono (by decide)
  | not _ _ => exact ⟨_, _, rfl, Nat.le_refl 3⟩
  | group _ _ | unknown _ _ => exact ⟨_, _, rfl, Nat.zero_le 3⟩
  | existence _ _ => exact ⟨_, _, rfl, Nat.le_refl 2⟩
  | sign h _ _ => exact ⟨_, _, rfl, Nat.le_of_eq (opening_of_sign h)⟩
  | parenthesised _ _ => exact ⟨_, _, rfl, Nat.le_refl 0⟩
  | member _ | memberWildcard | elementWildcard | subscripted _ _ | filter _ _ | method _
  | dateTime | dateTimeTemplate _ => exact ⟨_, _, rfl, Nat.le_refl 4⟩
  | atom h => exact ⟨_, _, rfl, by cases h <;> exact Nat.le_refl 0⟩
  | _ => trivial

/-! ## Following tokens -/

/-- Ranks the tokens that can continue a phrase: `(` turns a member into a
method, then come accessors, the operators of products and of sums, what stands
between two sums, what joins subscripts or ends a group, `&&` and `||`.  The
tokens of the greatest rank continue nothing. -/
def looseness : Token → Nat
  | .openParen => 0
  | .dot | .openBracket | .question => 1
  | .star | .slash | .percent => 2
  | .plus | .minus => 3
  | .equal | .notEqual | .less | .lessEqual | .greater | .greaterEqual => 4
  | .word "starts" | .word "like_regex" | .word "flag" | .word "to" => 4
  | .comma | .word "is" => 5
  | .andAnd => 6
  | .orOr => 7
  | _ => 8

theorem looseness_of_comparing {x : Token} {op : Comparison} (h : Comparing x op) :
    looseness x = 4 := by
  cases h <;> rfl

theorem looseness_of_additive {x : Token} {op : ArithmeticOp} (h : Additive x op) :
    looseness x = 3 := by
  cases h <;> rfl

theorem looseness_of_multiplicative {x : Token} {op : ArithmeticOp} (h : Multiplicative x op) :
    looseness x = 2 := by
  cases h <;> rfl

namespace Begins

variable {ts rest : Tokens} {x : Token} {xs ys : List Token}

theorem eq (h : Begins ts [] rest) : ts = rest := by
  obtain ⟨phrase, rfl, hp⟩ := h
  simpa using hp

theorem next_eq (h : Begins ts (x :: xs) rest) : next ts = x := by
  obtain ⟨phrase, rfl, hp⟩ := h
  obtain ⟨t, phrase, rfl, ht, -⟩ := List.map_eq_cons_iff.1 hp
  exact ht

theorem tail (h : Begins ts (x :: xs) rest) : Begins ts.tail xs rest := by
  obtain ⟨phrase, rfl, hp⟩ := h
  obtain ⟨t, phrase, rfl, -, hp⟩ := List.map_eq_cons_iff.1 hp
  exact ⟨phrase, rfl, hp⟩

theorem split (h : Begins ts (xs ++ ys) rest) : ∃ mid, Begins ts xs mid ∧ Begins mid ys rest := by
  obtain ⟨phrase, rfl, hp⟩ := h
  obtain ⟨left, right, rfl, hl, hr⟩ := List.map_eq_append_iff.1 hp
  exact ⟨right ++ rest, ⟨left, by simp, hl⟩, ⟨right, rfl, hr⟩⟩

theorem opening_le {rank : Nat} (h : Begins ts xs rest) (ho : OpensWithin rank xs) :
    opening (next ts) ≤ rank := by
  obtain ⟨x, ys, rfl, hx⟩ := ho
  rwa [h.next_eq]

end Begins

variable {fuel : Nat} {c : Nesting} {ts mid rest : Tokens} {xs ys us : List Token}

/-- In front of the terms of a sum, or where there are none, a product ends. -/
theorem looseness_of_terms {operands : List (ArithmeticOp × Expr)}
    (h : Derives .terms us operands) (hb : Begins mid us rest) (hl : 4 ≤ looseness (next rest)) :
    3 ≤ looseness (next mid) := by
  cases h with
  | noTerm =>
      rw [hb.eq]
      omega
  | term hop _ _ =>
      rw [hb.next_eq]
      exact Nat.le_of_eq (looseness_of_additive hop).symm

/-- In front of the factors of a product, or where there are none, a path ends. -/
theorem looseness_of_factors {operands : List (ArithmeticOp × Expr)}
    (h : Derives .factors us operands) (hb : Begins mid us rest)
    (hl : 3 ≤ looseness (next rest)) : 2 ≤ looseness (next mid) := by
  cases h with
  | noFactor =>
      rw [hb.eq]
      omega
  | factor hop _ _ =>
      rw [hb.next_eq]
      exact Nat.le_of_eq (looseness_of_multiplicative hop).symm

/-- In front of further accessors, or where there are none, an accessor ends. -/
theorem looseness_of_accessors {steps : List Accessor} (h : Derives .accessors us steps)
    (hb : Begins mid us rest) (hl : 2 ≤ looseness (next rest)) : 1 ≤ looseness (next mid) := by
  cases h with
  | noAccessor =>
      rw [hb.eq]
      omega
  | accessor hstep _ =>
      cases hstep with
      | member | memberWildcard | elementWildcard | subscripted | filter | method | dateTime
      | dateTimeTemplate => rw [hb.next_eq]; decide

/-! ## What is to be shown of each phrase -/

/-- Whenever some tokens begin with the phrase `xs`, go on with a token of at
least this looseness, and have their references in place, `run` holds with a
budget of sixteen calls for each token of the phrase and `calls` more. -/
def Within (calls bound : Nat) (inPlace : Nesting → Prop) (xs : List Token)
    (run : Nat → Nesting → Tokens → Tokens → Prop) : Prop :=
  ∀ {fuel c ts rest}, Begins ts xs rest → inPlace c → bound ≤ looseness (next rest) →
    16 * xs.length + calls ≤ fuel → run fuel c ts rest

/-- What the parser does on each phrase.  A simple predicate that begins with a
parenthesis is read by `negation`, all others by `simple`. -/
def Complete (n : Nonterminal) (xs : List Token) (t : n.Tree) : Prop :=
  match n, t with
  | .disjunction, p => Within 10 8 (Predicate.Scoped · p) xs fun fuel c ts rest =>
      disjunction fuel c ts = .ok (p, rest)
  | .disjuncts, ps => Within 9 8 (predicatesScoped · ps) xs fun fuel c ts rest =>
      disjuncts fuel c ts = .ok (ps, rest)
  | .conjunction, p => Within 8 7 (Predicate.Scoped · p) xs fun fuel c ts rest =>
      conjunction fuel c ts = .ok (p, rest)
  | .conjuncts, ps => Within 7 7 (predicatesScoped · ps) xs fun fuel c ts rest =>
      conjuncts fuel c ts = .ok (ps, rest)
  | .negation, p => Within 6 6 (Predicate.Scoped · p) xs fun fuel c ts rest =>
      negation fuel c ts = .ok (p, rest)
  | .simple, p => Within 5 6 (Predicate.Scoped · p) xs fun fuel c ts rest =>
      if next ts = .openParen then negation (fuel + 1) c ts = .ok (p, rest)
      else simple fuel c ts = .ok (p, rest)
  | .sum, e => Within 4 4 (Expr.Scoped · e) xs fun fuel c ts rest =>
      sum fuel c ts = .ok (e, rest)
  | .terms, operands => Within 1 4 (Nonterminal.terms.Scoped · operands) xs
      fun fuel c ts rest => ∀ left, sumTail fuel c left ts = .ok (chain left operands, rest)
  | .product, e => Within 3 3 (Expr.Scoped · e) xs fun fuel c ts rest =>
      product fuel c ts = .ok (e, rest)
  | .factors, operands => Within 1 3 (Nonterminal.factors.Scoped · operands) xs
      fun fuel c ts rest => ∀ left, productTail fuel c left ts = .ok (chain left operands, rest)
  | .signed, e => Within 2 2 (Expr.Scoped · e) xs fun fuel c ts rest =>
      signed fuel c ts = .ok (e, rest)
  | .path, e => Within 1 2 (Expr.Scoped · e) xs fun fuel c ts rest =>
      ∃ base mid, primary fuel c ts = .ok (base, mid) ∧ pathTail fuel c base mid = .ok (e, rest)
  | .accessors, steps => Within 1 2 (Nonterminal.accessors.Scoped · steps) xs
      fun fuel c ts rest => ∀ base, pathTail fuel c base ts = .ok (walk base steps, rest)
  | .primary, e => Within 1 0 (Expr.Scoped · e) xs fun fuel c ts rest =>
      primary fuel c ts = .ok (e, rest)
  | .accessor, step => Within 0 1 (Accessor.Scoped · step) xs fun fuel c ts rest =>
      ∀ base, pathTail (fuel + 1) c base ts = pathTail fuel c (.access base step) rest
  | .subscripts, subs => Within 6 6 (subscriptsScoped · subs) xs fun fuel c ts rest =>
      subscripts fuel c ts = .ok (subs, rest)
  | .subscript, sub => Within 5 5 (Subscript.Scoped · sub) xs fun fuel c ts rest =>
      subscript fuel c ts = .ok (sub, rest)

/-! ## Operands that begin with a group -/

/-- What continues a primary expression to a product. -/
def productRest (fuel : Nat) (c : Nesting) (e : Expr) (ts : Tokens) :
    Except SyntaxError (Expr × Tokens) := do
  let (e, rest) ← pathTail fuel c e ts
  productTail fuel c e rest

/-- What continues a primary expression to a sum. -/
def sumRest (fuel : Nat) (c : Nesting) (e : Expr) (ts : Tokens) :
    Except SyntaxError (Expr × Tokens) := do
  let (e, rest) ← productRest fuel c e ts
  sumTail fuel c e rest

theorem groupTail_eq (fuel : Nat) (c : Nesting) (e : Expr) (ts : Tokens) :
    groupTail (fuel + 1) c e ts =
      sumRest fuel c e ts >>= fun (e, rest) => simpleTail fuel c e rest := by
  rw [groupTail, sumRest, productRest, bind_assoc, bind_assoc]

/-- The group at the beginning of `ts` is read as a predicate that is only the
expression `e`. -/
def EntersGroup (fuel : Nat) (c : Nesting) (ts : Tokens) (e : Expr) (rest : Tokens) : Prop :=
  ∃ close, disjunction fuel c ts.tail = .ok (.condition e, close) ∧ next close = .closeParen ∧
    close.tail = rest

/-- As `Within`, for tokens that begin with a parenthesis: the expression in the
group and the tokens behind it are the same for each budget, and `run` holds of
what continues them. -/
def WithinGroup (bound : Nat) (inPlace : Nesting → Prop) (xs : List Token)
    (run : Nat → Nesting → Expr → Tokens → Tokens → Prop) : Prop :=
  ∀ {c ts rest}, Begins ts xs rest → inPlace c → bound ≤ looseness (next rest) →
    next ts = .openParen →
    ∃ e mid, ∀ {fuel}, 16 * xs.length + 4 ≤ fuel →
      EntersGroup fuel c ts e mid ∧ run fuel c e mid rest

/-- What the parser does on an operand that it enters through a group. -/
def Entered (n : Nonterminal) (xs : List Token) (t : n.Tree) : Prop :=
  match n, t with
  | .primary, e => WithinGroup 0 (Expr.Scoped · e) xs fun _ _ e₀ mid rest => e₀ = e ∧ mid = rest
  | .path, e | .signed, e => WithinGroup 2 (Expr.Scoped · e) xs fun fuel c e₀ mid rest =>
      pathTail fuel c e₀ mid = .ok (e, rest)
  | .product, e => WithinGroup 3 (Expr.Scoped · e) xs fun fuel c e₀ mid rest =>
      productRest fuel c e₀ mid = .ok (e, rest)
  | .sum, e => WithinGroup 4 (Expr.Scoped · e) xs fun fuel c e₀ mid rest =>
      sumRest fuel c e₀ mid = .ok (e, rest)
  | _, _ => True

/-! Each tail stops in front of a token that is loose enough. -/

theorem pathTail_stop (e : Expr) (hl : 2 ≤ looseness (next ts)) :
    pathTail (fuel + 1) c e ts = .ok (e, ts) := by
  rw [pathTail]
  split
  case h_4 => rfl
  all_goals
    next hx =>
      rw [hx] at hl
      exact absurd hl (by decide)

theorem productTail_stop (e : Expr) (hl : 3 ≤ looseness (next ts)) :
    productTail (fuel + 1) c e ts = .ok (e, ts) := by
  rw [productTail]
  split
  · rfl
  · next op hop =>
      rw [looseness_of_multiplicative (multiplicative?_eq_some_iff.1 hop)] at hl
      exact absurd hl (by decide)

theorem sumTail_stop (e : Expr) (hl : 4 ≤ looseness (next ts)) :
    sumTail (fuel + 1) c e ts = .ok (e, ts) := by
  rw [sumTail]
  split
  · rfl
  · next op hop =>
      rw [looseness_of_additive (additive?_eq_some_iff.1 hop)] at hl
      exact absurd hl (by decide)

theorem simpleTail_stop (e : Expr) (hl : 5 ≤ looseness (next ts)) :
    simpleTail (fuel + 1) c e ts = .ok (.condition e, ts) := by
  rw [simpleTail]
  split
  · next op hop =>
      rw [looseness_of_comparing (comparison?_eq_some_iff.1 hop)] at hl
      exact absurd hl (by decide)
  · split
    case h_3 => rfl
    all_goals
      next hx =>
        rw [hx] at hl
        exact absurd hl (by decide)

/-- A group that nothing continues is a condition. -/
theorem groupTail_stop (e : Expr) (hl : 5 ≤ looseness (next ts)) :
    groupTail (fuel + 2) c e ts = .ok (.condition e, ts) := by
  have hpath : pathTail (fuel + 1) c e ts = .ok (e, ts) := pathTail_stop e (by omega)
  have hproduct : productTail (fuel + 1) c e ts = .ok (e, ts) := productTail_stop e (by omega)
  have hsum : sumTail (fuel + 1) c e ts = .ok (e, ts) := sumTail_stop e (by omega)
  have hsimple : simpleTail (fuel + 1) c e ts = .ok (.condition e, ts) := simpleTail_stop e hl
  simp only [groupTail_eq, sumRest, productRest, hpath, hproduct, hsum, hsimple, bind, Except.bind]

/-- A group that is continued as an operand. -/
theorem negation_of_group {e : Expr} {p : Predicate} (hopen : next ts = .openParen)
    (hgroup : EntersGroup (fuel + 2) c ts e mid)
    (htail : groupTail (fuel + 2) c e mid = .ok (p, rest))
    (hl : 6 ≤ looseness (next rest)) : negation (fuel + 3) c ts = .ok (p, rest) := by
  obtain ⟨close, hd, hclose, rfl⟩ := hgroup
  have his : next close.tail ≠ .word "is" := by
    intro his
    rw [groupTail_stop e (by rw [his]; decide)] at htail
    cases htail
    rw [his] at hl
    exact absurd hl (by decide)
  rw [negation, hopen]
  simp only [hd, expect_eq_ok_iff.2 ⟨hclose, rfl⟩, bind, Except.bind, if_neg his]
  exact htail

/-! ## One production after the other -/

/-- A budget that covers a phrase allows for one call. -/
theorem exists_succ_of_le {budget fuel : Nat} (h : budget + 1 ≤ fuel) :
    ∃ n, fuel = n + 1 ∧ budget ≤ n := ⟨fuel - 1, by omega, by omega⟩

theorem complete_alone {p : Predicate} (h : Complete .disjuncts xs [p]) :
    Complete .disjunction xs p := by
  intro fuel c ts rest hb hs hl hf
  obtain ⟨n, rfl, hn⟩ := exists_succ_of_le hf
  have hps : disjuncts n c ts = .ok ([p], rest) := h hb ⟨hs, trivial⟩ hl hn
  rw [disjunction, hps]
  rfl

theorem complete_either {p q : Predicate} {ps : List Predicate}
    (h : Complete .disjuncts xs (p :: q :: ps)) :
    Complete .disjunction xs (.disjunction (p :: q :: ps)) := by
  intro fuel c ts rest hb hs hl hf
  obtain ⟨n, rfl, hn⟩ := exists_succ_of_le hf
  have hps : disjuncts n c ts = .ok (p :: q :: ps, rest) := h hb hs hl hn
  rw [disjunction, hps]
  rfl

theorem complete_lastDisjunct {p : Predicate} (h : Complete .conjunction xs p) :
    Complete .disjuncts xs [p] := by
  intro fuel c ts rest hb hs hl hf
  obtain ⟨n, rfl, hn⟩ := exists_succ_of_le hf
  have hp : conjunction n c ts = .ok (p, rest) := h hb hs.1 (by omega) hn
  have hor : next rest ≠ .orOr := by
    intro hor
    rw [hor] at hl
    exact absurd hl (by decide)
  rw [disjuncts, hp]
  simp only [bind, Except.bind, if_neg hor]
  rfl

theorem complete_disjunct {p : Predicate} {ps : List Predicate}
    (h : Complete .conjunction xs p) (hps : Complete .disjuncts us ps) :
    Complete .disjuncts (xs ++ .orOr :: us) (p :: ps) := by
  intro fuel c ts rest hb hs hl hf
  obtain ⟨n, rfl, hn⟩ := exists_succ_of_le hf
  rw [List.length_append, List.length_cons] at hn
  obtain ⟨mid, hx, hu⟩ := hb.split
  have hp : conjunction n c ts = .ok (p, mid) :=
    h hx hs.1 (by rw [hu.next_eq]; decide) (by omega)
  have hrest : disjuncts n c mid.tail = .ok (ps, rest) := hps hu.tail hs.2 hl (by omega)
  rw [disjuncts, hp]
  simp only [bind, Except.bind, if_pos hu.next_eq, hrest]
  rfl

theorem complete_single {p : Predicate} (h : Complete .conjuncts xs [p]) :
    Complete .conjunction xs p := by
  intro fuel c ts rest hb hs hl hf
  obtain ⟨n, rfl, hn⟩ := exists_succ_of_le hf
  have hps : conjuncts n c ts = .ok ([p], rest) := h hb ⟨hs, trivial⟩ hl hn
  rw [conjunction, hps]
  rfl

theorem complete_both {p q : Predicate} {ps : List Predicate}
    (h : Complete .conjuncts xs (p :: q :: ps)) :
    Complete .conjunction xs (.conjunction (p :: q :: ps)) := by
  intro fuel c ts rest hb hs hl hf
  obtain ⟨n, rfl, hn⟩ := exists_succ_of_le hf
  have hps : conjuncts n c ts = .ok (p :: q :: ps, rest) := h hb hs hl hn
  rw [conjunction, hps]
  rfl

theorem complete_lastConjunct {p : Predicate} (h : Complete .negation xs p) :
    Complete .conjuncts xs [p] := by
  intro fuel c ts rest hb hs hl hf
  obtain ⟨n, rfl, hn⟩ := exists_succ_of_le hf
  have hp : negation n c ts = .ok (p, rest) := h hb hs.1 (by omega) hn
  have hand : next rest ≠ .andAnd := by
    intro hand
    rw [hand] at hl
    exact absurd hl (by decide)
  rw [conjuncts, hp]
  simp only [bind, Except.bind, if_neg hand]
  rfl

theorem complete_conjunct {p : Predicate} {ps : List Predicate}
    (h : Complete .negation xs p) (hps : Complete .conjuncts us ps) :
    Complete .conjuncts (xs ++ .andAnd :: us) (p :: ps) := by
  intro fuel c ts rest hb hs hl hf
  obtain ⟨n, rfl, hn⟩ := exists_succ_of_le hf
  rw [List.length_append, List.length_cons] at hn
  obtain ⟨mid, hx, hu⟩ := hb.split
  have hp : negation n c ts = .ok (p, mid) :=
    h hx hs.1 (by rw [hu.next_eq]; decide) (by omega)
  have hrest : conjuncts n c mid.tail = .ok (ps, rest) := hps hu.tail hs.2 hl (by omega)
  rw [conjuncts, hp]
  simp only [bind, Except.bind, if_pos hu.next_eq, hrest]
  rfl

theorem complete_not {p : Predicate} (h : Complete .negation xs p) :
    Complete .negation (.exclamation :: xs) (.negation p) := by
  intro fuel c ts rest hb hs hl hf
  obtain ⟨n, rfl, hn⟩ := exists_succ_of_le hf
  rw [List.length_cons] at hn
  have hp : negation n c ts.tail = .ok (p, rest) := h hb.tail hs hl (by omega)
  rw [negation, hb.next_eq]
  simp only [hp]
  rfl

theorem complete_plain {p : Predicate} (h : Complete .simple xs p) (ho : OpensWithin 2 xs) :
    Complete .negation xs p := by
  intro fuel c ts rest hb hs hl hf
  obtain ⟨n, rfl, hn⟩ := exists_succ_of_le hf
  have hp : if next ts = .openParen then negation (n + 1) c ts = .ok (p, rest)
      else simple n c ts = .ok (p, rest) := h hb hs hl hn
  by_cases hopen : next ts = .openParen
  · rwa [if_pos hopen] at hp
  · rw [if_neg hopen] at hp
    have hnot : next ts ≠ .exclamation := by
      intro hnot
      have := hb.opening_le ho
      rw [hnot] at this
      exact absurd this (by decide)
    rw [negation]
    split <;> simp_all

/-- A group that is only an expression goes on as an operand, which ends there. -/
theorem complete_group {p : Predicate} (h : Complete .disjunction xs p) :
    Complete .negation (.openParen :: xs ++ [.closeParen]) p := by
  intro fuel c ts rest hb hs hl hf
  obtain ⟨n, rfl, hn⟩ := exists_succ_of_le (Nat.le_of_succ_le hf)
  rw [List.length_append, List.length_cons] at hn
  obtain ⟨mid, hx, hclose⟩ := hb.tail.split
  have hd : disjunction n c ts.tail = .ok (p, mid) :=
    h hx hs (by rw [hclose.next_eq]; decide) (by omega)
  have his : next rest ≠ .word "is" := by
    intro his
    rw [his] at hl
    exact absurd hl (by decide)
  rw [negation, hb.next_eq]
  simp only [hd, expect_eq_ok_iff.2 ⟨hclose.next_eq, hclose.tail.eq⟩, bind, Except.bind, if_neg his]
  split
  · next e =>
      obtain ⟨m, rfl⟩ : ∃ m, n = m + 2 := ⟨n - 2, by omega⟩
      exact groupTail_stop e (by omega)
  · rfl

theorem complete_unknown {p : Predicate} (h : Complete .disjunction xs p) :
    Complete .negation (.openParen :: xs ++ [.closeParen, .word "is", .word "unknown"])
      (.isUnknown p) := by
  intro fuel c ts rest hb hs hl hf
  obtain ⟨n, rfl, hn⟩ := exists_succ_of_le hf
  rw [List.length_append, List.length_cons] at hn
  obtain ⟨mid, hx, hclose⟩ := hb.tail.split
  have hd : disjunction n c ts.tail = .ok (p, mid) :=
    h hx hs (by rw [hclose.next_eq]; decide) (by omega)
  have hunknown : expectWord "unknown" mid.tail.tail = .ok rest :=
    expectWord_eq_ok_iff.2 ⟨hclose.tail.tail.next_eq, hclose.tail.tail.tail.eq⟩
  rw [negation, hb.next_eq]
  simp only [hd, expect_eq_ok_iff.2 ⟨hclose.next_eq, rfl⟩, bind, Except.bind,
    if_pos hclose.tail.next_eq, hunknown]
  rfl

/-! ### Simple predicates -/

theorem complete_existence {e : Expr} (h : Complete .sum xs e) :
    Complete .simple (.word "exists" :: .openParen :: xs ++ [.closeParen]) (.existence e) := by
  intro fuel c ts rest hb hs hl hf
  obtain ⟨n, rfl, hn⟩ := exists_succ_of_le hf
  simp only [List.cons_append, List.length_append, List.length_cons] at hn
  obtain ⟨mid, hx, hclose⟩ := hb.tail.tail.split
  have he : sum n c ts.tail.tail = .ok (e, mid) :=
    h hx hs (by rw [hclose.next_eq]; decide) (by omega)
  rw [if_neg (by rw [hb.next_eq]; nofun), simple, if_pos ⟨hb.next_eq, hb.tail.next_eq⟩, he]
  simp only [bind, Except.bind, expect_eq_ok_iff.2 ⟨hclose.next_eq, hclose.tail.eq⟩]
  rfl

/-- A predicate with a sum on its left, read by `simple` or, from a parenthesis,
through the group that the sum begins with.  What is left to show is that the sum
ends in front of the tokens `us` and that `simpleTail` reads these. -/
theorem complete_simple {e : Expr} {p : Predicate} (h : Complete .sum xs e)
    (hgroup : Entered .sum xs e) (ho : OpensWithin 1 xs)
    (htail : Within 4 6 (Predicate.Scoped · p) us fun fuel c mid rest =>
      e.Scoped c ∧ 4 ≤ looseness (next mid) ∧ simpleTail fuel c e mid = .ok (p, rest)) :
    Complete .simple (xs ++ us) p := by
  intro fuel c ts rest hb hs hl hf
  obtain ⟨n, rfl, hn⟩ := exists_succ_of_le hf
  rw [List.length_append] at hn
  obtain ⟨mid, hx, hu⟩ := hb.split
  obtain ⟨he, hmid, htail⟩ := htail hu hs hl (by omega : _ ≤ n)
  have hlen := ho.length_pos
  split
  · next hopen =>
      obtain ⟨m, rfl⟩ : ∃ m, n = m + 1 := ⟨n - 1, by omega⟩
      obtain ⟨e₀, mid₀, hgroup⟩ := hgroup hx he hmid hopen
      have hsum : sumRest (m + 1) c e₀ mid₀ = .ok (e, mid) := (hgroup (by omega)).2
      refine negation_of_group hopen (hgroup (by omega)).1 ?_ hl
      rw [groupTail_eq, hsum]
      exact htail
  · have hexists : next ts ≠ .word "exists" := by
      intro hexists
      have hle := hx.opening_le ho
      rw [hexists] at hle
      exact absurd hle (by decide)
    have hsum : sum n c ts = .ok (e, mid) := h hx he hmid (by omega)
    rw [simple, if_neg (fun h => hexists h.1), hsum]
    exact htail

theorem complete_compare {x : Token} {op : Comparison} {left right : Expr}
    (h : Complete .sum xs left) (hgroup : Entered .sum xs left) (ho : OpensWithin 1 xs)
    (hop : Comparing x op) (hright : Complete .sum us right) :
    Complete .simple (xs ++ x :: us) (.compare op left right) := by
  refine complete_simple h hgroup ho fun {fuel c mid rest} hb hs hl hf => ?_
  obtain ⟨n, rfl, hn⟩ := exists_succ_of_le hf
  rw [List.length_cons] at hn
  have hr : sum n c mid.tail = .ok (right, rest) := hright hb.tail hs.2 (by omega) (by omega)
  have hmid : looseness (next mid) = 4 := by rw [hb.next_eq, looseness_of_comparing hop]
  refine ⟨hs.1, by omega, ?_⟩
  rw [simpleTail, hb.next_eq, comparison?_eq_some_iff.2 hop]
  simp only [hr]
  rfl

theorem complete_startsWith {x : Token} {subject start : Expr} (h : Complete .sum xs subject)
    (hgroup : Entered .sum xs subject) (ho : OpensWithin 1 xs) (hstart : Start x start) :
    Complete .simple (xs ++ [.word "starts", .word "with", x]) (.startsWith subject start) := by
  refine complete_simple h hgroup ho fun {fuel c mid rest} hb hs hl hf => ?_
  obtain ⟨n, rfl, -⟩ := exists_succ_of_le hf
  refine ⟨hs.1, by rw [hb.next_eq]; decide, ?_⟩
  rw [simpleTail, hb.next_eq]
  simp only [comparison?, startsWithTail, expectWord_eq_ok_iff.2 ⟨hb.tail.next_eq, rfl⟩,
    hb.tail.tail.next_eq, hb.tail.tail.tail.eq, bind, Except.bind]
  cases hstart <;> rfl

theorem complete_likeRegex {subject : Expr} {text : String} {pattern : LikePattern}
    (h : Complete .sum xs subject) (hgroup : Entered .sum xs subject) (ho : OpensWithin 1 xs)
    (hpattern : LikePattern.read text "" = .ok pattern) :
    Complete .simple (xs ++ [.word "like_regex", .string text]) (.likeRegex subject pattern) := by
  refine complete_simple h hgroup ho fun {fuel c mid rest} hb hs hl hf => ?_
  obtain ⟨n, rfl, -⟩ := exists_succ_of_le hf
  have hflag : next rest ≠ .word "flag" := by
    intro hflag
    rw [hflag] at hl
    exact absurd hl (by decide)
  refine ⟨hs, by rw [hb.next_eq]; decide, ?_⟩
  rw [simpleTail, hb.next_eq]
  simp only [comparison?, likeRegexTail, patternFlags,
    stringLiteral_eq_ok_iff.2 ⟨hb.tail.next_eq, hb.tail.tail.eq⟩, bind, Except.bind,
    if_neg hflag, hpattern]
  rfl

theorem complete_likeRegexFlag {subject : Expr} {text flags : String} {pattern : LikePattern}
    (h : Complete .sum xs subject) (hgroup : Entered .sum xs subject) (ho : OpensWithin 1 xs)
    (hpattern : LikePattern.read text flags = .ok pattern) :
    Complete .simple (xs ++ [.word "like_regex", .string text, .word "flag", .string flags])
      (.likeRegex subject pattern) := by
  refine complete_simple h hgroup ho fun {fuel c mid rest} hb hs hl hf => ?_
  obtain ⟨n, rfl, -⟩ := exists_succ_of_le hf
  refine ⟨hs, by rw [hb.next_eq]; decide, ?_⟩
  rw [simpleTail, hb.next_eq]
  simp only [comparison?, likeRegexTail, patternFlags,
    stringLiteral_eq_ok_iff.2 ⟨hb.tail.next_eq, rfl⟩, if_pos hb.tail.tail.next_eq,
    stringLiteral_eq_ok_iff.2 ⟨hb.tail.tail.tail.next_eq, hb.tail.tail.tail.tail.eq⟩, bind,
    Except.bind, hpattern]
  rfl

theorem complete_condition {e : Expr} (h : Complete .sum xs e) (hgroup : Entered .sum xs e)
    (ho : OpensWithin 1 xs) : Complete .simple xs (.condition e) := by
  rw [← List.append_nil xs]
  refine complete_simple h hgroup ho fun {fuel c mid rest} hb hs hl hf => ?_
  obtain ⟨n, rfl, -⟩ := exists_succ_of_le hf
  rw [← hb.eq] at hl ⊢
  exact ⟨hs, by omega, simpleTail_stop e (by omega)⟩

/-! ### Operands -/

theorem complete_sum {left : Expr} {operands : List (ArithmeticOp × Expr)}
    (h : Complete .product xs left) (d : Derives .terms us operands)
    (hterms : Complete .terms us operands) (ho : OpensWithin 1 xs) :
    Complete .sum (xs ++ us) (chain left operands) := by
  intro fuel c ts rest hb hs hl hf
  obtain ⟨n, rfl, hn⟩ := exists_succ_of_le hf
  rw [List.length_append] at hn
  have hlen := ho.length_pos
  obtain ⟨hs, hs'⟩ := (chain_scoped _ _).1 hs
  obtain ⟨mid, hx, hu⟩ := hb.split
  have hleft : product n c ts = .ok (left, mid) :=
    h hx hs (looseness_of_terms d hu hl) (by omega)
  rw [sum, hleft]
  exact hterms hu hs' hl (by omega) left

theorem complete_noTerm : Complete .terms [] [] := by
  intro fuel c ts rest hb hs hl hf left
  obtain ⟨n, rfl, -⟩ := exists_succ_of_le hf
  rw [← hb.eq] at hl ⊢
  exact sumTail_stop left hl

theorem complete_term {x : Token} {op : ArithmeticOp} {operand : Expr}
    {operands : List (ArithmeticOp × Expr)} (hop : Additive x op)
    (h : Complete .product xs operand) (d : Derives .terms us operands)
    (hterms : Complete .terms us operands) :
    Complete .terms (x :: xs ++ us) ((op, operand) :: operands) := by
  intro fuel c ts rest hb hs hl hf left
  obtain ⟨n, rfl, hn⟩ := exists_succ_of_le hf
  rw [List.length_append, List.length_cons] at hn
  obtain ⟨hs, hs'⟩ := List.forall_mem_cons.1 hs
  obtain ⟨mid, hx, hu⟩ := hb.tail.split
  have hright : product n c ts.tail = .ok (operand, mid) :=
    h hx hs (looseness_of_terms d hu hl) (by omega)
  rw [sumTail, hb.next_eq, additive?_eq_some_iff.2 hop]
  simp only [hright]
  exact hterms hu hs' hl (by omega) (.binary op left operand)

theorem complete_product {left : Expr} {operands : List (ArithmeticOp × Expr)}
    (h : Complete .signed xs left) (d : Derives .factors us operands)
    (hfactors : Complete .factors us operands) (ho : OpensWithin 1 xs) :
    Complete .product (xs ++ us) (chain left operands) := by
  intro fuel c ts rest hb hs hl hf
  obtain ⟨n, rfl, hn⟩ := exists_succ_of_le hf
  rw [List.length_append] at hn
  have hlen := ho.length_pos
  obtain ⟨hs, hs'⟩ := (chain_scoped _ _).1 hs
  obtain ⟨mid, hx, hu⟩ := hb.split
  have hleft : signed n c ts = .ok (left, mid) :=
    h hx hs (looseness_of_factors d hu hl) (by omega)
  rw [product, hleft]
  exact hfactors hu hs' hl (by omega) left

theorem complete_noFactor : Complete .factors [] [] := by
  intro fuel c ts rest hb hs hl hf left
  obtain ⟨n, rfl, -⟩ := exists_succ_of_le hf
  rw [← hb.eq] at hl ⊢
  exact productTail_stop left hl

theorem complete_factor {x : Token} {op : ArithmeticOp} {operand : Expr}
    {operands : List (ArithmeticOp × Expr)} (hop : Multiplicative x op)
    (h : Complete .signed xs operand) (d : Derives .factors us operands)
    (hfactors : Complete .factors us operands) :
    Complete .factors (x :: xs ++ us) ((op, operand) :: operands) := by
  intro fuel c ts rest hb hs hl hf left
  obtain ⟨n, rfl, hn⟩ := exists_succ_of_le hf
  rw [List.length_append, List.length_cons] at hn
  obtain ⟨hs, hs'⟩ := List.forall_mem_cons.1 hs
  obtain ⟨mid, hx, hu⟩ := hb.tail.split
  have hright : signed n c ts.tail = .ok (operand, mid) :=
    h hx hs (looseness_of_factors d hu hl) (by omega)
  rw [productTail, hb.next_eq, multiplicative?_eq_some_iff.2 hop]
  simp only [hright]
  exact hfactors hu hs' hl (by omega) (.binary op left operand)

theorem complete_sign {x : Token} {op : SignOp} {operand : Expr} (hop : Sign x op)
    (h : Complete .signed xs operand) : Complete .signed (x :: xs) (.signed op operand) := by
  intro fuel c ts rest hb hs hl hf
  obtain ⟨n, rfl, hn⟩ := exists_succ_of_le hf
  rw [List.length_cons] at hn
  have ho : signed n c ts.tail = .ok (operand, rest) := h hb.tail hs hl (by omega)
  rw [signed, hb.next_eq, sign?_eq_some_iff.2 hop]
  simp only [ho]
  rfl

theorem complete_unsigned {e : Expr} (h : Complete .path xs e) (ho : OpensWithin 0 xs) :
    Complete .signed xs e := by
  intro fuel c ts rest hb hs hl hf
  obtain ⟨n, rfl, hn⟩ := exists_succ_of_le hf
  obtain ⟨base, mid, hbase, htail⟩ := h hb hs hl hn
  rw [signed]
  split
  · next op hop =>
      have hle := hb.opening_le ho
      rw [opening_of_sign (sign?_eq_some_iff.1 hop)] at hle
      exact absurd hle (by decide)
  · rw [hbase]
    exact htail

theorem complete_path {base : Expr} {steps : List Accessor} (h : Complete .primary xs base)
    (hsteps : Complete .accessors us steps) : Complete .path (xs ++ us) (walk base steps) := by
  intro fuel c ts rest hb hs hl hf
  rw [List.length_append] at hf
  obtain ⟨hs, hs'⟩ := (walk_scoped _ _).1 hs
  obtain ⟨mid, hx, hu⟩ := hb.split
  exact ⟨base, mid, h hx hs (Nat.zero_le _) (by omega), hsteps hu hs' hl (by omega) base⟩

theorem complete_parenthesised {e : Expr} (h : Complete .sum xs e) :
    Complete .primary (.openParen :: xs ++ [.closeParen]) e := by
  intro fuel c ts rest hb hs hl hf
  obtain ⟨n, rfl, hn⟩ := exists_succ_of_le hf
  rw [List.length_append, List.length_cons] at hn
  obtain ⟨mid, hx, hclose⟩ := hb.tail.split
  have he : sum n c ts.tail = .ok (e, mid) :=
    h hx hs (by rw [hclose.next_eq]; decide) (by omega)
  rw [primary, if_pos hb.next_eq, he]
  simp only [bind, Except.bind, expect_eq_ok_iff.2 ⟨hclose.next_eq, hclose.tail.eq⟩]
  rfl

theorem complete_atom {x : Token} {e : Expr} (h : Atom x e) : Complete .primary [x] e := by
  intro fuel c ts rest hb hs hl hf
  obtain ⟨n, rfl, -⟩ := exists_succ_of_le hf
  have hopen : next ts ≠ .openParen := by
    rw [hb.next_eq]
    rintro rfl
    cases h
  have hatom : atom? c ts = some (.ok e) := atom?_eq_some_ok_iff.2 ⟨by rwa [hb.next_eq], hs⟩
  rw [primary, if_neg hopen, hatom, hb.tail.eq]
  rfl

/-! ### Accessors -/

theorem complete_noAccessor : Complete .accessors [] [] := by
  intro fuel c ts rest hb hs hl hf base
  obtain ⟨n, rfl, -⟩ := exists_succ_of_le hf
  rw [← hb.eq] at hl ⊢
  exact pathTail_stop base hl

theorem complete_accessor {step : Accessor} {steps : List Accessor}
    (h : Complete .accessor xs step) (ho : OpensWithin 4 xs) (d : Derives .accessors us steps)
    (hsteps : Complete .accessors us steps) : Complete .accessors (xs ++ us) (step :: steps) := by
  intro fuel c ts rest hb hs hl hf base
  obtain ⟨n, rfl, hn⟩ := exists_succ_of_le hf
  rw [List.length_append] at hn
  have hlen := ho.length_pos
  obtain ⟨hs, hs'⟩ := List.forall_mem_cons.1 hs
  obtain ⟨mid, hx, hu⟩ := hb.split
  have hstep : pathTail (n + 1) c base ts = pathTail n c (.access base step) mid :=
    h hx hs (looseness_of_accessors d hu hl) (by omega) base
  rw [hstep]
  exact hsteps hu hs' hl (by omega) (.access base step)

/-- An accessor that begins with a dot is read by `dotStep`. -/
theorem complete_of_dotStep {step : Accessor}
    (h : ∀ {ts rest}, Begins ts xs rest → 1 ≤ looseness (next rest) →
      dotStep ts = .ok (step, rest)) : Complete .accessor (.dot :: xs) step := by
  intro fuel c ts rest hb hs hl hf base
  rw [pathTail, hb.next_eq]
  simp only [h hb.tail hl]
  rfl

theorem complete_member {x : Token} {name : String} (h : MemberName x name) :
    Complete .accessor [.dot, x] (.member name) := by
  refine complete_of_dotStep fun {ts rest} hb hl => ?_
  rw [← hb.tail.eq] at hl ⊢
  rw [dotStep, hb.next_eq]
  cases h with
  | word =>
      have hopen : next ts.tail ≠ .openParen := by
        intro hopen
        rw [hopen] at hl
        exact absurd hl (by decide)
      exact if_neg hopen
  | string => rfl

theorem complete_memberWildcard : Complete .accessor [.dot, .star] .memberWildcard := by
  refine complete_of_dotStep fun {ts rest} hb hl => ?_
  rw [dotStep, hb.next_eq, hb.tail.eq]

theorem complete_method {name : String} {m : ItemMethod} (h : ItemMethod.ofName? name = some m) :
    Complete .accessor [.dot, .word name, .openParen, .closeParen] (.method m) := by
  refine complete_of_dotStep fun {ts rest} hb hl => ?_
  have hname : name ≠ "datetime" := by
    rintro rfl
    have hnone : ItemMethod.ofName? "datetime" = none := by decide
    rw [hnone] at h
    cases h
  rw [dotStep, hb.next_eq]
  simp only [if_pos hb.tail.next_eq, methodStep, if_neg hname, h, bind, Except.bind,
    expect_eq_ok_iff.2 ⟨hb.tail.tail.next_eq, hb.tail.tail.tail.eq⟩]
  rfl

theorem complete_dateTime :
    Complete .accessor [.dot, .word "datetime", .openParen, .closeParen] (.dateTime none) := by
  refine complete_of_dotStep fun {ts rest} hb hl => ?_
  rw [dotStep, hb.next_eq]
  simp only [if_pos hb.tail.next_eq, methodStep, hb.tail.tail.next_eq, bind, Except.bind,
    expect_eq_ok_iff.2 ⟨hb.tail.tail.next_eq, hb.tail.tail.tail.eq⟩]
  rfl

theorem complete_dateTimeTemplate (template : String) :
    Complete .accessor [.dot, .word "datetime", .openParen, .string template, .closeParen]
      (.dateTime (some ⟨template⟩)) := by
  refine complete_of_dotStep fun {ts rest} hb hl => ?_
  rw [dotStep, hb.next_eq]
  simp only [if_pos hb.tail.next_eq, methodStep, hb.tail.tail.next_eq, bind, Except.bind,
    expect_eq_ok_iff.2 ⟨hb.tail.tail.tail.next_eq, hb.tail.tail.tail.tail.eq⟩]
  rfl

/-- An accessor that begins with a bracket is read by `bracketStep`. -/
theorem complete_of_bracketStep {step : Accessor}
    (h : ∀ {fuel c ts rest}, Begins ts xs rest → step.Scoped c → 16 * xs.length ≤ fuel →
      bracketStep fuel c ts = .ok (step, rest)) : Complete .accessor (.openBracket :: xs) step := by
  intro fuel c ts rest hb hs hl hf base
  rw [List.length_cons] at hf
  rw [pathTail, hb.next_eq]
  simp only [h hb.tail hs (by omega : _ ≤ fuel)]
  rfl

theorem complete_elementWildcard :
    Complete .accessor [.openBracket, .star, .closeBracket] .elementWildcard := by
  refine complete_of_bracketStep fun {fuel c ts rest} hb hs hf => ?_
  obtain ⟨n, rfl, -⟩ := exists_succ_of_le hf
  rw [bracketStep, if_pos ⟨hb.next_eq, hb.tail.next_eq⟩, hb.tail.tail.eq]

theorem complete_subscripted {subs : List Subscript} (h : Complete .subscripts xs subs)
    (ho : OpensWithin 1 xs) :
    Complete .accessor (.openBracket :: xs ++ [.closeBracket]) (.subscripts subs) := by
  show Complete .accessor (.openBracket :: (xs ++ [.closeBracket])) _
  refine complete_of_bracketStep fun {fuel c ts rest} hb hs hf => ?_
  rw [List.length_append, List.length_singleton] at hf
  obtain ⟨n, rfl⟩ : ∃ n, fuel = n + 1 := ⟨fuel - 1, by omega⟩
  obtain ⟨mid, hx, hclose⟩ := hb.split
  have hstar : next ts ≠ .star := by
    intro hstar
    have hle := hx.opening_le ho
    rw [hstar] at hle
    exact absurd hle (by decide)
  have hsubs : subscripts n { c with inSubscript := true } ts = .ok (subs, mid) :=
    h hx hs (by rw [hclose.next_eq]; decide) (by omega)
  rw [bracketStep, if_neg (fun h => hstar h.1), hsubs]
  simp only [bind, Except.bind, expect_eq_ok_iff.2 ⟨hclose.next_eq, hclose.tail.eq⟩]
  rfl

theorem complete_filter {p : Predicate} (h : Complete .disjunction xs p) :
    Complete .accessor (.question :: .openParen :: xs ++ [.closeParen]) (.filter p) := by
  intro fuel c ts rest hb hs hl hf base
  simp only [List.cons_append, List.length_append, List.length_cons] at hf
  obtain ⟨mid, hx, hclose⟩ := hb.tail.tail.split
  have hp : disjunction fuel { c with inFilter := true } ts.tail.tail = .ok (p, mid) :=
    h hx hs (by rw [hclose.next_eq]; decide) (by omega)
  rw [pathTail, hb.next_eq]
  simp only [expect_eq_ok_iff.2 ⟨hb.tail.next_eq, rfl⟩, hp, bind, Except.bind,
    expect_eq_ok_iff.2 ⟨hclose.next_eq, hclose.tail.eq⟩]

/-! ### Subscripts -/

theorem complete_lastSubscript {sub : Subscript} (h : Complete .subscript xs sub) :
    Complete .subscripts xs [sub] := by
  intro fuel c ts rest hb hs hl hf
  obtain ⟨n, rfl, hn⟩ := exists_succ_of_le hf
  have hsub : subscript n c ts = .ok (sub, rest) := h hb hs.1 (by omega) hn
  have hcomma : next rest ≠ .comma := by
    intro hcomma
    rw [hcomma] at hl
    exact absurd hl (by decide)
  rw [subscripts, hsub]
  simp only [bind, Except.bind, if_neg hcomma]
  rfl

theorem complete_subscript {sub : Subscript} {subs : List Subscript}
    (h : Complete .subscript xs sub) (hsubs : Complete .subscripts us subs) :
    Complete .subscripts (xs ++ .comma :: us) (sub :: subs) := by
  intro fuel c ts rest hb hs hl hf
  obtain ⟨n, rfl, hn⟩ := exists_succ_of_le hf
  rw [List.length_append, List.length_cons] at hn
  obtain ⟨mid, hx, hu⟩ := hb.split
  have hsub : subscript n c ts = .ok (sub, mid) :=
    h hx hs.1 (by rw [hu.next_eq]; decide) (by omega)
  have hrest : subscripts n c mid.tail = .ok (subs, rest) := hsubs hu.tail hs.2 hl (by omega)
  rw [subscripts, hsub]
  simp only [bind, Except.bind, if_pos hu.next_eq, hrest]
  rfl

theorem complete_indices {e : Expr} (h : Complete .sum xs e) :
    Complete .subscript xs (.indices e) := by
  intro fuel c ts rest hb hs hl hf
  obtain ⟨n, rfl, hn⟩ := exists_succ_of_le hf
  have he : sum n c ts = .ok (e, rest) := h hb hs (by omega) hn
  have hto : next rest ≠ .word "to" := by
    intro hto
    rw [hto] at hl
    exact absurd hl (by decide)
  rw [subscript, he]
  simp only [bind, Except.bind, if_neg hto]
  rfl

theorem complete_range {low high : Expr} (h : Complete .sum xs low)
    (hhigh : Complete .sum us high) :
    Complete .subscript (xs ++ .word "to" :: us) (.range low high) := by
  intro fuel c ts rest hb hs hl hf
  obtain ⟨n, rfl, hn⟩ := exists_succ_of_le hf
  rw [List.length_append, List.length_cons] at hn
  obtain ⟨mid, hx, hu⟩ := hb.split
  have hlow : sum n c ts = .ok (low, mid) := h hx hs.1 (by rw [hu.next_eq]; decide) (by omega)
  have hhigh : sum n c mid.tail = .ok (high, rest) := hhigh hu.tail hs.2 (by omega) (by omega)
  rw [subscript, hlow]
  simp only [bind, Except.bind, if_pos hu.next_eq, hhigh]
  rfl

/-! ### Operands entered through a group -/

theorem entered_parenthesised {e : Expr} (h : Complete .disjunction xs (.condition e)) :
    Entered .primary (.openParen :: xs ++ [.closeParen]) e := by
  intro c ts rest hb hs hl _
  obtain ⟨close, hx, hclose⟩ := hb.tail.split
  refine ⟨e, rest, fun {fuel} hf => ⟨⟨close, ?_, hclose.next_eq, hclose.tail.eq⟩, rfl, rfl⟩⟩
  rw [List.length_append, List.length_cons] at hf
  exact h hx hs (by rw [hclose.next_eq]; decide) (by omega)

theorem entered_atom {x : Token} {e : Expr} (h : Atom x e) : Entered .primary [x] e := by
  intro c ts rest hb _ _ hopen
  rw [hb.next_eq] at hopen
  rw [hopen] at h
  cases h

theorem entered_path {base : Expr} {steps : List Accessor} (h : Entered .primary xs base)
    (hsteps : Complete .accessors us steps) : Entered .path (xs ++ us) (walk base steps) := by
  intro c ts rest hb hs hl hopen
  obtain ⟨hs, hs'⟩ := (walk_scoped _ _).1 hs
  obtain ⟨mid, hx, hu⟩ := hb.split
  obtain ⟨e, mid', hgroup⟩ := h hx hs (Nat.zero_le _) hopen
  refine ⟨e, mid', fun {fuel} hf => ?_⟩
  rw [List.length_append] at hf
  obtain ⟨henters, rfl, rfl⟩ := hgroup (by omega : _ ≤ fuel)
  exact ⟨henters, hsteps hu hs' hl (by omega) e⟩

theorem entered_sign {x : Token} {op : SignOp} {operand : Expr} (hop : Sign x op) :
    Entered .signed (x :: xs) (.signed op operand) := by
  intro c ts rest hb _ _ hopen
  rw [hb.next_eq] at hopen
  rw [hopen] at hop
  cases hop

theorem entered_product {left : Expr} {operands : List (ArithmeticOp × Expr)}
    (h : Entered .signed xs left) (d : Derives .factors us operands)
    (hfactors : Complete .factors us operands) :
    Entered .product (xs ++ us) (chain left operands) := by
  intro c ts rest hb hs hl hopen
  obtain ⟨hs, hs'⟩ := (chain_scoped _ _).1 hs
  obtain ⟨mid, hx, hu⟩ := hb.split
  obtain ⟨e, mid', hgroup⟩ := h hx hs (looseness_of_factors d hu hl) hopen
  refine ⟨e, mid', fun {fuel} hf => ?_⟩
  rw [List.length_append] at hf
  obtain ⟨henters, hpath⟩ := hgroup (by omega : _ ≤ fuel)
  refine ⟨henters, ?_⟩
  show productRest fuel c e mid' = .ok (chain left operands, rest)
  rw [productRest, hpath]
  exact hfactors hu hs' hl (by omega) left

theorem entered_sum {left : Expr} {operands : List (ArithmeticOp × Expr)}
    (h : Entered .product xs left) (d : Derives .terms us operands)
    (hterms : Complete .terms us operands) : Entered .sum (xs ++ us) (chain left operands) := by
  intro c ts rest hb hs hl hopen
  obtain ⟨hs, hs'⟩ := (chain_scoped _ _).1 hs
  obtain ⟨mid, hx, hu⟩ := hb.split
  obtain ⟨e, mid', hgroup⟩ := h hx hs (looseness_of_terms d hu hl) hopen
  refine ⟨e, mid', fun {fuel} hf => ?_⟩
  rw [List.length_append] at hf
  obtain ⟨henters, hproduct⟩ := hgroup (by omega : _ ≤ fuel)
  refine ⟨henters, ?_⟩
  show sumRest fuel c e mid' = .ok (chain left operands, rest)
  rw [sumRest, hproduct]
  exact hterms hu hs' hl (by omega) left

/-! ## The induction -/

/-- The function for a phrase reads it, and an operand that begins with a
parenthesis is read through its group as well.  Both are shown at once: a group
is read by `disjunction` and holds a sum. -/
theorem complete_of_derives {n : Nonterminal} {t : n.Tree} (h : Derives n xs t) :
    Complete n xs t ∧ Entered n xs t := by
  induction h with
  -- predicates
  | alone _ ih => exact ⟨complete_alone ih.1, trivial⟩
  | either _ ih => exact ⟨complete_either ih.1, trivial⟩
  | lastDisjunct _ ih => exact ⟨complete_lastDisjunct ih.1, trivial⟩
  | disjunct _ _ ih ih' => exact ⟨complete_disjunct ih.1 ih'.1, trivial⟩
  | single _ ih => exact ⟨complete_single ih.1, trivial⟩
  | both _ ih => exact ⟨complete_both ih.1, trivial⟩
  | lastConjunct _ ih => exact ⟨complete_lastConjunct ih.1, trivial⟩
  | conjunct _ _ ih ih' => exact ⟨complete_conjunct ih.1 ih'.1, trivial⟩
  | not _ ih => exact ⟨complete_not ih.1, trivial⟩
  | plain d ih => exact ⟨complete_plain ih.1 (opens_of_derives d), trivial⟩
  | group _ ih => exact ⟨complete_group ih.1, trivial⟩
  | unknown _ ih => exact ⟨complete_unknown ih.1, trivial⟩
  | existence _ ih => exact ⟨complete_existence ih.1, trivial⟩
  | compare d hop _ ih ih' =>
      exact ⟨complete_compare ih.1 ih.2 (opens_of_derives d) hop ih'.1, trivial⟩
  | startsWith d hstart ih =>
      exact ⟨complete_startsWith ih.1 ih.2 (opens_of_derives d) hstart, trivial⟩
  | likeRegex d hpattern ih =>
      exact ⟨complete_likeRegex ih.1 ih.2 (opens_of_derives d) hpattern, trivial⟩
  | likeRegexFlag d hpattern ih =>
      exact ⟨complete_likeRegexFlag ih.1 ih.2 (opens_of_derives d) hpattern, trivial⟩
  | condition d ih => exact ⟨complete_condition ih.1 ih.2 (opens_of_derives d), trivial⟩
  -- operands
  | sum d d' ih ih' =>
      exact ⟨complete_sum ih.1 d' ih'.1 (opens_of_derives d), entered_sum ih.2 d' ih'.1⟩
  | noTerm => exact ⟨complete_noTerm, trivial⟩
  | term hop _ d' ih ih' => exact ⟨complete_term hop ih.1 d' ih'.1, trivial⟩
  | product d d' ih ih' =>
      exact ⟨complete_product ih.1 d' ih'.1 (opens_of_derives d), entered_product ih.2 d' ih'.1⟩
  | noFactor => exact ⟨complete_noFactor, trivial⟩
  | factor hop _ d' ih ih' => exact ⟨complete_factor hop ih.1 d' ih'.1, trivial⟩
  | sign hop _ ih => exact ⟨complete_sign hop ih.1, entered_sign hop⟩
  | unsigned d ih => exact ⟨complete_unsigned ih.1 (opens_of_derives d), ih.2⟩
  | path _ _ ih ih' => exact ⟨complete_path ih.1 ih'.1, entered_path ih.2 ih'.1⟩
  | parenthesised d ih =>
      have hs : Complete .simple _ _ := complete_condition ih.1 ih.2 (opens_of_derives d)
      have hn : Complete .negation _ _ :=
        complete_plain hs (opens_of_derives (Derives.condition d))
      have hd : Complete .disjunction _ _ :=
        complete_alone (complete_lastDisjunct (complete_single (complete_lastConjunct hn)))
      exact ⟨complete_parenthesised ih.1, entered_parenthesised hd⟩
  | atom h => exact ⟨complete_atom h, entered_atom h⟩
  -- accessors and subscripts
  | noAccessor => exact ⟨complete_noAccessor, trivial⟩
  | accessor d d' ih ih' =>
      exact ⟨complete_accessor ih.1 (opens_of_derives d) d' ih'.1, trivial⟩
  | member h => exact ⟨complete_member h, trivial⟩
  | memberWildcard => exact ⟨complete_memberWildcard, trivial⟩
  | elementWildcard => exact ⟨complete_elementWildcard, trivial⟩
  | subscripted d ih => exact ⟨complete_subscripted ih.1 (opens_of_derives d), trivial⟩
  | filter _ ih => exact ⟨complete_filter ih.1, trivial⟩
  | method h => exact ⟨complete_method h, trivial⟩
  | dateTime => exact ⟨complete_dateTime, trivial⟩
  | dateTimeTemplate template => exact ⟨complete_dateTimeTemplate template, trivial⟩
  | lastSubscript _ ih => exact ⟨complete_lastSubscript ih.1, trivial⟩
  | subscript _ _ ih ih' => exact ⟨complete_subscript ih.1 ih'.1, trivial⟩
  | indices _ ih => exact ⟨complete_indices ih.1, trivial⟩
  | range _ _ ih ih' => exact ⟨complete_range ih.1 ih'.1, trivial⟩

end Parser

end JsonPath
