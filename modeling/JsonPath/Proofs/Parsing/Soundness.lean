import JsonPath.Proofs.Parsing.Grammar

/-!
# What the parser reads is derived by the grammar

Each function of the parser that succeeds has consumed a phrase of the grammar,
its result is the tree of that phrase, and the references in the tree are where
they may be.

`Begins` says that a list of tokens begins with a phrase and how it goes on;
`Reads` adds the derivation and the scoping.  `SoundAt` states the property of
every function for one budget.  The functions call each other with a smaller
budget only, so that `SoundAt` passes from each budget to the next, one lemma
for each function; `soundAt` is the induction.
-/

namespace JsonPath

open Grammar

namespace Parser

/-! ## Steps of the parser -/

theorem bind_eq_ok_iff {α β : Type} {x : Except SyntaxError α}
    {f : α → Except SyntaxError β} {b : β} :
    (x >>= f) = .ok b ↔ ∃ a, x = .ok a ∧ f a = .ok b := by
  cases x with
  | error e => simp [bind, Except.bind]
  | ok a => simp [bind, Except.bind]

@[simp]
theorem complain_ne_ok {α : Type} (complaint : Complaint) (ts : Tokens) (a : α) :
    complain complaint ts ≠ .ok a := nofun

@[simp]
theorem unexpected_ne_ok {α : Type} (expected : Expectation) (ts : Tokens) (a : α) :
    unexpected expected ts ≠ .ok a := nofun

theorem expect_eq_ok_iff {token : Token} {expected : Expectation} {ts rest : Tokens} :
    expect token expected ts = .ok rest ↔ next ts = token ∧ ts.tail = rest := by
  unfold expect
  split <;> simp [*]

theorem expectWord_eq_ok_iff {w : String} {ts rest : Tokens} :
    expectWord w ts = .ok rest ↔ next ts = .word w ∧ ts.tail = rest :=
  expect_eq_ok_iff

theorem stringLiteral_eq_ok_iff {ts rest : Tokens} {s : String} :
    stringLiteral ts = .ok (s, rest) ↔ next ts = .string s ∧ ts.tail = rest := by
  unfold stringLiteral
  split <;> simp_all

/-! ## Phrases at the beginning of some tokens -/

/-- The tokens `ts` are the phrase `xs` and then `rest`. -/
def Begins (ts : Tokens) (xs : List Token) (rest : Tokens) : Prop :=
  ∃ phrase, ts = phrase ++ rest ∧ phrase.map SourceToken.token = xs

namespace Begins

variable {ts mid rest : Tokens} {x : Token} {xs ys : List Token}

theorem nil (ts : Tokens) : Begins ts [] ts := ⟨[], rfl, rfl⟩

theorem append (h : Begins ts xs mid) (h' : Begins mid ys rest) : Begins ts (xs ++ ys) rest := by
  obtain ⟨phrase, rfl, rfl⟩ := h
  obtain ⟨phrase', rfl, rfl⟩ := h'
  exact ⟨phrase ++ phrase', by simp, by simp⟩

/-- A token that is not the end is there and can be consumed. -/
theorem one (hx : next ts = x) (hne : x ≠ .endOfInput) : Begins ts [x] ts.tail := by
  cases ts with
  | nil => exact absurd hx.symm hne
  | cons t ts => exact ⟨[t], rfl, by simpa [next, first] using hx⟩

theorem cons (hx : next ts = x) (hne : x ≠ .endOfInput) (h : Begins ts.tail xs rest) :
    Begins ts (x :: xs) rest :=
  (one hx hne).append h

end Begins

/-- The tokens `ts` begin with a phrase that has the tree `t`, and go on with
`rest`. -/
def Reads (n : Nonterminal) (c : Nesting) (ts : Tokens) (t : n.Tree) (rest : Tokens) : Prop :=
  ∃ xs, Begins ts xs rest ∧ Derives n xs t ∧ n.Scoped c t

/-- What holds of every function of the parser that succeeds within a budget.  A
function that continues an operand is told what the operand was, and from which
tokens it was read. -/
structure SoundAt (fuel : Nat) : Prop where
  disjunction : ∀ {c ts p rest},
    disjunction fuel c ts = .ok (p, rest) → Reads .disjunction c ts p rest
  disjuncts : ∀ {c ts ps rest},
    disjuncts fuel c ts = .ok (ps, rest) → Reads .disjuncts c ts ps rest
  conjunction : ∀ {c ts p rest},
    conjunction fuel c ts = .ok (p, rest) → Reads .conjunction c ts p rest
  conjuncts : ∀ {c ts ps rest},
    conjuncts fuel c ts = .ok (ps, rest) → Reads .conjuncts c ts ps rest
  negation : ∀ {c ts p rest}, negation fuel c ts = .ok (p, rest) → Reads .negation c ts p rest
  groupTail : ∀ {c e start ts p rest}, Reads .primary c start e ts →
    groupTail fuel c e ts = .ok (p, rest) → Reads .simple c start p rest
  simple : ∀ {c ts p rest}, simple fuel c ts = .ok (p, rest) → Reads .simple c ts p rest
  simpleTail : ∀ {c left start ts p rest}, Reads .sum c start left ts →
    simpleTail fuel c left ts = .ok (p, rest) → Reads .simple c start p rest
  sum : ∀ {c ts e rest}, sum fuel c ts = .ok (e, rest) → Reads .sum c ts e rest
  sumTail : ∀ {c left ts e rest}, sumTail fuel c left ts = .ok (e, rest) →
    ∃ operands, e = chain left operands ∧ Reads .terms c ts operands rest
  product : ∀ {c ts e rest}, product fuel c ts = .ok (e, rest) → Reads .product c ts e rest
  productTail : ∀ {c left ts e rest}, productTail fuel c left ts = .ok (e, rest) →
    ∃ operands, e = chain left operands ∧ Reads .factors c ts operands rest
  signed : ∀ {c ts e rest}, signed fuel c ts = .ok (e, rest) → Reads .signed c ts e rest
  primary : ∀ {c ts e rest}, primary fuel c ts = .ok (e, rest) → Reads .primary c ts e rest
  pathTail : ∀ {c base ts e rest}, pathTail fuel c base ts = .ok (e, rest) →
    ∃ steps, e = walk base steps ∧ Reads .accessors c ts steps rest
  bracketStep : ∀ {c ts step rest}, next ts = .openBracket →
    bracketStep fuel c ts.tail = .ok (step, rest) → Reads .accessor c ts step rest
  subscripts : ∀ {c ts subs rest},
    subscripts fuel c ts = .ok (subs, rest) → Reads .subscripts c ts subs rest
  subscript : ∀ {c ts sub rest},
    subscript fuel c ts = .ok (sub, rest) → Reads .subscript c ts sub rest

variable {fuel : Nat} {c : Nesting} {ts start mid rest : Tokens}

/-! ## Operands -/

theorem Reads.chain_terms {left : Expr} {operands : List (ArithmeticOp × Expr)}
    (hl : Reads .product c ts left mid) (ho : Reads .terms c mid operands rest) :
    Reads .sum c ts (chain left operands) rest := by
  obtain ⟨xs, hxs, dl, sl⟩ := hl
  obtain ⟨ys, hys, d, s⟩ := ho
  exact ⟨xs ++ ys, hxs.append hys, .sum dl d, (chain_scoped _ _).2 ⟨sl, s⟩⟩

theorem Reads.chain_factors {left : Expr} {operands : List (ArithmeticOp × Expr)}
    (hl : Reads .signed c ts left mid) (ho : Reads .factors c mid operands rest) :
    Reads .product c ts (chain left operands) rest := by
  obtain ⟨xs, hxs, dl, sl⟩ := hl
  obtain ⟨ys, hys, d, s⟩ := ho
  exact ⟨xs ++ ys, hxs.append hys, .product dl d, (chain_scoped _ _).2 ⟨sl, s⟩⟩

theorem Reads.walk_accessors {base : Expr} {steps : List Accessor}
    (hb : Reads .primary c ts base mid) (hs : Reads .accessors c mid steps rest) :
    Reads .signed c ts (walk base steps) rest := by
  obtain ⟨xs, hxs, db, sb⟩ := hb
  obtain ⟨ys, hys, d, s⟩ := hs
  exact ⟨xs ++ ys, hxs.append hys, .unsigned (.path db d), (walk_scoped _ _).2 ⟨sb, s⟩⟩

theorem additive?_eq_some_iff {x : Token} {op : ArithmeticOp} :
    additive? x = some op ↔ Additive x op := by
  constructor
  · cases x <;> simp only [additive?, reduceCtorEq, Option.some.injEq, false_implies] <;>
      rintro rfl <;> constructor
  · rintro ⟨⟩ <;> rfl

theorem additive_ne_end {x : Token} {op : ArithmeticOp} (h : Additive x op) : x ≠ .endOfInput := by
  cases h <;> nofun

theorem multiplicative?_eq_some_iff {x : Token} {op : ArithmeticOp} :
    multiplicative? x = some op ↔ Multiplicative x op := by
  constructor
  · cases x <;> simp only [multiplicative?, reduceCtorEq, Option.some.injEq, false_implies] <;>
      rintro rfl <;> constructor
  · rintro ⟨⟩ <;> rfl

theorem multiplicative_ne_end {x : Token} {op : ArithmeticOp} (h : Multiplicative x op) :
    x ≠ .endOfInput := by
  cases h <;> nofun

theorem sign?_eq_some_iff {x : Token} {op : SignOp} : sign? x = some op ↔ Sign x op := by
  constructor
  · cases x <;> simp only [sign?, reduceCtorEq, Option.some.injEq, false_implies] <;>
      rintro rfl <;> constructor
  · rintro ⟨⟩ <;> rfl

theorem sign_ne_end {x : Token} {op : SignOp} (h : Sign x op) : x ≠ .endOfInput := by
  cases h <;> nofun

theorem comparison?_eq_some_iff {x : Token} {op : Comparison} :
    comparison? x = some op ↔ Comparing x op := by
  constructor
  · cases x <;> simp only [comparison?, reduceCtorEq, Option.some.injEq, false_implies] <;>
      rintro rfl <;> constructor
  · rintro ⟨⟩ <;> rfl

theorem comparing_ne_end {x : Token} {op : Comparison} (h : Comparing x op) : x ≠ .endOfInput := by
  cases h <;> nofun

theorem wordAtom?_eq_some_ok_iff {w : String} {e : Expr} :
    wordAtom? c ts w = some (.ok e) ↔ Atom (.word w) e ∧ e.Scoped c := by
  constructor
  · intro h
    unfold wordAtom? at h
    split at h
    · cases h
      exact ⟨.yes, trivial⟩
    · cases h
      exact ⟨.no, trivial⟩
    · cases h
      exact ⟨.null, trivial⟩
    · by_cases hc : c.inSubscript
      · rw [if_pos hc] at h
        cases h
        exact ⟨.last, hc⟩
      · rw [if_neg hc] at h
        cases h
    · cases h
  · rintro ⟨ha, hs⟩
    cases ha with
    | last => exact congrArg some (if_pos hs)
    | _ => rfl

/-- An atom is read where its token is next and its reference is in place. -/
theorem atom?_eq_some_ok_iff {e : Expr} :
    atom? c ts = some (.ok e) ↔ Atom (next ts) e ∧ e.Scoped c := by
  rw [atom?]
  cases next ts with
  | word w => exact wordAtom?_eq_some_ok_iff
  | «at» =>
      constructor
      · intro h
        by_cases hc : c.inFilter
        · simp only [if_pos hc] at h
          cases h
          exact ⟨.current, hc⟩
        · simp only [if_neg hc] at h
          cases h
      · rintro ⟨⟨⟩, hs⟩
        exact congrArg some (if_pos hs)
  | integer | number | string | «variable» | dollar =>
      constructor
      · rintro ⟨⟩
        exact ⟨by constructor, trivial⟩
      · rintro ⟨⟨⟩, -⟩
        rfl
  | _ => exact iff_of_false nofun fun ⟨ha, _⟩ => nomatch ha

theorem Reads.atom {e : Expr} (h : Atom (next ts) e) (hs : e.Scoped c) :
    Reads .primary c ts e ts.tail := by
  have hne : next ts ≠ .endOfInput := fun hx => nomatch hx ▸ h
  exact ⟨[next ts], .one rfl hne, .atom h, hs⟩

/-! ## Accessors without expressions -/

theorem methodStep_sound {name : String} {step : Accessor} (hdot : next ts = .dot)
    (hname : next ts.tail = .word name) (hopen : next ts.tail.tail = .openParen)
    (h : methodStep name ts.tail = .ok (step, rest)) : Reads .accessor c ts step rest := by
  unfold methodStep at h
  split at h
  · next hdate =>
      subst hdate
      dsimp only at h
      split at h
      · next s hs =>
          obtain ⟨_, hend, h⟩ := bind_eq_ok_iff.1 h
          obtain ⟨hclose, rfl⟩ := expect_eq_ok_iff.1 hend
          cases h
          have harguments := (Begins.one hs nofun).append (.one hclose nofun)
          exact ⟨_, .cons hdot nofun (.cons hname nofun (.cons hopen nofun harguments)),
            .dateTimeTemplate s, trivial⟩
      · obtain ⟨_, hend, h⟩ := bind_eq_ok_iff.1 h
        obtain ⟨hclose, rfl⟩ := expect_eq_ok_iff.1 hend
        cases h
        exact ⟨_, .cons hdot nofun (.cons hname nofun (.cons hopen nofun (.one hclose nofun))),
          .dateTime, trivial⟩
  · split at h
    · exact absurd h (complain_ne_ok _ _ _)
    · next m hm =>
        obtain ⟨_, hend, h⟩ := bind_eq_ok_iff.1 h
        obtain ⟨hclose, rfl⟩ := expect_eq_ok_iff.1 hend
        cases h
        exact ⟨_, .cons hdot nofun (.cons hname nofun (.cons hopen nofun (.one hclose nofun))),
          .method hm, trivial⟩

theorem dotStep_sound {step : Accessor} (hdot : next ts = .dot)
    (h : dotStep ts.tail = .ok (step, rest)) : Reads .accessor c ts step rest := by
  unfold dotStep at h
  split at h
  · next hx =>
      cases h
      exact ⟨_, .cons hdot nofun (.one hx nofun), .memberWildcard, trivial⟩
  · next s hx =>
      cases h
      exact ⟨_, .cons hdot nofun (.one hx nofun), .member (.string s), trivial⟩
  · next name hx =>
      split at h
      · next hopen => exact methodStep_sound hdot hx hopen h
      · cases h
        exact ⟨_, .cons hdot nofun (.one hx nofun), .member (.word name), trivial⟩
  · exact absurd h (unexpected_ne_ok _ _ _)

/-! ## Predicates without connectives -/

theorem startsWithTail_sound {left : Expr} {p : Predicate} (hl : Reads .sum c start left ts)
    (hword : next ts = .word "starts") (h : startsWithTail left ts.tail = .ok (p, rest)) :
    Reads .simple c start p rest := by
  obtain ⟨xs, hxs, dl, sl⟩ := hl
  unfold startsWithTail at h
  obtain ⟨_, hw, h⟩ := bind_eq_ok_iff.1 h
  obtain ⟨hwith, rfl⟩ := expectWord_eq_ok_iff.1 hw
  split at h
  · next s hx =>
      cases h
      exact ⟨_, hxs.append (.cons hword nofun (.cons hwith nofun (.one hx nofun))),
        .startsWith dl (.string s), sl, trivial⟩
  · next name hx =>
      cases h
      exact ⟨_, hxs.append (.cons hword nofun (.cons hwith nofun (.one hx nofun))),
        .startsWith dl (.variable name), sl, trivial⟩
  · exact absurd h (unexpected_ne_ok _ _ _)

theorem likeRegexTail_sound {left : Expr} {p : Predicate} (hl : Reads .sum c start left ts)
    (hword : next ts = .word "like_regex") (h : likeRegexTail left ts.tail = .ok (p, rest)) :
    Reads .simple c start p rest := by
  obtain ⟨xs, hxs, dl, sl⟩ := hl
  unfold likeRegexTail at h
  obtain ⟨⟨text, mid⟩, hs, h⟩ := bind_eq_ok_iff.1 h
  obtain ⟨htext, rfl⟩ := stringLiteral_eq_ok_iff.1 hs
  obtain ⟨⟨flags, mid⟩, hflags, h⟩ := bind_eq_ok_iff.1 h
  unfold patternFlags at hflags
  dsimp only at h
  split at h
  · next pattern hp =>
      cases h
      split at hflags
      · next hflag =>
          obtain ⟨hx, rfl⟩ := stringLiteral_eq_ok_iff.1 hflags
          have hflags := Begins.cons hflag nofun (.one hx nofun)
          exact ⟨_, hxs.append (.cons hword nofun (.cons htext nofun hflags)),
            .likeRegexFlag dl hp, sl⟩
      · cases hflags
        exact ⟨_, hxs.append (.cons hword nofun (.one htext nofun)), .likeRegex dl hp, sl⟩
  · exact absurd h (complain_ne_ok _ _ _)

/-! ## One budget after the other -/

theorem disjunction_sound (ih : SoundAt fuel) {p : Predicate}
    (h : disjunction (fuel + 1) c ts = .ok (p, rest)) : Reads .disjunction c ts p rest := by
  rw [disjunction] at h
  obtain ⟨⟨ps, mid⟩, hps, h⟩ := bind_eq_ok_iff.1 h
  cases h
  obtain ⟨xs, hxs, d, s⟩ := ih.disjuncts hps
  match ps, d, s with
  | [q], d, s => exact ⟨xs, hxs, .alone d, s.1⟩
  | _ :: _ :: _, d, s => exact ⟨xs, hxs, .either d, s⟩

theorem disjuncts_sound (ih : SoundAt fuel) {ps : List Predicate}
    (h : disjuncts (fuel + 1) c ts = .ok (ps, rest)) : Reads .disjuncts c ts ps rest := by
  rw [disjuncts] at h
  obtain ⟨⟨p, mid⟩, hp, h⟩ := bind_eq_ok_iff.1 h
  obtain ⟨xs, hxs, d, s⟩ := ih.conjunction hp
  dsimp only at h
  split at h
  · next hor =>
      obtain ⟨⟨qs, mid'⟩, hqs, h⟩ := bind_eq_ok_iff.1 h
      cases h
      obtain ⟨ys, hys, d', s'⟩ := ih.disjuncts hqs
      exact ⟨_, hxs.append (.cons hor nofun hys), .disjunct d d', s, s'⟩
  · cases h
    exact ⟨xs, hxs, .lastDisjunct d, s, trivial⟩

theorem conjunction_sound (ih : SoundAt fuel) {p : Predicate}
    (h : conjunction (fuel + 1) c ts = .ok (p, rest)) : Reads .conjunction c ts p rest := by
  rw [conjunction] at h
  obtain ⟨⟨ps, mid⟩, hps, h⟩ := bind_eq_ok_iff.1 h
  cases h
  obtain ⟨xs, hxs, d, s⟩ := ih.conjuncts hps
  match ps, d, s with
  | [q], d, s => exact ⟨xs, hxs, .single d, s.1⟩
  | _ :: _ :: _, d, s => exact ⟨xs, hxs, .both d, s⟩

theorem conjuncts_sound (ih : SoundAt fuel) {ps : List Predicate}
    (h : conjuncts (fuel + 1) c ts = .ok (ps, rest)) : Reads .conjuncts c ts ps rest := by
  rw [conjuncts] at h
  obtain ⟨⟨p, mid⟩, hp, h⟩ := bind_eq_ok_iff.1 h
  obtain ⟨xs, hxs, d, s⟩ := ih.negation hp
  dsimp only at h
  split at h
  · next hand =>
      obtain ⟨⟨qs, mid'⟩, hqs, h⟩ := bind_eq_ok_iff.1 h
      cases h
      obtain ⟨ys, hys, d', s'⟩ := ih.conjuncts hqs
      exact ⟨_, hxs.append (.cons hand nofun hys), .conjunct d d', s, s'⟩
  · cases h
    exact ⟨xs, hxs, .lastConjunct d, s, trivial⟩

/-- A group is read as a predicate.  If that is only an expression, the group is
a primary expression as well, and what follows continues it as an operand. -/
theorem negation_sound (ih : SoundAt fuel) {p : Predicate}
    (h : negation (fuel + 1) c ts = .ok (p, rest)) : Reads .negation c ts p rest := by
  rw [negation] at h
  split at h
  · next hnot =>
      obtain ⟨⟨q, mid⟩, hq, h⟩ := bind_eq_ok_iff.1 h
      cases h
      obtain ⟨xs, hxs, d, s⟩ := ih.negation hq
      exact ⟨_, .cons hnot nofun hxs, .not d, s⟩
  · next hopen =>
      obtain ⟨⟨q, mid⟩, hq, h⟩ := bind_eq_ok_iff.1 h
      obtain ⟨_, hend, h⟩ := bind_eq_ok_iff.1 h
      obtain ⟨hclose, rfl⟩ := expect_eq_ok_iff.1 hend
      obtain ⟨xs, hxs, d, s⟩ := ih.disjunction hq
      split at h
      · next his =>
          obtain ⟨_, hw, h⟩ := bind_eq_ok_iff.1 h
          obtain ⟨hunknown, rfl⟩ := expectWord_eq_ok_iff.1 hw
          cases h
          have hend := Begins.cons hclose nofun (.cons his nofun (.one hunknown nofun))
          exact ⟨_, .cons hopen nofun (hxs.append hend), .unknown d, s⟩
      · have hgroup := Begins.cons hopen nofun (hxs.append (.one hclose nofun))
        split at h
        · next e _ =>
            have hp : Reads .primary c ts e mid.tail :=
              ⟨_, hgroup, .parenthesised (Derives.sum_of_disjunction d), s⟩
            obtain ⟨ys, hys, d', s'⟩ := ih.groupTail hp h
            exact ⟨ys, hys, .plain d', s'⟩
        · cases h
          exact ⟨_, hgroup, .group d, s⟩
  · obtain ⟨xs, hxs, d, s⟩ := ih.simple h
    exact ⟨xs, hxs, .plain d, s⟩

theorem groupTail_sound (ih : SoundAt fuel) {e : Expr} {p : Predicate}
    (he : Reads .primary c start e ts) (h : groupTail (fuel + 1) c e ts = .ok (p, rest)) :
    Reads .simple c start p rest := by
  rw [groupTail] at h
  obtain ⟨⟨e₁, ts₁⟩, h₁, h⟩ := bind_eq_ok_iff.1 h
  obtain ⟨⟨e₂, ts₂⟩, h₂, h⟩ := bind_eq_ok_iff.1 h
  obtain ⟨⟨e₃, ts₃⟩, h₃, h⟩ := bind_eq_ok_iff.1 h
  obtain ⟨steps, rfl, hsteps⟩ := ih.pathTail h₁
  obtain ⟨factors, rfl, hfactors⟩ := ih.productTail h₂
  obtain ⟨terms, rfl, hterms⟩ := ih.sumTail h₃
  exact ih.simpleTail (((he.walk_accessors hsteps).chain_factors hfactors).chain_terms hterms) h

theorem simple_sound (ih : SoundAt fuel) {p : Predicate}
    (h : simple (fuel + 1) c ts = .ok (p, rest)) : Reads .simple c ts p rest := by
  rw [simple] at h
  split at h
  · next hexists =>
      obtain ⟨⟨e, mid⟩, he, h⟩ := bind_eq_ok_iff.1 h
      obtain ⟨_, hend, h⟩ := bind_eq_ok_iff.1 h
      obtain ⟨hclose, rfl⟩ := expect_eq_ok_iff.1 hend
      cases h
      obtain ⟨xs, hxs, d, s⟩ := ih.sum he
      exact ⟨_, .cons hexists.1 nofun (.cons hexists.2 nofun (hxs.append (.one hclose nofun))),
        .existence d, s⟩
  · obtain ⟨⟨e, mid⟩, he, h⟩ := bind_eq_ok_iff.1 h
    exact ih.simpleTail (ih.sum he) h

theorem simpleTail_sound (ih : SoundAt fuel) {left : Expr} {p : Predicate}
    (hl : Reads .sum c start left ts) (h : simpleTail (fuel + 1) c left ts = .ok (p, rest)) :
    Reads .simple c start p rest := by
  rw [simpleTail] at h
  split at h
  · next op hop =>
      obtain ⟨⟨right, mid⟩, hr, h⟩ := bind_eq_ok_iff.1 h
      cases h
      obtain ⟨xs, hxs, dl, sl⟩ := hl
      obtain ⟨ys, hys, dr, sr⟩ := ih.sum hr
      have hop := comparison?_eq_some_iff.1 hop
      exact ⟨_, hxs.append (.cons rfl (comparing_ne_end hop) hys), .compare dl hop dr, sl, sr⟩
  · split at h
    · next hword => exact startsWithTail_sound hl hword h
    · next hword => exact likeRegexTail_sound hl hword h
    · cases h
      obtain ⟨xs, hxs, d, s⟩ := hl
      exact ⟨xs, hxs, .condition d, s⟩

theorem sum_sound (ih : SoundAt fuel) {e : Expr} (h : sum (fuel + 1) c ts = .ok (e, rest)) :
    Reads .sum c ts e rest := by
  rw [sum] at h
  obtain ⟨⟨left, mid⟩, hl, h⟩ := bind_eq_ok_iff.1 h
  obtain ⟨terms, rfl, hterms⟩ := ih.sumTail h
  exact (ih.product hl).chain_terms hterms

theorem sumTail_sound (ih : SoundAt fuel) {left e : Expr}
    (h : sumTail (fuel + 1) c left ts = .ok (e, rest)) :
    ∃ operands, e = chain left operands ∧ Reads .terms c ts operands rest := by
  rw [sumTail] at h
  split at h
  · cases h
    exact ⟨[], rfl, [], .nil _, .noTerm, nofun⟩
  · next op hop =>
      obtain ⟨⟨right, mid⟩, hr, h⟩ := bind_eq_ok_iff.1 h
      obtain ⟨operands, rfl, ys, hys, d, s⟩ := ih.sumTail h
      obtain ⟨xs, hxs, dr, sr⟩ := ih.product hr
      have hop := additive?_eq_some_iff.1 hop
      exact ⟨(op, right) :: operands, rfl, _, .append (.cons rfl (additive_ne_end hop) hxs) hys,
        .term hop dr d, List.forall_mem_cons.2 ⟨sr, s⟩⟩

theorem product_sound (ih : SoundAt fuel) {e : Expr}
    (h : product (fuel + 1) c ts = .ok (e, rest)) : Reads .product c ts e rest := by
  rw [product] at h
  obtain ⟨⟨left, mid⟩, hl, h⟩ := bind_eq_ok_iff.1 h
  obtain ⟨factors, rfl, hfactors⟩ := ih.productTail h
  exact (ih.signed hl).chain_factors hfactors

theorem productTail_sound (ih : SoundAt fuel) {left e : Expr}
    (h : productTail (fuel + 1) c left ts = .ok (e, rest)) :
    ∃ operands, e = chain left operands ∧ Reads .factors c ts operands rest := by
  rw [productTail] at h
  split at h
  · cases h
    exact ⟨[], rfl, [], .nil _, .noFactor, nofun⟩
  · next op hop =>
      obtain ⟨⟨right, mid⟩, hr, h⟩ := bind_eq_ok_iff.1 h
      obtain ⟨operands, rfl, ys, hys, d, s⟩ := ih.productTail h
      obtain ⟨xs, hxs, dr, sr⟩ := ih.signed hr
      have hop := multiplicative?_eq_some_iff.1 hop
      exact ⟨(op, right) :: operands, rfl, _,
        .append (.cons rfl (multiplicative_ne_end hop) hxs) hys, .factor hop dr d,
        List.forall_mem_cons.2 ⟨sr, s⟩⟩

theorem signed_sound (ih : SoundAt fuel) {e : Expr}
    (h : signed (fuel + 1) c ts = .ok (e, rest)) : Reads .signed c ts e rest := by
  rw [signed] at h
  split at h
  · next op hop =>
      obtain ⟨⟨operand, mid⟩, ho, h⟩ := bind_eq_ok_iff.1 h
      cases h
      obtain ⟨xs, hxs, d, s⟩ := ih.signed ho
      have hop := sign?_eq_some_iff.1 hop
      exact ⟨_, .cons rfl (sign_ne_end hop) hxs, .sign hop d, s⟩
  · obtain ⟨⟨base, mid⟩, hb, h⟩ := bind_eq_ok_iff.1 h
    obtain ⟨steps, rfl, hsteps⟩ := ih.pathTail h
    exact (ih.primary hb).walk_accessors hsteps

theorem primary_sound (ih : SoundAt fuel) {e : Expr}
    (h : primary (fuel + 1) c ts = .ok (e, rest)) : Reads .primary c ts e rest := by
  rw [primary] at h
  split at h
  · next hopen =>
      obtain ⟨⟨e', mid⟩, he, h⟩ := bind_eq_ok_iff.1 h
      obtain ⟨_, hend, h⟩ := bind_eq_ok_iff.1 h
      obtain ⟨hclose, rfl⟩ := expect_eq_ok_iff.1 hend
      cases h
      obtain ⟨xs, hxs, d, s⟩ := ih.sum he
      exact ⟨_, .cons hopen nofun (hxs.append (.one hclose nofun)), .parenthesised d, s⟩
  · split at h
    · next atom hatom =>
        obtain ⟨e', he, h⟩ := bind_eq_ok_iff.1 h
        cases h
        rw [he] at hatom
        obtain ⟨ha, hs⟩ := atom?_eq_some_ok_iff.1 hatom
        exact .atom ha hs
    · exact absurd h (unexpected_ne_ok _ _ _)

theorem pathTail_sound (ih : SoundAt fuel) {base e : Expr}
    (h : pathTail (fuel + 1) c base ts = .ok (e, rest)) :
    ∃ steps, e = walk base steps ∧ Reads .accessors c ts steps rest := by
  have more : ∀ {step mid}, Reads .accessor c ts step mid →
      pathTail fuel c (.access base step) mid = .ok (e, rest) →
      ∃ steps, e = walk base steps ∧ Reads .accessors c ts steps rest := by
    intro step mid hstep h
    obtain ⟨xs, hxs, d, s⟩ := hstep
    obtain ⟨steps, rfl, ys, hys, d', s'⟩ := ih.pathTail h
    exact ⟨step :: steps, rfl, _, hxs.append hys, .accessor d d', List.forall_mem_cons.2 ⟨s, s'⟩⟩
  rw [pathTail] at h
  split at h
  · next hdot =>
      obtain ⟨⟨step, mid⟩, hs, h⟩ := bind_eq_ok_iff.1 h
      exact more (dotStep_sound hdot hs) h
  · next hbracket =>
      obtain ⟨⟨step, mid⟩, hs, h⟩ := bind_eq_ok_iff.1 h
      exact more (ih.bracketStep hbracket hs) h
  · next hquestion =>
      obtain ⟨_, hbegin, h⟩ := bind_eq_ok_iff.1 h
      obtain ⟨hopen, rfl⟩ := expect_eq_ok_iff.1 hbegin
      obtain ⟨⟨p, mid⟩, hp, h⟩ := bind_eq_ok_iff.1 h
      obtain ⟨_, hend, h⟩ := bind_eq_ok_iff.1 h
      obtain ⟨hclose, rfl⟩ := expect_eq_ok_iff.1 hend
      obtain ⟨xs, hxs, d, s⟩ := ih.disjunction hp
      exact more ⟨_, .cons hquestion nofun (.cons hopen nofun (hxs.append (.one hclose nofun))),
        .filter d, s⟩ h
  · cases h
    exact ⟨[], rfl, [], .nil _, .noAccessor, nofun⟩

theorem bracketStep_sound (ih : SoundAt fuel) {step : Accessor} (hbracket : next ts = .openBracket)
    (h : bracketStep (fuel + 1) c ts.tail = .ok (step, rest)) :
    Reads .accessor c ts step rest := by
  rw [bracketStep] at h
  split at h
  · next hstar =>
      cases h
      exact ⟨_, .cons hbracket nofun (.cons hstar.1 nofun (.one hstar.2 nofun)),
        .elementWildcard, trivial⟩
  · obtain ⟨⟨subs, mid⟩, hsubs, h⟩ := bind_eq_ok_iff.1 h
    obtain ⟨_, hend, h⟩ := bind_eq_ok_iff.1 h
    obtain ⟨hclose, rfl⟩ := expect_eq_ok_iff.1 hend
    cases h
    obtain ⟨xs, hxs, d, s⟩ := ih.subscripts hsubs
    exact ⟨_, .cons hbracket nofun (hxs.append (.one hclose nofun)), .subscripted d, s⟩

theorem subscripts_sound (ih : SoundAt fuel) {subs : List Subscript}
    (h : subscripts (fuel + 1) c ts = .ok (subs, rest)) : Reads .subscripts c ts subs rest := by
  rw [subscripts] at h
  obtain ⟨⟨sub, mid⟩, hsub, h⟩ := bind_eq_ok_iff.1 h
  obtain ⟨xs, hxs, d, s⟩ := ih.subscript hsub
  dsimp only at h
  split at h
  · next hcomma =>
      obtain ⟨⟨subs', mid'⟩, hsubs, h⟩ := bind_eq_ok_iff.1 h
      cases h
      obtain ⟨ys, hys, d', s'⟩ := ih.subscripts hsubs
      exact ⟨_, hxs.append (.cons hcomma nofun hys), .subscript d d', s, s'⟩
  · cases h
    exact ⟨xs, hxs, .lastSubscript d, s, trivial⟩

theorem subscript_sound (ih : SoundAt fuel) {sub : Subscript}
    (h : subscript (fuel + 1) c ts = .ok (sub, rest)) : Reads .subscript c ts sub rest := by
  rw [subscript] at h
  obtain ⟨⟨low, mid⟩, hlow, h⟩ := bind_eq_ok_iff.1 h
  obtain ⟨xs, hxs, d, s⟩ := ih.sum hlow
  dsimp only at h
  split at h
  · next hto =>
      obtain ⟨⟨high, mid'⟩, hhigh, h⟩ := bind_eq_ok_iff.1 h
      cases h
      obtain ⟨ys, hys, d', s'⟩ := ih.sum hhigh
      exact ⟨_, hxs.append (.cons hto nofun hys), .range d d', s, s'⟩
  · cases h
    exact ⟨xs, hxs, .indices d, s⟩

/-- A budget that is used up gives nothing, and one more call keeps the
property. -/
theorem soundAt (fuel : Nat) : SoundAt fuel := by
  induction fuel with
  | zero => constructor <;> intros <;> rename_i h <;> cases h
  | succ fuel ih =>
      exact {
        disjunction := disjunction_sound ih
        disjuncts := disjuncts_sound ih
        conjunction := conjunction_sound ih
        conjuncts := conjuncts_sound ih
        negation := negation_sound ih
        groupTail := groupTail_sound ih
        simple := simple_sound ih
        simpleTail := simpleTail_sound ih
        sum := sum_sound ih
        sumTail := sumTail_sound ih
        product := product_sound ih
        productTail := productTail_sound ih
        signed := signed_sound ih
        primary := primary_sound ih
        pathTail := pathTail_sound ih
        bracketStep := bracketStep_sound ih
        subscripts := subscripts_sound ih
        subscript := subscript_sound ih }

end Parser

end JsonPath
