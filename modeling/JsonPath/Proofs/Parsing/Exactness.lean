import JsonPath.Proofs.Parsing.Completeness
import Mathlib.Data.List.Basic

/-!
# The parser accepts exactly the statements of the grammar

`parse` returns a mode and a body if and only if the grammar derives them from
the tokens and every `@` and `last` in the body is in place.  Soundness gives one
direction, completeness the other; completeness also gives that no tokens are
derived in two ways, since the parser returns one tree.

The tokens of a source end with `endOfInput` and have it nowhere else
(`EndsOnce`), so that a phrase the parser has read is followed by the end only if
nothing else is left.
-/

namespace JsonPath

open Grammar

namespace Parser

variable {ts rest : Tokens} {xs ys : List Token} {b : Body}

/-! ## The end of the input -/

/-- The tokens end with `endOfInput`, and it stands nowhere else. -/
def EndsOnce (xs : List Token) : Prop :=
  ∃ front, xs = front ++ [.endOfInput] ∧ .endOfInput ∉ front

/-- No phrase contains the end of the input. -/
theorem endOfInput_notMem {n : Nonterminal} {t : n.Tree} (h : Derives n xs t) :
    .endOfInput ∉ xs := by
  induction h with
  | noTerm | noFactor | noAccessor => exact List.not_mem_nil
  | compare _ hop _ ih ih' => cases hop <;> simp [ih, ih']
  | startsWith _ hstart ih => cases hstart <;> simp [ih]
  | term hop _ _ ih ih' => cases hop <;> simp [ih, ih']
  | factor hop _ _ ih ih' => cases hop <;> simp [ih, ih']
  | sign hop _ ih => cases hop <;> simp [ih]
  | atom h => cases h <;> simp
  | member h => cases h <;> simp
  | _ => simp_all

/-- A phrase that is followed by the end of the input is all of the tokens. -/
theorem Begins.eq_append_end (h : Begins ts xs rest) (hts : EndsOnce (ts.map (·.token)))
    (hxs : .endOfInput ∉ xs) (hend : next rest = .endOfInput) :
    ts.map (·.token) = xs ++ [.endOfInput] := by
  obtain ⟨phrase, rfl, rfl⟩ := h
  obtain ⟨front, hfront, hmem⟩ := hts
  rw [List.map_append] at hfront ⊢
  cases rest with
  | nil =>
      rw [List.map_nil, List.append_nil] at hfront
      rw [hfront] at hxs
      simp at hxs
  | cons t rest =>
      have ht : t.token = .endOfInput := hend
      rw [List.map_cons, ht] at hfront ⊢
      obtain ⟨-, -, hrest⟩ :=
        (List.append_cons_inj_of_notMem hmem List.not_mem_nil).1 hfront.symm
      rw [← hrest]

/-- Tokens that are a phrase and the end of the input begin with that phrase. -/
theorem Begins.of_eq_append_end (h : ts.map (·.token) = xs ++ [.endOfInput]) :
    ∃ rest, Begins ts xs rest ∧ next rest = .endOfInput := by
  obtain ⟨phrase, rest, rfl, hphrase, hrest⟩ := List.map_eq_append_iff.1 h
  obtain ⟨t, tail, rfl, ht, -⟩ := List.map_eq_cons_iff.1 hrest
  exact ⟨t :: tail, ⟨phrase, rfl, hphrase⟩, ht⟩

/-! ## Bodies -/

/-- The body of a statement is a predicate, once an expression counts as one. -/
theorem derivesBody_iff : DerivesBody xs b ↔ ∃ p, Derives .disjunction xs p ∧ bodyOf p = b := by
  constructor
  · rintro (⟨h⟩ | ⟨h⟩)
    · exact ⟨_, h, rfl⟩
    · exact ⟨_, .alone (.lastDisjunct (.single (.lastConjunct (.plain (.condition h))))), rfl⟩
  · rintro ⟨p, h, rfl⟩
    exact .predicate h

theorem bodyOf_scoped {p : Predicate} :
    (bodyOf p).Scoped ↔ p.Scoped { inFilter := false, inSubscript := false } := by
  cases p <;> exact Iff.rfl

/-! ## Statements -/

/-- No body begins with the word for a mode. -/
theorem mode_of_opens (h : opening (next ts) ≤ 3) : mode ts = (.lax, ts) := by
  unfold mode
  split
  case h_3 => rfl
  all_goals
    next hx =>
      rw [hx] at h
      exact absurd h (by decide)

/-- What the parser has read with the end of the input behind it is a statement. -/
theorem statement_of_begins {p : Predicate} (hts : EndsOnce (ts.map (·.token)))
    (h : Begins (mode ts).2 xs rest) (d : Derives .disjunction xs p)
    (hend : next rest = .endOfInput) :
    Statement (ts.map (·.token)) ((mode ts).1, bodyOf p) := by
  have hxs := endOfInput_notMem d
  unfold mode at h ⊢
  split at h
  · next hlax =>
      rw [(Begins.cons hlax nofun h).eq_append_end hts (by simpa using hxs) hend]
      exact .lax (.predicate d)
  · next hstrict =>
      rw [(Begins.cons hstrict nofun h).eq_append_end hts (by simpa using hxs) hend]
      exact .strict (.predicate d)
  · rw [h.eq_append_end hts hxs hend]
    exact .unmarked (.predicate d)

/-- The tokens of a statement are its mode, the phrase of its body, and the end. -/
theorem begins_of_statement {m : Mode} (h : Statement (ts.map (·.token)) (m, b)) :
    ∃ xs p rest, Derives .disjunction xs p ∧ bodyOf p = b ∧ (mode ts).1 = m ∧
      Begins (mode ts).2 xs rest ∧ next rest = .endOfInput ∧ xs.length < ts.length := by
  have hlen : (ts.map (·.token)).length = ts.length := List.length_map _
  generalize hkinds : ts.map (·.token) = kinds at h hlen
  cases h with
  | unmarked h =>
      obtain ⟨p, d, hp⟩ := derivesBody_iff.1 h
      obtain ⟨rest, hb, hend⟩ := Begins.of_eq_append_end hkinds
      rw [mode_of_opens (hb.opening_le (opens_of_derives d))]
      exact ⟨_, p, rest, d, hp, rfl, hb, hend, by simp at hlen; omega⟩
  | lax h =>
      obtain ⟨p, d, hp⟩ := derivesBody_iff.1 h
      obtain ⟨rest, hb, hend⟩ := Begins.of_eq_append_end hkinds
      have hmode : mode ts = (.lax, ts.tail) := by simp only [mode, hb.next_eq]
      rw [hmode]
      exact ⟨_, p, rest, d, hp, rfl, hb.tail, hend, by simp at hlen; omega⟩
  | strict h =>
      obtain ⟨p, d, hp⟩ := derivesBody_iff.1 h
      obtain ⟨rest, hb, hend⟩ := Begins.of_eq_append_end hkinds
      have hmode : mode ts = (.strict, ts.tail) := by simp only [mode, hb.next_eq]
      rw [hmode]
      exact ⟨_, p, rest, d, hp, rfl, hb.tail, hend, by simp at hlen; omega⟩

/-- The budget of `parse` is enough for every statement. -/
theorem disjunction_of_begins {c : Nesting} {inside : Tokens} {p : Predicate}
    (h : Begins inside xs rest) (d : Derives .disjunction xs p) (hs : p.Scoped c)
    (hend : next rest = .endOfInput) (hlen : xs.length < ts.length) :
    disjunction (budget ts) c inside = .ok (p, rest) := by
  refine (complete_of_derives d).1 h hs (by rw [hend]; decide) ?_
  rw [budget]
  omega

/-! ## Uniqueness -/

/-- The grammar is unambiguous, whether references are in place or not. -/
theorem statement_unique {s s' : Mode × Body} (h : Statement (ts.map (·.token)) s)
    (h' : Statement (ts.map (·.token)) s') : s = s' := by
  obtain ⟨xs, p, rest, d, hp, hm, hb, hend, hlen⟩ := begins_of_statement h
  obtain ⟨xs', p', rest', d', hp', hm', hb', hend', hlen'⟩ := begins_of_statement h'
  have hread := disjunction_of_begins hb d p.scoped_anywhere hend hlen
  have hread' := disjunction_of_begins hb' d' p'.scoped_anywhere hend' hlen'
  rw [hread] at hread'
  cases hread'
  exact Prod.ext (hm.symm.trans hm') (hp.symm.trans hp')

/-! ## Exactness -/

theorem statement_of_parse {s : Mode × Body} (hts : EndsOnce (ts.map (·.token)))
    (h : parse ts = .ok s) : Statement (ts.map (·.token)) s ∧ s.2.Scoped := by
  rw [parse] at h
  obtain ⟨⟨p, rest⟩, hp, h⟩ := bind_eq_ok_iff.1 h
  obtain ⟨xs, hb, d, hs⟩ := (soundAt _).disjunction hp
  dsimp only at h
  split at h
  · next hend =>
      cases h
      exact ⟨statement_of_begins hts hb d hend, bodyOf_scoped.2 hs⟩
  · exact absurd h (unexpected_ne_ok _ _ _)

theorem parse_of_statement {s : Mode × Body} (h : Statement (ts.map (·.token)) s)
    (hs : s.2.Scoped) : parse ts = .ok s := by
  obtain ⟨m, b⟩ := s
  obtain ⟨xs, p, rest, d, rfl, rfl, hb, hend, hlen⟩ := begins_of_statement h
  have hp := disjunction_of_begins hb d (bodyOf_scoped.1 hs) hend hlen
  rw [parse]
  dsimp only
  rw [hp]
  simp only [bind, Except.bind, if_pos hend]
  rfl

end Parser

open JsonPath.Parser in
/-- The parser is exact: it accepts the statements of the grammar whose
references are in place, each with its tree, and no statement has two trees. -/
theorem parse_exact (ts : List SourceToken) (hts : EndsOnce (ts.map (·.token))) :
    (∀ s, parse ts = .ok s ↔ Statement (ts.map (·.token)) s ∧ s.2.Scoped) ∧
      ∀ s s', Statement (ts.map (·.token)) s → Statement (ts.map (·.token)) s' → s = s' :=
  ⟨fun _ => ⟨statement_of_parse hts, fun h => parse_of_statement h.1 h.2⟩,
    fun _ _ h h' => statement_unique h h'⟩

open JsonPath.Parser in
/-- `(1) + 2 == 3`: the group is read as a predicate and goes on as an operand. -/
theorem parse_exact_group :
    Statement
      [.openParen, .integer 1, .closeParen, .plus, .integer 2, .equal, .integer 3, .endOfInput]
      (.lax, .predicate
        (.compare .equal (.binary .add (.integer 1) (.integer 2)) (.integer 3))) := by
  have hts : EndsOnce (([.openParen, .integer 1, .closeParen, .plus, .integer 2, .equal,
      .integer 3, .endOfInput].map (⟨·, "", .start⟩) : List SourceToken).map (·.token)) :=
    ⟨[.openParen, .integer 1, .closeParen, .plus, .integer 2, .equal, .integer 3], rfl, by decide⟩
  exact (((parse_exact _ hts).1 _).1 rfl).1

end JsonPath
