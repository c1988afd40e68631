import JsonPath.Proofs.Parsing.Exactness
import JsonPath.Proofs.Parsing.Tiling
import JsonPath.Statement

/-!
# From a source to its statement

A source is cut into tokens, which end with the end of input (`Scans.endsOnce`), and the
statement is what the grammar derives from them.

* `Statement.grammatical_of_read` finds the derivation of a statement that has been read.
* `Lexes` says which tokens a text is cut into, positions and images apart; `read_of_lexes`
  reads a statement from a derivation of its tokens.
-/

namespace JsonPath

/-- The tokens of a text end with the end of input, which is read nowhere else. -/
theorem Scans.endsOnce {text : List Char} {p : Position} {ts : List SourceToken}
    (h : Scans p text ts) : Parser.EndsOnce (ts.map (·.token)) := by
  induction h with
  | finish => exact ⟨[], rfl, List.not_mem_nil⟩
  | blank _ _ ih => exact ih
  | token _ hread _ _ ih =>
      obtain ⟨front, hfront, hmem⟩ := ih
      refine ⟨_ :: front, congrArg _ hfront, fun hend => ?_⟩
      have ht := Token.isEnd_eq_false_iff.1 (Lexer.readToken_isEnd hread)
      exact hmem ((List.mem_cons.1 hend).resolve_left ht.symm)

namespace Statement

variable {source : String} {statement : Statement}

/-- A statement that has been read is derived from the tokens of its source, with all
references in place. -/
theorem grammatical_of_read (h : read source = .ok statement) :
    ∃ tokens, tokenize source = .ok tokens ∧
      Grammar.Statement (tokens.map (·.token)) (statement.mode, statement.body) ∧
      statement.body.Scoped := by
  unfold read at h
  split at h
  · cases h
  · next tokens htokens =>
      split at h
      · cases h
      · next hparse =>
          cases h
          have hends := (tokensFrom_eq_ok_iff.1 htokens).endsOnce
          exact ⟨tokens, htokens, Parser.statement_of_parse hends hparse⟩

theorem scoped_of_read (h : read source = .ok statement) : statement.body.Scoped := by
  obtain ⟨-, -, -, hscoped⟩ := grammatical_of_read h
  exact hscoped

end Statement

/-! ## Tokens of a text -/

/-- The tokens that a text is cut into, wherever it stands. -/
def Lexes (text : List Char) (kinds : List Token) : Prop :=
  ∀ p, ∃ tokens, tokensFrom text p = .ok tokens ∧ tokens.map (·.token) = kinds

namespace Lexes

theorem nil : Lexes [] [.endOfInput] := fun _ => ⟨_, Scans.finish.tokensFrom_eq, rfl⟩

theorem blank {c : Char} {rest : List Char} {kinds : List Token} (hblank : isBlank c = true)
    (h : Lexes rest kinds) : Lexes (c :: rest) kinds := by
  intro p
  obtain ⟨tokens, htokens, hkinds⟩ := h (p.next c)
  exact ⟨_, (Scans.blank hblank (tokensFrom_eq_ok_iff.1 htokens)).tokensFrom_eq, hkinds⟩

theorem token {c : Char} {rest after : List Char} {t : Token} {kinds : List Token}
    (hblank : isBlank c = false) (hread : Lexer.readToken c rest = .ok (t, after))
    (h : Lexes after kinds) : Lexes (c :: rest) (t :: kinds) := by
  intro p
  obtain ⟨image, himage⟩ := Lexer.exists_image (Lexer.readToken_suffix hread).1
  obtain ⟨tokens, htokens, hkinds⟩ := h (p.after image.toList)
  have hscans := Scans.token hblank hread himage (tokensFrom_eq_ok_iff.1 htokens)
  exact ⟨_, hscans.tokensFrom_eq, congrArg (t :: ·) hkinds⟩

end Lexes

/-! ## Statements -/

/-- A text whose tokens are derived from the grammar is read as that statement. -/
theorem read_of_lexes {source : String} {kinds : List Token} {m : Mode} {b : Body}
    (hlexes : Lexes source.toList kinds) (hderives : Grammar.Statement kinds (m, b))
    (hscoped : b.Scoped) : Statement.read source = .ok { source, mode := m, body := b } := by
  obtain ⟨tokens, htokens, rfl⟩ := hlexes .start
  have hparse := Parser.parse_of_statement hderives hscoped
  simp only [Statement.read, tokenize, htokens, hparse]

/-- A mode in front of a text. -/
theorem lexes_strict {rest : List Char} {kinds : List Token} (h : Lexes rest kinds) :
    Lexes ('s' :: 't' :: 'r' :: 'i' :: 'c' :: 't' :: ' ' :: rest) (.word "strict" :: kinds) :=
  .token rfl rfl (.blank rfl h)

/-- A text that is a body, with a mode before it or without. -/
theorem read_body {source : String} {kinds : List Token} {b : Body}
    (hlexes : Lexes source.toList (kinds ++ [.endOfInput]))
    (hderives : Grammar.DerivesBody kinds b) (hscoped : b.Scoped) :
    Statement.read source = .ok ⟨source, .lax, b⟩ ∧
      Statement.read ("strict " ++ source) = .ok ⟨"strict " ++ source, .strict, b⟩ := by
  constructor
  · exact read_of_lexes hlexes (.unmarked hderives) hscoped
  · refine read_of_lexes ?_ (.strict hderives) hscoped
    simpa using lexes_strict hlexes

end JsonPath
