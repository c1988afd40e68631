import JsonPath.Proofs.Parsing.Parallel
import JsonPath.Proofs.Parsing.Scanning

/-!
# Tokens tile their source

A source that is cut into tokens is the images of the tokens in order with blanks between
them (`Tiles`), and every token knows the offset of its image.  `tokens_tile_source` adds
that every place that is reported, that of a token, of an error of the lexer or of an error
of the parser, is a place of the source, and that the parser complains about tokens only.
-/

namespace JsonPath

/-- The text that begins at an offset is the images of the tokens, each behind a gap of
blanks.  Only the end of input has no image. -/
inductive Tiles : Nat → List Char → List SourceToken → Prop where
  | finish {offset : Nat} {gap : List Char} {t : SourceToken}
      (hgap : ∀ c ∈ gap, isBlank c = true) (hend : t.token = .endOfInput) (himage : t.image = "")
      (hoffset : t.position.offset = offset + gap.length) : Tiles offset gap [t]
  | token {offset : Nat} {gap rest : List Char} {t : SourceToken} {ts : List SourceToken}
      (hgap : ∀ c ∈ gap, isBlank c = true) (hend : t.token ≠ .endOfInput) (himage : t.image ≠ "")
      (hoffset : t.position.offset = offset + gap.length)
      (h : Tiles (t.position.offset + t.image.length) rest ts) :
      Tiles offset (gap ++ t.image.toList ++ rest) (t :: ts)

/-- A blank belongs to the gap before the next token. -/
theorem Tiles.blank {offset : Nat} {c : Char} {rest : List Char} {ts : List SourceToken}
    (hc : isBlank c = true) (h : Tiles (offset + 1) rest ts) : Tiles offset (c :: rest) ts := by
  cases h with
  | finish hgap hend himage hoffset =>
      refine .finish (List.forall_mem_cons.2 ⟨hc, hgap⟩) hend himage ?_
      rw [hoffset, List.length_cons]
      omega
  | @token _ gap _ _ _ hgap hend himage hoffset h =>
      have hgap' : ∀ d ∈ c :: gap, isBlank d = true := List.forall_mem_cons.2 ⟨hc, hgap⟩
      refine .token hgap' hend himage ?_ h
      rw [hoffset, List.length_cons]
      omega

/-! ## Tokens that are read -/

namespace Lexer

theorem numberToken_isEnd {whole fraction : List Char} {exponent : Option (List Char × List Char)}
    {t : Token} (h : numberToken whole fraction exponent = .ok t) : t.isEnd = false := by
  have hfinite {x : Binary64} {literal : List Char} (h : finiteToken x literal = .ok t) :
      t.isEnd = false := by
    unfold finiteToken at h
    split at h
    · cases h
      rfl
    · cases h
  unfold numberToken at h
  dsimp only at h
  split at h
  · split at h
    · cases h
    · exact hfinite h
  · split at h
    · cases h
      rfl
    · exact hfinite h

theorem readNumber_isEnd {text after : List Char} {t : Token}
    (h : readNumber text = .ok (t, after)) : t.isEnd = false := by
  simp only [readNumber] at h
  split at h
  · next ht =>
      cases h
      exact numberToken_isEnd ht
  · cases h

theorem readVariable?_isEnd {text after : List Char} {t : Token}
    (h : readVariable? text = some (.ok (t, after))) : t.isEnd = false := by
  unfold readVariable? at h
  split at h
  · cases h
  · split at h
    · rw [Option.some.injEq] at h
      split at h
      · cases h
        rfl
      · cases h
    · split at h
      · cases h
        rfl
      · cases h

theorem readSingle_isEnd {c : Char} {text after : List Char} {t : Token}
    (h : readSingle c text = .ok (t, after)) : t.isEnd = false := by
  unfold readSingle at h
  split at h
  · next ht =>
      cases h
      unfold singleOperator? at ht
      split at ht <;> cases ht <;> rfl
  · cases h

theorem readOperator_isEnd {c : Char} {text after : List Char} {t : Token}
    (h : readOperator c text = .ok (t, after)) : t.isEnd = false := by
  unfold readOperator at h
  split at h
  · exact readSingle_isEnd h
  · split at h
    · next ht =>
        cases h
        unfold doubleOperator? at ht
        split at ht <;> cases ht <;> rfl
    · exact readSingle_isEnd h

/-- The end of input is not read from text. -/
theorem readToken_isEnd {c : Char} {text after : List Char} {t : Token}
    (h : readToken c text = .ok (t, after)) : t.isEnd = false := by
  unfold readToken at h
  split at h
  · split at h
    · cases h
      rfl
    · cases h
  · split at h
    · exact readNumber_isEnd h
    · split at h
      · cases h
        rfl
      · split at h
        · cases hv : readVariable? text with
          | none =>
              rw [hv] at h
              cases h
              rfl
          | some reading =>
              rw [hv, Option.getD_some] at h
              exact readVariable?_isEnd (h ▸ hv)
        · exact readOperator_isEnd h

end Lexer

/-- The tokens of a text tile it. -/
theorem Scans.tiles {text : List Char} {p : Position} {ts : List SourceToken}
    (h : Scans p text ts) : Tiles p.offset text ts := by
  induction h with
  | finish => exact .finish (List.forall_mem_nil _) rfl rfl rfl
  | @blank p c rest ts hblank _ ih =>
      have hoffset : (p.next c).offset = p.offset + 1 := p.offset_after [c]
      rw [hoffset] at ih
      exact .blank hblank ih
  | @token p c rest after t image ts _ hread himage _ ih =>
      have hend : t ≠ .endOfInput := Token.isEnd_eq_false_iff.1 (Lexer.readToken_isEnd hread)
      have hne : image ≠ "" := by
        rintro rfl
        have hlength := (Lexer.readToken_suffix hread).2
        rw [himage, String.toList_empty, List.nil_append] at hlength
        omega
      rw [p.offset_after, String.length_toList] at ih
      let here : SourceToken := { token := t, image, position := p }
      have htiles := Tiles.token (t := here) (List.forall_mem_nil _) hend hne rfl ih
      rwa [List.nil_append, ← himage] at htiles

/-- The same tokens twice. -/
theorem Tiles.alike {offset : Nat} {text : List Char} {ts : List SourceToken}
    (h : Tiles offset text ts) : Parser.Alike (fun _ _ => True) ts ts := by
  induction h with
  | finish _ hend _ _ => exact .last ⟨rfl, rfl, trivial⟩ hend
  | token _ _ _ _ _ ih => exact .cons ⟨rfl, rfl, trivial⟩ ih

/-- The tokens of a source tile it, and the places of its tokens and of an error are places
of the source.  The parser complains about tokens only. -/
theorem tokens_tile_source (source : String) :
    (∀ ts, tokenize source = .ok ts →
      Tiles 0 source.toList ts ∧ ∀ t ∈ ts, t.position.IsIn source.toList) ∧
    (∀ e, tokenize source = .error e → e.position.IsIn source.toList) ∧
    (∀ ts e, tokenize source = .ok ts → parse ts = .error e →
      (∃ t ∈ ts, e.position = t.position) ∧ e.position.IsIn source.toList) := by
  have hplaces : ∀ ts, tokenize source = .ok ts → ∀ t ∈ ts, t.position.IsIn source.toList :=
    fun ts hts t ht => ((tokensFrom_eq_ok_iff.1 hts).reaches t ht).isIn
  refine ⟨fun ts hts => ⟨(tokensFrom_eq_ok_iff.1 hts).tiles, hplaces ts hts⟩, ?_, ?_⟩
  · exact fun e he => (tokensFrom_error_reaches he).isIn
  · intro ts e hts he
    obtain ⟨t, ht, hplace⟩ := Parser.parse_error_place (tokensFrom_eq_ok_iff.1 hts).tiles.alike he
    exact ⟨⟨t, ht, hplace⟩, hplace ▸ hplaces ts hts t ht⟩

/-- A string over two lines, and the end of input where an index should stand. -/
theorem tokens_tile_source_second_line :
    let source := "\"\n\" ["
    ∃ ts e, tokenize source = .ok ts ∧ parse ts = .error e ∧
      e = ⟨.unexpectedToken .pathExpression "end of input", ⟨5, 2, 4⟩⟩ ∧
      Tiles 0 source.toList ts ∧ (∃ t ∈ ts, e.position = t.position) ∧
      e.position.IsIn source.toList := by
  intro source
  have htokens : tokenize source = .ok [⟨.string "\n", "\"\n\"", ⟨0, 1, 1⟩⟩,
      ⟨.openBracket, "[", ⟨4, 2, 3⟩⟩, ⟨.endOfInput, "", ⟨5, 2, 4⟩⟩] := by
    have hstring : Lexer.readToken '"' ['\n', '"', ' ', '['] = .ok (.string "\n", [' ', '[']) := by
      simp [Lexer.readToken, Lexer.readString, Lexer.readQuoted]
    have hsource : source.toList = ['"', '\n', '"', ' ', '['] := by simp [source]
    rw [tokenize, hsource]
    refine Scans.tokensFrom_eq (.token rfl hstring rfl ?_)
    exact .blank rfl (.token rfl rfl rfl .finish)
  obtain ⟨htiles, -, hparser⟩ := tokens_tile_source source
  exact ⟨_, _, htokens, by rfl, rfl, (htiles _ htokens).1, hparser _ _ htokens (by rfl)⟩

end JsonPath
