import JsonPath.Proofs.Parsing.Scanning
import JsonPath.Proofs.Text.Escapes

/-!
# String literals

The characters of a string may be written in any mixture of ways: as they are, or as any of
their escapes.  The lexer accepts all ways of writing and nothing else.

* `Spelling` relates the characters to the texts that may stand for them between quotes.
  `Lexer.readQuoted_append` is the induction over it: the characters are read, and what
  comes of the rest is the rest's affair.
* `Ending` is where the characters come to their end, well or badly.  Every text is some
  spelling up to such a place (`exists_ending`), so that the four cases of `Ending` are all
  outcomes.
* `string_literals_exact` puts the two together for the tokens that are literals.
-/

namespace JsonPath

/-- The texts that stand for characters between two quotes. -/
inductive Spelling (quote : Char) : List Char → List Char → Prop where
  | nil : Spelling quote [] []
  | raw {c : Char} {s text : List Char} (hquote : c ≠ quote) (hbackslash : c ≠ '\\')
      (h : Spelling quote s text) : Spelling quote (c :: s) (c :: text)
  | escape {c : Char} {e s text : List Char} (he : Escape c e) (h : Spelling quote s text) :
      Spelling quote (c :: s) ('\\' :: (e ++ text))

/-- What comes where the characters of a string come to their end. -/
inductive Ending (quote : Char) : List Char → Prop where
  | closed (after : List Char) : Ending quote (quote :: after)
  | missing : Ending quote []
  /-- The text ends with a backslash. -/
  | cut : Ending quote ['\\']
  /-- A backslash with something behind it that is no escape. -/
  | offends {tail : List Char} (hne : tail ≠ []) (h : NoEscape tail) :
      Ending quote ('\\' :: tail)

/-- Every text is a spelling up to the end of the characters. -/
theorem exists_ending (quote : Char) (text : List Char) :
    ∃ s body rest, Spelling quote s body ∧ Ending quote rest ∧ text = body ++ rest := by
  -- an escape may take several characters at once, so that the induction is on the length
  induction hlength : text.length using Nat.strong_induction_on generalizing text with
  | _ n ih =>
    subst hlength
    cases text with
    | nil => exact ⟨[], [], [], .nil, .missing, rfl⟩
    | cons c tail =>
        by_cases hquote : c = quote
        · subst hquote
          exact ⟨[], [], _, .nil, .closed tail, rfl⟩
        by_cases hbackslash : c = '\\'
        · subst hbackslash
          by_cases hne : tail = []
          · subst hne
            exact ⟨[], [], _, .nil, .cut, rfl⟩
          by_cases hescape : NoEscape tail
          · exact ⟨[], [], _, .nil, .offends hne hescape, rfl⟩
          · simp only [NoEscape, not_forall, not_not] at hescape
            obtain ⟨d, e, text, he, rfl⟩ := hescape
            have hshorter : text.length < ('\\' :: (e ++ text)).length := by
              simp only [List.length_cons, List.length_append]
              omega
            obtain ⟨s, body, rest, hs, hrest, rfl⟩ := ih text.length hshorter text rfl
            exact ⟨d :: s, _, rest, .escape he hs, hrest, by simp⟩
        · obtain ⟨s, body, rest, hs, hrest, rfl⟩ := ih tail.length (Nat.lt_succ_self _) tail rfl
          exact ⟨c :: s, _, rest, .raw hquote hbackslash hs, hrest, rfl⟩

namespace Lexer

variable {quote : Char}

/-! ## Reading up to the closing quote -/

/-- A spelling is read, and what comes of the rest is the rest's affair. -/
theorem readQuoted_append (hquote : quote ≠ '\\') {s body : List Char} (h : Spelling quote s body)
    (rest : List Char) :
    readQuoted quote (body ++ rest) =
      (readQuoted quote rest).map fun (s', after) => (s ++ s', after) := by
  induction h with
  | nil =>
      rw [List.nil_append]
      cases readQuoted quote rest <;> rfl
  | raw hc hbackslash _ ih =>
      rw [List.cons_append, readQuoted]
      simp only [hc, hbackslash, if_false, ih]
      cases readQuoted quote rest <;> rfl
  | @escape c e s text he _ ih =>
      have hread : readEscape (e ++ (text ++ rest)) = .ok (c, text ++ rest) :=
        readEscape_eq_ok_iff.2 ⟨e, he, rfl⟩
      rw [List.cons_append, List.append_assoc, readQuoted]
      simp only [hquote.symm, if_false, if_true]
      split
      · next h => simp [hread] at h
      · next h => simp [hread] at h
      · next h =>
          rw [hread] at h
          cases h
          rw [ih]
          cases readQuoted quote rest <;> rfl

theorem readQuoted_closed (after : List Char) :
    readQuoted quote (quote :: after) = .ok ([], after) := by
  rw [readQuoted, if_pos rfl]

theorem readQuoted_cut (hquote : quote ≠ '\\') : readQuoted quote ['\\'] = .error none := by
  rw [readQuoted]
  simp only [hquote.symm, if_false, if_true]
  rfl

theorem readQuoted_offends (hquote : quote ≠ '\\') {tail : List Char} (hne : tail ≠ [])
    (h : NoEscape tail) : ∃ sequence,
      readQuoted quote ('\\' :: tail) = .error (some ⟨.invalidEscape sequence, '\\' :: tail⟩) := by
  obtain ⟨sequence, hread⟩ := exists_sequence hne h
  refine ⟨sequence, ?_⟩
  rw [readQuoted]
  simp only [hquote.symm, if_false, if_true]
  split
  · next h => simp [hread] at h
  · next h =>
      rw [hread] at h
      cases h
      rfl
  · next h => simp [hread] at h

/-- Characters are read exactly where one of their spellings stands before a closing quote. -/
theorem readQuoted_eq_ok_iff (hquote : quote ≠ '\\') {text s after : List Char} :
    readQuoted quote text = .ok (s, after) ↔
      ∃ body, Spelling quote s body ∧ text = body ++ quote :: after := by
  constructor
  · intro h
    obtain ⟨s', body, rest, hs, hrest, rfl⟩ := exists_ending quote text
    rw [readQuoted_append hquote hs] at h
    cases hrest with
    | closed after' =>
        rw [readQuoted_closed] at h
        cases h
        exact ⟨body, by simpa using hs, rfl⟩
    | missing =>
        rw [readQuoted] at h
        cases h
    | cut =>
        rw [readQuoted_cut hquote] at h
        cases h
    | offends hne hescape =>
        obtain ⟨sequence, hread⟩ := readQuoted_offends hquote hne hescape
        rw [hread] at h
        cases h
  · rintro ⟨body, hs, rfl⟩
    rw [readQuoted_append hquote hs, readQuoted_closed]
    simp [Except.map]

end Lexer

/-! ## Literals -/

/-- The tokens that hold a quoted text: a string between quotes or apostrophes, and a
variable whose name is quoted. -/
inductive Literal where
  | quotes
  | apostrophes
  | variable

namespace Literal

/-- What stands before the opening quote. -/
def sigil : Literal → List Char
  | .quotes | .apostrophes => []
  | .variable => ['$']

/-- The character at both ends of the text. -/
def quote : Literal → Char
  | .quotes | .variable => '"'
  | .apostrophes => '\''

/-- The token that holds a decoded text. -/
def token : Literal → String → Token
  | .quotes, s | .apostrophes, s => .string s
  | .variable, name => .variable name

/-- The whole text of a literal. -/
def image (l : Literal) (body : List Char) : List Char :=
  l.sigil ++ l.quote :: (body ++ [l.quote])

/-- Reads the token whose opening quote stands before the text. -/
def read : Literal → List Char → Lexer.Reading Token
  | .quotes, text => Lexer.readToken '"' text
  | .apostrophes, text => Lexer.readToken '\'' text
  | .variable, text => Lexer.readToken '$' ('"' :: text)

variable {l : Literal} {s body text after tail : List Char}

theorem quote_ne_backslash (l : Literal) : l.quote ≠ '\\' := by cases l <;> decide

theorem read_eq (l : Literal) (text : List Char) :
    l.read text = (Lexer.readString l.quote text).map fun (s, after) => (l.token s, after) := by
  cases l
  · simp only [read, quote, Lexer.readToken, true_or, if_true]
    cases Lexer.readString '"' text <;> rfl
  · simp only [read, quote, Lexer.readToken, or_true, if_true]
    cases Lexer.readString '\'' text <;> rfl
  · show (Lexer.readVariable? ('"' :: text)).getD (.ok (.dollar, '"' :: text)) = _
    simp only [quote, Lexer.readVariable?, if_true, Option.getD_some]
    cases Lexer.readString '"' text <;> rfl

theorem read_closed (h : Spelling l.quote s body) (after : List Char) :
    l.read (body ++ l.quote :: after) = .ok (l.token (String.ofList s), after) := by
  have hread : Lexer.readQuoted l.quote (body ++ l.quote :: after) = .ok (s, after) :=
    (Lexer.readQuoted_eq_ok_iff l.quote_ne_backslash).2 ⟨body, h, rfl⟩
  rw [read_eq, Lexer.readString, hread]
  rfl

theorem read_unterminated (h : Spelling l.quote s body)
    (hend : text = body ∨ text = body ++ ['\\']) :
    l.read text = .error ⟨.unterminatedString, l.quote :: text⟩ := by
  have hread : Lexer.readQuoted l.quote text = .error none := by
    rcases hend with rfl | rfl
    · rw [← List.append_nil text, Lexer.readQuoted_append l.quote_ne_backslash h, Lexer.readQuoted]
      rfl
    · rw [Lexer.readQuoted_append l.quote_ne_backslash h,
        Lexer.readQuoted_cut l.quote_ne_backslash]
      rfl
  rw [read_eq, Lexer.readString, hread]
  rfl

theorem read_offends (h : Spelling l.quote s body) (hne : tail ≠ []) (hescape : NoEscape tail) :
    ∃ sequence, l.read (body ++ '\\' :: tail) =
      .error ⟨.invalidEscape sequence, '\\' :: tail⟩ := by
  obtain ⟨sequence, hread⟩ := Lexer.readQuoted_offends l.quote_ne_backslash hne hescape
  refine ⟨sequence, ?_⟩
  rw [read_eq, Lexer.readString, Lexer.readQuoted_append l.quote_ne_backslash h, hread]
  rfl

/-- The token of a literal begins with a character that is not blank. -/
theorem exists_first (l : Literal) (text : List Char) : ∃ c rest,
    l.sigil ++ l.quote :: text = c :: rest ∧ isBlank c = false ∧
      l.read text = Lexer.readToken c rest := by
  cases l
  · exact ⟨'"', text, rfl, rfl, rfl⟩
  · exact ⟨'\'', text, rfl, rfl, rfl⟩
  · exact ⟨'$', '"' :: text, rfl, rfl, rfl⟩

theorem tokensFrom_of_read {p : Position} {image : List Char} {t : Token}
    (hread : l.read text = .ok (t, after)) (himage : l.sigil ++ l.quote :: text = image ++ after) :
    tokensFrom (l.sigil ++ l.quote :: text) p = (tokensFrom after (p.after image)).map
      ({ token := t, image := String.ofList image, position := p } :: ·) := by
  obtain ⟨c, rest, htext, hblank, hfirst⟩ := l.exists_first text
  rw [htext] at himage ⊢
  exact tokensFrom_token hblank (hfirst ▸ hread) himage

theorem tokensFrom_of_fault {p : Position} {image : List Char} {fault : Lexer.Fault}
    (hread : l.read text = .error fault)
    (himage : l.sigil ++ l.quote :: text = image ++ fault.rest) :
    tokensFrom (l.sigil ++ l.quote :: text) p = .error ⟨fault.complaint, p.after image⟩ := by
  obtain ⟨c, rest, htext, hblank, hfirst⟩ := l.exists_first text
  rw [htext] at himage ⊢
  exact tokensFrom_fault hblank (hfirst ▸ hread) himage

end Literal

/-- A literal is read, up to its closing quote, exactly where one of the spellings of its
characters stands between the quotes.  Anything else is a string that does not end, found
at the opening quote, or a backslash without an escape behind it. -/
theorem string_literals_exact (l : Literal) (p : Position) :
    (∀ s body after, Spelling l.quote s body →
      tokensFrom (l.sigil ++ l.quote :: (body ++ l.quote :: after)) p =
        (tokensFrom after (p.after (l.image body))).map
          (⟨l.token (String.ofList s), String.ofList (l.image body), p⟩ :: ·)) ∧
    (∀ text t after, l.read text = .ok (t, after) ↔
      ∃ s body, t = l.token (String.ofList s) ∧ Spelling l.quote s body ∧
        text = body ++ l.quote :: after) ∧
    ∀ text, (¬∃ s body after, Spelling l.quote s body ∧ text = body ++ l.quote :: after) →
      ∃ s body, Spelling l.quote s body ∧
        ((text = body ∨ text = body ++ ['\\']) ∧
            tokensFrom (l.sigil ++ l.quote :: text) p =
              .error ⟨.unterminatedString, p.after l.sigil⟩ ∨
          ∃ tail sequence, text = body ++ '\\' :: tail ∧ tail ≠ [] ∧ NoEscape tail ∧
            tokensFrom (l.sigil ++ l.quote :: text) p =
              .error ⟨.invalidEscape sequence, p.after (l.sigil ++ l.quote :: body)⟩) := by
  refine ⟨?_, ?_, ?_⟩
  · intro s body after hs
    refine Literal.tokensFrom_of_read (Literal.read_closed hs after) ?_
    simp [Literal.image]
  · intro text t after
    constructor
    · intro hread
      rw [Literal.read_eq, Lexer.readString] at hread
      split at hread
      · next s after' hquoted =>
          cases hread
          obtain ⟨body, hs, rfl⟩ := (Lexer.readQuoted_eq_ok_iff l.quote_ne_backslash).1 hquoted
          exact ⟨s, body, rfl, hs, rfl⟩
      · cases hread
      · cases hread
    · rintro ⟨s, body, rfl, hs, rfl⟩
      exact Literal.read_closed hs after
  · intro text hrefused
    obtain ⟨s, body, rest, hs, hrest, rfl⟩ := exists_ending l.quote text
    refine ⟨s, body, hs, ?_⟩
    cases hrest with
    | closed after => exact absurd ⟨s, body, after, hs, rfl⟩ hrefused
    | missing =>
        rw [List.append_nil]
        exact .inl ⟨.inl rfl, Literal.tokensFrom_of_fault
          (Literal.read_unterminated hs (.inl rfl)) rfl⟩
    | cut =>
        exact .inl ⟨.inr rfl, Literal.tokensFrom_of_fault
          (Literal.read_unterminated hs (.inr rfl)) rfl⟩
    | @offends tail hne hescape =>
        obtain ⟨sequence, hread⟩ := Literal.read_offends hs hne hescape
        refine .inr ⟨tail, sequence, rfl, hne, hescape, Literal.tokensFrom_of_fault hread ?_⟩
        simp

/-- A name with a character of each kind of spelling, and two surrogates in the wrong order
behind the letter `x`. -/
theorem string_literals_exact_surrogates :
    let name := ['a', '\n', 'é', '😀', '\'']
    let body := "a\\n\\u00E9\\ud83d\\uDE00'".toList
    let swapped := "x\\ude00\\ud83d\"".toList
    Spelling '"' name body ∧
      tokensFrom (['$'] ++ '"' :: (body ++ '"' :: [])) .start =
        .ok [⟨.variable "a\né😀'", "$\"a\\n\\u00E9\\ud83d\\uDE00'\"", ⟨0, 1, 1⟩⟩,
          ⟨.endOfInput, "", ⟨25, 1, 26⟩⟩] ∧
      (¬∃ s body after, Spelling '"' s body ∧ swapped = body ++ '"' :: after) ∧
      ∃ s body tail sequence, Spelling '"' s body ∧ swapped = body ++ '\\' :: tail ∧ NoEscape tail ∧
        tokensFrom ('"' :: swapped) .start =
          .error ⟨.invalidEscape sequence, Position.start.after ('"' :: body)⟩ := by
  intro name body swapped
  have hspelling : Spelling '"' name body := by
    have hbasic : SpellsCode ['0', '0', 'E', '9'] 'é'.toNat :=
      .digits (x := 0) (y := 0) (z := 14) (w := 9) (by decide) (by decide) (by decide) (by decide)
    have hhigh : SpellsCode ['d', '8', '3', 'd'] 0xD83D :=
      .digits (x := 13) (y := 8) (z := 3) (w := 13) (by decide) (by decide) (by decide) (by decide)
    have hlow : SpellsCode ['D', 'E', '0', '0'] 0xDE00 :=
      .digits (x := 13) (y := 14) (z := 0) (w := 0) (by decide) (by decide) (by decide) (by decide)
    have hpair := UnicodeSpelling.pair (c := '😀') (by decide) hhigh hlow
    exact .raw (by decide) (by decide) (.escape (.short .lineFeed)
      (.escape (.unicode (.basic hbasic)) (.escape (.unicode hpair)
        (.raw (by decide) (by decide) .nil))))
  let tail' := "ude00\\ud83d\"".toList
  have hnone : NoEscape tail' := Lexer.noEscape_iff.2 ⟨_, rfl⟩
  obtain ⟨sequence', hfault⟩ := Literal.read_offends (l := .quotes) (s := ['x'])
    (.raw (by decide) (by decide) .nil) (by decide) hnone
  have hrefused : ¬∃ s body after, Spelling '"' s body ∧ swapped = body ++ '"' :: after := by
    rintro ⟨s, body, after, h⟩
    obtain ⟨-, haccepted, -⟩ := string_literals_exact .quotes .start
    have hread := (haccepted swapped _ after).2 ⟨s, body, rfl, h⟩
    cases hfault.symm.trans hread
  obtain ⟨htokens, -, -⟩ := string_literals_exact .variable .start
  obtain ⟨-, -, herrors⟩ := string_literals_exact .quotes .start
  obtain ⟨s, body', hs, ⟨-, htoken⟩ | ⟨tail, sequence, htext, -, hescape, htoken⟩⟩ :=
    herrors swapped hrefused
  · have himage : ['"'] ++ 'x' :: '\\' :: tail' = ['"', 'x'] ++ '\\' :: tail' := rfl
    have hoffending := Literal.tokensFrom_of_fault (l := .quotes) (p := .start) hfault himage
    cases hoffending.symm.trans htoken
  · have hname := (htokens name body [] hspelling).trans (by rw [Scans.finish.tokensFrom_eq])
    exact ⟨hspelling, hname, hrefused, s, body', tail, sequence, hs, htext, hescape, htoken⟩

end JsonPath
