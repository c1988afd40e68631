import JsonPath.Number.Integer
import JsonPath.Number.Scientific
import JsonPath.Syntax.Error
import JsonPath.Text.Blank
import JsonPath.Text.Digits
import JsonPath.Text.UnicodeEscape

/-!
# From source text to tokens

`Lexer.readToken` takes the token at the beginning of a text and returns the
text behind it, which is a shorter suffix (`readToken_suffix`).  `tokensFrom`
repeats it over a whole text, drops the blanks between tokens, and notes where
each token begins.
-/

namespace JsonPath

/-! ## Character classes -/

/-- Words begin with an ASCII letter, an underscore, or any character beyond
ASCII that is not blank. -/
def isWordStart (c : Char) : Bool :=
  c.isAlpha || c == '_' || (128 ≤ c.toNat && !isBlank c)

/-- Words and bare names go on with these. -/
def isWordChar (c : Char) : Bool := isWordStart c || c.isDigit

/-- Names of variables may also hold `@` and `#`. -/
def isVariableChar (c : Char) : Bool := isWordChar c || c == '@' || c == '#'

namespace Lexer

/-- What is wrong with a text, and the part of the text that begins there. -/
structure Fault where
  complaint : Complaint
  rest : List Char

/-- A reading from the beginning of a text, with the text behind it. -/
abbrev Reading (α : Type) := Except Fault (α × List Char)

/-- The text behind a reading is shorter and ends the text alike. -/
def Shorter (rest text : List Char) : Prop := rest <:+ text ∧ rest.length < text.length

theorem Shorter.cons {rest text : List Char} (c : Char) (h : rest <:+ text) :
    Shorter rest (c :: text) := by
  refine ⟨h.trans (List.suffix_cons c text), ?_⟩
  have := h.length_le
  simp only [List.length_cons]
  omega

/-! ## Strings -/

/-- The letters that stand for a character after a backslash. -/
def shortEscape? : Char → Option Char
  | 'n' => some '\n'
  | 't' => some '\t'
  | 'r' => some '\r'
  | 'b' => some '\x08'
  | 'f' => some '\x0c'
  | '"' => some '"'
  | '\'' => some '\''
  | '\\' => some '\\'
  | '/' => some '/'
  | _ => none

/-- The character of the escape whose backslash has been read, and the text
behind it; on failure the sequence that is none, or nothing at the end of the
text. -/
def readEscape : List Char → Except (Option (List Char)) (Char × List Char)
  | [] => .error none
  | c :: rest =>
      match shortEscape? c with
      | some d => .ok (d, rest)
      | none =>
          if c = 'u' then
            match UnicodeEscape.read rest with
            | .ok result => .ok result
            | .error sequence => .error (some sequence)
          else
            .error (some [c])

theorem readEscape_suffix {text rest : List Char} {c : Char}
    (h : readEscape text = .ok (c, rest)) : Shorter rest text := by
  unfold readEscape at h
  split at h
  · cases h
  · next first inner =>
      split at h
      · cases h
        exact .cons _ (List.suffix_refl _)
      · split at h
        · split at h
          · next hread =>
              cases h
              exact .cons _ (UnicodeEscape.read_suffix hread).1
          · cases h
        · cases h

/-- The characters of a string whose opening quote has been read.  A fault is
found at an escape, or, as `none`, in the missing closing quote. -/
def readQuoted (quote : Char) (text : List Char) :
    Except (Option Fault) (List Char × List Char) :=
  match text with
  | [] => .error none
  | c :: rest =>
      if c = quote then
        .ok ([], rest)
      else if c = '\\' then
        match _h : readEscape rest with
        | .error none => .error none
        | .error (some sequence) => .error (some ⟨.invalidEscape sequence, c :: rest⟩)
        | .ok (d, after) =>
            match readQuoted quote after with
            | .error fault => .error fault
            | .ok (s, final) => .ok (d :: s, final)
      else
        match readQuoted quote rest with
        | .error fault => .error fault
        | .ok (s, final) => .ok (c :: s, final)
termination_by text.length
decreasing_by
  · have := (readEscape_suffix _h).2
    simp only [List.length_cons]
    omega
  · simp

theorem readQuoted_suffix {quote : Char} {text s rest : List Char}
    (h : readQuoted quote text = .ok (s, rest)) : Shorter rest text := by
  fun_induction readQuoted quote text generalizing s <;> try contradiction
  case case2 =>
    cases h
    exact .cons _ (List.suffix_refl _)
  case case6 hescape _ _ hread _ ih =>
    cases h
    exact .cons _ ((ih hread).1.trans (readEscape_suffix hescape).1)
  case case8 hread ih =>
    cases h
    exact .cons _ (ih hread).1

/-- A string behind its opening quote. -/
def readString (quote : Char) (rest : List Char) : Reading String :=
  match readQuoted quote rest with
  | .ok (s, after) => .ok (String.ofList s, after)
  | .error none => .error ⟨.unterminatedString, quote :: rest⟩
  | .error (some fault) => .error fault

theorem readString_suffix {quote : Char} {text rest : List Char} {s : String}
    (h : readString quote text = .ok (s, rest)) : Shorter rest text := by
  unfold readString at h
  split at h
  · next hread =>
      cases h
      exact readQuoted_suffix hread
  · cases h
  · cases h

/-! ## Numbers -/

/-- The digits after a point, and the text behind them.  A point that no digit
follows does not belong to the number. -/
def takeFraction (text : List Char) : List Char × List Char :=
  match text with
  | '.' :: rest =>
      match rest.takeWhile Char.isDigit with
      | [] => ([], text)
      | digits => (digits, rest.dropWhile Char.isDigit)
  | _ => ([], text)

/-- The sign and the digits after a mark for an exponent, and the text behind
them; none without a mark. -/
def takeExponent (text : List Char) : Option (List Char × List Char) × List Char :=
  match text with
  | mark :: rest =>
      if mark = 'e' ∨ mark = 'E' then
        let behind := (takeOptionalSign rest).2
        let sign := rest.take (rest.length - behind.length)
        (some (sign, behind.takeWhile Char.isDigit), behind.dropWhile Char.isDigit)
      else
        (none, text)
  | [] => (none, text)

/-- The exponent that a sign and digits spell. -/
def exponentOf (sign digits : List Char) : Int :=
  let magnitude : Int := Nat.ofDigitChars 10 digits 0
  if sign = ['-'] then -magnitude else magnitude

/-- A number that is finite, or the complaint about its text. -/
def finiteToken (x : Binary64) (literal : List Char) : Except Complaint Token :=
  if x.isFinite then .ok (.number x) else .error (.invalidNumber literal)

/-- The token of a written number.  Without fraction and exponent it is an
integer if 64 bits hold it; an exponent needs digits. -/
def numberToken (whole fraction : List Char) (exponent : Option (List Char × List Char)) :
    Except Complaint Token :=
  let mantissa := whole ++ (if fraction.isEmpty then [] else '.' :: fraction)
  match exponent with
  | some (sign, digits) =>
      let literal := mantissa ++ 'e' :: (sign ++ digits)
      if digits.isEmpty then
        .error (.invalidNumber literal)
      else
        finiteToken
          ((Scientific.ofDigits whole fraction (exponentOf sign digits)).toBinary64 false) literal
  | none =>
      match fraction, int64? (Nat.ofDigitChars 10 whole 0) with
      | [], some n => .ok (.integer n)
      | _, _ => finiteToken ((Scientific.ofDigits whole fraction 0).toBinary64 false) mantissa

/-- A number at the beginning of the text. -/
def readNumber (text : List Char) : Reading Token :=
  let (fraction, rest) := takeFraction (text.dropWhile Char.isDigit)
  let (exponent, rest) := takeExponent rest
  match numberToken (text.takeWhile Char.isDigit) fraction exponent with
  | .ok token => .ok (token, rest)
  | .error complaint => .error ⟨complaint, text⟩

theorem takeFraction_suffix (text : List Char) : (takeFraction text).2 <:+ text := by
  unfold takeFraction
  split
  · split
    · exact List.suffix_refl _
    · exact (List.dropWhile_suffix _).trans (List.suffix_cons _ _)
  · exact List.suffix_refl _

theorem takeExponent_suffix (text : List Char) : (takeExponent text).2 <:+ text := by
  unfold takeExponent
  split
  · split
    · exact (List.dropWhile_suffix _).trans
        ((takeOptionalSign_suffix _).trans (List.suffix_cons _ _))
    · exact List.suffix_refl _
  · exact List.suffix_refl _

theorem readNumber_rest {text rest : List Char} {token : Token}
    (h : readNumber text = .ok (token, rest)) :
    rest = (takeExponent (takeFraction (text.dropWhile Char.isDigit)).2).2 := by
  simp only [readNumber] at h
  split at h
  · cases h
    rfl
  · cases h

theorem readNumber_suffix {c : Char} {text rest : List Char} {token : Token}
    (hc : c.isDigit = true) (h : readNumber (c :: text) = .ok (token, rest)) :
    Shorter rest (c :: text) := by
  rw [readNumber_rest h, List.dropWhile_cons_of_pos hc]
  exact .cons _ ((takeExponent_suffix _).trans
    ((takeFraction_suffix _).trans (List.dropWhile_suffix _)))

/-! ## Tokens -/

/-- Operators of two characters. -/
def doubleOperator? : Char → Char → Option Token
  | '=', '=' => some .equal
  | '!', '=' => some .notEqual
  | '<', '>' => some .notEqual
  | '<', '=' => some .lessEqual
  | '>', '=' => some .greaterEqual
  | '&', '&' => some .andAnd
  | '|', '|' => some .orOr
  | _, _ => none

/-- Operators and punctuation of one character. -/
def singleOperator? : Char → Option Token
  | '$' => some .dollar
  | '@' => some .at
  | '.' => some .dot
  | '*' => some .star
  | '[' => some .openBracket
  | ']' => some .closeBracket
  | '(' => some .openParen
  | ')' => some .closeParen
  | ',' => some .comma
  | '?' => some .question
  | '+' => some .plus
  | '-' => some .minus
  | '/' => some .slash
  | '%' => some .percent
  | '!' => some .exclamation
  | '<' => some .less
  | '>' => some .greater
  | _ => none

/-- An operator of one character. -/
def readSingle (c : Char) (rest : List Char) : Reading Token :=
  match singleOperator? c with
  | some token => .ok (token, rest)
  | none => .error ⟨.unexpectedChar c, c :: rest⟩

/-- An operator, the longer one if two fit. -/
def readOperator (c : Char) (rest : List Char) : Reading Token :=
  match rest with
  | [] => readSingle c rest
  | d :: after =>
      match doubleOperator? c d with
      | some token => .ok (token, after)
      | none => readSingle c rest

theorem readSingle_rest {c : Char} {text rest : List Char} {token : Token}
    (h : readSingle c text = .ok (token, rest)) : rest = text := by
  unfold readSingle at h
  split at h
  · cases h
    rfl
  · cases h

theorem readOperator_suffix {c : Char} {text rest : List Char} {token : Token}
    (h : readOperator c text = .ok (token, rest)) : rest <:+ text := by
  unfold readOperator at h
  split at h
  · exact readSingle_rest h ▸ List.suffix_refl _
  · split at h
    · cases h
      exact List.suffix_cons _ _
    · exact readSingle_rest h ▸ List.suffix_refl _

/-- The name of a variable behind its dollar sign, quoted or a word; none for
the sign alone. -/
def readVariable? (rest : List Char) : Option (Reading Token) :=
  match rest with
  | [] => none
  | c :: inner =>
      if c = '"' then
        some <|
          match readString c inner with
          | .ok (s, after) => .ok (.variable s, after)
          | .error fault => .error fault
      else if isWordStart c then
        some (.ok
          (.variable (String.ofList (rest.takeWhile isVariableChar)),
            rest.dropWhile isVariableChar))
      else
        none

/-- The token that begins with a character that is not blank. -/
def readToken (c : Char) (rest : List Char) : Reading Token :=
  if c = '"' ∨ c = '\'' then
    match readString c rest with
    | .ok (s, after) => .ok (.string s, after)
    | .error fault => .error fault
  else if c.isDigit then
    readNumber (c :: rest)
  else if isWordStart c then
    .ok (.word (String.ofList (c :: rest.takeWhile isWordChar)), rest.dropWhile isWordChar)
  else if c = '$' then
    (readVariable? rest).getD (.ok (.dollar, rest))
  else
    readOperator c rest

theorem readVariable?_suffix {text rest : List Char} {token : Token}
    (h : readVariable? text = some (.ok (token, rest))) : rest <:+ text := by
  unfold readVariable? at h
  split at h
  · cases h
  · split at h
    · simp only [Option.some.injEq] at h
      split at h
      · next hread =>
          cases h
          exact (readString_suffix hread).1.trans (List.suffix_cons _ _)
      · cases h
    · split at h
      · cases h
        exact List.dropWhile_suffix _
      · cases h

/-- Reading a token uses up some of the text and leaves the rest as it is. -/
theorem readToken_suffix {c : Char} {text rest : List Char} {token : Token}
    (h : readToken c text = .ok (token, rest)) : Shorter rest (c :: text) := by
  unfold readToken at h
  split at h
  · split at h
    · next hread =>
        cases h
        exact .cons _ (readString_suffix hread).1
    · cases h
  · split at h
    · next hc => exact readNumber_suffix hc h
    · split at h
      · cases h
        exact .cons _ (List.dropWhile_suffix _)
      · split at h
        · cases hv : readVariable? text with
          | none =>
              rw [hv] at h
              cases h
              exact .cons _ (List.suffix_refl _)
          | some reading =>
              rw [hv] at h
              simp only [Option.getD_some] at h
              exact .cons _ (readVariable?_suffix (h ▸ hv))
        · exact .cons _ (readOperator_suffix h)

/-- What stands before a suffix. -/
def before (text rest : List Char) : List Char := text.take (text.length - rest.length)

end Lexer

open Lexer in
/-- The tokens of a text that begins at a place of a source, up to the end of
input. -/
def tokensFrom (text : List Char) (p : Position) : Except SyntaxError (List SourceToken) :=
  match text with
  | [] => .ok [{ token := .endOfInput, image := "", position := p }]
  | c :: rest =>
      if isBlank c then
        tokensFrom rest (p.next c)
      else
        match _h : readToken c rest with
        | .error fault => .error ⟨fault.complaint, p.after (before (c :: rest) fault.rest)⟩
        | .ok (token, after) =>
            let image := before (c :: rest) after
            match tokensFrom after (p.after image) with
            | .error e => .error e
            | .ok tokens =>
                .ok ({ token, image := String.ofList image, position := p } :: tokens)
termination_by text.length
decreasing_by
  · simp
  · exact (readToken_suffix _h).2

/-- All tokens of a source. -/
def tokenize (source : String) : Except SyntaxError (List SourceToken) :=
  tokensFrom source.toList .start

end JsonPath
