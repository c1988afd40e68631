import JsonPath.Json.Number
import JsonPath.Text.UnicodeEscape

/-!
# JSON tokens

The words of a JSON text: punctuation, strings with their escapes decoded, and
the other scalars with their values.  `Token.ofChars?` cuts a text into tokens,
and refuses it where something else than a token or white space stands.
-/

namespace JsonPath.Json

/-- A word of a JSON text.  A scalar is anything with a value that is not a string. -/
inductive Token where
  | openArray
  | closeArray
  | openObject
  | closeObject
  | comma
  | colon
  | string (s : String)
  | scalar (v : Value)

/-! ## Strings -/

/-- The character of the escape whose backslash has been read, and the rest. -/
def readEscape? : List Char → Option (Char × List Char)
  | '"' :: rest => some ('"', rest)
  | '\\' :: rest => some ('\\', rest)
  | '/' :: rest => some ('/', rest)
  | 'b' :: rest => some ('\x08', rest)
  | 'f' :: rest => some ('\x0c', rest)
  | 'n' :: rest => some ('\n', rest)
  | 'r' :: rest => some ('\r', rest)
  | 't' :: rest => some ('\t', rest)
  | 'u' :: rest => (UnicodeEscape.read rest).toOption
  | _ => none

theorem readEscape?_length {text rest : List Char} {c : Char}
    (h : readEscape? text = some (c, rest)) : rest.length < text.length := by
  unfold readEscape? at h
  split at h
  case h_9 inner =>
    cases hread : UnicodeEscape.read inner with
    | error fault => simp [hread, Except.toOption] at h
    | ok result =>
        simp only [hread, Except.toOption, Option.some.injEq] at h
        subst h
        have := (UnicodeEscape.read_suffix hread).2
        simp only [List.length_cons]
        omega
  all_goals
    first
    | contradiction
    | simp only [Option.some.injEq, Prod.mk.injEq] at h
      rw [← h.2]
      simp

/-- The characters of a string whose opening quote has been read, and the text
after its closing quote.  Control characters must be escaped. -/
def readString? (text : List Char) : Option (List Char × List Char) :=
  match text with
  | [] => none
  | c :: rest =>
      if c = '"' then
        some ([], rest)
      else if c = '\\' then
        match _h : readEscape? rest with
        | none => none
        | some (d, after) => (readString? after).map fun (s, final) => (d :: s, final)
      else if c.toNat < 0x20 then
        none
      else
        (readString? rest).map fun (s, final) => (c :: s, final)
termination_by text.length
decreasing_by
  · have := readEscape?_length _h
    simp only [List.length_cons]
    omega
  · simp

theorem readString?_length {text s rest : List Char} (h : readString? text = some (s, rest)) :
    rest.length < text.length := by
  fun_induction readString? text generalizing s with
  | case1 => contradiction
  | case2 => simp_all
  | case3 => contradiction
  | case4 inner d after hescape _ ih =>
      obtain ⟨⟨s', final⟩, hread, heq⟩ := Option.map_eq_some_iff.1 h
      simp only [Prod.mk.injEq] at heq
      have hshort := readEscape?_length hescape
      have := ih (heq.2 ▸ hread)
      simp only [List.length_cons]
      omega
  | case5 => contradiction
  | case6 c inner _ _ _ ih =>
      obtain ⟨⟨s', final⟩, hread, heq⟩ := Option.map_eq_some_iff.1 h
      simp only [Prod.mk.injEq] at heq
      have := ih (heq.2 ▸ hread)
      simp only [List.length_cons]
      omega

/-! ## Tokens -/

/-- The token at the beginning of a text that is not white space, and the
rest. -/
def Token.read? : List Char → Option (Token × List Char)
  | '[' :: rest => some (openArray, rest)
  | ']' :: rest => some (closeArray, rest)
  | '\x7b' :: rest => some (openObject, rest)
  | '\x7d' :: rest => some (closeObject, rest)
  | ',' :: rest => some (comma, rest)
  | ':' :: rest => some (colon, rest)
  | '"' :: rest => (readString? rest).map fun (s, rest) => (string (String.ofList s), rest)
  | 'n' :: 'u' :: 'l' :: 'l' :: rest => some (scalar .null, rest)
  | 't' :: 'r' :: 'u' :: 'e' :: rest => some (scalar (.boolean true), rest)
  | 'f' :: 'a' :: 'l' :: 's' :: 'e' :: rest => some (scalar (.boolean false), rest)
  | text => (readNumber? text).map fun (v, rest) => (scalar v, rest)

theorem Token.read?_length {text rest : List Char} {token : Token}
    (h : Token.read? text = some (token, rest)) : rest.length < text.length := by
  unfold Token.read? at h
  split at h
  case h_7 =>
    obtain ⟨⟨_, _⟩, hread, heq⟩ := Option.map_eq_some_iff.1 h
    simp only [Prod.mk.injEq] at heq
    have := readString?_length hread
    rw [← heq.2]
    simp only [List.length_cons]
    omega
  case h_11 =>
    obtain ⟨⟨_, _⟩, hread, heq⟩ := Option.map_eq_some_iff.1 h
    simp only [Prod.mk.injEq] at heq
    rw [← heq.2]
    exact readNumber?_length hread
  all_goals
    simp only [Option.some.injEq, Prod.mk.injEq] at h
    rw [← h.2]
    simp only [List.length_cons]
    omega

/-- White space between tokens: space, tab, line feed and carriage return. -/
def isSpace (c : Char) : Bool := c == ' ' || c == '\t' || c == '\n' || c == '\r'

/-- All tokens of a text. -/
def Token.ofChars? (text : List Char) : Option (List Token) :=
  match text with
  | [] => some []
  | c :: rest =>
      if isSpace c then
        Token.ofChars? rest
      else
        match _h : Token.read? (c :: rest) with
        | none => none
        | some (token, after) => (Token.ofChars? after).map (token :: ·)
termination_by text.length
decreasing_by
  · simp
  · exact Token.read?_length _h

end JsonPath.Json
