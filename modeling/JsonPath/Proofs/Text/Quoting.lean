import JsonPath.Json.Token
import JsonPath.Json.Writer
import JsonPath.Proofs.Text.Escapes

/-!
# Quoted text reads back

`Json.quoted` writes a text between quotes: each character as it is or as one of its escapes
(`Json.escapeChar_cases`).  The reader of JSON gives the text back and stops right behind the
closing quote.

JSON reads all escapes but one, the apostrophe, which is not written
(`Json.readEscape?_of_escape`).
-/

namespace JsonPath

/-! ## Escaped characters -/

theorem spellsCode_hex4 {code : Nat} (h : code < 0x10000) : SpellsCode (hex4 code) code := by
  have hdigit (shift : Nat) : IsHexDigit (Nat.digitChar ((code >>> shift) % 16))
      ((code >>> shift) % 16) := ⟨Nat.mod_lt _ (by decide), .inl rfl⟩
  have hdigits := SpellsCode.digits (hdigit 12) (hdigit 8) (hdigit 4) (hdigit 0)
  have hcode : 0x1000 * ((code >>> 12) % 16) + 0x100 * ((code >>> 8) % 16) +
      0x10 * ((code >>> 4) % 16) + (code >>> 0) % 16 = code := by
    simp only [Nat.shiftRight_eq_div_pow]
    omega
  rwa [hcode] at hdigits

namespace Json

/-- A character is written as it is, or as an escape. -/
theorem escapeChar_cases (c : Char) :
    (escapeChar c = [c] ∧ c ≠ '"' ∧ c ≠ '\\' ∧ ¬c.toNat < 0x20) ∨
      ∃ tail, escapeChar c = '\\' :: tail ∧ Escape c tail ∧ tail ≠ ['\''] := by
  by_cases hcontrol : c.toNat < 0x20
  · right
    unfold escapeChar
    split
    · subst c
      contradiction
    split
    · subst c
      contradiction
    split
    · subst c
      exact ⟨['b'], rfl, .short .backspace, by decide⟩
    split
    · subst c
      exact ⟨['f'], rfl, .short .formFeed, by decide⟩
    split
    · subst c
      exact ⟨['n'], rfl, .short .lineFeed, by decide⟩
    split
    · subst c
      exact ⟨['r'], rfl, .short .carriageReturn, by decide⟩
    split
    · subst c
      exact ⟨['t'], rfl, .short .tab, by decide⟩
    · have hcode : c.toNat < 0x10000 := by omega
      exact ⟨_, rfl, .unicode (.basic (spellsCode_hex4 hcode)), by simp⟩
  · by_cases hquote : c = '"'
    · subst c
      exact .inr ⟨['"'], rfl, .short .quote, by decide⟩
    by_cases hbackslash : c = '\\'
    · subst c
      exact .inr ⟨['\\'], rfl, .short .backslash, by decide⟩
    · have hne (d : Char) (hd : d.toNat < 0x20) : c ≠ d := by
        rintro rfl
        exact hcontrol hd
      left
      refine ⟨?_, hquote, hbackslash, hcontrol⟩
      simp [escapeChar, hquote, hbackslash, hcontrol, hne '\x08' (by decide),
        hne '\x0c' (by decide), hne '\n' (by decide), hne '\r' (by decide), hne '\t' (by decide)]

theorem readEscape?_of_escape {c : Char} {e : List Char} (h : Escape c e) (hne : e ≠ ['\''])
    (rest : List Char) : readEscape? (e ++ rest) = some (c, rest) := by
  cases h with
  | short h =>
      cases h with
      | apostrophe => exact absurd rfl hne
      | _ => rfl
  | unicode h =>
      rw [List.cons_append, readEscape?, UnicodeEscape.read_of_spelling h]
      rfl

/-! ## Strings in JSON -/

theorem readString?_escapeChar (c : Char) (text : List Char) :
    readString? (escapeChar c ++ text) =
      (readString? text).map fun (s, rest) => (c :: s, rest) := by
  rcases escapeChar_cases c with ⟨hself, hquote, hbackslash, hcontrol⟩ | ⟨tail, htail, hescape, hne⟩
  · rw [hself, List.singleton_append, readString?]
    simp [hquote, hbackslash, hcontrol]
  · have hread := readEscape?_of_escape hescape hne text
    rw [htail, List.cons_append, readString?]
    simp only [Char.reduceEq, if_false, if_true]
    split
    · next h => simp [hread] at h
    · next d after h =>
        rw [hread] at h
        cases h
        rfl

/-- A quoted text reads back, up to its closing quote. -/
theorem readString?_quoted (text rest : List Char) :
    readString? (text.flatMap escapeChar ++ '"' :: rest) = some (text, rest) := by
  induction text with
  | nil =>
      rw [List.flatMap_nil, List.nil_append, readString?]
      rfl
  | cons c text ih =>
      rw [List.flatMap_cons, List.append_assoc, readString?_escapeChar, ih]
      rfl

end Json

end JsonPath
