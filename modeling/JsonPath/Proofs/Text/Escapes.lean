import Mathlib.Data.List.TakeWhile
import JsonPath.Syntax.Lexer

/-!
# The escapes of a character

What may stand behind a backslash in a string of the path language, written down apart from
the reader: a letter for the character, four hexadecimal digits behind a `u`, or the eight
digits of a surrogate pair.

`UnicodeEscape.read_eq_ok_iff` and `Lexer.readEscape_eq_ok_iff` say that a character is read
off the front of a text exactly if one of its escapes is there.  The only escape that is
missing altogether is that at the end of the text (`Lexer.readEscape_eq_error_none_iff`).
-/

namespace JsonPath

/-! ## Hexadecimal digits -/

/-- The character is the digit of a number below sixteen, in either case. -/
def IsHexDigit (c : Char) (d : Nat) : Prop :=
  d < 16 ∧ (c = d.digitChar ∨ c = d.digitChar.toUpper)

/-- Whether a character is such a digit can be decided. -/
instance (c : Char) (d : Nat) : Decidable (IsHexDigit c d) :=
  inferInstanceAs (Decidable (_ ∧ _))

theorem lt_of_hexValue? {c : Char} {d : Nat} (h : hexValue? c = some d) : c.toNat < 128 := by
  have hle {top : Char} (htop : c ≤ top) : c.toNat ≤ top.toNat :=
    UInt32.le_iff_toNat_le.1 htop
  unfold hexValue? at h
  split at h
  · next hdigit => exact Nat.lt_of_le_of_lt (hle hdigit.2) (by decide)
  · split at h
    · next hlower => exact Nat.lt_of_le_of_lt (hle hlower.2) (by decide)
    · split at h
      · next hupper => exact Nat.lt_of_le_of_lt (hle hupper.2) (by decide)
      · cases h

theorem hexValue?_eq_some_iff {c : Char} {d : Nat} : hexValue? c = some d ↔ IsHexDigit c d := by
  constructor
  · intro h
    have hascii : ∀ n < 128, ∀ d ∈ hexValue? (Char.ofNat n), d < 16 ∧
        (Char.ofNat n = d.digitChar ∨ Char.ofNat n = d.digitChar.toUpper) := by
      decide
    have hc := hascii c.toNat (lt_of_hexValue? h) d
    rw [Char.ofNat_toNat] at hc
    exact hc h
  · rintro ⟨hd, hc⟩
    have hdigits : ∀ d < 16, hexValue? d.digitChar = some d ∧
        hexValue? d.digitChar.toUpper = some d := by
      decide
    rcases hc with rfl | rfl
    · exact (hdigits d hd).1
    · exact (hdigits d hd).2

/-- Four hexadecimal digits of a number. -/
inductive SpellsCode : List Char → Nat → Prop where
  | digits {a b c d : Char} {x y z w : Nat} (ha : IsHexDigit a x) (hb : IsHexDigit b y)
      (hc : IsHexDigit c z) (hd : IsHexDigit d w) :
      SpellsCode [a, b, c, d] (0x1000 * x + 0x100 * y + 0x10 * z + w)

theorem SpellsCode.lt {digits : List Char} {code : Nat} (h : SpellsCode digits code) :
    code < 0x10000 := by
  obtain ⟨⟨hx, -⟩, ⟨hy, -⟩, ⟨hz, -⟩, ⟨hw, -⟩⟩ := h
  omega

/-- What may stand behind `\u` for a character: the digits of its code, or those of the two
surrogates of a character beyond the basic plane. -/
inductive UnicodeSpelling (c : Char) : List Char → Prop where
  | basic {digits : List Char} (h : SpellsCode digits c.toNat) : UnicodeSpelling c digits
  | pair {high low : List Char} (hc : 0x10000 ≤ c.toNat)
      (hhigh : SpellsCode high (0xD800 + (c.toNat - 0x10000) / 0x400))
      (hlow : SpellsCode low (0xDC00 + (c.toNat - 0x10000) % 0x400)) :
      UnicodeSpelling c (high ++ '\\' :: 'u' :: low)

namespace UnicodeEscape

theorem hexNumber_of_digits {a b c d : Char} {x y z w : Nat} (ha : hexValue? a = some x)
    (hb : hexValue? b = some y) (hc : hexValue? c = some z) (hd : hexValue? d = some w) :
    hexNumber [a, b, c, d] = 0x1000 * x + 0x100 * y + 0x10 * z + w := by
  simp only [hexNumber, List.foldl_cons, List.foldl_nil, ha, hb, hc, hd, Option.getD_some]
  omega

theorem spellsCode_hexNumber : ∀ {digits : List Char}, digits.length = 4 →
    (∀ c ∈ digits, isHexDigit c = true) → SpellsCode digits (hexNumber digits)
  | [a, b, c, d], _, h => by
      have hvalue (c' : Char) (hc' : c' ∈ [a, b, c, d]) : ∃ n, hexValue? c' = some n :=
        Option.isSome_iff_exists.1 (h c' hc')
      obtain ⟨x, hx⟩ := hvalue a (by simp)
      obtain ⟨y, hy⟩ := hvalue b (by simp)
      obtain ⟨z, hz⟩ := hvalue c (by simp)
      obtain ⟨w, hw⟩ := hvalue d (by simp)
      rw [hexNumber_of_digits hx hy hz hw]
      rw [hexValue?_eq_some_iff] at hx hy hz hw
      exact .digits hx hy hz hw

theorem takeCode_eq_ok_iff {text rest : List Char} {code : Nat} :
    takeCode text = .ok (code, rest) ↔
      ∃ digits, SpellsCode digits code ∧ text = digits ++ rest := by
  constructor
  · intro h
    simp only [takeCode] at h
    split at h
    · next hlength =>
        cases h
        -- all of the first four characters are digits, and there are four
        have hprefix := List.takeWhile_prefix isHexDigit (l := text.take 4)
        have hfour := List.length_take_le 4 text
        have htake : (text.take 4).takeWhile isHexDigit = text.take 4 :=
          hprefix.eq_of_length_le (by omega)
        have hdigits := List.takeWhile_eq_self_iff.1 htake
        rw [htake] at hlength ⊢
        exact ⟨text.take 4, spellsCode_hexNumber hlength hdigits,
          (List.take_append_drop 4 text).symm⟩
    · cases h
  · rintro ⟨-, ⟨ha, hb, hc, hd⟩, rfl⟩
    rw [← hexValue?_eq_some_iff] at ha hb hc hd
    simp [takeCode, isHexDigit, ha, hb, hc, hd, hexNumber_of_digits ha hb hc hd]

/-- A code that is valid is that of its character. -/
theorem toNat_ofNat {code : Nat} (h : code.isValidChar) : (Char.ofNat code).toNat = code := by
  rw [Char.ofNat, dif_pos h]
  rfl

theorem isHighSurrogate_iff {code : Nat} :
    isHighSurrogate code = true ↔ 0xD800 ≤ code ∧ code < 0xDC00 := by
  simp [isHighSurrogate]

theorem isLowSurrogate_iff {code : Nat} :
    isLowSurrogate code = true ↔ 0xDC00 ≤ code ∧ code < 0xE000 := by
  simp [isLowSurrogate]

/-- A code in the basic plane that is no surrogate is that of a character. -/
theorem basic_of_spellsCode {digits : List Char} {code : Nat} (h : SpellsCode digits code)
    (hhigh : ¬isHighSurrogate code = true) (hlow : ¬isLowSurrogate code = true) :
    UnicodeSpelling (Char.ofNat code) digits := by
  have hlt := h.lt
  rw [isHighSurrogate_iff] at hhigh
  rw [isLowSurrogate_iff] at hlow
  have hvalid : code.isValidChar := by
    unfold Nat.isValidChar
    omega
  rw [← toNat_ofNat hvalid] at h
  exact .basic h

/-- Two surrogates are those of a character. -/
theorem pair_of_spellsCode {digits digits' : List Char} {high low : Nat}
    (h : SpellsCode digits high) (h' : SpellsCode digits' low)
    (hhigh : isHighSurrogate high = true) (hlow : isLowSurrogate low = true) :
    UnicodeSpelling (Char.ofNat (0x10000 + (high - 0xD800) * 0x400 + (low - 0xDC00)))
      (digits ++ '\\' :: 'u' :: digits') := by
  rw [isHighSurrogate_iff] at hhigh
  rw [isLowSurrogate_iff] at hlow
  have hvalid : (0x10000 + (high - 0xD800) * 0x400 + (low - 0xDC00)).isValidChar := by
    unfold Nat.isValidChar
    omega
  have hcode := toNat_ofNat hvalid
  refine .pair (by omega) ?_ ?_
  · rw [hcode]
    convert h using 1
    omega
  · rw [hcode]
    convert h' using 1
    omega

theorem spelling_of_read {text rest : List Char} {c : Char} (h : read text = .ok (c, rest)) :
    ∃ e, UnicodeSpelling c e ∧ text = e ++ rest := by
  unfold read at h
  split at h
  · cases h
  · next hcode =>
      obtain ⟨digits, hdigits, rfl⟩ := takeCode_eq_ok_iff.1 hcode
      split at h
      · next hhigh =>
          split at h
          · split at h
            · cases h
            · next hcode' =>
                obtain ⟨digits', hdigits', rfl⟩ := takeCode_eq_ok_iff.1 hcode'
                split at h
                · next hlow =>
                    simp only [Except.ok.injEq, Prod.mk.injEq] at h
                    obtain ⟨rfl, rfl⟩ := h
                    exact ⟨_, pair_of_spellsCode hdigits hdigits' hhigh hlow, by simp⟩
                · cases h
          · cases h
      · next hhigh =>
          split at h
          · cases h
          · next hlow =>
              cases h
              exact ⟨_, basic_of_spellsCode hdigits hhigh hlow, rfl⟩

theorem read_of_spelling {e : List Char} {c : Char} (h : UnicodeSpelling c e)
    (rest : List Char) : read (e ++ rest) = .ok (c, rest) := by
  have hvalid : c.toNat < 0xD800 ∨ 0xDFFF < c.toNat ∧ c.toNat < 0x110000 := c.valid
  cases h with
  | basic h =>
      -- no character is a surrogate
      have hhigh : isHighSurrogate c.toNat = false := by
        rw [← Bool.not_eq_true, isHighSurrogate_iff]
        omega
      have hlow : isLowSurrogate c.toNat = false := by
        rw [← Bool.not_eq_true, isLowSurrogate_iff]
        omega
      simp [read, takeCode_eq_ok_iff.2 ⟨e, h, rfl⟩, hhigh, hlow]
  | @pair high low hc hhigh hlow =>
      have hfirst : isHighSurrogate (0xD800 + (c.toNat - 0x10000) / 0x400) = true := by
        rw [isHighSurrogate_iff]
        omega
      have hsecond : isLowSurrogate (0xDC00 + (c.toNat - 0x10000) % 0x400) = true := by
        rw [isLowSurrogate_iff]
        omega
      have hcode : 0x10000 + (0xD800 + (c.toNat - 0x10000) / 0x400 - 0xD800) * 0x400 +
          (0xDC00 + (c.toNat - 0x10000) % 0x400 - 0xDC00) = c.toNat := by
        omega
      rw [List.append_assoc, read, takeCode_eq_ok_iff.2 ⟨high, hhigh, rfl⟩]
      simp only [List.cons_append, takeCode_eq_ok_iff.2 ⟨low, hlow, rfl⟩, hfirst, hsecond, if_true,
        hcode, Char.ofNat_toNat]

/-- A character is read exactly where one of its spellings stands. -/
theorem read_eq_ok_iff {text rest : List Char} {c : Char} :
    read text = .ok (c, rest) ↔ ∃ e, UnicodeSpelling c e ∧ text = e ++ rest := by
  refine ⟨spelling_of_read, ?_⟩
  rintro ⟨e, he, rfl⟩
  exact read_of_spelling he rest

end UnicodeEscape

/-! ## Escapes -/

/-- A letter behind a backslash, and the character that it stands for. -/
inductive ShortEscape : Char → Char → Prop where
  | quote : ShortEscape '"' '"'
  | apostrophe : ShortEscape '\'' '\''
  | backslash : ShortEscape '\\' '\\'
  | slash : ShortEscape '/' '/'
  | backspace : ShortEscape 'b' '\x08'
  | formFeed : ShortEscape 'f' '\x0c'
  | lineFeed : ShortEscape 'n' '\n'
  | carriageReturn : ShortEscape 'r' '\r'
  | tab : ShortEscape 't' '\t'

/-- What may stand behind a backslash for a character. -/
inductive Escape (c : Char) : List Char → Prop where
  | short {letter : Char} (h : ShortEscape letter c) : Escape c [letter]
  | unicode {e : List Char} (h : UnicodeSpelling c e) : Escape c ('u' :: e)

/-- No escape stands at the beginning of the text. -/
def NoEscape (text : List Char) : Prop := ∀ c e rest, Escape c e → text ≠ e ++ rest

namespace Lexer

theorem shortEscape?_eq_some_iff {letter c : Char} :
    shortEscape? letter = some c ↔ ShortEscape letter c := by
  constructor
  · intro h
    unfold shortEscape? at h
    split at h <;> cases h <;> constructor
  · intro h
    cases h <;> rfl

/-- A character is read exactly where one of its escapes stands. -/
theorem readEscape_eq_ok_iff {text rest : List Char} {c : Char} :
    readEscape text = .ok (c, rest) ↔ ∃ e, Escape c e ∧ text = e ++ rest := by
  constructor
  · intro h
    unfold readEscape at h
    split at h
    · cases h
    · next letter behind =>
        split at h
        · next hshort =>
            cases h
            exact ⟨_, .short (shortEscape?_eq_some_iff.1 hshort), rfl⟩
        · split at h
          · next hu =>
              subst hu
              split at h
              · next hread =>
                  cases h
                  obtain ⟨e, he, rfl⟩ := UnicodeEscape.read_eq_ok_iff.1 hread
                  exact ⟨_, .unicode he, rfl⟩
              · cases h
          · cases h
  · rintro ⟨-, ⟨hshort⟩ | ⟨hunicode⟩, rfl⟩
    · simp [readEscape, shortEscape?_eq_some_iff.2 hshort]
    · have hnone : shortEscape? 'u' = none := rfl
      simp [readEscape, hnone, UnicodeEscape.read_of_spelling hunicode]

/-- Only at the end of the text there is nothing that could be an escape. -/
theorem readEscape_eq_error_none_iff {text : List Char} :
    readEscape text = .error none ↔ text = [] := by
  constructor
  · intro h
    unfold readEscape at h
    split at h
    · rfl
    · split at h
      · cases h
      · split at h
        · split at h <;> cases h
        · cases h
  · rintro rfl
    rfl

theorem noEscape_iff {text : List Char} :
    NoEscape text ↔ ∃ sequence?, readEscape text = .error sequence? := by
  constructor
  · intro h
    cases hread : readEscape text with
    | ok result =>
        obtain ⟨e, he, heq⟩ := readEscape_eq_ok_iff.1 hread
        exact absurd heq (h _ e _ he)
    | error sequence? => exact ⟨sequence?, rfl⟩
  · rintro ⟨sequence?, hread⟩ c e rest he rfl
    rw [readEscape_eq_ok_iff.2 ⟨e, he, rfl⟩] at hread
    cases hread

/-- Where no escape stands, there is the sequence that is none. -/
theorem exists_sequence {text : List Char} (hne : text ≠ []) (h : NoEscape text) :
    ∃ sequence, readEscape text = .error (some sequence) := by
  obtain ⟨sequence?, hread⟩ := noEscape_iff.1 h
  cases sequence? with
  | none => exact absurd (readEscape_eq_error_none_iff.1 hread) hne
  | some sequence => exact ⟨sequence, hread⟩

end Lexer

end JsonPath
