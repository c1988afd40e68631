/-!
# Unicode escapes

What may follow `\u` in a string: four hexadecimal digits for a character of
the basic plane, or a high surrogate, `\u` again and a low surrogate for one
beyond it.  A failure carries the part of the escape that is at fault.
-/

namespace JsonPath

/-- The value of a hexadecimal digit. -/
def hexValue? (c : Char) : Option Nat :=
  if '0' ≤ c ∧ c ≤ '9' then some (c.toNat - '0'.toNat)
  else if 'a' ≤ c ∧ c ≤ 'f' then some (c.toNat - 'a'.toNat + 10)
  else if 'A' ≤ c ∧ c ≤ 'F' then some (c.toNat - 'A'.toNat + 10)
  else none

/-- Whether a character is a hexadecimal digit. -/
def isHexDigit (c : Char) : Bool := (hexValue? c).isSome

/-- The number that hexadecimal digits spell. -/
def hexNumber (digits : List Char) : Nat :=
  digits.foldl (fun number c => 16 * number + (hexValue? c).getD 0) 0

/-- Four lower-case hexadecimal digits. -/
def hex4 (code : Nat) : List Char :=
  [12, 8, 4, 0].map fun shift => Nat.digitChar ((code >>> shift) % 16)

/-- The first of the two codes that stand for one character. -/
def isHighSurrogate (code : Nat) : Bool := 0xD800 ≤ code && code < 0xDC00

/-- The second of the two codes that stand for one character. -/
def isLowSurrogate (code : Nat) : Bool := 0xDC00 ≤ code && code < 0xE000

namespace UnicodeEscape

/-- The code of four hexadecimal digits and the rest.  On failure, the digits
that are there. -/
def takeCode (text : List Char) : Except (List Char) (Nat × List Char) :=
  let digits := (text.take 4).takeWhile isHexDigit
  if digits.length = 4 then .ok (hexNumber digits, text.drop 4) else .error ('u' :: digits)

/-- The character of the escape whose `\u` has been read, and the rest. -/
def read (text : List Char) : Except (List Char) (Char × List Char) :=
  match takeCode text with
  | .error fault => .error fault
  | .ok (code, rest) =>
      if isHighSurrogate code then
        match rest with
        | '\\' :: 'u' :: rest =>
            match takeCode rest with
            | .error fault => .error fault
            | .ok (low, rest) =>
                if isLowSurrogate low then
                  .ok (Char.ofNat (0x10000 + (code - 0xD800) * 0x400 + (low - 0xDC00)), rest)
                else
                  .error ('u' :: hex4 low)
        | _ => .error ('u' :: hex4 code)
      else if isLowSurrogate code then
        .error ('u' :: hex4 code)
      else
        .ok (Char.ofNat code, rest)

theorem takeCode_suffix {text rest : List Char} {code : Nat}
    (h : takeCode text = .ok (code, rest)) : rest <:+ text ∧ rest.length < text.length := by
  simp only [takeCode] at h
  split at h
  · next hd =>
      simp only [Except.ok.injEq, Prod.mk.injEq] at h
      rw [← h.2]
      have htake : ((text.take 4).takeWhile isHexDigit).length ≤ (text.take 4).length :=
        (List.takeWhile_prefix _).length_le
      simp only [List.length_take] at htake
      refine ⟨List.drop_suffix 4 text, ?_⟩
      simp only [List.length_drop]
      omega
  · cases h

/-- Reading an escape uses up some of the text. -/
theorem read_suffix {text rest : List Char} {c : Char}
    (h : read text = .ok (c, rest)) : rest <:+ text ∧ rest.length < text.length := by
  unfold read at h
  split at h
  · cases h
  · next code rest' hcode =>
      have hfirst := takeCode_suffix hcode
      split at h
      · split at h
        · next inner =>
            split at h
            · cases h
            · next low rest'' hlow =>
                have hsecond := takeCode_suffix hlow
                split at h
                · simp only [Except.ok.injEq, Prod.mk.injEq] at h
                  rw [← h.2]
                  refine ⟨hsecond.1.trans (((List.suffix_cons _ _).trans
                    (List.suffix_cons _ _)).trans hfirst.1), ?_⟩
                  simp only [List.length_cons] at hfirst
                  omega
                · cases h
        · cases h
      · split at h
        · cases h
        · simp only [Except.ok.injEq, Prod.mk.injEq] at h
          rw [← h.2]
          exact hfirst

end UnicodeEscape

end JsonPath
