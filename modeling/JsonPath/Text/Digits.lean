/-!
# Digits and signs

The pieces from which written numbers are read: a run of decimal digits is
`takeWhile Char.isDigit`, and a sign may stand before it.
-/

namespace JsonPath

/-- A sign, true for minus, if there is one. -/
def takeOptionalSign : List Char → Bool × List Char
  | '+' :: rest => (false, rest)
  | '-' :: rest => (true, rest)
  | text => (false, text)

theorem takeOptionalSign_suffix (text : List Char) : (takeOptionalSign text).2 <:+ text := by
  unfold takeOptionalSign
  split
  · exact List.suffix_cons _ _
  · exact List.suffix_cons _ _
  · exact List.suffix_refl _

theorem takeOptionalSign_length (text : List Char) :
    (takeOptionalSign text).2.length ≤ text.length :=
  (takeOptionalSign_suffix text).length_le

/-- A run ends where a character is not of its kind. -/
theorem takeWhile_run {p : Char → Bool} {run rest : List Char} (hrun : ∀ c ∈ run, p c = true)
    (hrest : ∀ c ∈ rest.head?, p c = false) : (run ++ rest).takeWhile p = run := by
  rw [List.takeWhile_append_of_pos hrun]
  cases rest with
  | nil => simp
  | cons c rest =>
      have hc : p c = false := hrest c (by simp)
      simp [hc]

theorem dropWhile_run {p : Char → Bool} {run rest : List Char} (hrun : ∀ c ∈ run, p c = true)
    (hrest : ∀ c ∈ rest.head?, p c = false) : (run ++ rest).dropWhile p = rest := by
  rw [List.dropWhile_append_of_pos hrun]
  cases rest with
  | nil => rfl
  | cons c rest =>
      have hc : p c = false := hrest c (by simp)
      simp [hc]

theorem length_dropWhile_le (p : Char → Bool) (text : List Char) :
    (text.dropWhile p).length ≤ text.length :=
  (List.dropWhile_suffix p).length_le

/-- Dropping a run that is not empty shortens the text. -/
theorem length_dropWhile_lt (p : Char → Bool) (text : List Char)
    (h : (text.takeWhile p).isEmpty = false) : (text.dropWhile p).length < text.length := by
  have hsplit := congrArg List.length (List.takeWhile_append_dropWhile (p := p) (l := text))
  rw [List.length_append] at hsplit
  have : 0 < (text.takeWhile p).length := List.length_pos_iff.2 (by simpa using h)
  omega

end JsonPath
