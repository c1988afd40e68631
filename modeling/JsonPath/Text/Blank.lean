/-!
# Blank characters

The characters with the Unicode property White_Space.  Tokens are separated by
them, and they are trimmed where text from outside is read.
-/

namespace JsonPath

/-- The Unicode property White_Space. -/
def isBlank (c : Char) : Bool :=
  let code := c.toNat
  (9 ≤ code && code ≤ 13) || code == 32 || code == 0x85 || code == 0xA0 || code == 0x1680 ||
    (0x2000 ≤ code && code ≤ 0x200A) || code == 0x2028 || code == 0x2029 || code == 0x202F ||
    code == 0x205F || code == 0x3000

theorem ne_of_isBlank {c d : Char} (hc : isBlank c = true) (hd : isBlank d = false) : c ≠ d := by
  rintro rfl
  simp [hc] at hd

theorem not_isDigit_of_isBlank {c : Char} (h : isBlank c = true) : c.isDigit = false := by
  have hblank : ¬(48 ≤ c.toNat ∧ c.toNat ≤ 57) := by
    simp only [isBlank, Bool.or_eq_true, Bool.and_eq_true, decide_eq_true_eq, beq_iff_eq] at h
    omega
  rw [← Bool.not_eq_true, Char.isDigit_iff_toNat]
  exact hblank

/-- The text without blanks at either end. -/
def trimBlanks (text : List Char) : List Char :=
  ((text.dropWhile isBlank).reverse.dropWhile isBlank).reverse

/-- The texts between blanks, without empty ones. -/
def words (text : List Char) : List (List Char) :=
  (go text []).filter fun word => !word.isEmpty
where
  /-- `word` holds the characters of the current word in reverse. -/
  go : List Char → List Char → List (List Char)
    | [], word => [word.reverse]
    | c :: rest, word => if isBlank c then word.reverse :: go rest [] else go rest (c :: word)

/-- The lines of a text.  A line ends with a line feed, which may follow a
carriage return; an empty rest after the last line feed is no line. -/
def splitLines (text : List Char) : List (List Char) :=
  go text []
where
  /-- `line` holds the characters of the current line in reverse. -/
  go : List Char → List Char → List (List Char)
    | [], [] => []
    | [], line => [line.reverse]
    | '\n' :: rest, '\r' :: line => line.reverse :: go rest []
    | '\n' :: rest, line => line.reverse :: go rest []
    | c :: rest, line => go rest (c :: line)

end JsonPath
