/-!
# UTF-8

The bytes of characters, and of ranges of characters.  A range is cut into parts
in each of which the bytes vary independently of each other: then a character
belongs to the part exactly if each of its bytes is in the range at its place.
-/

namespace JsonPath.Utf8

/-- The bytes of a code point. -/
def encode (code : Nat) : List Nat :=
  if code < 0x80 then
    [code]
  else if code < 0x800 then
    [0xC0 + code / 0x40, 0x80 + code % 0x40]
  else if code < 0x10000 then
    [0xE0 + code / 0x1000, 0x80 + code / 0x40 % 0x40, 0x80 + code % 0x40]
  else
    [0xF0 + code / 0x40000, 0x80 + code / 0x1000 % 0x40, 0x80 + code / 0x40 % 0x40,
      0x80 + code % 0x40]

/-- The bytes from one to another, both included. -/
structure ByteRange where
  first : Nat
  last : Nat
  deriving DecidableEq, Repr

/-! ## Cuts -/

/-- A code point behind which a range is cut, with the one at which the next part
begins. -/
abbrev Cut := Nat × Nat

/-- The surrogates are left out. -/
def surrogateCut? (first last : Nat) : Option Cut :=
  if first < 0xE000 ∧ 0xD7FF < last then some (0xD7FF, 0xE000) else none

/-- The characters of one part have the same number of bytes. -/
def lengthCut? (first last : Nat) : Option Cut :=
  [0x7F, 0x7FF, 0xFFFF].findSome? fun greatest =>
    if first ≤ greatest ∧ greatest < last then some (greatest, greatest + 1) else none

/-- A part that varies in some byte takes all values of the bytes behind it.  A
block is the characters that agree in all but those bytes. -/
def blockCut? (first last : Nat) : Option Cut :=
  [0x40, 0x1000, 0x40000].findSome? fun block =>
    if first / block = last / block then
      none
    else if first % block ≠ 0 then
      let next := (first / block + 1) * block
      some (next - 1, next)
    else if last % block ≠ block - 1 then
      let next := last / block * block
      some (next - 1, next)
    else
      none

/-- Where a range must be cut first. -/
def cut? (first last : Nat) : Option Cut :=
  surrogateCut? first last <|> lengthCut? first last <|>
    if last < 0x80 then none else blockCut? first last

/-- The byte ranges of the parts of a range, in ascending order.  A cut leaves
something on either side, so the test of the bounds does not refuse any. -/
def sequences (first last : Nat) : List (List ByteRange) :=
  match cut? first last with
  | none => [List.zipWith ByteRange.mk (encode first) (encode last)]
  | some (stop, start) =>
      if _h : first ≤ stop ∧ stop < start ∧ start ≤ last then
        sequences first stop ++ sequences start last
      else
        []
termination_by last + 1 - first
decreasing_by
  all_goals omega

end JsonPath.Utf8
