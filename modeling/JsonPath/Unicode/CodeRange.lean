import JsonPath.Text.Blank
import JsonPath.Text.UnicodeEscape

/-!
# Ranges of code points

Tables of the character database are texts of hexadecimal numbers, which
`CodeRange.readAll` decodes.
-/

namespace JsonPath.Unicode

/-- The code points from one to another, both included. -/
structure CodeRange where
  first : Nat
  last : Nat
  deriving DecidableEq, Repr

namespace CodeRange

/-- Whether a code is in the range, whose ends belong to it. -/
def contains (range : CodeRange) (n : Nat) : Bool := range.first ≤ n && n ≤ range.last

/-- A range `41-5A`, or a lone code point `41`. -/
def read (word : List Char) : CodeRange :=
  let first := word.takeWhile (· != '-')
  match word.dropWhile (· != '-') with
  | _ :: last => ⟨hexNumber first, hexNumber last⟩
  | [] => ⟨hexNumber first, hexNumber first⟩

/-- Ranges separated by blanks. -/
def readAll (text : String) : List CodeRange := (words text.toList).map read

end CodeRange

/-- A property of characters: its names, and the characters that have it, as
`CodeRange.readAll` reads them. -/
structure CharProperty where
  names : List String
  ranges : String

end JsonPath.Unicode
