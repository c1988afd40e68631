import JsonPath.Number.Scientific
import JsonPath.Text.Digits

/-!
# Reading numbers from data

The text of a number in a string of the data: a sign, digits with a point
before, between or behind them, and an exponent.
-/

namespace JsonPath.Binary64

/-- What follows the digits: nothing, or a mark and the digits of an
exponent. -/
def readExponent? : List Char → Option Int
  | [] => some 0
  | mark :: rest =>
      let (negative, digits) := takeOptionalSign rest
      if (mark = 'e' ∨ mark = 'E') ∧ !digits.isEmpty ∧ digits.all Char.isDigit then
        let magnitude : Int := Nat.ofDigitChars 10 digits 0
        some (if negative then -magnitude else magnitude)
      else
        none

/-- The digits behind a point, if there is one, and the text behind them. -/
def splitFraction : List Char → List Char × List Char
  | '.' :: rest => (rest.takeWhile Char.isDigit, rest.dropWhile Char.isDigit)
  | text => ([], text)

/-- The finite number that a whole text spells. -/
def read? (text : List Char) : Option Binary64 := do
  let (negative, body) := takeOptionalSign text
  let whole := body.takeWhile Char.isDigit
  let (fraction, rest) := splitFraction (body.dropWhile Char.isDigit)
  if whole.isEmpty ∧ fraction.isEmpty then none
  let exponent ← readExponent? rest
  let x := (Scientific.ofDigits whole fraction exponent).toBinary64 negative
  if x.isFinite then some x else none

end JsonPath.Binary64
