import JsonPath.Number.Binary64

/-!
# Decimal notation of binary64 numbers

A `Scientific` is a natural number times a power of ten.  `toBinary64` is the
binary64 number nearest to it, and `Magnitude.shortest` goes back: among the
decimals that `toBinary64` maps to the magnitude it takes one with the fewest
digits, of those the nearest.  `layout` writes a decimal with or without an
exponent.
-/

namespace JsonPath

/-- The number `digits * 10 ^ exponent`. -/
structure Scientific where
  digits : Nat
  exponent : Int
  deriving DecidableEq, Repr

namespace Scientific

/-- Written digits before and after a point, then a power of ten. -/
def ofDigits (whole fraction : List Char) (exponent : Int) : Scientific :=
  { digits := Nat.ofDigitChars 10 (whole ++ fraction) 0
    exponent := exponent - fraction.length }

/-- The nearest binary64 number with the given sign.  Two tests in front keep
the powers of ten small: from `10 ^ 400` on a positive number is infinite, and
one below `2 ^ -1100` is zero. -/
def toBinary64 (negative : Bool) (s : Scientific) : Binary64 :=
  if s.digits = 0 then
    .finite negative .zero
  else if 400 ≤ s.exponent then
    .infinite negative
  else if (s.digits.log2 : Int) + 1101 ≤ -3 * s.exponent then
    .finite negative .zero
  else if 0 ≤ s.exponent then
    .round negative (s.digits * Nat.pow 10 s.exponent.toNat * Binary64.unitsPerOne) 1
  else
    .round negative (s.digits * Binary64.unitsPerOne) (Nat.pow 10 (-s.exponent).toNat)

/-- The same number without trailing zeros among its digits. -/
def trim (s : Scientific) : Scientific :=
  if _h : s.digits ≠ 0 ∧ s.digits % 10 = 0 then
    trim { digits := s.digits / 10, exponent := s.exponent + 1 }
  else
    s
termination_by s.digits
decreasing_by omega

/-! ## Shortest digits -/

/-- The two neighbours of `units` on the grid of the multiples of
`10 ^ exponent`, the nearer one first, of two equally near ones the even. -/
def neighbours (units : Nat) (exponent : Int) : List Scientific :=
  let numerator := units * Nat.pow 10 (-exponent).toNat
  let denominator := Binary64.unitsPerOne * Nat.pow 10 exponent.toNat
  let below := numerator / denominator
  let nearest := roundHalfEven numerator denominator
  if nearest = below then
    [{ digits := below, exponent }, { digits := below + 1, exponent }]
  else
    [{ digits := below + 1, exponent }, { digits := below, exponent }]

/-- The decimal expansion of a whole number of units, to its last digit. -/
def exact (m : Magnitude) : Scientific :=
  if 1074 ≤ m.exponent then
    { digits := m.significand * Nat.pow 2 (m.exponent - 1074), exponent := 0 }
  else
    { digits := m.significand * Nat.pow 5 (1074 - m.exponent)
      exponent := (m.exponent : Int) - 1074 }

/-- The number of digits before the point; zero or less for numbers below one. -/
def pointPosition (units : Nat) : Int :=
  let low := (((units.log2 : Int) - 1074) * 30103).fdiv 100000 + 1
  let reaches :=
    Binary64.unitsPerOne * Nat.pow 10 low.toNat ≤ units * Nat.pow 10 (-low).toNat
  if reaches then low + 1 else low

end Scientific

/-- The decimal with the fewest digits that reads back as the magnitude, of
several the nearest.  Seventeen digits always suffice; the full expansion
stands behind them. -/
def Magnitude.shortest (m : Magnitude) : Scientific :=
  let point := Scientific.pointPosition m.units
  let candidates := (List.range' 1 17).flatMap fun (count : Nat) =>
    Scientific.neighbours m.units (point - count)
  let reads := fun (s : Scientific) => s.toBinary64 false = .finite false m
  ((candidates.find? reads).getD (.exact m)).trim

namespace Scientific

/-! ## Layout -/

/-- Where a written exponent begins.  A number whose first digit has a weight
from `10 ^ least` to below `10 ^ bound` is written out in full. -/
structure Layout where
  least : Int
  bound : Int

/-- Numbers from `0.00001` to below `10 ^ 16` are written out. -/
def Layout.json : Layout := { least := -5, bound := 16 }

/-- The decimal text of a positive number: always with a point and a digit
after it when written out, and with a signed exponent otherwise. -/
def text (layout : Layout) (s : Scientific) : List Char :=
  let digits := Nat.toDigits 10 s.digits
  let point : Int := digits.length + s.exponent
  if layout.least < point ∧ point ≤ layout.bound then
    if point ≤ 0 then
      '0' :: '.' :: (List.replicate (-point).toNat '0' ++ digits)
    else if point < digits.length then
      digits.take point.toNat ++ '.' :: digits.drop point.toNat
    else
      digits ++ List.replicate s.exponent.toNat '0' ++ ['.', '0']
  else
    let mantissa :=
      match digits with
      | first :: second :: rest => first :: '.' :: second :: rest
      | short => short
    let weight := point - 1
    mantissa ++ 'e' :: (if weight < 0 then '-' else '+') :: Nat.toDigits 10 weight.natAbs

end Scientific

/-- The shortest text that reads back, with a sign only when negative; none for
numbers that are not finite. -/
def Binary64.text? : Binary64 → Option (List Char)
  | .finite negative m =>
      let unsigned :=
        if m.significand = 0 then ['0', '.', '0'] else m.shortest.text .json
      some (if negative then '-' :: unsigned else unsigned)
  | _ => none

end JsonPath
