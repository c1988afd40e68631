import JsonPath.Number.Binary64

/-!
# Decimals of 96 bits

A `Decimal` is a sign, a coefficient below `2 ^ 96` and a scale of at most 28;
its value is the coefficient divided by `10 ^ scale`.  Arithmetic that is not
whole passes through decimals, so that one tenth plus two tenths is three
tenths.

Results are exact where they fit.  A coefficient that is too long, or a scale
that is too large, loses its last digits by rounding half to even; what does
not fit even without a fraction is refused.
-/

namespace JsonPath

/-- A decimal number: its sign, its digits as one number, and how many stand behind the point. -/
structure Decimal where
  negative : Bool
  coefficient : Nat
  scale : Nat
  deriving DecidableEq, Repr

namespace Decimal

/-- Coefficients stay below this bound, `2 ^ 96`. -/
def limit : Nat := 0x1000000000000000000000000

/-- The most digits behind the point. -/
def maxScale : Nat := 28

/-- Zero, without a sign. -/
def zero : Decimal := { negative := false, coefficient := 0, scale := 0 }

/-- Whether it is zero, with any sign and scale. -/
def isZero (d : Decimal) : Bool := d.coefficient == 0

/-! ## From binary64 -/

/-- A coefficient with a power of ten, on its way from a binary number. -/
structure Approximation where
  coefficient : Nat
  exponent : Int

namespace Approximation

/-- Removes `count` halvings from `coefficient * 2 ^ -count`: an even
coefficient is halved, an odd one multiplied by five with one more decimal, and
where that no longer fits it is halved as well and loses its last bit. -/
def removeHalvings : Nat → Approximation → Approximation
  | 0, a => a
  | count + 1, a =>
      if a.coefficient % 2 = 1 ∧ a.coefficient * 5 < limit then
        removeHalvings count { a with coefficient := a.coefficient * 5, exponent := a.exponent - 1 }
      else
        removeHalvings count { a with coefficient := a.coefficient / 2 }

/-- Drops the last digit, and adds one when that digit was five or more. -/
def dropDigit (a : Approximation) : Approximation :=
  { coefficient := roundHalfUp a.coefficient 10, exponent := a.exponent + 1 }

/-- Drops digits until the scale is at most the largest one.  A coefficient that
has lost its last digit is zero. -/
def limitScale : Nat → Approximation → Approximation
  | 0, a => a
  | fuel + 1, a =>
      if a.exponent < -(maxScale : Int) then
        if a.coefficient / 10 = 0 then
          { coefficient := 0, exponent := 0 }
        else
          limitScale fuel a.dropDigit
      else
        a

/-- Drops decimals while the coefficient has more than 52 bits, the precision
that a binary64 number guarantees. -/
def limitPrecision : Nat → Approximation → Approximation
  | 0, a => a
  | fuel + 1, a =>
      if a.exponent < 0 ∧ 0x10000000000000 ≤ a.coefficient then
        limitPrecision fuel a.dropDigit
      else
        a

/-- Removes trailing zeros of the fraction. -/
def trimFraction : Nat → Approximation → Approximation
  | 0, a => a
  | fuel + 1, a =>
      if a.exponent < 0 ∧ a.coefficient % 10 = 0 then
        trimFraction fuel { coefficient := a.coefficient / 10, exponent := a.exponent + 1 }
      else
        a

end Approximation

/-- The decimal for a binary number: its exact value while that fits 96 bits,
cut to the scale and the precision, without trailing zeros.  None for numbers
that are not finite or do not stay below the limit. -/
def ofBinary64? : Binary64 → Option Decimal
  | .finite negative m =>
      if limit * Binary64.unitsPerOne ≤ m.units then
        none
      else if m.significand = 0 then
        some { negative, coefficient := 0, scale := 0 }
      else if 1074 ≤ m.exponent then
        some { negative, coefficient := m.significand * Nat.pow 2 (m.exponent - 1074), scale := 0 }
      else
        let exact : Approximation := { coefficient := m.significand, exponent := 0 }
        let a := exact.removeHalvings (1074 - m.exponent)
        let a := a.limitScale 1100
        let a := a.limitPrecision maxScale
        let a := a.trimFraction maxScale
        some { negative, coefficient := a.coefficient, scale := a.exponent.natAbs }
  | _ => none

/-! ## Arithmetic -/

/-- The least number of last digits whose removal brings a coefficient below
the limit. -/
def excessDigits (coefficient : Nat) : Nat :=
  ((List.range 60).find? fun count => coefficient / Nat.pow 10 count < limit).getD 60

/-- The decimal nearest to `coefficient / 10 ^ scale`, with as many digits as
fit. -/
def fit (negative : Bool) (coefficient scale : Nat) : Option Decimal :=
  let removed := max (excessDigits coefficient) (scale - maxScale)
  if scale < removed then
    none
  else
    let rounded := roundHalfEven coefficient (Nat.pow 10 removed)
    let scale := scale - removed
    if rounded < limit then
      some { negative, coefficient := rounded, scale }
    else if scale = 0 then
      none
    else
      some { negative, coefficient := roundHalfEven rounded 10, scale := scale - 1 }

/-- The coefficient with its sign, at a scale that is at least the own one. -/
def signedAt (d : Decimal) (scale : Nat) : Int :=
  let aligned := d.coefficient * Nat.pow 10 (scale - d.scale)
  if d.negative then -(aligned : Int) else aligned

/-- The negative. -/
def neg (d : Decimal) : Decimal := { d with negative := !d.negative }

/-- The sum, at the greater scale as far as it fits; none if it is too large. -/
def add (a b : Decimal) : Option Decimal :=
  let scale := max a.scale b.scale
  let sum := a.signedAt scale + b.signedAt scale
  fit (sum < 0) sum.natAbs scale

/-- The difference, at the greater scale as far as it fits; none if it is too large. -/
def sub (a b : Decimal) : Option Decimal := add a b.neg

/-- The product, with as many decimals as fit; none if it is too large. -/
def mul (a b : Decimal) : Option Decimal :=
  if a.isZero || b.isZero then
    some zero
  else
    fit (a.negative != b.negative) (a.coefficient * b.coefficient) (a.scale + b.scale)

/-! ## Division -/

/-- A division under way: `coefficient / 10 ^ scale`, and `remainder` that is
still to be divided.  The scale may be negative at first. -/
structure Quotient where
  coefficient : Nat
  remainder : Nat
  scale : Int

namespace Quotient

/-- The number of digits that can be brought down at once: at most nine, within
the largest scale, and such that the coefficient still fits. -/
def room (q : Quotient) : Nat :=
  let fits := fun (count : Nat) =>
    q.scale + count ≤ maxScale ∧ q.coefficient * Nat.pow 10 count < limit
  ((List.range 10).reverse.find? fits).getD 0

/-- Brings down `count` more digits. -/
def bringDown (divisor count : Nat) (q : Quotient) : Quotient :=
  let rest := q.remainder * Nat.pow 10 count
  { coefficient := q.coefficient * Nat.pow 10 count + rest / divisor
    remainder := rest % divisor
    scale := q.scale + count }

/-- Drops the last digit of a coefficient that has grown too long, rounding half
to even; `inexact` says that more was dropped before. -/
def shorten (inexact : Bool) (coefficient : Nat) (scale : Int) : Option (Nat × Nat) :=
  let digit := coefficient % 10
  let kept := coefficient / 10
  let up := 5 < digit ∨ (digit = 5 ∧ (inexact ∨ kept % 2 = 1))
  if scale < 1 then
    none
  else
    some (if up then kept + 1 else kept, scale.toNat - 1)

/-- Ends the division with the digits there are, rounding half to even. -/
def stop (divisor : Nat) (q : Quotient) : Option (Nat × Nat) :=
  let last := roundHalfEven (q.coefficient * divisor + q.remainder) divisor
  if last < limit then some (last, q.scale.toNat) else shorten true last q.scale

/-- The coefficient and the scale of the whole quotient.  Digits are brought
down until nothing remains and the scale is not negative, or no further digit
fits; none if that leaves no digit for the fraction. -/
def develop (divisor : Nat) (q : Quotient) : Option (Nat × Nat) :=
  if _h : maxScale ≤ q.scale then
    q.stop divisor
  else if q.remainder = 0 ∧ 0 ≤ q.scale then
    some (q.coefficient, q.scale.toNat)
  else
    let count := if q.remainder = 0 then min 9 (-q.scale).toNat else q.room
    if limit ≤ q.coefficient * Nat.pow 10 count then
      none
    else if q.remainder ≠ 0 ∧ count < 9 ∧ q.scale + count < 0 then
      none
    else
      match count with
      | 0 => q.stop divisor
      | more + 1 =>
          let next := q.bringDown divisor (more + 1)
          if next.coefficient < limit then
            next.develop divisor
          else
            shorten (next.remainder ≠ 0) next.coefficient next.scale
termination_by (maxScale - q.scale).toNat
decreasing_by
  simp only [bringDown]
  omega

end Quotient

/-- Removes `places` zeros from the end of the fraction, if it ends in so
many. -/
def dropZeros (places : Nat) (d : Decimal) : Decimal :=
  if places ≤ d.scale ∧ d.coefficient % Nat.pow 10 places = 0 then
    { d with coefficient := d.coefficient / Nat.pow 10 places, scale := d.scale - places }
  else
    d

/-- Removes eight zeros, but only from a multiple of `2 ^ 32`. -/
def dropEightZeros (d : Decimal) : Decimal :=
  if d.coefficient % 0x100000000 = 0 then d.dropZeros 8 else d

/-- The same value with fewer zeros at the end of the fraction.  Zeros go in
groups of eight, four, two and one; a long row of them may keep some. -/
def trim (d : Decimal) : Decimal :=
  (((d.dropEightZeros.dropEightZeros.dropEightZeros).dropZeros 4).dropZeros 2).dropZeros 1

/-- The quotient with as many digits as fit; none for a zero divisor.  Only a
quotient that took a fraction to write loses its zeros. -/
def div (a b : Decimal) : Option Decimal :=
  if b.isZero then
    none
  else if a.isZero then
    some zero
  else
    let start : Quotient :=
      { coefficient := a.coefficient / b.coefficient
        remainder := a.coefficient % b.coefficient
        scale := (a.scale : Int) - b.scale }
    match start.develop b.coefficient with
    | none => none
    | some (coefficient, scale) =>
        let d : Decimal := { negative := a.negative != b.negative, coefficient, scale }
        some (if start.remainder = 0 then d else d.trim)

/-- The remainder of the division truncated toward zero, exact and with the sign
of the dividend; none for a zero divisor. -/
def rem (a b : Decimal) : Option Decimal :=
  if b.isZero then
    none
  else
    let scale := max a.scale b.scale
    let dividend := a.coefficient * Nat.pow 10 (scale - a.scale)
    let divisor := b.coefficient * Nat.pow 10 (scale - b.scale)
    if dividend < divisor then
      some a
    else
      some { negative := a.negative, coefficient := dividend % divisor, scale }

/-! ## To integers and binary64 -/

/-- The value as an integer, if it has no fraction. -/
def toInt? (d : Decimal) : Option Int :=
  if d.coefficient % Nat.pow 10 d.scale = 0 then
    let whole := d.coefficient / Nat.pow 10 d.scale
    some (if d.negative then -(whole : Int) else whole)
  else
    none

/-- A nearby binary64 number.  The whole part and the fraction are converted
apart and added; the sum is then brought back to the decimals it was written
with.  Every step rounds in binary. -/
def toBinary64 (d : Decimal) : Binary64 :=
  let power := Nat.pow 10 d.scale
  let whole := Binary64.ofInt (d.coefficient / power : Nat)
  let fraction :=
    Binary64.div (.ofInt (d.coefficient % power : Nat)) (.ofInt power)
  let magnitude :=
    if fraction.isZero then
      whole
    else
      let unit := Binary64.power (.ofInt 10) d.scale
      Binary64.div (Binary64.mul (Binary64.add whole fraction) unit).roundHalfAway unit
  if d.negative then magnitude.neg else magnitude

end Decimal

end JsonPath
