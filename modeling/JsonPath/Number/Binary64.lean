import JsonPath.Number.Rounding

/-!
# IEEE 754 binary64

The numbers of the 64-bit binary floating-point format as plain data.  A finite
number is a sign and a `Magnitude`, which counts units of `2 ^ -1074`, the
distance between neighbours next to zero.  There is one NaN.

Every operation computes the exact result first, over `Nat` and `Int`, and then
rounds once with `Binary64.round`.
-/

namespace JsonPath

/-- The absolute value of a finite number, `significand * 2 ^ exponent` units.
The last field makes the pair unique: unless the exponent is zero, the
significand has all of its 53 bits. -/
structure Magnitude where
  significand : Nat
  exponent : Nat
  significand_lt : significand < 0x20000000000000 := by decide
  exponent_le : exponent ≤ 2045 := by decide
  normal : exponent = 0 ∨ 0x10000000000000 ≤ significand := by decide
  deriving DecidableEq, Repr

namespace Magnitude

/-- The number of units of `2 ^ -1074`. -/
def units (m : Magnitude) : Nat := m.significand * Nat.pow 2 m.exponent

/-- The magnitude of zero. -/
def zero : Magnitude := { significand := 0, exponent := 0 }

/-- The largest finite magnitude. -/
def greatest : Magnitude := { significand := 0x1fffffffffffff, exponent := 2045 }

/-- The magnitude with these parts, if they are the parts of one. -/
def ofParts? (significand exponent : Nat) : Option Magnitude :=
  if h : significand < 0x20000000000000 ∧ exponent ≤ 2045 ∧
      (exponent = 0 ∨ 0x10000000000000 ≤ significand) then
    some ⟨significand, exponent, h.1, h.2.1, h.2.2⟩
  else
    none

/-- The least exponent with which a whole number of units fits 53 bits. -/
def exponentFor (units : Nat) : Nat := units.log2 + 1 - 53

/-- The magnitude nearest to `numerator / denominator` units, of two the one
with the even significand; `none` beyond the largest. -/
def nearest? (numerator denominator : Nat) : Option Magnitude :=
  let exponent := exponentFor (numerator / denominator)
  let significand := roundHalfEven numerator (denominator * Nat.pow 2 exponent)
  if significand = 0x20000000000000 then
    ofParts? 0x10000000000000 (exponent + 1)
  else
    ofParts? significand exponent

/-- The sign-free bit pattern, which grows with the magnitude. -/
def code (m : Magnitude) : Nat := m.exponent * 0x10000000000000 + m.significand

end Magnitude

/-- A binary64 number. -/
inductive Binary64 where
  | nan
  | infinite (negative : Bool)
  | finite (negative : Bool) (magnitude : Magnitude)
  deriving DecidableEq, Repr

namespace Binary64

/-- The number of units in one. -/
def unitsPerOne : Nat := Nat.pow 2 1074

/-- The signed number of units of a finite number. -/
def signedUnits (negative : Bool) (m : Magnitude) : Int :=
  if negative then -(m.units : Int) else (m.units : Int)

/-- The number nearest to `numerator / denominator` units with the given sign,
infinite beyond the largest. -/
def round (negative : Bool) (numerator denominator : Nat) : Binary64 :=
  match Magnitude.nearest? numerator denominator with
  | some m => finite negative m
  | none => infinite negative

/-- Positive zero. -/
def zero : Binary64 := finite false .zero

/-- The number nearest to an integer. -/
def ofInt (n : Int) : Binary64 :=
  round (n < 0) (n.natAbs * unitsPerOne) 1

/-- Whether it is a number, neither an infinity nor NaN. -/
def isFinite : Binary64 → Bool
  | finite _ _ => true
  | _ => false

/-- True of both zeros. -/
def isZero : Binary64 → Bool
  | finite _ m => m.significand == 0
  | _ => false

/-! ## The bit pattern -/

/-- The 64-bit interchange word; the NaN is the quiet one without a sign. -/
def toBits : Binary64 → Nat
  | nan => 0x7ff8000000000000
  | infinite negative => (if negative then 0x8000000000000000 else 0) + 0x7ff0000000000000
  | finite negative m => (if negative then 0x8000000000000000 else 0) + m.code

/-! ## Order -/

/-- The order of two numbers; none when one of them is a NaN.  The two zeros
are equal. -/
def compare? : Binary64 → Binary64 → Option Ordering
  | nan, _ | _, nan => none
  | infinite a, infinite b =>
      if a = b then some .eq else some (if a then .lt else .gt)
  | infinite a, finite _ _ => some (if a then .lt else .gt)
  | finite _ _, infinite b => some (if b then .gt else .lt)
  | finite a m, finite b n => some (compare (signedUnits a m) (signedUnits b n))

/-- Numeric equality: a NaN differs from itself and the zeros are equal. -/
def equals (x y : Binary64) : Bool := compare? x y == some .eq

/-! ## Arithmetic -/

/-- The negative, of zero and the infinities too. -/
def neg : Binary64 → Binary64
  | nan => nan
  | infinite negative => infinite (!negative)
  | finite negative m => finite (!negative) m

/-- The absolute value. -/
def abs : Binary64 → Binary64
  | nan => nan
  | infinite _ => infinite false
  | finite _ m => finite false m

/-- An exact sum of zero is negative only when both terms are. -/
def add : Binary64 → Binary64 → Binary64
  | nan, _ | _, nan => nan
  | infinite a, infinite b => if a = b then infinite a else nan
  | infinite a, finite _ _ => infinite a
  | finite _ _, infinite b => infinite b
  | finite a m, finite b n =>
      let sum := signedUnits a m + signedUnits b n
      if sum = 0 then finite (a && b) .zero else round (sum < 0) sum.natAbs 1

/-- The difference, rounded. -/
def sub (x y : Binary64) : Binary64 := add x (neg y)

/-- The product, rounded. -/
def mul : Binary64 → Binary64 → Binary64
  | nan, _ | _, nan => nan
  | infinite a, infinite b => infinite (a != b)
  | infinite a, finite b n => if n.significand = 0 then nan else infinite (a != b)
  | finite a m, infinite b => if m.significand = 0 then nan else infinite (a != b)
  | finite a m, finite b n => round (a != b) (m.units * n.units) unitsPerOne

/-- The quotient, rounded. -/
def div : Binary64 → Binary64 → Binary64
  | nan, _ | _, nan => nan
  | infinite _, infinite _ => nan
  | infinite a, finite b _ => infinite (a != b)
  | finite a _, infinite b => finite (a != b) .zero
  | finite a m, finite b n =>
      if n.significand = 0 then
        if m.significand = 0 then nan else infinite (a != b)
      else
        round (a != b) (m.units * unitsPerOne) n.units

/-- The remainder of the division truncated toward zero; it has the sign of the
dividend and is exact. -/
def rem : Binary64 → Binary64 → Binary64
  | nan, _ | _, nan | infinite _, _ => nan
  | x, infinite _ => x
  | finite a m, finite _ n =>
      if n.significand = 0 then nan else round a (m.units % n.units) 1

/-! ## Whole numbers -/

/-- The greatest integer that is not above a finite number. -/
def floor? : Binary64 → Option Int
  | finite negative m => some ((signedUnits negative m).fdiv unitsPerOne)
  | _ => none

/-- The least integer that is not below a finite number. -/
def ceil? : Binary64 → Option Int
  | finite negative m => some (-((-(signedUnits negative m)).fdiv unitsPerOne))
  | _ => none

/-- A finite number without its fraction. -/
def trunc? : Binary64 → Option Int
  | finite negative m => some ((signedUnits negative m).tdiv unitsPerOne)
  | _ => none

/-- The nearest whole number, a half away from zero. -/
def roundHalfAway : Binary64 → Binary64
  | finite negative m =>
      round negative (roundHalfUp m.units unitsPerOne * unitsPerOne) 1
  | x => x

/-- A power with a natural exponent by repeated squaring, rounding every
product. -/
def power (base : Binary64) (exponent : Nat) : Binary64 :=
  go base exponent (ofInt 1)
where
  /-- The accumulated product times the square of the base for every bit left. -/
  go (square : Binary64) (exponent : Nat) (product : Binary64) : Binary64 :=
    let product := if exponent % 2 = 1 then mul product square else product
    if exponent ≤ 1 then product else go (mul square square) (exponent / 2) product
  termination_by exponent
  decreasing_by omega

end Binary64

end JsonPath
