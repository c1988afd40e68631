import JsonPath.Number.Integer
import JsonPath.Number.Scientific
import JsonPath.Text.Digits
import JsonPath.Value

/-!
# Numbers in JSON texts

A number without fraction and exponent is an integer where 64 bits suffice.  Any other
is brought to binary64 in two steps: the digits, as many as fit 64 bits, are rounded, and
what comes out is multiplied or divided by a power of ten, which rounds again.  The
result may differ from the nearest binary64 number in its last bit.
-/

namespace JsonPath.Json

/-! ## From decimal to binary -/

/-- A significand that takes in digits as long as it fits 64 bits, and how many digits are
left. -/
def takeIn (significand : Nat) : List Char → Nat × Nat
  | [] => (significand, 0)
  | digit :: rest =>
      let grown := 10 * significand + (digit.toNat - '0'.toNat)
      if grown < 0x10000000000000000 then takeIn grown rest else (significand, rest.length + 1)

/-- The decimal of written digits with a significand of 64 bits.  Of the digits that are
left, those before the point count as zeros and those behind it are dropped. -/
def decimalOf (whole fraction : List Char) (exponent : Int) : Scientific :=
  let (before, zeros) := takeIn 0 whole
  let (digits, dropped) := takeIn before fraction
  { digits, exponent := exponent + zeros - (fraction.length - dropped : Nat) }

/-- The binary64 number nearest to a power of ten. -/
def powerOfTen (exponent : Nat) : Binary64 := Scientific.toBinary64 false { digits := 1, exponent }

/-- The quotient by a power of ten.  Beyond the greatest finite power it is taken in
portions, which are rounded one by one. -/
def scaleDown (x : Binary64) (exponent : Nat) : Binary64 :=
  if exponent ≤ 308 then
    x.div (powerOfTen exponent)
  else if x.isZero then
    x
  else
    scaleDown (x.div (powerOfTen 308)) (exponent - 308)
termination_by exponent

/-- A decimal as a binary64 number in two steps: its digits are rounded, then the product
with its power of ten or the quotient. -/
def roundTwice (negative : Bool) (s : Scientific) : Binary64 :=
  let x := Binary64.ofInt s.digits
  let scaled :=
    if x.isZero then x
    else if s.exponent < 0 then scaleDown x (-s.exponent).toNat
    else x.mul (powerOfTen s.exponent.toNat)
  if negative then scaled.neg else scaled

/-! ## Written numbers -/

/-- One or more digits after a point, if there is a point. -/
def readFraction? : List Char → Option (List Char × List Char)
  | '.' :: rest =>
      let digits := rest.takeWhile Char.isDigit
      if digits.isEmpty then none else some (digits, rest.dropWhile Char.isDigit)
  | text => some ([], text)

/-- A signed exponent, if there is a mark for one. -/
def readExponent? : List Char → Option (Option Int × List Char)
  | [] => some (none, [])
  | mark :: rest =>
      if mark = 'e' ∨ mark = 'E' then
        let (negative, rest) := takeOptionalSign rest
        let digits := rest.takeWhile Char.isDigit
        if digits.isEmpty then
          none
        else
          let exponent : Int := Nat.ofDigitChars 10 digits 0
          some (some (if negative then -exponent else exponent), rest.dropWhile Char.isDigit)
      else
        some (none, mark :: rest)

/-- A finite number; one that is too large is refused. -/
def finite? (x : Binary64) : Option Value :=
  if x.isFinite then some (.number x) else none

/-- The value of a written number: an integer where neither fraction nor
exponent is written and 64 bits suffice, otherwise a binary64 number.  `-0` is not
an integer. -/
def numberOf? (negative : Bool) (whole fraction : List Char) (exponent : Option Int) :
    Option Value :=
  let rounded := roundTwice negative (decimalOf whole fraction (exponent.getD 0))
  let n := Nat.ofDigitChars 10 whole 0
  if fraction.isEmpty ∧ exponent.isNone ∧ ¬(negative ∧ n = 0) then
    match int64? (if negative then -(n : Int) else n) with
    | some n => some (.integer n)
    | none => finite? rounded
  else
    finite? rounded

/-- A minus sign, if there is one. -/
def takeMinus : List Char → Bool × List Char
  | '-' :: rest => (true, rest)
  | text => (false, text)

/-- A number and the rest.  The whole part has no leading zeros. -/
def readNumber? (text : List Char) : Option (Value × List Char) :=
  let (negative, text) := takeMinus text
  let whole := text.takeWhile Char.isDigit
  if whole.isEmpty ∨ (whole.head? = some '0' ∧ whole.length ≠ 1) then
    none
  else
    match readFraction? (text.dropWhile Char.isDigit) with
    | none => none
    | some (fraction, text) =>
        match readExponent? text with
        | none => none
        | some (exponent, text) =>
            (numberOf? negative whole fraction exponent).map fun v => (v, text)

theorem readFraction?_length {text digits rest : List Char}
    (h : readFraction? text = some (digits, rest)) : rest.length ≤ text.length := by
  unfold readFraction? at h
  split at h
  · next inner =>
      simp only at h
      split at h
      · contradiction
      · simp only [Option.some.injEq, Prod.mk.injEq] at h
        have := length_dropWhile_le Char.isDigit inner
        rw [← h.2]
        simp only [List.length_cons]
        omega
  · simp only [Option.some.injEq, Prod.mk.injEq] at h
    exact h.2 ▸ Nat.le_refl _

theorem readExponent?_length {text rest : List Char} {exponent : Option Int}
    (h : readExponent? text = some (exponent, rest)) : rest.length ≤ text.length := by
  unfold readExponent? at h
  split at h
  · cases h
    exact Nat.le_refl _
  · next mark inner =>
      split at h
      · have hsign := takeOptionalSign_length inner
        simp only at h
        split at h
        · contradiction
        · simp only [Option.some.injEq, Prod.mk.injEq] at h
          have := length_dropWhile_le Char.isDigit (takeOptionalSign inner).2
          rw [← h.2]
          simp only [List.length_cons]
          omega
      · simp only [Option.some.injEq, Prod.mk.injEq] at h
        exact h.2 ▸ Nat.le_refl _

theorem takeMinus_length (text : List Char) : (takeMinus text).2.length ≤ text.length := by
  unfold takeMinus
  split <;> simp

theorem readNumber?_length {text rest : List Char} {v : Value}
    (h : readNumber? text = some (v, rest)) : rest.length < text.length := by
  simp only [readNumber?] at h
  split at h
  · contradiction
  · next hwhole =>
      split at h
      · contradiction
      · next fraction text₁ hfraction =>
          split at h
          · contradiction
          · next exponent text₂ hexponent =>
              obtain ⟨_, _, heq⟩ := Option.map_eq_some_iff.1 h
              simp only [Prod.mk.injEq] at heq
              rw [← heq.2]
              have hdigits : ((takeMinus text).2.takeWhile Char.isDigit).isEmpty = false :=
                Bool.eq_false_iff.2 fun hempty => hwhole (.inl hempty)
              have hminus := takeMinus_length text
              have hbehind := length_dropWhile_lt Char.isDigit (takeMinus text).2 hdigits
              have hpoint := readFraction?_length hfraction
              have hmark := readExponent?_length hexponent
              omega

end JsonPath.Json
