import JsonPath.Proofs.Evaluation.Domains
import JsonPath.Proofs.Json.Spelling
import JsonPath.Proofs.Number.Order
import JsonPath.Proofs.Parsing.JsonText

/-!
# JSON scalars are literals

The JSON text of null, of a boolean, of a string or of an integer is a statement, whose
value is the one that was written.  `IsLiteral` says so of a text and a value; there is
one lemma for each way of writing a scalar.

Negative integers are no tokens.  Their digits are read first and the sign is applied
to what they yield.  The digits of the least integer exceed 64 bits, so that they are
read as a number, and its text yields a number too (`Value.literal`).
-/

namespace JsonPath

open Grammar (Atom DerivesBody Derives)

/-! ## Digits -/

/-- Digits up to the end of a text are read as a number without fraction and exponent. -/
theorem Lexer.readNumber_digits {digits : List Char} {t : Token} (hdigits : Json.Digits digits)
    (ht : numberToken digits [] none = .ok t) : readNumber digits = .ok (t, []) := by
  have htake : digits.takeWhile Char.isDigit = digits := List.takeWhile_eq_self_iff.2 hdigits
  have hdrop : digits.dropWhile Char.isDigit = [] := List.dropWhile_eq_nil_iff.2 hdigits
  simp [readNumber, htake, hdrop, takeFraction, takeExponent, ht]

theorem lexes_digits {digits : List Char} {t : Token} (hdigits : Json.Digits digits)
    (hne : digits ≠ []) (ht : Lexer.numberToken digits [] none = .ok t) :
    Lexes digits [t, .endOfInput] := by
  obtain ⟨c, rest, rfl⟩ := List.exists_cons_of_ne_nil hne
  have hc : c.isDigit = true := hdigits c List.mem_cons_self
  have hnot (d : Char) (hd : d.isDigit = false) : c ≠ d := by
    rintro rfl
    simp [hc] at hd
  have hblank : isBlank c = false := by
    rw [← Bool.not_eq_true]
    intro h
    rw [not_isDigit_of_isBlank h] at hc
    cases hc
  refine .token hblank ?_ .nil
  simp [Lexer.readToken, hnot '"' rfl, hnot '\'' rfl, hc, Lexer.readNumber_digits hdigits ht]

/-- The digits of a natural number that 64 bits hold are an integer. -/
theorem lexes_integer {n : Nat} {m : Int64} (h : m.toInt = n) :
    Lexes (Nat.toDigits 10 n) [.integer m, .endOfInput] := by
  refine lexes_digits (Json.toDigits_digits n) Nat.toDigits_ne_nil ?_
  have hvalue : int64? (Nat.ofDigitChars 10 (Nat.toDigits 10 n) 0) = some m := by
    rw [Nat.ofDigitChars_toDigits (by decide) (by decide), int64?_eq_some_iff, h]
  simp only [Lexer.numberToken, hvalue]

/-- Digits with neither fraction nor exponent are the number nearest to them. -/
theorem Scientific.toBinary64_digits (n : Nat) :
    (ofDigits (Nat.toDigits 10 n) [] 0).toBinary64 false = .ofInt n := by
  have hsign : decide ((n : Int) < 0) = false := decide_eq_false (by omega)
  simp [toBinary64_eq_round, Binary64.ofInt, ofDigits, hsign]

/-- The digits of a natural number that 64 bits do not hold are a number. -/
theorem lexes_beyond {n : Nat} (h : int64? n = none) (hn : n ≤ 2 ^ 63) :
    Lexes (Nat.toDigits 10 n) [.number (.ofInt n), .endOfInput] := by
  refine lexes_digits (Json.toDigits_digits n) Nat.toDigits_ne_nil ?_
  obtain ⟨m, -, hm⟩ := Binary64.ofInt_eq_finite (n := n) hn
  have hvalue : int64? (Nat.ofDigitChars 10 (Nat.toDigits 10 n) 0) = none := by
    rw [Nat.ofDigitChars_toDigits (by decide) (by decide), h]
  simp only [Lexer.numberToken, hvalue, Scientific.toBinary64_digits, Lexer.finiteToken, hm,
    Binary64.isFinite, if_true]

theorem Lexer.readToken_minus (rest : List Char) : readToken '-' rest = .ok (.minus, rest) := by
  cases rest <;> rfl

/-! ## Literals -/

/-- A text is an expression, behind any mode, that yields a value whatever the item and
the variables are. -/
def IsLiteral (text : List Char) (v : Value) : Prop :=
  ∃ kinds e, Lexes text (kinds ++ [.endOfInput]) ∧ DerivesBody kinds (.path e) ∧
    (Body.path e).Scoped ∧ ∀ mode s, (e.eval mode s).results = [.ok v]

theorem isLiteral_null : IsLiteral "null".toList .null :=
  ⟨[.word "null"], .null, .token rfl rfl .nil, .path (.sum_of_primary (.atom .null)), trivial,
    fun _ _ => rfl⟩

theorem isLiteral_true : IsLiteral "true".toList (.boolean true) :=
  ⟨[.word "true"], .boolean true, .token rfl rfl .nil, .path (.sum_of_primary (.atom .yes)),
    trivial, fun _ _ => rfl⟩

theorem isLiteral_false : IsLiteral "false".toList (.boolean false) :=
  ⟨[.word "false"], .boolean false, .token rfl rfl .nil, .path (.sum_of_primary (.atom .no)),
    trivial, fun _ _ => rfl⟩

theorem isLiteral_string (s : String) : IsLiteral (Json.quoted s.toList) (.string s) := by
  have hlexes := lexes_quoted s.toList
  rw [String.ofList_toList] at hlexes
  exact ⟨[.string s], .string s, hlexes, .path (.sum_of_primary (.atom (.string s))), trivial,
    fun _ _ => rfl⟩

theorem isLiteral_natural {n : Int64} (h : 0 ≤ n.toInt) :
    IsLiteral (Nat.toDigits 10 n.toInt.natAbs) (.integer n) :=
  ⟨[.integer n], .integer n, lexes_integer (by omega),
    .path (.sum_of_primary (.atom (.integer n))), trivial, fun _ _ => rfl⟩

/-- The sign is put on what the digits yield. -/
theorem isLiteral_minus {digits : List Char} {x : Token} {e : Expr} {v : Value}
    (hlexes : Lexes digits [x, .endOfInput]) (hatom : Atom x e) (hscoped : (Body.path e).Scoped)
    (hyields : ∀ mode s, (Expr.signed .minus e).eval mode s = .single v) :
    IsLiteral ('-' :: digits) v := by
  have hderives : DerivesBody [.minus, x] (.path (.signed .minus e)) :=
    .path (.sum_of_signed (.sign .minus (.unsigned (.path (.atom hatom) .noAccessor))))
  refine ⟨[.minus, x], .signed .minus e, .token rfl (Lexer.readToken_minus digits) hlexes,
    hderives, hscoped, fun mode s => ?_⟩
  rw [hyields mode s]
  rfl

/-- A negative integer is its magnitude with a sign, if 64 bits hold the magnitude. -/
theorem isLiteral_negative {n : Int64} (h : n.toInt < 0) (hleast : n ≠ Int64.minValue) :
    IsLiteral ('-' :: Nat.toDigits 10 n.toInt.natAbs) (.integer n) := by
  have hmin := Int64.toInt_minValue
  have hbound : n.toInt ≠ Int64.minValue.toInt := fun heq => hleast (Int64.toInt_inj.1 heq)
  have hlow := n.minValue_le_toInt
  obtain ⟨m, -, hm⟩ := Checked.exists_int64?_eq (n := -n.toInt) (by omega) (by omega)
  refine isLiteral_minus (lexes_integer (m := m) (by omega)) (.integer m) trivial fun mode s => ?_
  have hsign : int64? (-m.toInt) = some n := int64?_eq_some_iff.2 (by omega)
  show unary mode .minus (.integer m) = _
  cases mode <;> simp [unary, applySign, hsign, Sequence.ofResult]

/-- The magnitude of the least integer is a number, and so is what its text yields. -/
theorem isLiteral_least :
    IsLiteral ('-' :: Nat.toDigits 10 (2 ^ 63)) (.number (.ofInt (-2 ^ 63))) := by
  have hbeyond : int64? (2 ^ 63 : Nat) = none := rfl
  refine isLiteral_minus (lexes_beyond hbeyond (Nat.le_refl _)) (.number _) trivial
    fun mode s => ?_
  have hneg : (Binary64.ofInt (2 ^ 63 : Nat)).neg = .ofInt (-2 ^ 63) := by decide +kernel
  show unary mode .minus (.number _) = _
  cases mode <;> simp only [unary, applySign, hneg, Sequence.ofResult]

/-! ## Statements -/

namespace Value

/-- Null, booleans, strings and integers. -/
def IsScalar : Value → Prop
  | .null | .boolean _ | .string _ | .integer _ => True
  | _ => False

/-- What the text of a scalar yields.  The least integer becomes a number. -/
def literal : Value → Value
  | .integer n => if n = Int64.minValue then .number (.ofInt n.toInt) else .integer n
  | v => v

end Value

/-- The JSON text of a scalar is a literal for it. -/
theorem isLiteral_compact {v : Value} (hv : v.IsScalar) : IsLiteral (Json.compact v) v.literal := by
  cases v with
  | null => exact isLiteral_null
  | boolean b =>
      cases b with
      | false => exact isLiteral_false
      | true => exact isLiteral_true
  | string s => exact isLiteral_string s
  | integer n =>
      rw [Json.compact.eq_def, Value.literal]
      simp only [Json.scalarText, Json.integerText]
      split
      · next hneg =>
          split
          · next hleast =>
              subst hleast
              exact isLiteral_least
          · next hleast => exact isLiteral_negative hneg hleast
      · next hnonneg =>
          have hne : n ≠ Int64.minValue := by
            rintro rfl
            exact hnonneg (by decide)
          rw [if_neg hne]
          exact isLiteral_natural (by omega)
  | number | array | object | dateTime => exact hv.elim

/-- A literal is read behind either mode. -/
theorem read_literal {text : List Char} {v : Value} (h : IsLiteral text v) :
    ∃ e lax strict, Statement.read (String.ofList text) = .ok lax ∧
      Statement.read ("strict " ++ String.ofList text) = .ok strict ∧
      lax.mode = .lax ∧ lax.body = .path e ∧ strict.mode = .strict ∧ strict.body = .path e ∧
      ∀ vars item, (lax.evaluate vars item).results = [.ok v] ∧
        (strict.evaluate vars item).results = [.ok v] := by
  obtain ⟨kinds, e, hlexes, hderives, hscoped, hyields⟩ := h
  rw [← String.toList_ofList (l := text)] at hlexes
  obtain ⟨hlax, hstrict⟩ := read_body hlexes hderives hscoped
  exact ⟨e, _, _, hlax, hstrict, rfl, rfl, rfl, rfl, fun vars item => ⟨hyields _ _, hyields _ _⟩⟩

/-- The JSON text of a scalar is a path that yields the scalar on every item, but for the
least integer, which it yields as a number. -/
theorem scalar_text_is_literal (v : Value) (hv : v.IsScalar) :
    ∃ e lax strict, Statement.read (String.ofList (Json.compact v)) = .ok lax ∧
      Statement.read ("strict " ++ String.ofList (Json.compact v)) = .ok strict ∧
      lax.mode = .lax ∧ lax.body = .path e ∧ strict.mode = .strict ∧ strict.body = .path e ∧
      ∀ vars item, (lax.evaluate vars item).results = [.ok v.literal] ∧
        (strict.evaluate vars item).results = [.ok v.literal] :=
  read_literal (isLiteral_compact hv)

/-- A negative integer. -/
theorem scalar_text_is_literal_negative :
    (Value.integer (-5)).IsScalar ∧
      ∃ strict, Statement.read "strict -5" = .ok strict ∧
        ∀ vars item, (strict.evaluate vars item).results = [.ok (.integer (-5))] := by
  have hv : (Value.integer (-5)).IsScalar := trivial
  obtain ⟨e, lax, strict, -, hread, -, -, -, -, hyields⟩ := scalar_text_is_literal _ hv
  exact ⟨hv, strict, hread, fun vars item => (hyields vars item).2⟩

/-- The least integer is no literal. -/
theorem least_integer_is_no_literal :
    ¬∀ v, v.IsScalar → ∃ statement,
      Statement.read (String.ofList (Json.compact v)) = .ok statement ∧
        ∀ vars item, (statement.evaluate vars item).results = [.ok v] := by
  intro h
  obtain ⟨statement, hread, hyields⟩ := h (.integer Int64.minValue) trivial
  have hv : (Value.integer Int64.minValue).IsScalar := trivial
  obtain ⟨e, lax, strict, hlax, -, -, -, -, -, hnumber⟩ := read_literal (isLiteral_compact hv)
  rw [hread] at hlax
  cases hlax
  have hsame := (hyields [] .null).symm.trans (hnumber [] .null).1
  simp [Value.literal] at hsame

end JsonPath
