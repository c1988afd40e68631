import Mathlib.Data.List.TakeWhile
import JsonPath.Proofs.Parsing.Tiling

/-!
# Layout does not matter

The images of the tokens of a source, written in order with blanks between them, are the
same tokens again (`layout_irrelevant`), so that they are the same statement or are refused
at the same token.

* `Stops` says that a text is empty or begins with a blank.  What a token has taken off a
  text it also takes off in front of a text that stops it (`readToken_image`); there is one
  lemma for each part of a token.
* `LaidOut` relates images to the texts that they can be laid out as; `Scans.layout` cuts
  such a text into the tokens again.
-/

namespace JsonPath

/-! ## Texts that stop a token -/

/-- Nothing or a blank comes first. -/
def Stops (rest : List Char) : Prop := ∀ c ∈ rest.head?, isBlank c = true

namespace Stops

variable {rest : List Char} {p : Char → Bool}

/-- What blanks are not does not come first. -/
theorem head (h : Stops rest) (hp : ∀ c, isBlank c = true → p c = false) :
    ∀ c ∈ rest.head?, p c = false :=
  fun c hc => hp c (h c hc)

theorem of_blanks (h : ∀ c ∈ rest, isBlank c = true) : Stops rest :=
  fun c hc => h c (List.mem_of_mem_head? hc)

end Stops

theorem not_isAlpha_of_isBlank {c : Char} (h : isBlank c = true) : c.isAlpha = false := by
  have hblank : ¬(65 ≤ c.toNat ∧ c.toNat ≤ 90) ∧ ¬(97 ≤ c.toNat ∧ c.toNat ≤ 122) := by
    simp only [isBlank, Bool.or_eq_true, Bool.and_eq_true, decide_eq_true_eq, beq_iff_eq] at h
    omega
  show (decide ('A'.val ≤ c.val ∧ c.val ≤ 'Z'.val) ||
    decide ('a'.val ≤ c.val) && decide (c.val ≤ 'z'.val)) = false
  simpa [UInt32.le_iff_toNat_le] using hblank

theorem not_isWordStart_of_isBlank {c : Char} (h : isBlank c = true) : isWordStart c = false := by
  simp [isWordStart, not_isAlpha_of_isBlank h, h, ne_of_isBlank h (d := '_') rfl]

theorem not_isWordChar_of_isBlank {c : Char} (h : isBlank c = true) : isWordChar c = false := by
  simp [isWordChar, not_isWordStart_of_isBlank h, not_isDigit_of_isBlank h]

theorem not_isVariableChar_of_isBlank {c : Char} (h : isBlank c = true) :
    isVariableChar c = false := by
  simp [isVariableChar, not_isWordChar_of_isBlank h, ne_of_isBlank h (d := '@') rfl,
    ne_of_isBlank h (d := '#') rfl]

/-! ## Strings

A string ends with its quote, whatever follows. -/

theorem UnicodeEscape.takeCode_image {text after : List Char} {code : Nat}
    (h : takeCode text = .ok (code, after)) :
    ∃ image, text = image ++ after ∧ ∀ rest, takeCode (image ++ rest) = .ok (code, rest) := by
  simp only [takeCode] at h
  split at h
  · next hlength =>
      cases h
      have htake : (text.take 4).length = 4 := by
        have := (List.takeWhile_prefix isHexDigit (l := text.take 4)).length_le
        have := List.length_take_le 4 text
        omega
      refine ⟨text.take 4, (List.take_append_drop 4 text).symm, fun rest => ?_⟩
      have hfront : (text.take 4 ++ rest).take 4 = text.take 4 := List.take_left' htake
      have hbehind : (text.take 4 ++ rest).drop 4 = rest := List.drop_left' htake
      simp only [takeCode, hfront, hbehind, hlength, if_true]
  · cases h

theorem UnicodeEscape.read_image {text after : List Char} {c : Char}
    (h : read text = .ok (c, after)) :
    ∃ image, text = image ++ after ∧ ∀ rest, read (image ++ rest) = .ok (c, rest) := by
  unfold read at h
  split at h
  · cases h
  · next code behind hcode =>
      obtain ⟨image, rfl, hfirst⟩ := takeCode_image hcode
      split at h
      · next hhigh =>
          split at h
          · split at h
            · cases h
            · next hlow =>
                obtain ⟨image', rfl, hsecond⟩ := takeCode_image hlow
                split at h
                · next hlow' =>
                    simp only [Except.ok.injEq, Prod.mk.injEq] at h
                    obtain ⟨rfl, rfl⟩ := h
                    refine ⟨image ++ '\\' :: 'u' :: image', by simp, fun rest => ?_⟩
                    rw [List.append_assoc, read, hfirst]
                    simp only [hhigh, if_true, List.cons_append, hsecond, hlow']
                · cases h
          · cases h
      · next hhigh =>
          split at h
          · cases h
          · next hlow =>
              cases h
              refine ⟨image, rfl, fun rest => ?_⟩
              rw [read, hfirst]
              simp only [hhigh, hlow, Bool.false_eq_true, if_false]

namespace Lexer

theorem readEscape_image {text after : List Char} {c : Char}
    (h : readEscape text = .ok (c, after)) :
    ∃ image, text = image ++ after ∧ ∀ rest, readEscape (image ++ rest) = .ok (c, rest) := by
  unfold readEscape at h
  split at h
  · cases h
  · next d behind =>
      split at h
      · next hshort =>
          cases h
          exact ⟨[d], rfl, fun rest => by simp [readEscape, hshort]⟩
      · next hshort =>
          split at h
          · next hu =>
              subst hu
              split at h
              · next hread =>
                  cases h
                  obtain ⟨image, rfl, himage⟩ := UnicodeEscape.read_image hread
                  exact ⟨'u' :: image, rfl, fun rest => by simp [readEscape, hshort, himage]⟩
              · cases h
          · cases h

theorem readQuoted_image {quote : Char} {text after s : List Char}
    (h : readQuoted quote text = .ok (s, after)) :
    ∃ image, text = image ++ after ∧ ∀ rest, readQuoted quote (image ++ rest) = .ok (s, rest) := by
  fun_induction readQuoted quote text generalizing s <;> try contradiction
  case case2 =>
    cases h
    refine ⟨[quote], rfl, fun rest => ?_⟩
    rw [List.singleton_append, readQuoted.eq_def]
    simp only [if_true]
  case case6 hescape _ _ hread hquote ih =>
    cases h
    obtain ⟨image, rfl, himage⟩ := readEscape_image hescape
    obtain ⟨image', rfl, himage'⟩ := ih hread
    refine ⟨'\\' :: (image ++ image'), by simp, fun rest => ?_⟩
    rw [List.cons_append, List.append_assoc, readQuoted.eq_def]
    simp only [hquote, if_false, if_true]
    split
    · next hfault => simp [himage] at hfault
    · next hfault => simp [himage] at hfault
    · next hread' =>
        rw [himage] at hread'
        cases hread'
        rw [himage']
  case case8 c _ hquote hslash _ _ hread ih =>
    cases h
    obtain ⟨image, rfl, himage⟩ := ih hread
    refine ⟨c :: image, rfl, fun rest => ?_⟩
    rw [List.cons_append, readQuoted.eq_def]
    simp only [hquote, hslash, if_false, himage]

theorem readString_image {quote : Char} {text after : List Char} {s : String}
    (h : readString quote text = .ok (s, after)) :
    ∃ image, text = image ++ after ∧
      ∀ rest, readString quote (image ++ rest) = .ok (s, rest) := by
  unfold readString at h
  split at h
  · next hread =>
      cases h
      obtain ⟨image, rfl, himage⟩ := readQuoted_image hread
      exact ⟨image, rfl, fun rest => by simp only [readString, himage]⟩
  · cases h
  · cases h

/-! ## Numbers

The digits of a number, its fraction and its exponent each end before something that does
not go on with them. -/

/-- A run that is taken off a text is taken off before anything that does not go on with it. -/
theorem takeWhile_image {p : Char → Bool} (text : List Char) {rest : List Char}
    (hrest : ∀ c ∈ rest.head?, p c = false) :
    (text.takeWhile p ++ rest).takeWhile p = text.takeWhile p :=
  takeWhile_run (fun _ => List.mem_takeWhile_imp) hrest

theorem dropWhile_image {p : Char → Bool} (text : List Char) {rest : List Char}
    (hrest : ∀ c ∈ rest.head?, p c = false) : (text.takeWhile p ++ rest).dropWhile p = rest :=
  dropWhile_run (fun _ => List.mem_takeWhile_imp) hrest

/-- What comes first in a text comes first in one of its parts. -/
theorem head_append {P : Char → Prop} {text rest : List Char} (htext : ∀ c ∈ text.head?, P c)
    (hrest : ∀ c ∈ rest.head?, P c) : ∀ c ∈ (text ++ rest).head?, P c := by
  cases text with
  | nil => exact hrest
  | cons c text => exact htext

theorem takeOptionalSign_image (text : List Char) :
    ∃ image, text = image ++ (takeOptionalSign text).2 ∧
      ∀ rest, (∀ c ∈ rest.head?, c ≠ '+' ∧ c ≠ '-') →
        (takeOptionalSign (image ++ rest)).2 = rest := by
  have hnone (rest : List Char) (hrest : ∀ c ∈ rest.head?, c ≠ '+' ∧ c ≠ '-') :
      (takeOptionalSign rest).2 = rest := by
    unfold takeOptionalSign
    split
    · exact absurd rfl (hrest '+' rfl).1
    · exact absurd rfl (hrest '-' rfl).2
    · rfl
  unfold takeOptionalSign
  split
  · exact ⟨['+'], rfl, fun _ _ => rfl⟩
  · exact ⟨['-'], rfl, fun _ _ => rfl⟩
  · exact ⟨[], rfl, hnone⟩

theorem takeFraction_image (text : List Char) :
    ∃ image, text = image ++ (takeFraction text).2 ∧ (∀ c ∈ image.head?, c = '.') ∧
      ∀ rest, (∀ c ∈ rest.head?, c.isDigit = false ∧ c ≠ '.') →
        takeFraction (image ++ rest) = ((takeFraction text).1, rest) := by
  have hnone (rest : List Char) (hrest : ∀ c ∈ rest.head?, c.isDigit = false ∧ c ≠ '.') :
      takeFraction rest = ([], rest) := by
    unfold takeFraction
    split
    · exact absurd rfl (hrest '.' rfl).2
    · rfl
  unfold takeFraction
  split
  · next behind =>
      split
      · exact ⟨[], rfl, by simp, hnone⟩
      · next hne =>
          refine ⟨'.' :: behind.takeWhile Char.isDigit, ?_, by simp, fun rest hrest => ?_⟩
          · rw [List.cons_append, List.takeWhile_append_dropWhile]
          · have hnodigit : ∀ c ∈ rest.head?, c.isDigit = false := fun c hc => (hrest c hc).1
            simp only [List.cons_append, takeWhile_image behind hnodigit,
              dropWhile_image behind hnodigit]
  · exact ⟨[], rfl, by simp, hnone⟩

/-- No sign comes first in digits before a text that stops them. -/
theorem digits_noSign (text : List Char) {rest : List Char} (hrest : Stops rest) :
    ∀ c ∈ (text.takeWhile Char.isDigit ++ rest).head?, c ≠ '+' ∧ c ≠ '-' := by
  refine head_append (fun c hc => ?_) fun c hc => ?_
  · have hdigit : c.isDigit = true := List.mem_takeWhile_imp (List.mem_of_mem_head? hc)
    constructor <;>
      · rintro rfl
        cases hdigit
  · exact ⟨ne_of_isBlank (hrest c hc) rfl, ne_of_isBlank (hrest c hc) rfl⟩

theorem takeExponent_image (text : List Char) :
    ∃ image, text = image ++ (takeExponent text).2 ∧ (∀ c ∈ image.head?, c = 'e' ∨ c = 'E') ∧
      ∀ rest, Stops rest → takeExponent (image ++ rest) = ((takeExponent text).1, rest) := by
  have hnone (rest : List Char) (hrest : Stops rest) : takeExponent rest = (none, rest) := by
    unfold takeExponent
    split
    · next mark behind =>
        have hmark : isBlank mark = true := hrest mark rfl
        rw [if_neg]
        rintro (rfl | rfl) <;> cases hmark
    · rfl
  unfold takeExponent
  split
  · next mark behind =>
      split
      · next hmark =>
          obtain ⟨sign, hsign, htake⟩ := takeOptionalSign_image behind
          dsimp only
          generalize (takeOptionalSign behind).2 = digits at hsign
          subst hsign
          refine ⟨mark :: (sign ++ digits.takeWhile Char.isDigit), ?_, ?_, fun rest hrest => ?_⟩
          · rw [List.cons_append, List.append_assoc, List.takeWhile_append_dropWhile]
          · simpa using hmark
          · have hnodigit := hrest.head fun c hc => not_isDigit_of_isBlank hc
            have hbefore (rest : List Char) :
                (sign ++ rest).take ((sign ++ rest).length - rest.length) = sign :=
              before_append sign rest
            simp only [List.cons_append, List.append_assoc, hmark, if_true,
              htake _ (digits_noSign digits hrest), takeWhile_image digits hnodigit,
              dropWhile_image digits hnodigit, hbefore]
      · exact ⟨[], rfl, by simp, hnone⟩
  · exact ⟨[], rfl, by simp, hnone⟩

/-- A number ends before a text that stops it. -/
theorem readNumber_image {text after : List Char} {t : Token}
    (h : readNumber text = .ok (t, after)) :
    ∃ image, text = image ++ after ∧
      ∀ rest, Stops rest → readNumber (image ++ rest) = .ok (t, rest) := by
  obtain ⟨fraction, hfraction, hpoint, htake⟩ :=
    takeFraction_image (text.dropWhile Char.isDigit)
  obtain ⟨exponent, hexponent, hmark, htake'⟩ :=
    takeExponent_image (takeFraction (text.dropWhile Char.isDigit)).2
  refine ⟨text.takeWhile Char.isDigit ++ (fraction ++ exponent), ?_, fun rest hrest => ?_⟩
  · rw [readNumber_rest h, List.append_assoc, List.append_assoc, ← hexponent, ← hfraction,
      List.takeWhile_append_dropWhile]
  · have hbehind : ∀ c ∈ (exponent ++ rest).head?, c.isDigit = false ∧ c ≠ '.' := by
      refine head_append (fun c hc => ?_) fun c hc => ?_
      · rcases hmark c hc with rfl | rfl <;> decide
      · exact ⟨not_isDigit_of_isBlank (hrest c hc), ne_of_isBlank (hrest c hc) rfl⟩
    have hnodigit : ∀ c ∈ (fraction ++ (exponent ++ rest)).head?, c.isDigit = false := by
      refine head_append (fun c hc => ?_) fun c hc => (hbehind c hc).1
      rw [hpoint c hc]
      rfl
    simp only [readNumber, List.append_assoc, takeWhile_image text hnodigit,
      dropWhile_image text hnodigit, htake _ hbehind, htake' _ hrest]
    simp only [readNumber] at h
    split at h
    · cases h
      rfl
    · cases h

/-! ## Variables and operators -/

theorem readVariable?_stops {rest : List Char} (h : Stops rest) : readVariable? rest = none := by
  unfold readVariable?
  split
  · rfl
  · next c behind =>
      have hc : isBlank c = true := h c rfl
      rw [if_neg (ne_of_isBlank hc rfl), not_isWordStart_of_isBlank hc]
      rfl

theorem readVariable?_image {text after : List Char} {t : Token}
    (h : readVariable? text = some (.ok (t, after))) :
    ∃ image, text = image ++ after ∧
      ∀ rest, Stops rest → readVariable? (image ++ rest) = some (.ok (t, rest)) := by
  unfold readVariable? at h
  split at h
  · cases h
  · next c behind =>
      split at h
      · next hquote =>
          simp only [Option.some.injEq] at h
          split at h
          · next hread =>
              cases h
              obtain ⟨image, rfl, himage⟩ := readString_image hread
              refine ⟨c :: image, rfl, fun rest _ => ?_⟩
              rw [List.cons_append, readVariable?, if_pos hquote, himage]
          · cases h
      · next hquote =>
          split at h
          · next hword =>
              have hc : isVariableChar c = true := by simp [isVariableChar, isWordChar, hword]
              rw [List.takeWhile_cons_of_pos hc, List.dropWhile_cons_of_pos hc] at h
              cases h
              refine ⟨c :: behind.takeWhile isVariableChar, ?_, fun rest hrest => ?_⟩
              · rw [List.cons_append, List.takeWhile_append_dropWhile]
              · have hstop := hrest.head fun c hc => not_isVariableChar_of_isBlank hc
                rw [List.cons_append, readVariable?, if_neg hquote, if_pos hword,
                  List.takeWhile_cons_of_pos hc, List.dropWhile_cons_of_pos hc,
                  takeWhile_image behind hstop, dropWhile_image behind hstop]
          · cases h

/-- A dollar sign alone, or the variable that it begins. -/
theorem dollar_image {text after : List Char} {t : Token}
    (h : (readVariable? text).getD (.ok (.dollar, text)) = .ok (t, after)) :
    ∃ image, text = image ++ after ∧ ∀ rest, Stops rest →
      (readVariable? (image ++ rest)).getD (.ok (.dollar, image ++ rest)) = .ok (t, rest) := by
  cases hv : readVariable? text with
  | none =>
      rw [hv] at h
      cases h
      refine ⟨[], rfl, fun rest hrest => ?_⟩
      rw [List.nil_append, readVariable?_stops hrest]
      rfl
  | some reading =>
      rw [hv, Option.getD_some] at h
      obtain ⟨image, rfl, himage⟩ := readVariable?_image (h ▸ hv)
      refine ⟨image, rfl, fun rest hrest => ?_⟩
      rw [himage rest hrest]
      rfl

theorem doubleOperator?_of_isBlank (c : Char) {d : Char} (hd : isBlank d = true) :
    doubleOperator? c d = none := by
  unfold doubleOperator?
  split <;> first | cases hd | rfl

theorem readSingle_image {c : Char} {text after : List Char} {t : Token}
    (h : readSingle c text = .ok (t, after)) (rest : List Char) :
    readSingle c rest = .ok (t, rest) := by
  unfold readSingle at h ⊢
  split at h
  · cases h
    rfl
  · cases h

theorem readOperator_image {c : Char} {text after : List Char} {t : Token}
    (h : readOperator c text = .ok (t, after)) :
    ∃ image, text = image ++ after ∧
      ∀ rest, Stops rest → readOperator c (image ++ rest) = .ok (t, rest) := by
  have hsingle (htext : readSingle c text = .ok (t, after)) :
      ∃ image, text = image ++ after ∧
        ∀ rest, Stops rest → readOperator c (image ++ rest) = .ok (t, rest) := by
    refine ⟨[], (readSingle_rest htext).symm, fun rest hrest => ?_⟩
    cases rest with
    | nil => exact readSingle_image htext _
    | cons d behind =>
        rw [List.nil_append, readOperator, doubleOperator?_of_isBlank c (hrest d rfl)]
        exact readSingle_image htext _
  unfold readOperator at h
  split at h
  · exact hsingle h
  · next d behind =>
      split at h
      · next hdouble =>
          cases h
          refine ⟨[d], rfl, fun rest _ => ?_⟩
          simp only [readOperator, List.singleton_append, hdouble]
      · exact hsingle h

/-! ## Tokens -/

/-- A token ends before a text that stops it. -/
theorem readToken_image {c : Char} {text after : List Char} {t : Token}
    (h : readToken c text = .ok (t, after)) :
    ∃ image, text = image ++ after ∧
      ∀ rest, Stops rest → readToken c (image ++ rest) = .ok (t, rest) := by
  have hshorter := (readToken_suffix h).2
  unfold readToken at h
  split at h
  · next hquote =>
      split at h
      · next hread =>
          cases h
          obtain ⟨image, rfl, himage⟩ := readString_image hread
          exact ⟨image, rfl, fun rest _ => by rw [readToken, if_pos hquote, himage]⟩
      · cases h
  · next hquote =>
      split at h
      · next hdigit =>
          obtain ⟨image, htext, himage⟩ := readNumber_image h
          cases image with
          | nil => simp [htext] at hshorter
          | cons d image =>
              cases htext
              refine ⟨image, rfl, fun rest hrest => ?_⟩
              rw [readToken, if_neg hquote, if_pos hdigit]
              exact himage rest hrest
      · next hdigit =>
          split at h
          · next hword =>
              cases h
              refine ⟨_, List.takeWhile_append_dropWhile.symm, fun rest hrest => ?_⟩
              have hstop := hrest.head fun c hc => not_isWordChar_of_isBlank hc
              rw [readToken, if_neg hquote, if_neg hdigit, if_pos hword,
                takeWhile_image text hstop, dropWhile_image text hstop]
          · next hword =>
              split at h
              · next hdollar =>
                  obtain ⟨image, rfl, himage⟩ := dollar_image h
                  refine ⟨image, rfl, fun rest hrest => ?_⟩
                  rw [readToken, if_neg hquote, if_neg hdigit, if_neg hword, if_pos hdollar]
                  exact himage rest hrest
              · next hdollar =>
                  obtain ⟨image, rfl, himage⟩ := readOperator_image h
                  refine ⟨image, rfl, fun rest hrest => ?_⟩
                  rw [readToken, if_neg hquote, if_neg hdigit, if_neg hword, if_neg hdollar]
                  exact himage rest hrest

end Lexer

/-! ## Texts that are laid out -/

/-- The images in order, with blanks before the first, behind the last, and at least one
between two. -/
inductive LaidOut : List String → List Char → Prop where
  | finish {gap : List Char} (hgap : ∀ c ∈ gap, isBlank c = true) : LaidOut [] gap
  | image {gap rest : List Char} {image : String} {images : List String}
      (hgap : ∀ c ∈ gap, isBlank c = true)
      (hbetween : images ≠ [] → ∃ c tail, rest = c :: tail ∧ isBlank c = true)
      (h : LaidOut images rest) : LaidOut (image :: images) (gap ++ image.toList ++ rest)

/-- What stands behind an image stops it. -/
theorem LaidOut.stops {images : List String} {rest : List Char} (h : LaidOut images rest)
    (hbetween : images ≠ [] → ∃ c tail, rest = c :: tail ∧ isBlank c = true) : Stops rest := by
  cases h with
  | finish hgap => exact .of_blanks hgap
  | image =>
      obtain ⟨c, tail, hrest, hc⟩ := hbetween (List.cons_ne_nil _ _)
      rw [hrest]
      rintro _ ⟨⟩
      exact hc

theorem Scans.gap {gap rest : List Char} {p : Position} {ts : List SourceToken}
    (hgap : ∀ c ∈ gap, isBlank c = true) (h : Scans (p.after gap) rest ts) :
    Scans p (gap ++ rest) ts := by
  induction gap generalizing p with
  | nil => exact h
  | cons c gap ih =>
      obtain ⟨hc, hgap⟩ := List.forall_mem_cons.1 hgap
      exact .blank hc (ih hgap h)

theorem Scans.ne_nil {text : List Char} {p : Position} {ts : List SourceToken}
    (h : Scans p text ts) : ts ≠ [] := by
  induction h with
  | finish => exact List.cons_ne_nil _ _
  | blank _ _ ih => exact ih
  | token => exact List.cons_ne_nil _ _

/-- The images of some tokens are cut into these tokens again, however they are laid out. -/
theorem Scans.layout {text text' : List Char} {p : Position} {ts : List SourceToken}
    (h : Scans p text ts) (hlaid : LaidOut (ts.dropLast.map (·.image)) text') (p' : Position) :
    ∃ ts', Scans p' text' ts' ∧ Parser.Alike (fun _ _ => True) ts ts' := by
  induction h generalizing text' p' with
  | finish =>
      cases hlaid with
      | finish hgap =>
          have hscans := Scans.gap hgap (p := p') .finish
          rw [List.append_nil] at hscans
          exact ⟨_, hscans, .last ⟨rfl, rfl, trivial⟩ rfl⟩
  | blank _ _ ih => exact ih hlaid p'
  | @token p c rest after t image ts hblank hread himage hscans ih =>
      rw [List.dropLast_cons_of_ne_nil hscans.ne_nil, List.map_cons] at hlaid
      cases hlaid with
      | @image gap rest' _ _ hgap hbetween hlaid =>
          obtain ⟨ts', hscans', halike⟩ := ih hlaid ((p'.after gap).after image.toList)
          -- the image begins with the character that was no blank in the source
          obtain ⟨tail, rfl, hread'⟩ := Lexer.readToken_image hread
          have himage' : c :: tail = image.toList := List.append_cancel_right himage
          have hscans' := Scans.token hblank (hread' rest' (hlaid.stops hbetween))
            (congrArg (· ++ rest') himage') hscans'
          rw [List.append_assoc, ← himage']
          exact ⟨_, .gap hgap hscans', .cons ⟨rfl, rfl, trivial⟩ halike⟩

/-- The images of the tokens of a source, laid out in any way, are the same tokens.  They are
the same statement, or the same complaint about the same token. -/
theorem layout_irrelevant {source text : String} {ts : List SourceToken}
    (htokens : tokenize source = .ok ts)
    (hlaid : LaidOut (ts.dropLast.map (·.image)) text.toList) :
    ∃ ts', tokenize text = .ok ts' ∧
      ts'.map (fun t => (t.token, t.image)) = ts.map (fun t => (t.token, t.image)) ∧
      (∀ statement, parse ts' = .ok statement ↔ parse ts = .ok statement) ∧
      ∀ e, parse ts = .error e → ∃ e', parse ts' = .error e' ∧ e'.complaint = e.complaint ∧
        Parser.Corresponding ts ts' e.position e'.position := by
  obtain ⟨ts', hscans, halike⟩ := (tokensFrom_eq_ok_iff.1 htokens).layout hlaid .start
  have houtcomes := Parser.parse_outcomes halike.corresponding
  refine ⟨ts', hscans.tokensFrom_eq, halike.map_eq, ?_⟩
  generalize parse ts = x, parse ts' = x' at houtcomes ⊢
  cases houtcomes with
  | ok h =>
      subst h
      refine ⟨fun _ => Iff.rfl, fun e he => ?_⟩
      cases he
  | error h =>
      refine ⟨fun statement => ?_, ?_⟩
      · constructor <;>
          · intro hok
            cases hok
      · rintro _ ⟨⟩
        exact ⟨_, rfl, rfl, h⟩

/-- A point behind a digit belongs to no number where no digit follows it. -/
theorem layout_irrelevant_point :
    let text := " 1 .\na "
    LaidOut ["1", ".", "a"] text.toList ∧
      ∃ ts ts', tokenize "1.a" = .ok ts ∧ tokenize text = .ok ts' ∧
        ts'.map (fun t => (t.token, t.image)) =
          [(.integer 1, "1"), (.dot, "."), (.word "a", "a"), (.endOfInput, "")] := by
  intro text
  have htokens : tokenize "1.a" = .ok [⟨.integer 1, "1", ⟨0, 1, 1⟩⟩, ⟨.dot, ".", ⟨1, 1, 2⟩⟩,
      ⟨.word "a", "a", ⟨2, 1, 3⟩⟩, ⟨.endOfInput, "", ⟨3, 1, 4⟩⟩] := by
    have hsource : "1.a".toList = ['1', '.', 'a'] := by simp
    rw [tokenize, hsource]
    refine Scans.tokensFrom_eq ?_
    refine .token rfl rfl rfl ?_
    refine .token rfl rfl rfl ?_
    exact .token rfl rfl rfl .finish
  have hlaid : LaidOut ["1", ".", "a"] text.toList := by
    have hblank : ∀ c ∈ [' '], isBlank c = true := List.forall_mem_singleton.2 rfl
    have hbreak : ∀ c ∈ ['\n'], isBlank c = true := List.forall_mem_singleton.2 rfl
    have hword : LaidOut ["a"] (['\n'] ++ "a".toList ++ [' ']) :=
      .image hbreak (absurd rfl) (.finish hblank)
    have hpoint : LaidOut [".", "a"] ([' '] ++ ".".toList ++ (['\n'] ++ "a".toList ++ [' '])) :=
      .image hblank (fun _ => ⟨_, _, rfl, rfl⟩) hword
    have htext : text.toList = [' '] ++ "1".toList ++
        ([' '] ++ ".".toList ++ (['\n'] ++ "a".toList ++ [' '])) := by simp [text]
    rw [htext]
    exact .image hblank (fun _ => ⟨_, _, rfl, rfl⟩) hpoint
  obtain ⟨ts', htokens', hsame, -⟩ := layout_irrelevant htokens hlaid
  exact ⟨hlaid, _, ts', htokens, htokens', hsame⟩

end JsonPath
