import Mathlib.Data.List.Induction
import JsonPath.Syntax.Lexer

/-!
# How a text is cut into tokens

* `Scans` is the relation of a text to its tokens, with one constructor for each thing
  that may stand at the beginning of a text; `tokensFrom_eq_ok_iff` says that it is what
  the lexer computes.
* `Position.Reaches` says of two places that a text lies between them that begins the
  text behind the first.  All places that the lexer reports are reached in this way, those
  of tokens (`Scans.reaches`) and that of an error (`tokensFrom_error_reaches`).
* `Position.IsIn` says of a place that its offset, line and column fit each other in a
  source; it holds of what is reached from the beginning (`Position.Reaches.isIn`).
-/

namespace JsonPath

/-! ## What stands before a suffix -/

namespace Lexer

theorem before_append (image rest : List Char) : before (image ++ rest) rest = image := by
  simp [before]

theorem before_append_of_suffix {text rest : List Char} (h : rest <:+ text) :
    before text rest ++ rest = text := by
  obtain ⟨image, rfl⟩ := h
  rw [before_append]

theorem exists_image {text rest : List Char} (h : rest <:+ text) :
    ∃ image : String, text = image.toList ++ rest := by
  obtain ⟨image, rfl⟩ := h
  exact ⟨String.ofList image, by rw [String.toList_ofList]⟩

end Lexer

/-! ## The token at the beginning of a text -/

section FirstToken

variable {p : Position} {c : Char} {rest : List Char}

theorem tokensFrom_token {after image : List Char} {t : Token} (hblank : isBlank c = false)
    (hread : Lexer.readToken c rest = .ok (t, after)) (himage : c :: rest = image ++ after) :
    tokensFrom (c :: rest) p = (tokensFrom after (p.after image)).map
      ({ token := t, image := String.ofList image, position := p } :: ·) := by
  rw [tokensFrom.eq_def]
  simp only [hblank, Bool.false_eq_true, if_false]
  split
  · next hfault => simp [hread] at hfault
  · next hread' =>
      rw [hread] at hread'
      cases hread'
      rw [himage, Lexer.before_append]
      cases tokensFrom after (p.after image) <;> rfl

theorem tokensFrom_fault {image : List Char} {fault : Lexer.Fault} (hblank : isBlank c = false)
    (hread : Lexer.readToken c rest = .error fault) (himage : c :: rest = image ++ fault.rest) :
    tokensFrom (c :: rest) p = .error ⟨fault.complaint, p.after image⟩ := by
  rw [tokensFrom.eq_def]
  simp only [hblank, Bool.false_eq_true, if_false]
  split
  · next hfault =>
      rw [hread] at hfault
      cases hfault
      rw [himage, Lexer.before_append]
  · next hread' => simp [hread] at hread'

end FirstToken

/-! ## The scanning relation -/

/-- The tokens of a text that begins at a place, up to the end of input. -/
inductive Scans : Position → List Char → List SourceToken → Prop where
  | finish {p : Position} : Scans p [] [{ token := .endOfInput, image := "", position := p }]
  | blank {p : Position} {c : Char} {rest : List Char} {ts : List SourceToken}
      (hblank : isBlank c = true) (h : Scans (p.next c) rest ts) : Scans p (c :: rest) ts
  | token {p : Position} {c : Char} {rest after : List Char} {t : Token} {image : String}
      {ts : List SourceToken} (hblank : isBlank c = false)
      (hread : Lexer.readToken c rest = .ok (t, after))
      (himage : c :: rest = image.toList ++ after) (h : Scans (p.after image.toList) after ts) :
      Scans p (c :: rest) ({ token := t, image, position := p } :: ts)

theorem scans_of_tokensFrom {text : List Char} {p : Position} :
    ∀ ts, tokensFrom text p = .ok ts → Scans p text ts := by
  fun_induction tokensFrom text p with
  | case1 p =>
      rintro _ ⟨⟩
      exact .finish
  | case2 p c rest hblank ih => exact fun ts h => .blank hblank (ih ts h)
  | case3 =>
      intro ts h
      cases h
  | case4 =>
      intro ts h
      cases h
  | case5 p c rest hblank t after hread image tokens htokens ih =>
      rintro _ ⟨⟩
      have himage := Lexer.before_append_of_suffix (Lexer.readToken_suffix hread).1
      have hlist : (String.ofList image).toList = image := String.toList_ofList
      refine .token (by simpa using hblank) hread ?_ ?_
      · rw [hlist, himage]
      · rw [hlist]
        exact ih tokens htokens

theorem Scans.tokensFrom_eq {text : List Char} {p : Position} {ts : List SourceToken}
    (h : Scans p text ts) : tokensFrom text p = .ok ts := by
  induction h with
  | finish => rw [tokensFrom.eq_def]
  | blank hblank _ ih =>
      rw [tokensFrom.eq_def]
      simpa only [hblank, if_true] using ih
  | token hblank hread himage _ ih =>
      rw [tokensFrom_token hblank hread himage, ih, String.ofList_toList]
      rfl

theorem tokensFrom_eq_ok_iff {text : List Char} {p : Position} {ts : List SourceToken} :
    tokensFrom text p = .ok ts ↔ Scans p text ts :=
  ⟨scans_of_tokensFrom ts, Scans.tokensFrom_eq⟩

/-! ## Places that are reached -/

namespace Position

/-- Some of the text lies between the two places; it begins at the first. -/
def Reaches (p : Position) (text : List Char) (q : Position) : Prop :=
  ∃ image rest, text = image ++ rest ∧ q = p.after image

variable {p q : Position} {c : Char} {image text : List Char}

theorem Reaches.here (p : Position) (text : List Char) : p.Reaches text p := ⟨[], text, rfl, rfl⟩

theorem Reaches.append (h : (p.after image).Reaches text q) : p.Reaches (image ++ text) q := by
  obtain ⟨front, rest, rfl, rfl⟩ := h
  exact ⟨image ++ front, rest, (List.append_assoc ..).symm, List.foldl_append.symm⟩

theorem Reaches.cons (h : (p.next c).Reaches text q) : p.Reaches (c :: text) q := by
  obtain ⟨front, rest, rfl, rfl⟩ := h
  exact ⟨c :: front, rest, rfl, rfl⟩

/-- The place has an offset in the source, and the line and the column of that offset. -/
structure IsIn (p : Position) (source : List Char) : Prop where
  offset_le : p.offset ≤ source.length
  line_eq : p.line = 1 + (source.take p.offset).count '\n'
  column_eq : p.column = 1 + ((source.take p.offset).reverse.takeWhile (· ≠ '\n')).length

theorem offset_after (p : Position) (image : List Char) :
    (p.after image).offset = p.offset + image.length := by
  induction image generalizing p with
  | nil => rfl
  | cons c image ih =>
      have hnext : (p.next c).offset = p.offset + 1 := by
        unfold next
        split <;> rfl
      show ((p.next c).after image).offset = _
      rw [ih, hnext, List.length_cons]
      omega

theorem line_after (p : Position) (image : List Char) :
    (p.after image).line = p.line + image.count '\n' := by
  induction image generalizing p with
  | nil => rfl
  | cons c image ih =>
      show ((p.next c).after image).line = _
      rw [ih, next, List.count_cons]
      split
      · next hc =>
          simp [hc]
          omega
      · next hc => simp [hc]

/-- The column counts from the last line feed, so that the induction is on the end of the
text. -/
theorem column_after_start (image : List Char) :
    (start.after image).column = 1 + (image.reverse.takeWhile (· ≠ '\n')).length := by
  induction image using List.reverseRecOn with
  | nil => rfl
  | append_singleton image c ih =>
      have hafter : start.after (image ++ [c]) = (start.after image).next c := by
        simp [after]
      rw [hafter, next]
      split
      · next hc => simp [hc]
      · next hc =>
          simp [ih, hc]
          omega

theorem Reaches.isIn {source : List Char} (h : start.Reaches source q) : q.IsIn source := by
  obtain ⟨image, rest, rfl, rfl⟩ := h
  have hoffset : (start.after image).offset = image.length := by
    rw [offset_after]
    exact Nat.zero_add _
  have htake : (image ++ rest).take (start.after image).offset = image :=
    List.take_left' hoffset.symm
  refine ⟨?_, ?_, ?_⟩
  · rw [hoffset, List.length_append]
    omega
  · rw [htake, line_after]
    rfl
  · rw [htake, column_after_start]

end Position

/-- A token stands where the text is reached. -/
theorem Scans.reaches {text : List Char} {p : Position} {ts : List SourceToken}
    (h : Scans p text ts) : ∀ t ∈ ts, p.Reaches text t.position := by
  induction h with
  | finish => simp [Position.Reaches.here]
  | blank _ _ ih => exact fun t ht => (ih t ht).cons
  | token _ _ himage _ ih =>
      intro t ht
      rw [himage]
      cases ht with
      | head => exact .here _ _
      | tail _ ht => exact (ih t ht).append

/-! ## Places of errors -/

namespace Lexer

theorem readQuoted_fault {quote : Char} {text : List Char} {fault : Fault}
    (h : readQuoted quote text = .error (some fault)) : fault.rest <:+ text := by
  fun_induction readQuoted quote text with
  | case1 => cases h
  | case2 => cases h
  | case3 => cases h
  | case4 rest sequence hescape hquote =>
      cases h
      exact List.suffix_refl _
  | case5 rest d after hescape fault' hread hquote ih =>
      cases h
      exact (ih hread).trans ((readEscape_suffix hescape).1.trans (List.suffix_cons _ _))
  | case6 => cases h
  | case7 c rest hquote hslash fault' hread ih =>
      cases h
      exact (ih hread).trans (List.suffix_cons _ _)
  | case8 => cases h

theorem readString_fault {quote : Char} {rest : List Char} {fault : Fault}
    (h : readString quote rest = .error fault) : fault.rest <:+ quote :: rest := by
  unfold readString at h
  split at h
  · cases h
  · cases h
    exact List.suffix_refl _
  · next hread =>
      cases h
      exact (readQuoted_fault hread).trans (List.suffix_cons _ _)

theorem readNumber_fault {text : List Char} {fault : Fault}
    (h : readNumber text = .error fault) : fault.rest = text := by
  simp only [readNumber] at h
  split at h
  · cases h
  · cases h
    rfl

theorem readSingle_fault {c : Char} {rest : List Char} {fault : Fault}
    (h : readSingle c rest = .error fault) : fault.rest = c :: rest := by
  unfold readSingle at h
  split at h
  · cases h
  · cases h
    rfl

theorem readOperator_fault {c : Char} {rest : List Char} {fault : Fault}
    (h : readOperator c rest = .error fault) : fault.rest = c :: rest := by
  unfold readOperator at h
  split at h
  · exact readSingle_fault h
  · split at h
    · cases h
    · exact readSingle_fault h

theorem readVariable?_fault {rest : List Char} {fault : Fault}
    (h : readVariable? rest = some (.error fault)) : fault.rest <:+ rest := by
  unfold readVariable? at h
  split at h
  · cases h
  · split at h
    · next hquote =>
        simp only [Option.some.injEq] at h
        split at h
        · cases h
        · next hread =>
            cases h
            exact readString_fault hread
    · split at h <;> cases h

/-- The fault of a token is in the text in front of the lexer. -/
theorem readToken_fault {c : Char} {rest : List Char} {fault : Fault}
    (h : readToken c rest = .error fault) : fault.rest <:+ c :: rest := by
  unfold readToken at h
  split at h
  · split at h
    · cases h
    · next hread =>
        cases h
        exact readString_fault hread
  · split at h
    · exact readNumber_fault h ▸ List.suffix_refl _
    · split at h
      · cases h
      · split at h
        · cases hv : readVariable? rest with
          | none =>
              rw [hv] at h
              cases h
          | some reading =>
              rw [hv] at h
              exact (readVariable?_fault (hv.trans (congrArg some h))).trans (List.suffix_cons _ _)
        · exact readOperator_fault h ▸ List.suffix_refl _

end Lexer

/-- An error is where the text is reached. -/
theorem tokensFrom_error_reaches {text : List Char} {p : Position} {e : SyntaxError}
    (h : tokensFrom text p = .error e) : p.Reaches text e.position := by
  fun_induction tokensFrom text p with
  | case1 => cases h
  | case2 p c rest hblank ih => exact (ih h).cons
  | case3 p c rest hblank fault hread =>
      cases h
      have himage := Lexer.before_append_of_suffix (Lexer.readToken_fault hread)
      exact ⟨_, _, himage.symm, rfl⟩
  | case4 p c rest hblank t after hread image e' htokens ih =>
      cases h
      have himage := Lexer.before_append_of_suffix (Lexer.readToken_suffix hread).1
      rw [← himage]
      exact (ih htokens).append
  | case5 => cases h

end JsonPath
