import Mathlib
import JsonPath.Pattern.Like

/-!
# Literal patterns

With `q` the characters of a pattern that mean something are escaped before the pattern is
read.  What is read then is the text itself (`readFrom_escapePattern`), under all flags but
`x`: in verbose mode blanks are skipped wherever they stand, and a blank is not among the
characters that are escaped.  So a blank of the text gets lost where both flags are given, and
`literal_but_for_blanks` says that nothing else does.

A text is one row of states in the automata of `Pattern.Size`, so what is refused are just
the texts of more than `textLimit` bytes.
-/

namespace JsonPath

/-! ## Reading an escaped text -/

/-- The characters that are escaped. -/
def metacharacters : List Char :=
  ['\\', '.', '+', '*', '?', '(', ')', '|', '[', ']', '\x7b', '\x7d', '^', '$', '#', '&', '-', '~']

theorem isMetacharacter_iff {c : Char} : isMetacharacter c = true ↔ c ∈ metacharacters := by
  simp [isMetacharacter, metacharacters]

theorem isBlank_of_isMetacharacter {c : Char} (h : isMetacharacter c = true) :
    isBlank c = false := by
  have hall : metacharacters.all (!isBlank ·) = true := by decide
  simpa using List.all_eq_true.1 hall c (isMetacharacter_iff.1 h)

namespace PatternFlags

/-- The characters of an escaped text that are not skipped. -/
def retained (flags : PatternFlags) (text : List Char) : List Char :=
  if flags.verbose then text.filter (!isBlank ·) else text

variable {flags : PatternFlags} {c : Char} {rest : List Char}

theorem skip_cons (hblank : flags.verbose = true → isBlank c = false) (hcomment : c ≠ '#') :
    flags.skip (c :: rest) = c :: rest := by
  unfold skip
  split
  · next hverbose => simp [skipIgnored, hblank hverbose, hcomment]
  · rfl

theorem skip_blank_cons (hverbose : flags.verbose = true) (hblank : isBlank c = true) :
    flags.skip (c :: rest) = flags.skip rest := by
  simp [skip, hverbose, skipIgnored, hblank]

theorem retained_cons (h : flags.verbose = true → isBlank c = false) :
    flags.retained (c :: rest) = c :: flags.retained rest := by
  unfold retained
  split
  · next hverbose => simp [h hverbose]
  · rfl

theorem retained_blank_cons (hverbose : flags.verbose = true) (hblank : isBlank c = true) :
    flags.retained (c :: rest) = flags.retained rest := by
  simp [retained, hverbose, hblank]

end PatternFlags

namespace PatternDraft

/-- The characters of a text one after the other. -/
def pushText (d : PatternDraft) (text : List Char) : PatternDraft :=
  text.foldl (fun d c => d.push (literal d.flags c)) d

theorem readFrom_nil (d : PatternDraft) : d.readFrom [] = d.finish := by
  have hskip : d.flags.skip [] = [] := by simp [PatternFlags.skip, PatternFlags.skipIgnored]
  rw [readFrom]
  split
  · rfl
  · next h => cases hskip.symm.trans h

theorem readFrom_of_step {d next : PatternDraft} {text rest after : List Char} {c : Char}
    (hskip : d.flags.skip text = c :: rest) (hstep : d.step c rest = some (next, after))
    (hlength : after.length ≤ rest.length) : d.readFrom text = next.readFrom after := by
  rw [readFrom]
  split
  · next h => cases hskip.symm.trans h
  · next c' rest' h =>
      cases hskip.symm.trans h
      simp only [hstep, if_pos hlength]

theorem readFrom_of_skip_eq {d : PatternDraft} {text text' : List Char}
    (h : d.flags.skip text = d.flags.skip text') : d.readFrom text = d.readFrom text' := by
  rw [readFrom, readFrom, h]

theorem step_escaped (d : PatternDraft) {c : Char} (h : isMetacharacter c = true)
    (rest : List Char) :
    d.step '\\' (c :: rest) = some (d.push (literal d.flags c), rest) := by
  have hplain : PatternEscape.isPlain c = true := by simp [PatternEscape.isPlain, h]
  simp [step, PatternEscape.read, hplain, pushAtom]

theorem step_plain (d : PatternDraft) {c : Char} (h : isMetacharacter c = false)
    (rest : List Char) : d.step c rest = some (d.push (literal d.flags c), rest) := by
  unfold step
  split
  case h_13 => rfl
  all_goals cases h

/-- An escaped text is read character by character. -/
theorem readFrom_escapePattern (d : PatternDraft) (text : List Char) :
    d.readFrom (escapePattern text) = (d.pushText (d.flags.retained text)).finish := by
  induction text generalizing d with
  | nil =>
      rw [escapePattern, readFrom_nil]
      unfold PatternFlags.retained
      split <;> rfl
  | cons c rest ih =>
      have hnext : (d.push (literal d.flags c)).flags = d.flags := rfl
      -- what is escaped is no blank, so only what stands as it is can be skipped
      by_cases hmeta : isMetacharacter c = true
      · have hblank := isBlank_of_isMetacharacter hmeta
        rw [escapePattern, if_pos hmeta, PatternFlags.retained_cons fun _ => hblank]
        have hskip : d.flags.skip ('\\' :: c :: escapePattern rest) =
            '\\' :: c :: escapePattern rest :=
          PatternFlags.skip_cons (fun _ => by decide) (by decide)
        rw [readFrom_of_step hskip (d.step_escaped hmeta _) (Nat.le_succ _), ih, hnext]
        rfl
      · rw [Bool.not_eq_true] at hmeta
        rw [escapePattern, if_neg (by simp [hmeta])]
        by_cases hskipped : d.flags.verbose = true ∧ isBlank c = true
        · obtain ⟨hverbose, hblank⟩ := hskipped
          rw [PatternFlags.retained_blank_cons hverbose hblank, ← ih]
          exact readFrom_of_skip_eq (PatternFlags.skip_blank_cons hverbose hblank)
        · have hblank (hverbose : d.flags.verbose = true) : isBlank c = false :=
            Bool.not_eq_true _ ▸ fun hblank => hskipped ⟨hverbose, hblank⟩
          have hcomment : c ≠ '#' := by
            rintro rfl
            cases hmeta
          rw [PatternFlags.retained_cons hblank,
            readFrom_of_step (PatternFlags.skip_cons hblank hcomment) (d.step_plain hmeta _)
              (Nat.le_refl _), ih, hnext]
          rfl

theorem pushText_eq (d : PatternDraft) (text : List Char) :
    d.pushText text =
      { d with current :=
        { d.current with pieces :=
          (text.map fun c => .item (literal d.flags c) 0).reverse ++ d.current.pieces } } := by
  induction text generalizing d with
  | nil => rfl
  | cons c rest ih =>
      rw [pushText, List.foldl_cons, ← pushText, ih]
      simp [push, pushPiece, flags]

/-- Without `i` a character is matched by itself only. -/
theorem literal_eq {flags : PatternFlags} (hcase : flags.ignoreCase = false)
    (hunicode : flags.unicode = true) (c : Char) : literal flags c = .literal [c] := by
  simp [literal, hunicode, PatternFlags.fold, hcase, Regex.ofClass, CharClass.single?,
    CharClass.single, CharClass.range]

end PatternDraft

/-! ## The expression of a text -/

namespace Regex

/-- What matches a text as it stands. -/
def ofText : List Char → Regex
  | [] => .empty
  | text => .literal text

theorem ofParts_literals (text : List Char) :
    ofParts (text.map fun c => .literal [c]) = ofText text := by
  have hparts : (text.map fun c => literal [c]).flatMap parts = text.map fun c => literal [c] := by
    rw [List.flatMap_map, List.map_eq_flatMap]
    rfl
  have hjoin (c : Char) (rest : List Char) :
      joinTexts ((c :: rest).map fun c => literal [c]) = [literal (c :: rest)] := by
    induction rest generalizing c with
    | nil => rfl
    | cons d rest ih =>
        rw [List.map_cons, joinTexts, ih d]
        rfl
  rw [ofParts, hparts]
  cases text with
  | nil => rfl
  | cons c rest =>
      rw [hjoin]
      rfl

theorem ofAlternatives_ofText (text : List Char) : ofAlternatives [ofText text] = ofText text := by
  cases text <;> rfl

theorem length_encode (c : Char) : (Utf8.encode c.toNat).length = c.utf8Size := by
  have hle (n : UInt32) : c.val ≤ n ↔ c.toNat ≤ n.toNat := UInt32.le_iff_toNat_le
  have hone : c.val ≤ 0x7F ↔ c.toNat < 0x80 := (hle 0x7F).trans Nat.lt_succ_iff.symm
  have htwo : c.val ≤ 0x7FF ↔ c.toNat < 0x800 := (hle 0x7FF).trans Nat.lt_succ_iff.symm
  have hthree : c.val ≤ 0xFFFF ↔ c.toNat < 0x10000 := (hle 0xFFFF).trans Nat.lt_succ_iff.symm
  show _ = if c.val ≤ 0x7F then 1 else if c.val ≤ 0x7FF then 2 else if c.val ≤ 0xFFFF then 3 else 4
  simp only [Utf8.encode, hone, htwo, hthree, apply_ite List.length, List.length_cons,
    List.length_nil]

theorem length_textBytes (text : List Char) :
    (textBytes text).length = (String.ofList text).utf8ByteSize := by
  induction text with
  | nil => rfl
  | cons c rest ih =>
      rw [String.ofList_cons, String.utf8ByteSize_append, String.utf8ByteSize_singleton, ← ih,
        ← length_encode, textBytes, List.flatMap_cons, List.length_append]
      rfl

/-- The greatest number of bytes in a text that is accepted.  A byte takes one state of 32
bytes; the forward automaton has six more, and sixteen bytes attached to them. -/
def textLimit : Nat := 327673

theorem isSmall_ofText (text : List Char) :
    (ofText text).isSmall = decide ((textBytes text).length ≤ textLimit) := by
  cases text with
  | nil => decide
  | cons c rest =>
      rw [Bool.eq_iff_iff, decide_eq_true_iff]
      simp only [ofText, isSmall, automatonSize, front, isAnchored, grow,
        AutomatonSize.addStates, AutomatonSize.addArrows, AutomatonSize.addWays,
        AutomatonSize.leave, AutomatonSize.isOver, AutomatonSize.bytes, AutomatonSize.limit,
        textLimit, Bool.false_eq_true, if_false, Bool.and_eq_true, Bool.not_eq_true',
        decide_eq_false_iff_not]
      omega

end Regex

namespace OpenGroup

open Regex (ofText)

/-- Parts that are not nested are at most one level deep together. -/
theorem joinedDepth_le_one {parts : List PatternPiece} (h : ∀ p ∈ parts, p.depth = 0) :
    joinedDepth parts ≤ 1 := by
  have hdeepest : (parts.map PatternPiece.depth).foldl max 0 = 0 := by
    induction parts with
    | nil => rfl
    | cons p rest ih =>
        obtain ⟨hp, hrest⟩ := List.forall_mem_cons.1 h
        rw [List.map_cons, hp]
        exact ih hrest
  rw [joinedDepth, hdeepest]
  split <;> omega

theorem joinedDepth_singleton (p : PatternPiece) : joinedDepth [p] = p.depth := by
  simp [joinedDepth]

section Literals

variable {g : OpenGroup} {text : List Char}
  (hpieces : g.pieces = (text.map fun c => .item (.literal [c]) 0).reverse)

include hpieces

theorem alternative_of_literals :
    g.alternative = .item (ofText text) (joinedDepth g.pieces) := by
  have hregex : g.pieces.reverse.map PatternPiece.regex = text.map fun c => .literal [c] := by
    rw [hpieces, List.reverse_reverse, List.map_map]
    rfl
  rw [alternative, hregex, Regex.ofParts_literals]

theorem whole_of_literals (hended : g.ended = []) :
    g.whole = .item (ofText text) (joinedDepth g.pieces) := by
  rw [whole, hended, joinedDepth_singleton, alternative_of_literals hpieces]
  exact congrArg (PatternPiece.item · _) (Regex.ofAlternatives_ofText text)

theorem joinedDepth_of_literals : joinedDepth g.pieces ≤ 1 := by
  refine joinedDepth_le_one fun p hp => ?_
  rw [hpieces, List.mem_reverse] at hp
  obtain ⟨c, -, rfl⟩ := List.mem_map.1 hp
  rfl

end Literals

end OpenGroup

theorem PatternDraft.finish_of_literals {d : PatternDraft} {text : List Char}
    (henclosing : d.enclosing = []) (hended : d.current.ended = [])
    (hpieces : d.current.pieces = (text.map fun c => .item (.literal [c]) 0).reverse) :
    d.finish =
      if (Regex.textBytes text).length ≤ Regex.textLimit then some (.ofText text) else none := by
  have hdepth : OpenGroup.joinedDepth d.current.pieces ≤ depthLimit :=
    Nat.le_trans (OpenGroup.joinedDepth_of_literals hpieces) (by decide)
  simp only [finish, henclosing, OpenGroup.whole_of_literals hpieces hended, PatternPiece.depth,
    PatternPiece.regex, Regex.isSmall_ofText, decide_eq_true_iff, hdepth, true_and]

namespace Regex

/-- An escaped text is read as the expression of what is not skipped. -/
theorem read?_escapePattern {flags : PatternFlags} (hcase : flags.ignoreCase = false)
    (hunicode : flags.unicode = true) (text : List Char) :
    read? flags (escapePattern text) =
      if (textBytes (flags.retained text)).length ≤ textLimit then
        some (ofText (flags.retained text))
      else
        none := by
  have hliteral : PatternDraft.literal flags = fun c => .literal [c] :=
    funext (PatternDraft.literal_eq hcase hunicode)
  rw [read?, PatternDraft.readFrom_escapePattern, PatternDraft.pushText_eq]
  refine PatternDraft.finish_of_literals rfl rfl ?_
  simp only [PatternDraft.start, PatternDraft.flags, hliteral, List.append_nil]

/-! ## Matching a text -/

theorem standsAt_iff {chars text : List Char} {offset : Nat} :
    standsAt chars.toArray text offset = true ↔ text <+: chars.drop offset := by
  induction text generalizing offset with
  | nil => exact iff_of_true rfl List.nil_prefix
  | cons c rest ih =>
      rw [standsAt, Bool.and_eq_true, beq_iff_eq, ih, List.getElem?_toArray, ← List.head?_drop,
        ← List.tail_drop]
      cases chars.drop offset with
      | nil => simp
      | cons d behind => simp [List.cons_prefix_cons, eq_comm]

theorem infix_iff_prefix_drop {text chars : List Char} :
    text <:+: chars ↔ ∃ offset, offset ≤ chars.length ∧ text <+: chars.drop offset := by
  constructor
  · rintro ⟨before, behind, rfl⟩
    refine ⟨before.length, by simp only [List.length_append]; omega, ?_⟩
    rw [List.append_assoc, List.drop_left]
    exact List.prefix_append text behind
  · rintro ⟨offset, -, h⟩
    exact h.isInfix.trans (List.drop_suffix offset chars).isInfix

/-- A text matches where it occurs. -/
theorem isMatch_ofText (text : List Char) (s : String) :
    (ofText text).isMatch s = decide (text <:+: s.toList) := by
  rw [Bool.eq_iff_iff, decide_eq_true_iff, isMatch]
  cases text with
  | nil => simp [ofText, advance]
  | cons c rest =>
      have hoffset (offset : Nat) :
          offset < s.toList.toArray.size + 1 ↔ offset ≤ s.toList.length := Nat.lt_succ_iff
      rw [infix_iff_prefix_drop]
      simp only [ofText, advance, Bool.not_eq_true', List.isEmpty_eq_false_iff_exists_mem,
        List.mem_filterMap, List.mem_range, hoffset, Option.ite_none_right_eq_some, standsAt_iff]
      constructor
      · rintro ⟨_, offset, hlength, hprefix, -⟩
        exact ⟨offset, hlength, hprefix⟩
      · rintro ⟨offset, hlength, hprefix⟩
        exact ⟨_, offset, hlength, hprefix, rfl⟩

end Regex

/-! ## Patterns -/

namespace LikePattern

/-- Flags are read letter by letter. -/
theorem readFlags_of_forall_mem {letters : List Char}
    (h : ∀ letter ∈ letters, letter ∈ ['q', 's', 'm', 'x']) (flags : PatternFlags) :
    readFlags flags letters = .ok
      { flags with
        dotAll := flags.dotAll || letters.contains 's'
        multiLine := flags.multiLine || letters.contains 'm'
        verbose := flags.verbose || letters.contains 'x' } := by
  induction letters generalizing flags with
  | nil => simp [readFlags]
  | cons letter rest ih =>
      obtain ⟨hletter, hrest⟩ := List.forall_mem_cons.1 h
      simp only [List.mem_cons, List.not_mem_nil, or_false] at hletter
      rcases hletter with rfl | rfl | rfl | rfl <;> simp [readFlags, ih hrest]

/-- What a literal pattern looks for: its text, in verbose mode without the blanks. -/
def sought (text flags : String) : List Char :=
  if 'x' ∈ flags.toList then text.toList.filter (!isBlank ·) else text.toList

section Literal

variable {text flags : String}

theorem read_eq_of_literal (hletters : ∀ letter ∈ flags.toList, letter ∈ ['q', 's', 'm', 'x'])
    (hq : 'q' ∈ flags.toList) :
    read text flags =
      if (Regex.textBytes (sought text flags)).length ≤ Regex.textLimit then
        .ok { text, flags, regex := .ofText (sought text flags) }
      else
        .error .malformed := by
  obtain ⟨patternFlags, hflags, hcase, hunicode, hverbose⟩ :
      ∃ patternFlags, readFlags .plain flags.toList = .ok patternFlags ∧
        patternFlags.ignoreCase = false ∧ patternFlags.unicode = true ∧
          patternFlags.verbose = flags.toList.contains 'x' :=
    ⟨_, readFlags_of_forall_mem hletters .plain, rfl, rfl, rfl⟩
  have hretained : patternFlags.retained text.toList = sought text flags := by
    simp only [PatternFlags.retained, sought, hverbose, List.contains_iff_mem]
  rw [read, hflags]
  simp only [List.contains_iff_mem.2 hq, if_true, Regex.read?_escapePattern hcase hunicode,
    hretained]
  by_cases hfits : (Regex.textBytes (sought text flags)).length ≤ Regex.textLimit
  · simp only [if_pos hfits]
  · simp only [if_neg hfits]

theorem sought_eq_iff : sought text flags = text.toList ↔
    ('x' ∈ flags.toList → ∀ c ∈ text.toList, isBlank c = false) := by
  unfold sought
  split
  · next hx => simp [hx, List.filter_eq_self]
  · next hx => simp [hx]

theorem sought_sublist : (sought text flags).Sublist text.toList := by
  unfold sought
  split
  · exact List.filter_sublist
  · exact List.Sublist.refl _

theorem test_ofText (sought : List Char) (t : String) :
    ({ text, flags, regex := .ofText sought } : LikePattern).test (.string t) =
      .ofBool (decide (sought <:+: t.toList)) := by
  rw [test, Regex.isMatch_ofText]

end Literal

/-- A literal pattern is accepted unless it is too long, and then it is true of the strings in
which the text it looks for occurs.  That is what is written, unless blanks are lost. -/
theorem literal_but_for_blanks (text flags : String)
    (hletters : ∀ letter ∈ flags.toList, letter ∈ ['q', 's', 'm', 'x'])
    (hq : 'q' ∈ flags.toList) :
    ((∃ pattern, read text flags = .ok pattern) ↔
      (String.ofList (sought text flags)).utf8ByteSize ≤ Regex.textLimit) ∧
    ∀ pattern, read text flags = .ok pattern →
      (∀ t, pattern.test (.string t) = .ofBool (decide (sought text flags <:+: t.toList))) ∧
      ((∀ t, pattern.test (.string t) = .ofBool (decide (text.toList <:+: t.toList))) ↔
        ('x' ∈ flags.toList → ∀ c ∈ text.toList, isBlank c = false)) := by
  rw [read_eq_of_literal hletters hq, ← Regex.length_textBytes]
  by_cases hfits : (Regex.textBytes (sought text flags)).length ≤ Regex.textLimit
  · rw [if_pos hfits]
    refine ⟨iff_of_true ⟨_, rfl⟩ hfits, fun pattern hpattern => ?_⟩
    cases hpattern
    refine ⟨test_ofText _, ?_⟩
    simp only [test_ofText, ← sought_eq_iff]
    constructor
    · intro h
      -- the text that is looked for occurs in itself, so the written text does, too
      have hself := h (String.ofList (sought text flags))
      simp only [String.toList_ofList, List.infix_rfl, decide_true] at hself
      have hinfix : text.toList <:+: sought text flags := by
        refine Decidable.byContradiction fun hnot => ?_
        rw [decide_eq_false hnot] at hself
        cases hself
      exact sought_sublist.eq_of_length_le hinfix.length_le
    · intro h t
      rw [h]
  · rw [if_neg hfits]
    exact ⟨iff_of_false nofun hfits, nofun⟩

/-- In verbose mode a blank is lost. -/
theorem literal_but_for_blanks_verbose :
    ∃ pattern, read "a b" "qx" = .ok pattern ∧ pattern.test (.string "ab") = .holds ∧
      pattern.test (.string "a b") = .fails ∧
      ¬∀ t, pattern.test (.string t) = .ofBool (decide ("a b".toList <:+: t.toList)) := by
  obtain ⟨haccepted, hread⟩ := literal_but_for_blanks "a b" "qx" (by simp) (by simp)
  obtain ⟨pattern, hpattern⟩ := haccepted.2 (by decide)
  obtain ⟨htest, hliteral⟩ := hread pattern hpattern
  refine ⟨pattern, hpattern, (htest "ab").trans (by decide), (htest "a b").trans (by decide), ?_⟩
  intro h
  exact absurd (hliteral.1 h (by decide) ' ' (by decide)) (by decide)

/-- Not every literal pattern is true of just the strings in which it occurs. -/
theorem blank_lost_in_verbose :
    ¬∀ text flags : String, (∀ letter ∈ flags.toList, letter ∈ ['q', 's', 'm', 'x']) →
      'q' ∈ flags.toList → ∃ pattern, read text flags = .ok pattern ∧
        ∀ t, pattern.test (.string t) = .ofBool (decide (text.toList <:+: t.toList)) := by
  intro h
  have hletters : ∀ letter ∈ "qx".toList, letter ∈ ['q', 's', 'm', 'x'] := by simp
  have hq : 'q' ∈ "qx".toList := by simp
  obtain ⟨pattern, hpattern, htest⟩ := h "a b" "qx" hletters hq
  rw [read_eq_of_literal hletters hq, if_pos (by decide)] at hpattern
  cases hpattern
  have hsame := htest "a b"
  rw [test_ofText] at hsame
  exact absurd hsame (by decide)

end LikePattern

end JsonPath
