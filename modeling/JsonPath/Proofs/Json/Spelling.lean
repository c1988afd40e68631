import JsonPath.Json.Reader
import JsonPath.Proofs.Json.Numerals
import JsonPath.Proofs.Text.Quoting
import JsonPath.Proofs.Value.Everywhere

/-!
# The tokens of written JSON

Both ways to write a value, `compact` and `pretty`, spell the same tokens (`tokens`).

`Spells` says that a text is cut into given tokens, whatever stands behind it.  Such texts
can be put behind one another (`Spells.append`, `Spells.separated`), which makes
`spells_compact` and `spells_pretty` inductions over the value.

All this is about the values that JSON has a text for, of which each number reads back
(`Legible`).
-/

namespace JsonPath

namespace Json

/-- The number texts in a value read back, there is no date-time in it, and no object in it
has a key twice. -/
def Legible : Value → Prop := Value.Everywhere ReadsBack fun _ => False

/-! ## The tokens of a value -/

mutual

/-- The tokens that spell a value. -/
def tokens : Value → List Token
  | .array items => .openArray :: ([Token.comma].intercalate (itemTokens items) ++ [.closeArray])
  | .object members =>
      .openObject :: ([Token.comma].intercalate (memberTokens members) ++ [.closeObject])
  | .string s => [.string s]
  | v => [.scalar v]

/-- The tokens of every element. -/
def itemTokens : List Value → List (List Token)
  | [] => []
  | v :: rest => tokens v :: itemTokens rest

/-- The tokens of every member, the key first. -/
def memberTokens : List (String × Value) → List (List Token)
  | [] => []
  | (key, v) :: rest => (.string key :: .colon :: tokens v) :: memberTokens rest

end

theorem itemTokens_eq (items : List Value) : itemTokens items = items.map tokens := by
  induction items with
  | nil => rfl
  | cons v rest ih => rw [itemTokens, ih, List.map_cons]

theorem memberTokens_eq (members : Members) :
    memberTokens members = members.map fun m => .string m.1 :: .colon :: tokens m.2 := by
  induction members with
  | nil => rfl
  | cons m rest ih => rw [memberTokens, ih, List.map_cons]

/-- A value does not begin with the end of an array. -/
theorem exists_tokens_eq_cons (v : Value) :
    ∃ token rest, tokens v = token :: rest ∧ token ≠ .closeArray := by
  cases v <;> exact ⟨_, _, rfl, nofun⟩

/-! ## Cutting a text into tokens -/

/-- A number is not mistaken for another token. -/
theorem Token.read?_number {text rest : List Char} {v : Value}
    (h : readNumber? text = some (v, rest)) : Token.read? text = some (.scalar v, rest) := by
  unfold Token.read?
  split
  case h_11 => rw [h]; rfl
  all_goals simp [readNumber?, takeMinus] at h

/-- No token begins with a blank. -/
theorem Token.read?_blank {c : Char} (rest : List Char) (h : isBlank c = true) :
    Token.read? (c :: rest) = none := by
  have hminus : takeMinus (c :: rest) = (false, c :: rest) := by
    rw [takeMinus.eq_def]
    split
    · next heq => exact absurd (List.cons.inj heq).1 (ne_of_isBlank h rfl)
    · rfl
  have hnumber : readNumber? (c :: rest) = none := by
    simp [readNumber?, hminus, not_isDigit_of_isBlank h]
  unfold Token.read?
  split
  case h_11 => rw [hnumber]; rfl
  all_goals
    next heq => exact absurd (List.cons.inj heq).1 (ne_of_isBlank h rfl)

theorem isBlank_of_isSpace {c : Char} (h : isSpace c = true) : isBlank c = true := by
  simp only [isSpace, Bool.or_eq_true, beq_iff_eq] at h
  rcases h with ((rfl | rfl) | rfl) | rfl <;> rfl

/-- A token at the beginning of a text is the first of its tokens. -/
theorem Token.ofChars?_of_read? {text rest : List Char} {token : Token}
    (h : Token.read? text = some (token, rest)) :
    Token.ofChars? text = (Token.ofChars? rest).map (token :: ·) := by
  cases text with
  | nil => cases h
  | cons c text =>
      have hspace : isSpace c = false := by
        rw [← Bool.not_eq_true]
        intro hc
        rw [Token.read?_blank text (isBlank_of_isSpace hc)] at h
        cases h
      rw [Token.ofChars?, hspace]
      simp only [Bool.false_eq_true, if_false]
      split
      · next hnone =>
          rw [h] at hnone
          cases hnone
      · next hsome =>
          rw [h] at hsome
          cases hsome
          rfl

/-- A text of blanks has no tokens. -/
theorem Token.eq_nil_of_blank {text : List Char} {tokens : List Token}
    (hblank : text.all isBlank = true) (h : Token.ofChars? text = some tokens) : tokens = [] := by
  induction text with
  | nil =>
      rw [Token.ofChars?] at h
      cases h
      rfl
  | cons c text ih =>
      simp only [List.all_cons, Bool.and_eq_true] at hblank
      rw [Token.ofChars?] at h
      split at h
      · exact ih hblank.2 h
      · split at h
        · cases h
        · next hread =>
            rw [Token.read?_blank text hblank.1] at hread
            cases hread

/-- The text is cut into these tokens, whatever stands behind it. -/
def Spells (text : List Char) (tokens : List Token) : Prop :=
  ∀ rest, EndsNumber rest →
    Token.ofChars? (text ++ rest) = (Token.ofChars? rest).map (tokens ++ ·)

namespace Spells

variable {text more : List Char} {spelled : List Token}

theorem nil : Spells [] [] := by
  intro rest _
  simp

/-- A token of one character. -/
theorem token {c : Char} {token : Token} (hc : ∀ rest, Token.read? (c :: rest) = some (token, rest))
    (h : Spells text spelled) : Spells (c :: text) (token :: spelled) := by
  intro rest hrest
  rw [List.cons_append, Token.ofChars?_of_read? (hc _), h rest hrest, Option.map_map]
  rfl

theorem space {c : Char} (hc : isSpace c = true) (h : Spells text spelled) :
    Spells (c :: text) spelled := by
  intro rest hrest
  rw [List.cons_append, Token.ofChars?, hc, if_pos rfl, h rest hrest]

theorem lineBreak (depth : Nat) (h : Spells text spelled) :
    Spells (lineBreak depth ++ text) spelled := by
  rw [Json.lineBreak, List.cons_append]
  refine .space rfl ?_
  induction 2 * depth with
  | zero => exact h
  | succ n ih => exact .space rfl ih

/-- A token that is the whole text. -/
theorem word {token : Token}
    (h : ∀ rest, EndsNumber rest → Token.read? (text ++ rest) = some (token, rest)) :
    Spells text [token] := by
  intro rest hrest
  exact Token.ofChars?_of_read? (h rest hrest)

/-- Texts behind one another; where they meet no number may go on. -/
theorem append {c : Char} {next : List Token} (h : Spells text spelled)
    (hmore : Spells (c :: more) next) (hc : c.isDigit = false ∧ c ≠ '.' ∧ c ≠ 'e' ∧ c ≠ 'E') :
    Spells (text ++ c :: more) (spelled ++ next) := by
  intro rest hrest
  rw [List.append_assoc, h (c :: more ++ rest) (.cons hc), hmore rest hrest, Option.map_map]
  simp [Function.comp_def]

/-- Texts with commas between them. -/
theorem separated {α : Type} {items : List α} {write : α → List Char} {spell : α → List Token}
    (h : ∀ a ∈ items, Spells (write a) (spell a)) :
    Spells ([','].intercalate (items.map write)) ([Token.comma].intercalate (items.map spell)) := by
  induction items with
  | nil => simpa using nil
  | cons a rest ih =>
      have hfirst := h a List.mem_cons_self
      cases rest with
      | nil => simpa using hfirst
      | cons b rest =>
          have hrest := ih fun x hx => h x (List.mem_cons_of_mem a hx)
          simp only [List.map_cons, List.intercalate_cons_cons, List.append_assoc,
            List.singleton_append] at hrest ⊢
          exact hfirst.append (.token (fun _ => rfl) hrest) (by decide)

end Spells

/-! ## Both ways to write -/

theorem spells_string (s : String) : Spells (quoted s.toList) [.string s] := by
  refine .word fun rest _ => ?_
  simp [quoted, Token.read?, readString?_quoted]

theorem spells_number {v : Value} {text : List Char} (h : IsWritten v text) :
    Spells text [.scalar v] :=
  .word fun _ hrest => Token.read?_number (h.readNumber? hrest)

theorem spells_scalarText {v : Value} (h : Legible v) (hscalar : v.depth = 0) :
    Spells (scalarText v) (tokens v) := by
  cases h with
  | null => exact .word fun _ _ => rfl
  | boolean b => cases b <;> exact .word fun _ _ => rfl
  | integer n => exact spells_number (isWritten_integer n)
  | number hx => exact spells_number (isWritten_number hx)
  | string s => exact spells_string s
  | dateTime h => exact h.elim
  | array _ => cases hscalar
  | object _ _ => cases hscalar

theorem compactItems_eq (items : List Value) :
    compactItems items = [','].intercalate (items.map compact) := by
  induction items with
  | nil => rfl
  | cons v rest ih =>
      cases rest with
      | nil => simp [compactItems]
      | cons w rest => simp [compactItems, ih, List.intercalate_cons_cons]

theorem compactMembers_eq (members : Members) :
    compactMembers members =
      [','].intercalate (members.map fun m => quoted m.1.toList ++ ':' :: compact m.2) := by
  induction members with
  | nil => rfl
  | cons m rest ih =>
      cases rest with
      | nil => simp [compactMembers]
      | cons n rest => simp [compactMembers, ih, List.intercalate_cons_cons]

theorem prettyItems_eq (depth : Nat) (items : List Value) :
    prettyItems depth items =
      [','].intercalate (items.map fun v => lineBreak depth ++ pretty depth v) := by
  induction items with
  | nil => rfl
  | cons v rest ih =>
      cases rest with
      | nil => simp [prettyItems]
      | cons w rest => simp [prettyItems, ih, List.intercalate_cons_cons]

theorem prettyMembers_eq (depth : Nat) (members : Members) :
    prettyMembers depth members =
      [','].intercalate (members.map fun m =>
        lineBreak depth ++ (quoted m.1.toList ++ ':' :: ' ' :: pretty depth m.2)) := by
  induction members with
  | nil => rfl
  | cons m rest ih =>
      cases rest with
      | nil => simp [prettyMembers]
      | cons n rest => simp [prettyMembers, ih, List.intercalate_cons_cons]

theorem spells_compact {v : Value} (h : Legible v) : Spells (compact v) (tokens v) := by
  induction h with
  | null => exact spells_scalarText .null rfl
  | boolean b => exact spells_scalarText (.boolean b) rfl
  | integer n => exact spells_scalarText (.integer n) rfl
  | number hx => exact spells_scalarText (.number hx) rfl
  | string s => exact spells_scalarText (.string s) rfl
  | dateTime h => exact h.elim
  | array _ ih =>
      rw [compact, tokens, compactItems_eq, itemTokens_eq]
      have hend : Spells [']'] [.closeArray] := .word fun _ _ => rfl
      exact .token (fun _ => rfl) ((Spells.separated ih).append hend (by decide))
  | @object members _ _ ih =>
      rw [compact, tokens, compactMembers_eq, memberTokens_eq]
      have hend : Spells ['\x7d'] [.closeObject] := .word fun _ _ => rfl
      have hmember : ∀ m ∈ members, Spells (quoted m.1.toList ++ ':' :: compact m.2)
          (.string m.1 :: .colon :: tokens m.2) := fun m hm =>
        (spells_string m.1).append (.token (fun _ => rfl) (ih m hm)) (by decide)
      exact .token (fun _ => rfl) ((Spells.separated hmember).append hend (by decide))

theorem spells_pretty {v : Value} (h : Legible v) (depth : Nat) :
    Spells (pretty depth v) (tokens v) := by
  induction h generalizing depth with
  | null => exact spells_scalarText .null rfl
  | boolean b => exact spells_scalarText (.boolean b) rfl
  | integer n => exact spells_scalarText (.integer n) rfl
  | number hx => exact spells_scalarText (.number hx) rfl
  | string s => exact spells_scalarText (.string s) rfl
  | dateTime h => exact h.elim
  | @array items _ ih =>
      have hend : Spells (lineBreak depth ++ [']']) [.closeArray] :=
        .lineBreak depth (.word fun _ _ => rfl)
      have hitem : ∀ v ∈ items,
          Spells (lineBreak (depth + 1) ++ pretty (depth + 1) v) (tokens v) := fun v hv =>
        .lineBreak (depth + 1) (ih v hv (depth + 1))
      -- an empty array is written without line breaks
      cases items with
      | nil => exact .token (fun _ => rfl) (.word fun _ _ => rfl)
      | cons v rest =>
          rw [pretty, tokens, prettyItems_eq, itemTokens_eq, List.append_assoc]
          · exact .token (fun _ => rfl) ((Spells.separated hitem).append hend (by decide))
          · exact List.cons_ne_nil v rest
  | @object members _ _ ih =>
      have hend : Spells (lineBreak depth ++ ['\x7d']) [.closeObject] :=
        .lineBreak depth (.word fun _ _ => rfl)
      have hmember : ∀ m ∈ members, Spells
          (lineBreak (depth + 1) ++ (quoted m.1.toList ++ ':' :: ' ' :: pretty (depth + 1) m.2))
          (.string m.1 :: .colon :: tokens m.2) := fun m hm =>
        .lineBreak (depth + 1) ((spells_string m.1).append
          (.token (fun _ => rfl) (.space rfl (ih m hm (depth + 1)))) (by decide))
      cases members with
      | nil => exact .token (fun _ => rfl) (.word fun _ _ => rfl)
      | cons m rest =>
          rw [pretty, tokens, prettyMembers_eq, memberTokens_eq, List.append_assoc]
          · exact .token (fun _ => rfl) ((Spells.separated hmember).append hend (by decide))
          · exact List.cons_ne_nil m rest

end Json

end JsonPath
