import Mathlib.Logic.Relation
import JsonPath.Proofs.Parsing.Progress
import JsonPath.Proofs.Parsing.Reading

/-!
# Lexing and parsing finish

The functions of the parser have a budget of calls, and `outcome` are the same functions
without one.

* `Call.enough` is a budget for each call, and whatever a call makes needs less
  (`Call.Makes.enough_lt`).  So no larger budget makes a difference (`within_eq_outcome`), the
  functions call each other without a budget (`outcome_eq`), and no chain of calls goes on
  forever (`Call.makes_wellFounded`).
* A function that is called again has fewer tokens in front of it (`Call.cycle_descends`).
* `takenBy` are the tokens of a statement that are taken, all of them if it is one
  (`takenBy_of_parse`).
* `CutsOff` follows the lexer through a text; it gets to the end, or to where no token begins
  (`exists_cutsOff`).

`lexing_and_parsing_finish` puts these together.
-/

namespace JsonPath

/-- The complaint is about the tokens, and not about the budget. -/
def Complaint.isSyntactic : Complaint → Bool
  | .unexpectedToken _ _ => true
  | complaint => complaint.isObjection

namespace Parser

/-! ## Calls -/

/-- A function with all that it is given. -/
structure Call where
  routine : Routine
  nesting : Nesting
  operand : routine.Operand
  tokens : Tokens

namespace Call

/-- Makes a call. -/
def run (q : Call) (runner : Runner) : Except SyntaxError (q.routine.Tree × Tokens) :=
  runner q.routine q.nesting q.operand q.tokens

/-- A budget that is enough for a call: the tokens in front of it come first, and among calls
with the same tokens the level of the function counts. -/
def enough (q : Call) : Nat := 16 * q.tokens.length + q.routine.level + 1

end Call

/-- The calls that are made in the course of actions, in order, given what the functions that
are called return. -/
def Action.calls {α : Type} (run : Runner) : Action α → Tokens → List Call
  | done _, _ | refuse _, _ | object _ _, _ => []
  | atEnd yes no, ts => if next ts = .endOfInput then yes.calls run ts else no.calls run ts
  | take test taken left, ts =>
      if test (next ts) then (taken (first ts)).calls run ts.tail else left.calls run ts
  | takePair x y taken left, ts =>
      if next ts = x ∧ next ts.tail = y then taken.calls run ts.tail.tail
      else left.calls run ts
  | call r c e next, ts =>
      ⟨r, c, e, ts⟩ ::
        match run r c e ts with
        | .ok (tree, rest) => (next tree).calls run rest
        | .error _ => []

/-- A function that succeeds leaves what stands behind the tokens that it takes. -/
def Advances (run : Runner) : Prop :=
  ∀ {r c e ts tree rest}, run r c e ts = .ok (tree, rest) → Passes (r.consumes = true) ts rest

section Calls

variable {α : Type} {run run' : Runner} {level : Nat} {moved : Bool}

/-- What actions come to depends only on what the calls return that they make. -/
theorem Action.exec_congr (a : Action α) (ts : Tokens)
    (h : ∀ q ∈ a.calls run ts, q.run run' = q.run run) : a.exec run' ts = a.exec run ts := by
  induction a generalizing ts with
  | done a => rfl
  | refuse expected => rfl
  | object complaint place => rfl
  | atEnd yes no ihyes ihno =>
      simp only [calls, exec] at h ⊢
      split
      · next hx => exact ihyes ts (by rwa [if_pos hx] at h)
      · next hx => exact ihno ts (by rwa [if_neg hx] at h)
  | take test taken left ihtaken ihleft =>
      simp only [calls, exec] at h ⊢
      split
      · next hx => exact ihtaken _ ts.tail (by rwa [if_pos hx] at h)
      · next hx => exact ihleft ts (by rwa [if_neg hx] at h)
  | takePair x y taken left ihtaken ihleft =>
      simp only [calls, exec] at h ⊢
      split
      · next hx => exact ihtaken ts.tail.tail (by rwa [if_pos hx] at h)
      · next hx => exact ihleft ts (by rwa [if_neg hx] at h)
  | call r c e next ih =>
      simp only [calls, exec] at h ⊢
      obtain ⟨hcall, hrest⟩ := List.forall_mem_cons.1 h
      have hcall : run' r c e ts = run r c e ts := hcall
      rw [hcall]
      cases hr : run r c e ts with
      | error error => rfl
      | ok result =>
          obtain ⟨tree, rest⟩ := result
          rw [hr] at hrest
          exact ih tree rest hrest

/-- A call is made behind some of the tokens; if none has been taken, the level goes down. -/
theorem Action.passes_of_mem_calls (hrun : Advances run) {a : Action α}
    (ha : a.Orderly level moved) {ts : Tokens} {q : Call} (hq : q ∈ a.calls run ts) :
    Passes (moved = false ∧ level ≤ q.routine.level) ts q.tokens := by
  induction a generalizing moved ts with
  | done a => cases hq
  | refuse expected => cases hq
  | object complaint place => cases hq
  | atEnd yes no ihyes ihno =>
      simp only [calls] at hq
      split at hq
      · exact ihyes ha.1 hq
      · exact ihno ha.2 hq
  | take test taken left ihtaken ihleft =>
      obtain ⟨htest, htaken, hleft⟩ := ha
      simp only [calls] at hq
      split at hq
      · next hx =>
          have htail : Passes (moved = false ∧ level ≤ q.routine.level) ts ts.tail :=
            .tail (next_ne_end htest hx)
          exact (htail.trans (ihtaken _ (htaken _ hx) hq)).mono Or.inl
      · exact ihleft hleft hq
  | takePair x y taken left ihtaken ihleft =>
      obtain ⟨hx, hy, htaken, hleft, -⟩ := ha
      simp only [calls] at hq
      split at hq
      · next hpair =>
          obtain ⟨rfl, rfl⟩ := hpair
          have hfirst : Passes True ts ts.tail := .tail (Token.isEnd_eq_false_iff.1 hx)
          have hsecond : Passes True ts.tail ts.tail.tail := .tail (Token.isEnd_eq_false_iff.1 hy)
          exact (hfirst.trans (hsecond.trans (ihtaken htaken hq))).mono fun _ => .inl trivial
      · exact ihleft hleft hq
  | call r c e next ih =>
      obtain ⟨hlevel, hnext⟩ := ha
      simp only [calls] at hq
      obtain rfl | hq := List.mem_cons.1 hq
      · refine .refl (fun ⟨hmoved, hle⟩ => ?_) ts
        obtain hmoved' | hlt := hlevel
        · exact absurd (hmoved.symm.trans hmoved') Bool.false_ne_true
        · exact absurd hlt (Nat.not_lt.2 hle)
      · split at hq
        · next tree rest hr =>
            refine ((hrun hr).trans (ih tree (hnext tree) hq)).mono ?_
            rintro ⟨rfl, hle⟩
            rw [Bool.false_or]
            exact (Bool.eq_false_or_eq_true r.consumes).imp_right fun h => ⟨h, hle⟩
        · cases hq

theorem isSyntactic_of_isObjection {complaint : Complaint} (h : complaint.isObjection = true) :
    complaint.isSyntactic = true := by
  cases complaint with
  | unexpectedToken => rfl
  | _ => exact h

/-- Actions complain about the tokens if the calls that they make do. -/
theorem Action.isSyntactic_of_exec {a : Action α} (ha : a.Orderly level moved) {ts : Tokens}
    (hcalls : ∀ q ∈ a.calls run ts, ∀ e, q.run run = .error e → e.complaint.isSyntactic = true)
    {e : SyntaxError} (h : a.exec run ts = .error e) : e.complaint.isSyntactic = true := by
  induction a generalizing moved ts with
  | done a => cases h
  | refuse expected =>
      cases h
      rfl
  | object complaint place =>
      cases h
      exact isSyntactic_of_isObjection ha
  | atEnd yes no ihyes ihno =>
      simp only [calls, exec] at hcalls h
      split at h
      · next hx => exact ihyes ha.1 (by rwa [if_pos hx] at hcalls) h
      · next hx => exact ihno ha.2 (by rwa [if_neg hx] at hcalls) h
  | take test taken left ihtaken ihleft =>
      simp only [calls, exec] at hcalls h
      split at h
      · next hx => exact ihtaken _ (ha.2.1 _ hx) (by rwa [if_pos hx] at hcalls) h
      · next hx => exact ihleft ha.2.2 (by rwa [if_neg hx] at hcalls) h
  | takePair x y taken left ihtaken ihleft =>
      simp only [calls, exec] at hcalls h
      obtain ⟨-, -, htaken, hleft, -⟩ := ha
      split at h
      · next hx => exact ihtaken htaken (by rwa [if_pos hx] at hcalls) h
      · next hx => exact ihleft hleft (by rwa [if_neg hx] at hcalls) h
  | call r c e' next ih =>
      simp only [calls, exec] at hcalls h
      obtain ⟨hcall, hrest⟩ := List.forall_mem_cons.1 hcalls
      cases hr : run r c e' ts with
      | error error =>
          rw [hr] at h
          cases h
          exact hcall e hr
      | ok result =>
          obtain ⟨tree, rest⟩ := result
          rw [hr] at h hrest
          exact ih tree (ha.2 tree) hrest h

end Calls

/-! ## Budgets that are enough -/

section Budgets

variable {fuel : Nat}

theorem within_advances (fuel : Nat) : Advances (within fuel) :=
  fun h => (within_accounts fuel _ _ _ _).passes h

theorem Routine.level_lt (r : Routine) : r.level < 10 := by
  cases r <;> decide

/-- A call that is made behind some tokens, or at a lower level, needs less. -/
theorem enough_lt {level : Nat} {ts : Tokens} {q : Call}
    (h : Passes (level ≤ q.routine.level) ts q.tokens) :
    q.enough ≤ 16 * ts.length + level := by
  have hlevel := q.routine.level_lt
  have hlength := h.isSuffix.length_le
  have hlt := h.length_lt
  simp only [Call.enough]
  by_cases hle : level ≤ q.routine.level
  · have := hlt hle
    omega
  · omega

/-- The calls that a function makes need less than the function. -/
theorem enough_of_mem_calls {run : Runner} (hrun : Advances run) {r : Routine} {c : Nesting}
    {e : r.Operand} {ts : Tokens} {q : Call} (hq : q ∈ (body r c e).calls run ts) :
    q.enough ≤ 16 * ts.length + r.level :=
  enough_lt ((Action.passes_of_mem_calls hrun (orderly_body r c e) hq).mono fun h => ⟨rfl, h⟩)

/-- One more call than enough changes nothing. -/
theorem run_within_succ (q : Call) (h : q.enough ≤ fuel) :
    q.run (within (fuel + 1)) = q.run (within fuel) := by
  induction fuel generalizing q with
  | zero => exact absurd h (Nat.not_succ_le_zero _)
  | succ fuel ih =>
      show within (fuel + 1 + 1) q.routine q.nesting q.operand q.tokens =
        within (fuel + 1) q.routine q.nesting q.operand q.tokens
      rw [within_succ, within_succ]
      -- The calls that are made here need less, so that one call fewer is enough for them.
      refine Action.exec_congr _ _ fun q' hq' => ih q' ?_
      have := enough_of_mem_calls (within_advances fuel) hq'
      exact Nat.le_trans this (Nat.le_of_succ_le_succ h)

end Budgets

/-- The functions, each with a budget that is enough. -/
def outcome : Runner :=
  fun r c e ts => within (Call.mk r c e ts).enough r c e ts

section Outcome

variable {fuel : Nat} {r : Routine} {c : Nesting} {e : r.Operand} {ts rest : Tokens}

/-- No budget that is enough makes a difference. -/
theorem within_eq_outcome {q : Call} (h : q.enough ≤ fuel) :
    q.run (within fuel) = q.run outcome := by
  induction h with
  | refl => rfl
  | step h ih => rw [run_within_succ q h, ih]

/-- The functions call each other without a budget. -/
theorem outcome_eq : outcome r c e ts = (body r c e).exec outcome ts := by
  have hsucc := within_succ (16 * ts.length + r.level) c ts r e
  refine hsucc.trans (Action.exec_congr _ _ fun q hq => ?_).symm
  exact (within_eq_outcome (enough_of_mem_calls (within_advances _) hq)).symm

theorem outcome_advances : Advances outcome :=
  fun h => within_advances _ h

end Outcome

/-! ## Chains of calls -/

namespace Call

variable {q q' : Call} {ts : Tokens}

/-- One call makes another one. -/
def Makes (q q' : Call) : Prop :=
  q' ∈ (body q.routine q.nesting q.operand).calls outcome q.tokens

/-- The calls that are made while a statement is read, those of calls included. -/
inductive MadeFor (ts : Tokens) : Call → Prop where
  | statement {q : Call} (h : q ∈ statementBody.calls outcome ts) : MadeFor ts q
  | call {q q' : Call} (h : MadeFor ts q) (hmakes : q.Makes q') : MadeFor ts q'

theorem Makes.passes (h : q.Makes q') :
    Passes (q.routine.level ≤ q'.routine.level) q.tokens q'.tokens :=
  (Action.passes_of_mem_calls outcome_advances
    (orderly_body q.routine q.nesting q.operand) h).mono fun h => ⟨rfl, h⟩

theorem Makes.enough_lt (h : q.Makes q') : q'.enough < q.enough :=
  Nat.lt_succ_of_le (Parser.enough_lt h.passes)

/-- No chain of calls goes on forever. -/
theorem makes_wellFounded : WellFounded fun q' q : Call => q.Makes q' :=
  Subrelation.wf (fun h => h.enough_lt) (measure enough).wf

/-- A chain of calls goes on behind the tokens that it began with, and needs less and less. -/
theorem chain_descends (h : Relation.TransGen Makes q q') :
    q'.tokens <:+ q.tokens ∧ q'.enough < q.enough := by
  induction h with
  | single h => exact ⟨h.passes.isSuffix, h.enough_lt⟩
  | tail _ h ih => exact ⟨h.passes.isSuffix.trans ih.1, Nat.lt_trans h.enough_lt ih.2⟩

/-- A function that is called again, in whatever way, has fewer tokens in front of it. -/
theorem cycle_descends (h : Relation.TransGen Makes q q') (hroutine : q'.routine = q.routine) :
    q'.tokens <:+ q.tokens ∧ q'.tokens.length < q.tokens.length := by
  obtain ⟨hsuffix, hlt⟩ := chain_descends h
  rw [enough, enough, hroutine] at hlt
  exact ⟨hsuffix, by omega⟩

/-- A call does not complain about a budget. -/
theorem isSyntactic_of_run (q : Call) (e : SyntaxError) (h : q.run outcome = .error e) :
    e.complaint.isSyntactic = true := by
  induction q using makes_wellFounded.induction generalizing e with
  | _ q ih =>
      have hrun : q.run outcome = _ := outcome_eq
      rw [hrun] at h
      exact Action.isSyntactic_of_exec (orderly_body _ _ _) ih h

/-- Every call for a statement stands before tokens of the statement, with its end. -/
theorem MadeFor.passes (h : MadeFor ts q) : Passes False ts q.tokens := by
  induction h with
  | statement h =>
      exact (Action.passes_of_mem_calls outcome_advances orderly_statementBody h).mono False.elim
  | call _ hmakes ih => exact (ih.trans hmakes.passes).mono False.elim

end Call

/-! ## Statements without a budget -/

section Statements

variable {fuel : Nat} {ts rest : Tokens}

theorem statement_within (h : budget ts ≤ fuel) :
    statementBody.exec (within fuel) ts = statementBody.exec outcome ts := by
  refine (Action.exec_congr _ _ fun q hq => (within_eq_outcome ?_).symm).symm
  have hpasses := Action.passes_of_mem_calls (within_advances _) orderly_statementBody hq
  have hq := enough_lt (hpasses.mono fun h => ⟨rfl, h⟩)
  rw [budget] at h
  omega

/-- The result of parsing is that of functions without a budget. -/
theorem parse_eq_outcome (ts : Tokens) :
    parse ts = statementBody.exec outcome ts >>= fun s => .ok s.1 := by
  rw [parse_eq, statement_within (Nat.le_refl _)]

theorem isSyntactic_of_parse {e : SyntaxError} (h : parse ts = .error e) :
    e.complaint.isSyntactic = true := by
  rw [parse_eq_outcome] at h
  cases hs : statementBody.exec outcome ts with
  | error error =>
      rw [hs] at h
      cases h
      exact Action.isSyntactic_of_exec orderly_statementBody
        (fun q _ => Call.isSyntactic_of_run q) hs
  | ok s =>
      rw [hs] at h
      cases h

end Statements

/-! ## The end of the input -/

section End

variable {must : Prop} {run : Runner} {ts rest : Tokens} {s : Mode × Body}

/-- The end of the input is left wherever some of the tokens have been taken. -/
theorem EndsOnce.of_passes (hts : EndsOnce (ts.map (·.token))) (h : Passes must ts rest) :
    EndsOnce (rest.map (·.token)) := by
  obtain ⟨taken, rfl, hend, -⟩ := h
  obtain ⟨front, hfront, hmem⟩ := hts
  rw [List.map_append] at hfront
  obtain hnil | ⟨front', x, hrest⟩ := List.eq_nil_or_concat (rest.map (·.token))
  · have hlast : .endOfInput ∈ taken.map (·.token) := by
      rw [hnil, List.append_nil] at hfront
      exact hfront ▸ List.mem_append_right front (List.mem_singleton_self _)
    obtain ⟨t, ht, hx⟩ := List.mem_map.1 hlast
    exact absurd hx (hend t ht)
  · rw [List.concat_eq_append] at hrest
    rw [hrest, ← List.append_assoc] at hfront
    obtain ⟨rfl, hx⟩ := List.append_inj' hfront rfl
    exact ⟨front', hx ▸ hrest, fun h => hmem (List.mem_append_right _ h)⟩

/-- Tokens that begin with the end of the input are only that. -/
theorem EndsOnce.eq_singleton (hts : EndsOnce (ts.map (·.token))) (hend : next ts = .endOfInput) :
    ∃ t, ts = [t] ∧ t.token = .endOfInput := by
  obtain ⟨front, hfront, hmem⟩ := hts
  cases ts with
  | nil => simp at hfront
  | cons t ts =>
      cases front with
      | nil =>
          obtain ⟨ht, hnil⟩ := List.cons_eq_cons.1 hfront
          exact ⟨t, congrArg _ (List.map_eq_nil_iff.1 hnil), ht⟩
      | cons x front =>
          obtain ⟨rfl, -⟩ := List.cons_eq_cons.1 hfront
          exact absurd (List.mem_cons.2 (.inl hend.symm)) hmem

/-- A statement ends with the input. -/
theorem next_of_statement (h : statementBody.exec run ts = .ok (s, rest)) :
    next rest = .endOfInput := by
  have hinside {m : Mode} {ts : Tokens} (h : (insideBody m).exec run ts = .ok (s, rest)) :
      next rest = .endOfInput := by
    rw [insideBody, Action.exec_read_bind] at h
    obtain ⟨p, -, h⟩ := bind_eq_ok_iff.1 h
    rw [Action.exec_ended_bind] at h
    split at h
    · next hend =>
        cases h
        exact hend
    · cases h
  rw [statementBody, Action.exec_accept_bind] at h
  split at h
  · exact hinside h
  · exact hinside h

/-- What is taken of a statement, whether it is one or not. -/
theorem statement_accounts (ts : Tokens) :
    Accounts False ts (takenBy ts) (statementBody.exec (within (budget ts)) ts) :=
  (statementBody.exec_accounts (within_accounts _) orderly_statementBody ts).mono False.elim

/-- All tokens of a statement are taken, up to the end of the input. -/
theorem takenBy_of_parse (hts : EndsOnce (ts.map (·.token))) (h : parse ts = .ok s) :
    ∃ last, ts = takenBy ts ++ [last] ∧ last.token = .endOfInput := by
  rw [parse_eq] at h
  obtain ⟨⟨_, rest⟩, hexec, -⟩ := bind_eq_ok_iff.1 h
  obtain ⟨last, rfl, hlast⟩ := (hts.of_passes ((statement_accounts ts).passes hexec)).eq_singleton
    (next_of_statement hexec)
  exact ⟨last, ((statement_accounts ts).rest _ _ hexec).1, hlast⟩

end End

end Parser

/-! ## Cutting a text -/

/-- The lexer gets from the one place and the text behind it to the other, and cuts off some
tokens on the way. -/
inductive CutsOff : Position → List Char → List SourceToken → Position → List Char → Prop where
  | here {p : Position} {text : List Char} : CutsOff p text [] p text
  | blank {p q : Position} {c : Char} {text rest : List Char} {cut : List SourceToken}
      (hblank : isBlank c = true) (h : CutsOff (p.next c) text cut q rest) :
      CutsOff p (c :: text) cut q rest
  | token {p q : Position} {c : Char} {text after rest : List Char} {t : Token} {image : String}
      {cut : List SourceToken} (hblank : isBlank c = false)
      (hread : Lexer.readToken c text = .ok (t, after))
      (himage : c :: text = image.toList ++ after)
      (h : CutsOff (p.after image.toList) after cut q rest) :
      CutsOff p (c :: text) ({ token := t, image, position := p } :: cut) q rest

section Cutting

variable {p q : Position} {text rest : List Char} {cut : List SourceToken}

/-- Tokens are cut off one behind the other: their images, in order, are characters of the
text in front of what is left. -/
theorem CutsOff.sublist (h : CutsOff p text cut q rest) :
    (cut.flatMap (·.image.toList) ++ rest).Sublist text := by
  induction h with
  | here => exact List.Sublist.refl _
  | blank _ _ ih => exact ih.cons _
  | token _ _ himage _ ih =>
      rw [himage, List.flatMap_cons, List.append_assoc]
      exact (List.append_sublist_append_left _).2 ih

/-- Every token that is cut off has characters of its own. -/
theorem CutsOff.image_ne (h : CutsOff p text cut q rest) :
    ∀ t ∈ cut, t.image ≠ "" ∧ t.token ≠ .endOfInput := by
  induction h with
  | here => exact List.forall_mem_nil _
  | blank _ _ ih => exact ih
  | token _ hread himage _ ih =>
      refine List.forall_mem_cons.2 ⟨⟨?_, ?_⟩, ih⟩
      · rintro rfl
        have hlength := (Lexer.readToken_suffix hread).2
        rw [himage, String.toList_empty, List.nil_append] at hlength
        omega
      · exact Token.isEnd_eq_false_iff.1 (Lexer.readToken_isEnd hread)

/-- At most one token is cut off for each character. -/
theorem CutsOff.length_le (h : CutsOff p text cut q rest) :
    cut.length + rest.length ≤ text.length := by
  induction h with
  | here => exact Nat.le_of_eq (Nat.zero_add _)
  | blank _ _ ih => exact Nat.le_succ_of_le ih
  | token _ hread _ _ ih =>
      have hlength := (Lexer.readToken_suffix hread).2
      rw [List.length_cons]
      omega

/-- The lexer cuts off the token that it reads, with the text in front of what is left. -/
theorem cutsOff_readToken {c : Char} {after : List Char} {t : Token} (hblank : ¬isBlank c = true)
    (hread : Lexer.readToken c text = .ok (t, after))
    (h : CutsOff (p.after (Lexer.before (c :: text) after)) after cut q rest) :
    CutsOff p (c :: text)
      (⟨t, String.ofList (Lexer.before (c :: text) after), p⟩ :: cut) q rest := by
  have himage := Lexer.before_append_of_suffix (Lexer.readToken_suffix hread).1
  refine .token (Bool.eq_false_iff.2 hblank) hread ?_ ?_
  · rw [String.toList_ofList, himage]
  · rwa [String.toList_ofList]

/-- The lexer comes to the end of the text, or to a character that no token begins with. -/
theorem exists_cutsOff (text : List Char) (p : Position) :
    ∃ cut q rest, CutsOff p text cut q rest ∧
      ((rest = [] ∧ tokensFrom text p = .ok (cut ++ [⟨.endOfInput, "", q⟩])) ∨
        ∃ c after fault, rest = c :: after ∧ Lexer.readToken c after = .error fault ∧
          tokensFrom text p =
            .error ⟨fault.complaint, q.after (Lexer.before rest fault.rest)⟩) := by
  fun_induction tokensFrom text p with
  | case1 p => exact ⟨[], p, [], .here, .inl ⟨rfl, rfl⟩⟩
  | case2 p c rest hblank ih =>
      obtain ⟨cut, q, final, hcut, hend⟩ := ih
      exact ⟨cut, q, final, .blank hblank hcut, hend⟩
  | case3 p c rest hblank fault hread =>
      exact ⟨[], p, c :: rest, .here, .inr ⟨c, rest, fault, rfl, hread, rfl⟩⟩
  | case4 p c rest hblank t after hread image e htokens ih =>
      obtain ⟨cut, q, final, hcut, hend⟩ := ih
      obtain ⟨-, hok⟩ | ⟨d, behind, fault, hfinal, hfault, herror⟩ := hend
      · rw [htokens] at hok
        cases hok
      · rw [htokens] at herror
        exact ⟨_, q, final, cutsOff_readToken hblank hread hcut,
          .inr ⟨d, behind, fault, hfinal, hfault, herror⟩⟩
  | case5 p c rest hblank t after hread image tokens htokens ih =>
      obtain ⟨cut, q, final, hcut, hend⟩ := ih
      obtain ⟨hfinal, hok⟩ | ⟨d, behind, fault, -, -, herror⟩ := hend
      · rw [htokens] at hok
        cases hok
        exact ⟨_, q, final, cutsOff_readToken hblank hread hcut, .inl ⟨hfinal, rfl⟩⟩
      · rw [htokens] at herror
        cases herror

end Cutting

open JsonPath.Parser in
/-- Lexing and parsing finish, and a statement uses every token.

The lexer cuts tokens off the source, each with characters of its own, until it is at the end
or at a character that no token begins with.  The functions of the parser need no budget: what
they come to with one that is enough is what they come to when they call each other without
one.  No chain of calls goes on forever, and a function that is called again has fewer tokens
in front of it.  The end of the input is in front of every call and left by it.  Tokens are
taken one by one from the first, never the end of the input, and if there is a statement, all
of them up to that. -/
theorem lexing_and_parsing_finish :
    (∀ source : String,
      (∃ cut place rest, CutsOff .start source.toList cut place rest ∧
        ((rest = [] ∧ tokenize source = .ok (cut ++ [⟨.endOfInput, "", place⟩])) ∨
          ∃ c after fault, rest = c :: after ∧ Lexer.readToken c after = .error fault ∧
            tokenize source =
              .error ⟨fault.complaint, place.after (Lexer.before rest fault.rest)⟩)) ∧
      ∀ cut place rest, CutsOff .start source.toList cut place rest →
        cut.length + rest.length ≤ source.length ∧
        (cut.flatMap (·.image.toList) ++ rest).Sublist source.toList ∧
        ∀ t ∈ cut, t.image ≠ "" ∧ t.token ≠ .endOfInput) ∧
    (∀ q : Call, q.run outcome = (body q.routine q.nesting q.operand).exec outcome q.tokens ∧
      ∀ fuel, q.enough ≤ fuel → q.run (within fuel) = q.run outcome) ∧
    (WellFounded fun q' q : Call => q.Makes q') ∧
    (∀ q q' : Call, Relation.TransGen Call.Makes q q' → q'.routine = q.routine →
      q'.tokens <:+ q.tokens ∧ q'.tokens.length < q.tokens.length) ∧
    ∀ ts : Tokens, EndsOnce (ts.map (·.token)) →
      (parse ts = statementBody.exec outcome ts >>= fun s => .ok s.1) ∧
      (∀ place, parse ts ≠ .error ⟨.exhausted, place⟩) ∧
      (∀ q, Call.MadeFor ts q → (q.tokens <:+ ts ∧ EndsOnce (q.tokens.map (·.token))) ∧
        ∀ tree rest, q.run outcome = .ok (tree, rest) →
          rest <:+ q.tokens ∧ EndsOnce (rest.map (·.token))) ∧
      (takenBy ts <+: ts ∧ ∀ t ∈ takenBy ts, t.token ≠ .endOfInput) ∧
      ∀ s, parse ts = .ok s → ∃ last, ts = takenBy ts ++ [last] ∧ last.token = .endOfInput := by
  refine ⟨fun source => ⟨?_, fun cut place rest h => ?_⟩,
    fun q => ⟨outcome_eq, fun fuel => within_eq_outcome⟩, Call.makes_wellFounded,
    fun q q' => Call.cycle_descends, fun ts hts => ⟨parse_eq_outcome ts, ?_, ?_, ?_, ?_⟩⟩
  · exact exists_cutsOff source.toList .start
  · exact ⟨String.length_toList ▸ h.length_le, h.sublist, h.image_ne⟩
  · intro place h
    cases isSyntactic_of_parse h
  · intro q hq
    have hends := hts.of_passes hq.passes
    refine ⟨⟨hq.passes.isSuffix, hends⟩, fun tree rest h => ?_⟩
    exact ⟨(outcome_advances h).isSuffix, hends.of_passes (outcome_advances h)⟩
  · exact ⟨(statement_accounts ts).isPrefix, (statement_accounts ts).notEnd⟩
  · exact fun s => takenBy_of_parse hts

open JsonPath.Parser in
/-- `-$`: the sign is read by the function that then reads what has the sign. -/
theorem lexing_and_parsing_finish_sign :
    let minus : SourceToken := ⟨.minus, "-", ⟨0, 1, 1⟩⟩
    let dollar : SourceToken := ⟨.dollar, "$", ⟨1, 1, 2⟩⟩
    let last : SourceToken := ⟨.endOfInput, "", ⟨2, 1, 3⟩⟩
    let ts : Tokens := [minus, dollar, last]
    let c : Nesting := ⟨false, false⟩
    (CutsOff .start "-$".toList [minus, dollar] ⟨2, 1, 3⟩ [] ∧ 2 + 0 ≤ "-$".length) ∧
      (Relation.TransGen Call.Makes ⟨.signed, c, (), ts⟩ ⟨.signed, c, (), ts.tail⟩ ∧
        ts.tail.length < ts.length) ∧
      (Call.MadeFor ts ⟨.disjunction, c, (), ts⟩ ∧ ts <:+ ts) ∧
      parse ts = .ok (.lax, .path (.signed .minus .root)) ∧
      ∃ last', ts = takenBy ts ++ [last'] ∧ last'.token = .endOfInput := by
  intro minus dollar last ts c
  obtain ⟨hlexer, -, -, hcycles, hparser⟩ := lexing_and_parsing_finish
  have hcut : CutsOff .start "-$".toList [minus, dollar] ⟨2, 1, 3⟩ [] := by
    have hsource : "-$".toList = ['-', '$'] := by simp
    rw [hsource]
    exact .token rfl rfl rfl (.token rfl rfl rfl .here)
  have hcycle : Relation.TransGen Call.Makes ⟨.signed, c, (), ts⟩ ⟨.signed, c, (), ts.tail⟩ :=
    .single (List.mem_cons_self ..)
  have hmade : Call.MadeFor ts ⟨.disjunction, c, (), ts⟩ := .statement (List.mem_cons_self ..)
  have hts : EndsOnce (ts.map (·.token)) := ⟨[.minus, .dollar], rfl, by decide⟩
  have hparse : parse ts = .ok (.lax, .path (.signed .minus .root)) := by rfl
  obtain ⟨-, -, hinside, -, hused⟩ := hparser ts hts
  exact ⟨⟨hcut, (hlexer _).2 _ _ _ hcut |>.1⟩, ⟨hcycle, (hcycles _ _ hcycle rfl).2⟩,
    ⟨hmade, (hinside _ hmade).1.1⟩, hparse, hused _ hparse⟩

end JsonPath
