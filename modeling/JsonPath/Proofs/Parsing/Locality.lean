import JsonPath.Proofs.Parsing.Termination

/-!
# How far the parser looks

What is read does not depend on what comes behind the next token, and a complaint about a
token does not depend on what comes behind the token after it.

* `LocalAt` states this of a function from tokens and the tokens that it is given: those
  behind the ones that are looked at may be replaced by any others.
* `Action.exec_localAt` shows it of orderly actions, `outcome_localAt` of the functions of the
  parser, and `parse_localAt` of statements.
-/

namespace JsonPath

namespace Parser

/-! ## Tokens that agree -/

section Agreement

variable {n m : Nat} {rest rest' ts ts' : Tokens}

theorem take_append (pre : Tokens) (h : rest'.take n = rest.take n) (hm : m ≤ pre.length + n) :
    (pre ++ rest').take m = (pre ++ rest).take m := by
  rw [← Nat.min_eq_left hm, ← List.take_take, ← List.take_take, List.take_length_add_append,
    List.take_length_add_append, h]

theorem first_eq_of_take (h : ts'.take 1 = ts.take 1) : first ts' = first ts := by
  cases ts with
  | nil => cases ts' with
    | nil => rfl
    | cons => cases h
  | cons => cases ts' with
    | nil => cases h
    | cons => exact (List.cons_eq_cons.1 h).1

theorem next_eq_of_take (h : ts'.take 1 = ts.take 1) : next ts' = next ts :=
  congrArg SourceToken.token (first_eq_of_take h)

theorem next_tail_eq_of_take (h : ts'.take 2 = ts.take 2) : next ts'.tail = next ts.tail := by
  refine next_eq_of_take ?_
  rw [← List.drop_one, ← List.drop_one, List.take_drop, List.take_drop, h]

end Agreement

/-! ## Local functions -/

/-- What is read of some tokens depends on those that are taken and the next one.  A complaint
about a token depends on those before it, on the token and on the one behind it. -/
structure LocalAt {α : Type} (x : Tokens → Except SyntaxError (α × Tokens)) (ts : Tokens) :
    Prop where
  ok : ∀ {a rest}, x ts = .ok (a, rest) →
    ∃ pre, ts = pre ++ rest ∧
      ∀ rest', rest'.take 1 = rest.take 1 → x (pre ++ rest') = .ok (a, rest')
  error : ∀ {expected found place},
    x ts = .error ⟨.unexpectedToken expected found, place⟩ →
    ∃ pre mid, ts = pre ++ mid ∧ found = (first mid).describe ∧ place = (first mid).position ∧
      ∀ mid', mid'.take 2 = mid.take 2 →
        x (pre ++ mid') = .error ⟨.unexpectedToken expected found, place⟩

namespace LocalAt

variable {α β : Type} {x y : Tokens → Except SyntaxError (α × Tokens)} {ts : Tokens}

theorem done (a : α) (ts : Tokens) : LocalAt (fun ts => .ok (a, ts)) ts := by
  constructor
  · rintro _ _ ⟨⟩
    exact ⟨[], rfl, fun rest' _ => rfl⟩
  · rintro _ _ _ ⟨⟩

theorem refuse (expected : Expectation) (ts : Tokens) :
    LocalAt (unexpected expected : Tokens → Except SyntaxError (α × Tokens)) ts := by
  constructor
  · rintro _ _ ⟨⟩
  · rintro _ _ _ ⟨⟩
    refine ⟨[], ts, rfl, rfl, rfl, fun mid' h => ?_⟩
    have hfirst : first mid' = first ts :=
      first_eq_of_take (take_append [] h (by decide))
    show unexpected expected mid' = unexpected expected ts
    simp only [unexpected, complain, hfirst]

theorem object {complaint : Complaint} (h : complaint.isObjection = true) (place : Position)
    (ts : Tokens) :
    LocalAt (fun _ => .error ⟨complaint, place⟩ : Tokens → Except SyntaxError (α × Tokens)) ts := by
  constructor
  · rintro _ _ ⟨⟩
  · rintro _ _ _ ⟨⟩
    cases h

/-- A choice by the next token. -/
theorem of_next (h : LocalAt y ts) (hxy : ∀ ts', ts'.take 1 = ts.take 1 → x ts' = y ts') :
    LocalAt x ts := by
  constructor
  · intro a rest hx
    obtain ⟨pre, rfl, hpre⟩ := h.ok (hxy ts rfl ▸ hx)
    refine ⟨pre, rfl, fun rest' hrest => ?_⟩
    rw [hxy _ (take_append pre hrest (Nat.le_add_left _ _)), hpre rest' hrest]
  · intro expected found place hx
    obtain ⟨pre, mid, rfl, hfound, hplace, hpre⟩ := h.error (hxy ts rfl ▸ hx)
    refine ⟨pre, mid, rfl, hfound, hplace, fun mid' hmid => ?_⟩
    rw [hxy _ (take_append pre hmid (by omega)), hpre mid' hmid]

/-- A choice by the next two tokens, one of which is taken sooner or later. -/
theorem of_next_two (h : LocalAt y ts)
    (hmoves : ∀ a rest, y ts = .ok (a, rest) → rest.length < ts.length)
    (hxy : ∀ ts', ts'.take 2 = ts.take 2 → x ts' = y ts') : LocalAt x ts := by
  constructor
  · intro a rest hx
    rw [hxy ts rfl] at hx
    have hlength := hmoves a rest hx
    obtain ⟨pre, rfl, hpre⟩ := h.ok hx
    rw [List.length_append] at hlength
    refine ⟨pre, rfl, fun rest' hrest => ?_⟩
    rw [hxy _ (take_append pre hrest (by omega)), hpre rest' hrest]
  · intro expected found place hx
    obtain ⟨pre, mid, rfl, hfound, hplace, hpre⟩ := h.error (hxy ts rfl ▸ hx)
    refine ⟨pre, mid, rfl, hfound, hplace, fun mid' hmid => ?_⟩
    rw [hxy _ (take_append pre hmid (Nat.le_add_left _ _)), hpre mid' hmid]

/-- What is done behind some tokens that have been taken. -/
theorem behind (front : Tokens) (h : LocalAt y ts) (hxy : ∀ ts', x (front ++ ts') = y ts') :
    LocalAt x (front ++ ts) := by
  constructor
  · intro a rest hx
    obtain ⟨pre, rfl, hpre⟩ := h.ok (hxy ts ▸ hx)
    refine ⟨front ++ pre, (List.append_assoc ..).symm, fun rest' hrest => ?_⟩
    rw [List.append_assoc, hxy, hpre rest' hrest]
  · intro expected found place hx
    obtain ⟨pre, mid, rfl, hfound, hplace, hpre⟩ := h.error (hxy ts ▸ hx)
    refine ⟨front ++ pre, mid, (List.append_assoc ..).symm, hfound, hplace, fun mid' hmid => ?_⟩
    rw [List.append_assoc, hxy, hpre mid' hmid]

/-- One reading behind the other. -/
theorem bind {f : α → Tokens → Except SyntaxError (β × Tokens)} (h : LocalAt x ts)
    (hf : ∀ a rest, x ts = .ok (a, rest) → LocalAt (f a) rest) :
    LocalAt (fun ts => x ts >>= fun p => f p.1 p.2) ts := by
  constructor
  · intro b rest' hb
    obtain ⟨⟨a, rest⟩, hx, hfx⟩ := bind_eq_ok_iff.1 hb
    obtain ⟨pre, rfl, hpre⟩ := h.ok hx
    obtain ⟨pre', rfl, hpre'⟩ := (hf a rest hx).ok hfx
    refine ⟨pre ++ pre', (List.append_assoc ..).symm, fun final hfinal => ?_⟩
    have hagree := take_append pre' hfinal (Nat.le_add_left 1 _)
    show x (pre ++ pre' ++ final) >>= _ = _
    rw [List.append_assoc, hpre _ hagree]
    exact hpre' final hfinal
  · intro expected found place hb
    cases hx : x ts with
    | error e =>
        replace hb : x ts >>= _ = _ := hb
        rw [hx] at hb
        cases hb
        obtain ⟨pre, mid, rfl, hfound, hplace, hpre⟩ := h.error hx
        refine ⟨pre, mid, rfl, hfound, hplace, fun mid' hmid => ?_⟩
        show x (pre ++ mid') >>= _ = _
        rw [hpre mid' hmid]
        rfl
    | ok result =>
        obtain ⟨a, rest⟩ := result
        replace hb : x ts >>= _ = _ := hb
        rw [hx] at hb
        obtain ⟨pre, rfl, hpre⟩ := h.ok hx
        obtain ⟨pre', mid, rfl, hfound, hplace, hpre'⟩ := (hf a rest hx).error hb
        refine ⟨pre ++ pre', mid, (List.append_assoc ..).symm, hfound, hplace, fun mid' hmid => ?_⟩
        have hagree := take_append pre' hmid (show 1 ≤ _ by omega)
        show x (pre ++ pre' ++ mid') >>= _ = _
        rw [List.append_assoc, hpre _ hagree]
        exact hpre' mid' hmid

end LocalAt

section Local

variable {α : Type} {run : Runner} {log : Log} {level : Nat} {moved : Bool}

/-- Orderly actions are local if the functions are that they call. -/
theorem Action.exec_localAt
    (hrun : ∀ r c e ts, Accounts (r.consumes = true) ts (log r c e ts) (run r c e ts))
    {a : Action α} (ha : a.Orderly level moved) {ts : Tokens}
    (hcalls : ∀ q ∈ a.calls run ts, LocalAt (run q.routine q.nesting q.operand) q.tokens) :
    LocalAt (a.exec run) ts := by
  induction a generalizing moved ts with
  | done a => exact .done a ts
  | refuse expected => exact .refuse expected ts
  | object complaint place => exact .object ha place ts
  | atEnd yes no ihyes ihno =>
      simp only [calls] at hcalls
      split at hcalls
      · next hx =>
          refine .of_next (ihyes ha.1 hcalls) fun ts' h => ?_
          rw [exec, next_eq_of_take h, if_pos hx]
      · next hx =>
          refine .of_next (ihno ha.2 hcalls) fun ts' h => ?_
          rw [exec, next_eq_of_take h, if_neg hx]
  | take test taken left ihtaken ihleft =>
      obtain ⟨htest, htaken, hleft⟩ := ha
      simp only [calls] at hcalls
      split at hcalls
      · next hx =>
          cases ts with
          | nil =>
              replace hx : test .endOfInput = true := hx
              rw [htest] at hx
              cases hx
          | cons t ts =>
              refine .behind [t] (ihtaken t (htaken t hx) hcalls) fun ts' => ?_
              exact if_pos hx
      · next hx =>
          refine .of_next (ihleft hleft hcalls) fun ts' h => ?_
          rw [exec, next_eq_of_take h, if_neg hx]
  | takePair x y taken left ihtaken ihleft =>
      obtain ⟨hx, hy, htaken, hleft, hmoves⟩ := ha
      simp only [calls] at hcalls
      split at hcalls
      · next hpair =>
          obtain ⟨rfl, rfl⟩ := hpair
          cases ts with
          | nil => cases hx
          | cons t ts => cases ts with
            | nil => cases hy
            | cons u ts =>
                refine .behind [t, u] (ihtaken htaken hcalls) fun ts' => ?_
                exact if_pos ⟨rfl, rfl⟩
      · next hpair =>
          -- Two tokens were looked at, and a success may depend on one behind it only: orderly
          -- actions that leave the pair take a token later.
          refine .of_next_two (ihleft hleft hcalls) (fun a rest h => ?_) fun ts' h => ?_
          · exact ((left.exec_accounts hrun hleft ts).passes h).length_lt hmoves
          · have hnext : next ts' = next ts := next_eq_of_take (take_append [] h (by decide))
            rw [exec, hnext, next_tail_eq_of_take h, if_neg hpair]
  | call r c e next ih =>
      simp only [calls] at hcalls
      obtain ⟨hcall, hrest⟩ := List.forall_mem_cons.1 hcalls
      refine LocalAt.bind hcall fun tree rest h => ih tree (ha.2 tree) ?_
      replace h : run r c e ts = .ok (tree, rest) := h
      rwa [h] at hrest

theorem outcome_accounts (r : Routine) (c : Nesting) (e : r.Operand) (ts : Tokens) :
    Accounts (r.consumes = true) ts (takenWithin (Call.mk r c e ts).enough r c e ts)
      (outcome r c e ts) :=
  within_accounts _ r c e ts

/-- The functions of the parser are local, since those are that they call. -/
theorem outcome_localAt (q : Call) :
    LocalAt (outcome q.routine q.nesting q.operand) q.tokens := by
  induction q using Call.makes_wellFounded.induction with
  | _ q ih =>
      have hbody : outcome q.routine q.nesting q.operand = (body _ _ _).exec outcome :=
        funext fun ts => outcome_eq
      rw [hbody]
      exact Action.exec_localAt outcome_accounts (orderly_body _ _ _) ih

/-- A complaint about a token of a statement depends on those before it, on the token and on
the one behind it. -/
theorem parse_local {ts : Tokens} {expected : Expectation} {found : String} {place : Position}
    (h : parse ts = .error ⟨.unexpectedToken expected found, place⟩) :
    ∃ pre mid, ts = pre ++ mid ∧ found = (first mid).describe ∧ place = (first mid).position ∧
      ∀ mid', mid'.take 2 = mid.take 2 →
        parse (pre ++ mid') = .error ⟨.unexpectedToken expected found, place⟩ := by
  have hlocal : LocalAt (statementBody.exec outcome) ts :=
    Action.exec_localAt outcome_accounts orderly_statementBody fun q _ => outcome_localAt q
  have hparse {ts : Tokens} {e : SyntaxError} :
      parse ts = .error e ↔ statementBody.exec outcome ts = .error e := by
    rw [parse_eq_outcome]
    cases statementBody.exec outcome ts with
    | error e => simp [bind, Except.bind]
    | ok s => simp [bind, Except.bind]
  obtain ⟨pre, mid, hts, hfound, hplace, hpre⟩ := hlocal.error (hparse.1 h)
  exact ⟨pre, mid, hts, hfound, hplace, fun mid' hmid => hparse.2 (hpre mid' hmid)⟩

end Local

end Parser

end JsonPath
