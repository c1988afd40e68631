import JsonPath.Proofs.Parsing.Actions
import JsonPath.Proofs.Parsing.Parallel

/-!
# The parser takes its tokens one by one

* `Routine.level` orders the functions of the parser, and `Routine.consumes` tells which of
  them take a token whenever they succeed.
* `Action.Orderly` is what the actions of every function keep to (`orderly_body`): the end of
  the input is not taken, and before the first token is taken only functions of lower levels
  are called.
* `Action.taken` is the log of a run, the tokens that are taken from beginning to end.
  `within_accounts` says of every function that they are the first of those in front of it, in
  their order, and that the others are what a success leaves.
-/

namespace JsonPath

/-- The complaint is that something which is in its place is not allowed or not known. -/
def Complaint.isObjection : Complaint → Bool
  | .currentOutsideFilter | .lastOutsideSubscript | .unknownMethod _ | .pattern _ => true
  | _ => false

namespace Parser

/-! ## The order of the functions -/

namespace Routine

/-- How far a function is above the operands.  As long as it has taken no token, a function
calls only functions of lower levels. -/
def level : Routine → Nat
  | primary | pathTail | productTail | sumTail | simpleTail => 0
  | signed | groupTail => 1
  | product => 2
  | sum => 3
  | simple | subscript => 4
  | negation | subscripts => 5
  | conjuncts | bracketStep => 6
  | conjunction => 7
  | disjuncts => 8
  | disjunction => 9

/-- Whether a function takes a token whenever it succeeds.  Those that continue an operand
may find that nothing follows it. -/
def consumes : Routine → Bool
  | groupTail | simpleTail | sumTail | productTail | pathTail => false
  | _ => true

end Routine

/-! ## Orderly actions -/

namespace Action

variable {α β : Type}

/-- Every success has taken a token. -/
def Moves : Action α → Prop
  | done _ => False
  | refuse _ | object _ _ => True
  | atEnd yes no => yes.Moves ∧ no.Moves
  | take _ _ left => left.Moves
  | takePair _ _ _ left => left.Moves
  | call r _ _ next => r.consumes = true ∨ ∀ tree, (next tree).Moves

/-- What the actions of a function of some level keep to, given whether a token has been
taken.  The end of the input is not taken.  Before the first token, only functions of lower
levels are called.  Where two tokens are looked at, one of them is taken at least. -/
def Orderly (level : Nat) : Bool → Action α → Prop
  | _, done _ | _, refuse _ => True
  | _, object complaint _ => complaint.isObjection = true
  | moved, atEnd yes no => yes.Orderly level moved ∧ no.Orderly level moved
  | moved, take test taken left =>
      test .endOfInput = false ∧ (∀ t, test t.token = true → (taken t).Orderly level true) ∧
        left.Orderly level moved
  | moved, takePair x y taken left =>
      x.isEnd = false ∧ y.isEnd = false ∧ taken.Orderly level true ∧
        left.Orderly level moved ∧ left.Moves
  | moved, call r _ _ next =>
      (moved = true ∨ r.level < level) ∧ ∀ tree, (next tree).Orderly level (moved || r.consumes)

/-- A token that has been taken stays so. -/
theorem Moves.bind {x : Action α} {f : α → Action β} (h : x.Moves) : (x >>= f).Moves := by
  show (x.bind f).Moves
  induction x with
  | done a => exact h.elim
  | refuse expected => trivial
  | object complaint place => trivial
  | atEnd yes no ihyes ihno => exact ⟨ihyes h.1, ihno h.2⟩
  | take test taken left _ ih => exact ih h
  | takePair x y taken left _ ih => exact ih h
  | call r c e next ih => exact h.imp_right fun hnext tree => ih tree (hnext tree)

theorem test_end {x : Token} (hx : x.isEnd = false) : decide (Token.endOfInput = x) = false :=
  decide_eq_false (Token.isEnd_eq_false_iff.1 hx).symm

namespace Orderly

variable {level : Nat} {moved : Bool} {c : Nesting} {x y : Token}

/-- Actions one after the other, behind a token that has been taken. -/
theorem bind {x : Action α} {f : α → Action β} (hx : x.Orderly level true)
    (hf : ∀ a, (f a).Orderly level true) : (x >>= f).Orderly level true := by
  show (x.bind f).Orderly level true
  induction x with
  | done a => exact hf a
  | refuse expected => trivial
  | object complaint place => exact hx
  | atEnd yes no ihyes ihno => exact ⟨ihyes hx.1, ihno hx.2⟩
  | take test taken left ihtaken ihleft =>
      exact ⟨hx.1, fun t ht => ihtaken t (hx.2.1 t ht), ihleft hx.2.2⟩
  | takePair x y taken left ihtaken ihleft =>
      obtain ⟨hxend, hyend, htaken, hleft, hmoves⟩ := hx
      exact ⟨hxend, hyend, ihtaken htaken, ihleft hleft, Moves.bind hmoves⟩
  | call r c e next ih => exact ⟨.inl rfl, fun tree => ih tree (hx.2 tree)⟩

theorem read {r : Routine} {e : r.Operand} (hr : moved = true ∨ r.level < level) :
    (read r c e).Orderly level moved :=
  ⟨hr, fun _ => trivial⟩

theorem read_bind {r : Routine} {e : r.Operand} {f : r.Tree → Action β}
    (hr : moved = true ∨ r.level < level)
    (hf : ∀ tree, (f tree).Orderly level (moved || r.consumes)) :
    (Action.read r c e >>= f).Orderly level moved :=
  ⟨hr, hf⟩

theorem ended_bind {f : Bool → Action β} (htrue : (f true).Orderly level moved)
    (hfalse : (f false).Orderly level moved) : (ended >>= f).Orderly level moved :=
  ⟨htrue, hfalse⟩

theorem eat_bind {f : Bool → Action β} (hx : x.isEnd = false) (htrue : (f true).Orderly level true)
    (hfalse : (f false).Orderly level moved) : (eat x >>= f).Orderly level moved :=
  ⟨test_end hx, fun _ _ => htrue, hfalse⟩

theorem eatPair_bind {f : Bool → Action β} (hx : x.isEnd = false) (hy : y.isEnd = false)
    (htrue : (f true).Orderly level true) (hfalse : (f false).Orderly level moved)
    (hmoves : (f false).Moves) : (eatPair x y >>= f).Orderly level moved :=
  ⟨hx, hy, htrue, hfalse, hmoves⟩

theorem expect_bind {expected : Expectation} {f : Unit → Action β} (hx : x.isEnd = false)
    (hf : (f ()).Orderly level true) : (Action.expect x expected >>= f).Orderly level moved :=
  ⟨test_end hx, fun _ _ => hf, trivial⟩

theorem accept_bind {meaning : Token → Option α} {f : Option (α × Position) → Action β}
    (hend : meaning .endOfInput = none)
    (hsome : ∀ x b place, meaning x = some b → (f (some (b, place))).Orderly level true)
    (hnone : (f none).Orderly level moved) : (accept meaning >>= f).Orderly level moved := by
  refine ⟨congrArg Option.isSome hend, fun t ht => ?_, hnone⟩
  obtain ⟨b, hb⟩ := Option.isSome_iff_exists.1 ht
  show (f ((meaning t.token).map _)).Orderly level true
  rw [hb]
  exact hsome t.token b t.position hb

end Orderly

end Action

/-! ### Bodies -/

section Bodies

variable {level : Nat} {subject : Expr} {c : Nesting} {ts : Tokens}

open JsonPath.Parser.Action

/-- A reference that stands in the wrong place is objected to. -/
theorem atom?_isObjection {e : SyntaxError} (h : atom? c ts = some (.error e)) :
    e.complaint.isObjection = true := by
  rw [atom?] at h
  cases hx : next ts with
  | word w =>
      rw [hx] at h
      replace h : wordAtom? c ts w = some (.error e) := h
      unfold wordAtom? at h
      split at h
      case h_4 =>
        split at h
        · cases h
        · cases h
          rfl
      all_goals cases h
  | «at» =>
      rw [hx] at h
      replace h : some (if c.inFilter then _ else complain .currentOutsideFilter ts) =
        some (Except.error e) := h
      split at h
      · cases h
      · cases h
        rfl
  | _ =>
      rw [hx] at h
      cases h

theorem atomOf_isObjection {x : Token} {complaint : Complaint}
    (h : atomOf c x = some (.error complaint)) : complaint.isObjection = true := by
  obtain ⟨atom, hatom, h⟩ := Option.map_eq_some_iff.1 h
  cases atom with
  | ok e => cases h
  | error e =>
      cases h
      exact atom?_isObjection hatom

theorem orderly_stringBody : stringBody.Orderly level true :=
  .accept_bind rfl (fun _ _ _ _ => trivial) trivial

theorem orderly_methodBody (name : String) (place : Position) :
    (methodBody name place).Orderly level true := by
  unfold methodBody
  split
  · exact .accept_bind rfl (fun _ _ _ _ => .expect_bind rfl trivial) (.expect_bind rfl trivial)
  · split
    · exact rfl
    · exact .expect_bind rfl trivial

theorem orderly_dotBody : dotBody.Orderly level true := by
  refine .eat_bind rfl trivial (.accept_bind rfl (fun _ _ _ _ => trivial) ?_)
  refine .accept_bind rfl (fun _ name place _ => ?_) trivial
  exact .eat_bind rfl (orderly_methodBody name place) trivial

theorem orderly_startsWithBody : (startsWithBody subject).Orderly level true :=
  .expect_bind rfl (.accept_bind rfl (fun _ _ _ _ => trivial) trivial)

theorem orderly_flagsBody : flagsBody.Orderly level true :=
  .eat_bind rfl (orderly_stringBody.bind fun _ => trivial) trivial

theorem orderly_likeRegexBody : (likeRegexBody subject).Orderly level true := by
  refine orderly_stringBody.bind fun (text, place) => orderly_flagsBody.bind fun flags => ?_
  split
  · trivial
  · rfl

theorem orderly_body (r : Routine) (c : Nesting) (e : r.Operand) :
    (body r c e).Orderly r.level false := by
  cases r with
  | disjunction | conjunction => exact .read_bind (.inr (by decide)) fun _ => trivial
  | disjuncts | conjuncts | subscripts | subscript =>
      refine .read_bind (.inr (by decide)) fun _ => .eat_bind rfl ?_ trivial
      exact .read_bind (.inl rfl) fun _ => trivial
  | negation =>
      refine .eat_bind rfl (.read_bind (.inl rfl) fun _ => trivial) ?_
      refine .eat_bind rfl ?_ (.read (.inr (by decide)))
      refine .read_bind (.inl rfl) fun p => .expect_bind rfl ?_
      refine .eat_bind rfl (.expect_bind rfl trivial) ?_
      cases p with
      | condition e => exact .read (.inl rfl)
      | _ => trivial
  | groupTail =>
      refine .read_bind (.inr (by decide)) fun e => .read_bind (.inr (by decide)) fun e => ?_
      exact .read_bind (.inr (by decide)) fun e => .read (.inr (by decide))
  | simple =>
      refine .eatPair_bind rfl rfl ?_ ?_ (.inl rfl)
      · exact .read_bind (.inl rfl) fun e => .expect_bind rfl trivial
      · exact .read_bind (.inr (by decide)) fun e => .read (.inl rfl)
  | simpleTail =>
      refine .accept_bind rfl (fun _ op _ _ => .read_bind (.inl rfl) fun _ => trivial) ?_
      refine .eat_bind rfl orderly_startsWithBody ?_
      exact .eat_bind rfl orderly_likeRegexBody trivial
  | sum | product => exact .read_bind (.inr (by decide)) fun _ => .read (.inl rfl)
  | sumTail | productTail =>
      refine .accept_bind rfl (fun _ op _ _ => ?_) trivial
      exact .read_bind (.inl rfl) fun _ => .read (.inl rfl)
  | signed =>
      refine .accept_bind rfl (fun _ op _ _ => .read_bind (.inl rfl) fun _ => trivial) ?_
      exact .read_bind (.inr (by decide)) fun _ => .read (.inl rfl)
  | primary =>
      refine .eat_bind rfl ?_ (.accept_bind rfl (fun _ atom place hatom => ?_) trivial)
      · exact .read_bind (.inl rfl) fun _ => .expect_bind rfl trivial
      · cases atom with
        | ok e => trivial
        | error complaint => exact atomOf_isObjection hatom
  | pathTail =>
      refine .eat_bind rfl (orderly_dotBody.bind fun _ => .read (.inl rfl)) ?_
      refine .eat_bind rfl (.read_bind (.inl rfl) fun _ => .read (.inl rfl)) ?_
      refine .eat_bind rfl (.expect_bind rfl ?_) trivial
      exact .read_bind (.inl rfl) fun p => .expect_bind rfl (.read (.inl rfl))
  | bracketStep =>
      refine .eatPair_bind rfl rfl trivial ?_ (.inl rfl)
      exact .read_bind (.inr (by decide)) fun _ => .expect_bind rfl trivial

theorem moves_body {r : Routine} (c : Nesting) (e : r.Operand) (h : r.consumes = true) :
    (body r c e).Moves := by
  cases r with
  | groupTail | simpleTail | sumTail | productTail | pathTail => cases h
  | primary => trivial
  | _ => exact .inl rfl

theorem orderly_statementBody : statementBody.Orderly 10 false := by
  have hinside (moved : Bool) (m : Mode) : (insideBody m).Orderly 10 moved :=
    .read_bind (.inr (by decide)) fun _ => .ended_bind trivial trivial
  exact .accept_bind rfl (fun _ m _ _ => hinside true m) (hinside false .lax)

end Bodies

/-! ## Taking tokens -/

/-- The tokens `rest` are what is left of `ts` once some tokens have been taken, at least one
if there must be one.  The end of the input is not among them. -/
def Passes (must : Prop) (ts rest : Tokens) : Prop :=
  ∃ taken, ts = taken ++ rest ∧ (∀ t ∈ taken, t.token ≠ .endOfInput) ∧ (must → taken ≠ [])

namespace Passes

variable {p q : Prop} {ts mid rest : Tokens}

theorem refl (hp : ¬p) (ts : Tokens) : Passes p ts ts :=
  ⟨[], rfl, List.forall_mem_nil _, fun h => absurd h hp⟩

theorem trans (h : Passes p ts mid) (h' : Passes q mid rest) : Passes (p ∨ q) ts rest := by
  obtain ⟨taken, rfl, hend, hp⟩ := h
  obtain ⟨taken', rfl, hend', hq⟩ := h'
  refine ⟨taken ++ taken', (List.append_assoc ..).symm, ?_, fun h hnil => ?_⟩
  · exact List.forall_mem_append.2 ⟨hend, hend'⟩
  · obtain ⟨hnil, hnil'⟩ := List.append_eq_nil_iff.1 hnil
    exact h.elim (fun h => hp h hnil) fun h => hq h hnil'

theorem mono (h : Passes p ts rest) (hpq : q → p) : Passes q ts rest := by
  obtain ⟨taken, hts, hend, hp⟩ := h
  exact ⟨taken, hts, hend, fun hq => hp (hpq hq)⟩

/-- A token that is not the end is there and can be taken. -/
theorem tail (h : next ts ≠ .endOfInput) : Passes p ts ts.tail := by
  cases ts with
  | nil => exact absurd rfl h
  | cons t ts => exact ⟨[t], rfl, List.forall_mem_singleton.2 h, fun _ => List.cons_ne_nil _ _⟩

theorem isSuffix (h : Passes p ts rest) : rest <:+ ts := by
  obtain ⟨taken, rfl, -⟩ := h
  exact List.suffix_append _ _

theorem length_lt (h : Passes p ts rest) (hp : p) : rest.length < ts.length := by
  obtain ⟨taken, rfl, -, hne⟩ := h
  have := List.length_pos_iff.2 (hne hp)
  rw [List.length_append]
  omega

end Passes

/-- The tokens that each function takes, whether it succeeds or not. -/
abbrev Log := (r : Routine) → Nesting → r.Operand → Tokens → Tokens

/-- The tokens that are taken in the course of actions, in order, given what the functions
that are called return and what they take. -/
def Action.taken {α : Type} (run : Runner) (log : Log) : Action α → Tokens → Tokens
  | done _, _ | refuse _, _ | object _ _, _ => []
  | atEnd yes no, ts =>
      if next ts = .endOfInput then yes.taken run log ts else no.taken run log ts
  | take test taken left, ts =>
      if test (next ts) then first ts :: (taken (first ts)).taken run log ts.tail
      else left.taken run log ts
  | takePair x y taken left, ts =>
      if next ts = x ∧ next ts.tail = y then
        first ts :: first ts.tail :: taken.taken run log ts.tail.tail
      else left.taken run log ts
  | call r c e next, ts =>
      log r c e ts ++
        match run r c e ts with
        | .ok (tree, rest) => (next tree).taken run log rest
        | .error _ => []

/-- The tokens that a function takes within a budget. -/
def takenWithin : Nat → Log
  | 0, _, _, _, _ => []
  | fuel + 1, r, c, e, ts => (body r c e).taken (within fuel) (takenWithin fuel) ts

/-- The tokens that are taken, of those in front of the cursor, on the way to a result. -/
structure Accounts {α : Type} (must : Prop) (ts taken : Tokens)
    (x : Except SyntaxError (α × Tokens)) : Prop where
  isPrefix : taken <+: ts
  notEnd : ∀ t ∈ taken, t.token ≠ .endOfInput
  rest : ∀ a rest, x = .ok (a, rest) → ts = taken ++ rest ∧ (must → taken ≠ [])

namespace Accounts

variable {α : Type} {p q : Prop} {ts taken : Tokens} {x : Except SyntaxError (α × Tokens)}

theorem passes {a : α} {rest : Tokens} (h : Accounts p ts taken x) (hx : x = .ok (a, rest)) :
    Passes p ts rest :=
  ⟨taken, (h.rest a rest hx).1, h.notEnd, (h.rest a rest hx).2⟩

theorem error (ts : Tokens) (e : SyntaxError) :
    Accounts p ts [] (.error e : Except SyntaxError (α × Tokens)) := by
  refine ⟨List.nil_prefix, List.forall_mem_nil _, fun a rest h => ?_⟩
  cases h

theorem mono (h : Accounts p ts taken x) (hqp : q → p) : Accounts q ts taken x :=
  ⟨h.isPrefix, h.notEnd, fun a rest hx => (h.rest a rest hx).imp_right fun hp hq => hp (hqp hq)⟩

/-- One more token in front, which is taken first. -/
theorem cons (hx : next ts ≠ .endOfInput) (h : Accounts q ts.tail taken x) :
    Accounts p ts (first ts :: taken) x := by
  cases ts with
  | nil => exact absurd rfl hx
  | cons t ts =>
      refine ⟨List.cons_prefix_cons.2 ⟨rfl, h.isPrefix⟩, ?_, fun a rest hok => ⟨?_, ?_⟩⟩
      · exact List.forall_mem_cons.2 ⟨hx, h.notEnd⟩
      · exact congrArg (t :: ·) (h.rest a rest hok).1
      · exact fun _ => List.cons_ne_nil _ _

/-- A reading that goes on behind the tokens of another one. -/
theorem append {front mid : Tokens} (hts : ts = front ++ mid)
    (hend : ∀ t ∈ front, t.token ≠ .endOfInput) (hp : p → front ≠ [])
    (h : Accounts q mid taken x) : Accounts (p ∨ q) ts (front ++ taken) x := by
  refine ⟨?_, List.forall_mem_append.2 ⟨hend, h.notEnd⟩, fun a rest hok => ⟨?_, ?_⟩⟩
  · exact hts ▸ (List.prefix_append_right_inj front).2 h.isPrefix
  · rw [hts, (h.rest a rest hok).1, List.append_assoc]
  · intro hpq hnil
    obtain ⟨hfront, htaken⟩ := List.append_eq_nil_iff.1 hnil
    exact hpq.elim (fun h => hp h hfront) fun hq => (h.rest a rest hok).2 hq htaken

end Accounts

section Accounting

variable {α : Type} {run : Runner} {log : Log} {level : Nat} {moved : Bool}

/-- A test that the end of the input does not pass. -/
theorem next_ne_end {test : Token → Bool} {ts : Tokens} (htest : test .endOfInput = false)
    (hx : test (next ts) = true) : next ts ≠ .endOfInput := by
  intro hend
  rw [hend, htest] at hx
  cases hx

/-- Actions take some of the tokens in front of them one by one. -/
theorem Action.exec_accounts
    (hrun : ∀ r c e ts, Accounts (r.consumes = true) ts (log r c e ts) (run r c e ts))
    (a : Action α) (ha : a.Orderly level moved) (ts : Tokens) :
    Accounts a.Moves ts (a.taken run log ts) (a.exec run ts) := by
  induction a generalizing moved ts with
  | done a =>
      refine ⟨List.nil_prefix, List.forall_mem_nil _, ?_⟩
      rintro _ _ ⟨⟩
      exact ⟨rfl, False.elim⟩
  | refuse expected => exact .error ts _
  | object complaint place => exact .error ts _
  | atEnd yes no ihyes ihno =>
      simp only [taken, exec]
      split
      · exact (ihyes ha.1 ts).mono And.left
      · exact (ihno ha.2 ts).mono And.right
  | take test taken left ihtaken ihleft =>
      obtain ⟨htest, htaken, hleft⟩ := ha
      simp only [Action.taken, exec]
      split
      · next hx =>
          exact .cons (next_ne_end htest hx) (ihtaken _ (htaken _ hx) ts.tail)
      · exact ihleft hleft ts
  | takePair x y taken left ihtaken ihleft =>
      obtain ⟨hx, hy, htaken, hleft, -⟩ := ha
      simp only [Action.taken, exec]
      split
      · next hpair =>
          obtain ⟨rfl, rfl⟩ := hpair
          have hrest := ihtaken htaken ts.tail.tail
          have htail : Accounts True ts.tail _ _ :=
            .cons (Token.isEnd_eq_false_iff.1 hy) hrest
          exact .cons (Token.isEnd_eq_false_iff.1 hx) htail
      · exact ihleft hleft ts
  | call r c e next ih =>
      simp only [Action.taken, exec]
      have hcall := hrun r c e ts
      cases hr : run r c e ts with
      | error error =>
          rw [hr] at hcall
          rw [List.append_nil]
          refine ⟨hcall.isPrefix, hcall.notEnd, fun a rest h => ?_⟩
          cases h
      | ok result =>
          obtain ⟨tree, rest⟩ := result
          obtain ⟨hts, hmust⟩ := hcall.rest tree rest hr
          have hnext := ih tree (ha.2 tree) rest
          exact (Accounts.append hts hcall.notEnd hmust hnext).mono (Or.imp_right (· tree))

/-- A function takes its tokens one by one, at least one if it has to. -/
theorem within_accounts (fuel : Nat) (r : Routine) (c : Nesting) (e : r.Operand) (ts : Tokens) :
    Accounts (r.consumes = true) ts (takenWithin fuel r c e ts) (within fuel r c e ts) := by
  induction fuel generalizing r c e ts with
  | zero =>
      rw [within_zero, takenWithin]
      exact .error ts _
  | succ fuel ih =>
      rw [within_succ, takenWithin]
      exact ((body r c e).exec_accounts ih (orderly_body r c e) ts).mono (moves_body c e)

/-- The tokens of a statement that are taken. -/
def takenBy (ts : Tokens) : Tokens :=
  statementBody.taken (within (budget ts)) (takenWithin (budget ts)) ts

end Accounting

end Parser

end JsonPath
