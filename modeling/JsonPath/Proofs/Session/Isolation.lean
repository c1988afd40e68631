import Mathlib
import JsonPath.Proofs.Evaluation.Defaults

/-!
# Cursors are isolated

A cursor hands out the results of its call, and these are settled when it is
opened: by the statement that its name stands for then, the variables as they are
then, the items and the defaults.

* `Call.results` is the list of results, said without cursors.
  `Call.cursor_remaining` says that a new cursor has all of them in front of it, and
  `Cursor.take_remaining` that it hands them out from the first one on.
* `Session.requestsTo` picks out of a run what concerns one cursor, as long as it is
  open.  `step_next`, `step_collect` and `step_keeps` say what a single step does to
  it, and `replies_eq` is the induction over the run: the replies are those that the
  results give by themselves, whatever else is done in between.
* `cursor_isolated` puts this together for any session and any further steps.
-/

namespace JsonPath

/-! ## The results of a call -/

/-- All results of a call on some items. -/
def Call.results (call : Call) (statement : Statement) (vars : Variables)
    (items : List Value) : Results :=
  match call with
  | .evaluate => items.flatMap fun item => (statement.evaluate vars item).results
  | .value defaults => statement.values vars defaults items
  | .matching => (statement.matchesEach vars items).map fun outcome => outcome.map .boolean
  | .query => statement.query vars items

/-- A new cursor has all results in front of it. -/
theorem Call.cursor_remaining {call : Call} {statement : Statement} {vars : Variables}
    {items : List Value} {c : Cursor} (h : call.cursor statement vars items = .ok c) :
    c.remaining = call.results statement vars items := by
  cases call with
  | evaluate =>
      simp only [cursor] at h
      split at h
      · cases h
      · cases h
        simp [Cursor.remaining, results, List.flatMap_map]
  | value defaults =>
      cases h
      rfl
  | matching =>
      cases h
      rfl
  | query =>
      cases h
      rfl

namespace Cursor

/-! ## A cursor and what remains of it -/

/-- A query passes over the items that it delivers nothing for. -/
theorem firstMatch_query (statement : Statement) (vars : Variables) (items : List Value) :
    (firstMatch statement vars items).1 = (statement.query vars items).head? ∧
      statement.query vars (firstMatch statement vars items).2 =
        (statement.query vars items).tail := by
  induction items with
  | nil => exact ⟨rfl, rfl⟩
  | cons item items ih =>
      rw [firstMatch, Statement.query, List.filterMap_cons]
      cases statement.queryItem vars item with
      | none => exact ih
      | some r => exact ⟨rfl, rfl⟩

/-- A call hands out the first of the remaining results and leaves the others. -/
theorem next_remaining (c : Cursor) :
    c.next.1 = c.remaining.head? ∧ c.next.2.remaining = c.remaining.tail := by
  cases c with
  | results rest => cases rest <;> exact ⟨rfl, rfl⟩
  | values delivery => exact delivery.next_remaining
  | matching statement vars items => cases items <;> exact ⟨rfl, rfl⟩
  | query statement vars items => exact firstMatch_query statement vars items

/-- Any number of calls hands out that many of the remaining results, and behind the
last of them the end. -/
theorem take_remaining (c : Cursor) (count : Nat) :
    (c.take count).1 = entriesOf count c.remaining ∧
      (c.take count).2.remaining = c.remaining.drop count := by
  induction count generalizing c with
  | zero => simp [take, entriesOf]
  | succ count ih =>
      obtain ⟨hfirst, hrest⟩ := c.next_remaining
      obtain ⟨hentries, hleft⟩ := ih c.next.2
      rw [hrest] at hentries hleft
      refine ⟨?_, ?_⟩
      · show c.next.1 :: (c.next.2.take count).1 = _
        rw [hfirst, hentries, entriesOf_succ]
      · show (c.next.2.take count).2.remaining = _
        rw [hleft, List.drop_tail]

/-- Behind an end there are only ends. -/
theorem entriesOf_pairwise (count : Nat) (results : Results) :
    (entriesOf count results).Pairwise fun earlier later => earlier = none → later = none := by
  refine List.pairwise_append.2 ⟨?_, ?_, ?_⟩
  · exact List.pairwise_map.2 (List.pairwise_of_forall fun _ _ => nofun)
  · exact List.pairwise_replicate.2 (.inr fun _ => rfl)
  · intro earlier _ later hlater _
    exact List.eq_of_mem_replicate hlater

/-! ## Requests -/

/-- What is asked of an open cursor. -/
inductive Request where
  | next (count : Nat)
  | collect

/-- How many entries requests ask for before a collection. -/
def asked : List Request → Nat
  | .next count :: rest => count + asked rest
  | _ => 0

end Cursor

/-- The reply to the collection of some results. -/
def Reply.ofCollection : Except EvalError (List Value) → Reply
  | .ok values => .collected values
  | .error e => .failed (.evaluation e)

/-- The replies that a list of results gives by itself to requests.  Each takes its
entries from the front, and a collection is the last one. -/
def Results.replies (results : Results) : List Cursor.Request → List Reply
  | [] => []
  | .next count :: rest =>
      .entries (Cursor.entriesOf count results) :: replies (results.drop count) rest
  | .collect :: _ => [.ofCollection results.values]

/-- The entries that calls of `next` are replied to with. -/
def Reply.entriesOfNext : Reply → List (Option Result)
  | .entries es => es
  | _ => []

/-- The results that a reply brings: entries before the end, or collected values. -/
def Reply.brought : Reply → Results
  | .entries es => es.filterMap id
  | .collected values => .ofValues values
  | _ => []

namespace Session

/-- The steps of a run with their replies. -/
def record (s : Session) (steps : List Step) : List (Step × Reply) := steps.zip (s.run steps).2

/-- What is asked of a cursor in a run, with the replies, as long as it is open: until
it is collected or another one is opened in its place. -/
def requestsTo (cursor : String) : List (Step × Reply) → List (Cursor.Request × Reply)
  | [] => []
  | (step, reply) :: rest =>
      match step, reply with
      | .next name count, _ =>
          if name = cursor then (.next count, reply) :: requestsTo cursor rest
          else requestsTo cursor rest
      | .collect name, _ =>
          if name = cursor then [(.collect, reply)] else requestsTo cursor rest
      | .openCursor name _ _ _, .opened =>
          if name = cursor then [] else requestsTo cursor rest
      | _, _ => requestsTo cursor rest

variable {s : Session} {cursor : String} {c : Cursor}

/-! ## One step -/

/-- A call of `next` is replied to from the remaining results and takes its entries
away from them. -/
theorem step_next (h : s.cursors.lookup cursor = some c) (count : Nat) :
    (s.step (.next cursor count)).2 = .entries (Cursor.entriesOf count c.remaining) ∧
      ∃ c', (s.step (.next cursor count)).1.cursors.lookup cursor = some c' ∧
        c'.remaining = c.remaining.drop count := by
  obtain ⟨hentries, hleft⟩ := c.take_remaining count
  simp only [step, h]
  exact ⟨congrArg Reply.entries hentries, _, Named.lookup_set_self _ _ _, hleft⟩

/-- A collection is replied to with all that remains. -/
theorem step_collect (h : s.cursors.lookup cursor = some c) :
    (s.step (.collect cursor)).2 = .ofCollection c.remaining.values := by
  simp only [step, h]
  cases c.remaining.values <;> rfl

/-- A step touches a cursor if it asks something of it or opens another in its
place. -/
def Touches (cursor : String) : Step → Reply → Prop
  | .next name _, _ | .collect name, _ => name = cursor
  | .openCursor name _ _ _, .opened => name = cursor
  | _, _ => False

/-- All other steps leave a cursor as it is, those that fail included. -/
theorem step_keeps {step : Step} (h : ¬Touches cursor step (s.step step).2) :
    (s.step step).1.cursors.lookup cursor = s.cursors.lookup cursor := by
  cases step with
  | compile id source =>
      simp only [Session.step]
      cases Statement.read source <;> rfl
  | set name v => rfl
  | unset name => rfl
  | openCursor name id call items =>
      simp only [Session.step] at h ⊢
      cases hid : s.statements.lookup id with
      | none => rfl
      | some statement =>
          cases hopened : call.cursor statement s.vars items with
          | error e => simp only [hopened]
          | ok c =>
              simp only [hid, hopened, Touches] at h ⊢
              exact Named.lookup_set_of_ne (Ne.symm h) _ _
  | next name count =>
      have hne : cursor ≠ name := Ne.symm h
      simp only [Session.step]
      cases s.cursors.lookup name with
      | none => rfl
      | some c => exact Named.lookup_set_of_ne hne _ _
  | collect name =>
      have hne : cursor ≠ name := Ne.symm h
      simp only [Session.step]
      cases s.cursors.lookup name with
      | none => rfl
      | some c =>
          cases hvalues : c.remaining.values <;>
            simpa only [hvalues] using Named.lookup_erase_of_ne hne _

/-- A step that does not touch a cursor is no request to it. -/
theorem requestsTo_cons {step : Step} {reply : Reply} (h : ¬Touches cursor step reply)
    (rest : List (Step × Reply)) :
    requestsTo cursor ((step, reply) :: rest) = requestsTo cursor rest := by
  cases step with
  | compile | set | unset => rfl
  | next | collect =>
      simp only [Touches] at h
      simp [requestsTo, h]
  | openCursor =>
      cases reply with
      | opened =>
          simp only [Touches] at h
          simp [requestsTo, h]
      | _ => rfl

/-! ## Runs -/

/-- An open cursor replies from the results in front of it, whatever else is done in
between. -/
theorem replies_eq (h : s.cursors.lookup cursor = some c) (steps : List Step) :
    (requestsTo cursor (s.record steps)).map Prod.snd =
      c.remaining.replies ((requestsTo cursor (s.record steps)).map Prod.fst) := by
  induction steps generalizing s c with
  | nil => rfl
  | cons step steps ih =>
      have hrecord : s.record (step :: steps) =
        (step, (s.step step).2) :: (s.step step).1.record steps := rfl
      rw [hrecord]
      by_cases htouches : Touches cursor step (s.step step).2
      · cases step with
        | next name count =>
            obtain rfl : name = cursor := htouches
            obtain ⟨hreply, c', hc', hleft⟩ := step_next h count
            have hrest := ih hc'
            rw [hleft] at hrest
            simp [requestsTo, Results.replies, hreply, hrest]
        | collect name =>
            obtain rfl : name = cursor := htouches
            simp [requestsTo, Results.replies, step_collect h]
        | openCursor name id call items =>
            generalize (s.step (.openCursor name id call items)).2 = reply at htouches ⊢
            cases reply with
            | opened =>
                obtain rfl : name = cursor := htouches
                simp [requestsTo, Results.replies]
            | _ => exact htouches.elim
        | compile | set | unset => exact htouches.elim
      · rw [requestsTo_cons htouches]
        exact ih ((step_keeps htouches).trans h)

/-- Opening a cursor takes the statement and the variables as they are. -/
theorem step_openCursor {id : String} {call : Call} {items : List Value}
    (h : (s.step (.openCursor cursor id call items)).2 = .opened) :
    ∃ statement c, s.statements.lookup id = some statement ∧
      (s.step (.openCursor cursor id call items)).1.cursors.lookup cursor = some c ∧
      c.remaining = call.results statement s.vars items := by
  simp only [step] at h ⊢
  cases hid : s.statements.lookup id with
  | none => simp [hid] at h
  | some statement =>
      cases hopened : call.cursor statement s.vars items with
      | error e => simp [hid, hopened] at h
      | ok c =>
          simp only [hopened]
          exact ⟨statement, c, rfl, Named.lookup_set_self _ _ _, Call.cursor_remaining hopened⟩

end Session

/-! ## The replies of a list of results -/

namespace Results

theorem entriesOf_filterMap (count : Nat) (results : Results) :
    (Cursor.entriesOf count results).filterMap id = results.take count := by
  rw [Cursor.entriesOf, List.filterMap_append, List.filterMap_map, Function.id_comp,
    List.filterMap_some]
  simp

/-- What replies bring stands at the front of the results. -/
theorem brought_replies_isPrefix (results : Results) (requests : List Cursor.Request) :
    (results.replies requests).flatMap Reply.brought <+: results := by
  induction requests generalizing results with
  | nil => exact List.nil_prefix
  | cons request requests ih =>
      cases request with
      | next count =>
          have hsplit := results.take_append_drop count
          rw [replies, List.flatMap_cons, Reply.brought, entriesOf_filterMap]
          conv_rhs => rw [← hsplit]
          exact (List.prefix_append_right_inj _).2 (ih _)
      | collect =>
          rw [replies, List.flatMap_singleton]
          cases hvalues : results.values with
          | error e => exact List.nil_prefix
          | ok values =>
              rw [values_eq_ok_iff.1 hvalues]
              exact List.prefix_refl _

/-- The calls of `next` together hand out what one call would. -/
theorem entriesOfNext_replies (results : Results) (requests : List Cursor.Request) :
    (results.replies requests).flatMap Reply.entriesOfNext =
      Cursor.entriesOf (Cursor.asked requests) results := by
  induction requests generalizing results with
  | nil => simp [replies, Cursor.asked, Cursor.entriesOf]
  | cons request requests ih =>
      cases request with
      | next count =>
          rw [replies, List.flatMap_cons, ih, Cursor.asked, Cursor.entriesOf_add]
          rfl
      | collect =>
          have hnone : (Reply.ofCollection results.values).entriesOfNext = [] := by
            cases results.values <;> rfl
          simp [replies, hnone, Cursor.asked, Cursor.entriesOf]

end Results

/-! ## Isolation -/

/-- Whatever is done after a cursor has been opened, its replies are those of the
results of its call; what they bring comes first among these, and behind an end there
are only ends. -/
theorem cursor_isolated (s : Session) (cursor id : String) (call : Call) (items : List Value)
    (later : List Step) (hopened : (s.step (.openCursor cursor id call items)).2 = .opened) :
    ∃ statement, s.statements.lookup id = some statement ∧
      let whole := call.results statement s.vars items
      let requests := Session.requestsTo cursor
        ((s.step (.openCursor cursor id call items)).1.record later)
      let replies := requests.map Prod.snd
      replies = whole.replies (requests.map Prod.fst) ∧
        replies.flatMap Reply.brought <+: whole ∧
        (replies.flatMap Reply.entriesOfNext).Pairwise fun earlier later =>
          earlier = none → later = none := by
  obtain ⟨statement, c, hid, hc, hwhole⟩ := Session.step_openCursor hopened
  have hreplies := Session.replies_eq hc later
  rw [hwhole] at hreplies
  refine ⟨statement, hid, hreplies, ?_, ?_⟩
  · rw [hreplies]
    exact Results.brought_replies_isPrefix _ _
  · rw [hreplies, Results.entriesOfNext_replies]
    exact Cursor.entriesOf_pairwise _ _

/-- Between the calls of `next` the statement is compiled anew, the variable changed
and removed, another cursor opened and read, and a step fails. -/
theorem cursor_isolated_sums :
    let sum : Statement :=
      { source := "strict $.a + $x", mode := .strict
        body := .path (.binary .add (.access .root (.member "a")) (.variable "x")) }
    let s : Session := { statements := [("p", sum)], vars := [("x", .integer 10)], cursors := [] }
    let items : List Value := [.object [("a", .integer 1)], .object [("a", .integer 2)], .null]
    let later : List Step :=
      [.next "c" 1, .compile "p" "$.b", .set "x" .null, .openCursor "d" "p" .query items,
        .next "d" 1, .next "c" 1, .unset "x", .openCursor "c" "q" .evaluate items,
        .next "c" 3, .collect "c"]
    let call : Call := .value { onEmpty := none, onError := none }
    let opened := s.step (.openCursor "c" "p" call items)
    opened.2 = .opened ∧
      (Session.requestsTo "c" (opened.1.record later)).map Prod.snd =
        [.entries [some (.ok (.integer 11))], .entries [some (.ok (.integer 12))],
          .entries [some (.error (.notAnObject .member .null)), none, none], .collected []] := by
  intro sum s items later call opened
  have hopened : opened.2 = .opened := rfl
  have hread : Statement.read "$.b" =
      .ok ⟨"$.b", .lax, .path (.access .root (.member "b"))⟩ := by
    cbv
  have hasked : (Session.requestsTo "c" (opened.1.record later)).map Prod.fst =
      [.next 1, .next 1, .next 3, .collect] := by
    simp only [later, Session.record, Session.run, Session.step, hread]
    rfl
  obtain ⟨statement, hid, hreplies, -⟩ := cursor_isolated s "c" "p" call items later hopened
  cases hid
  rw [hreplies, hasked]
  exact ⟨hopened, rfl⟩

end JsonPath
