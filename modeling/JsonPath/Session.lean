import JsonPath.Delivery
import JsonPath.Json.Reader

/-!
# Sessions

A session keeps statements, variables and cursors by name.  A cursor holds what
its entries come from: the results of an evaluation, or a statement, variables
and items from which they are computed one by one when they are asked for.  All
of that is fixed when it is opened, and what happens to statements and variables
later does not reach it.
-/

namespace JsonPath

/-- What a name stands for in a list of named things. -/
abbrev Named (α : Type) := List (String × α)

namespace Named

variable {α : Type}

/-- Sets what a name stands for. -/
def set (name : String) (a : α) (entries : Named α) : Named α :=
  (name, a) :: entries.filter fun (n, _) => n != name

/-- Leaves a name without a meaning. -/
def erase (name : String) (entries : Named α) : Named α :=
  entries.filter fun (n, _) => n != name

/-- Erasing a name leaves the others as they are. -/
theorem lookup_erase_of_ne {name other : String} (h : other ≠ name) (entries : Named α) :
    (entries.erase name).lookup other = entries.lookup other := by
  have hother : (other == name) = false := beq_eq_false_iff_ne.2 h
  induction entries with
  | nil => rfl
  | cons entry entries ih =>
      obtain ⟨n, a⟩ := entry
      unfold erase at ih ⊢
      by_cases hn : n = name
      · simp [List.lookup_cons, hn, hother, ih]
      · simp [List.lookup_cons, hn, ih]

theorem lookup_set_self (name : String) (a : α) (entries : Named α) :
    (entries.set name a).lookup name = some a := by
  simp [set]

theorem lookup_set_of_ne {name other : String} (h : other ≠ name) (a : α) (entries : Named α) :
    (entries.set name a).lookup other = entries.lookup other := by
  rw [set, List.lookup_cons, beq_eq_false_iff_ne.2 h]
  exact lookup_erase_of_ne h entries

end Named

/-- The ways to ask a statement. -/
inductive Call where
  | evaluate
  | value (defaults : Defaults)
  | matching
  | query

/-- What a cursor has still to deliver, or what that is computed from. -/
inductive Cursor where
  /-- The results of an evaluation. -/
  | results (rest : Results)
  /-- The values of a statement. -/
  | values (delivery : Delivery)
  /-- Whether a statement matches, for each of the items. -/
  | matching (statement : Statement) (vars : Variables) (items : List Value)
  /-- Those of the items that a statement matches. -/
  | query (statement : Statement) (vars : Variables) (items : List Value)

namespace Cursor

/-- The next entries of a list of results; behind the last one there is always the
end. -/
def entriesOf (count : Nat) (results : Results) : List (Option Result) :=
  (results.take count).map some ++ List.replicate (count - results.length) none

theorem entriesOf_succ (count : Nat) (results : Results) :
    entriesOf (count + 1) results = results.head? :: entriesOf count results.tail := by
  cases results with
  | nil => simp [entriesOf, List.replicate_succ]
  | cons r rs => simp [entriesOf]

/-- Entries may be taken in parts. -/
theorem entriesOf_add (count more : Nat) (results : Results) :
    entriesOf (count + more) results =
      entriesOf count results ++ entriesOf more (results.drop count) := by
  induction count generalizing results with
  | zero => simp [entriesOf]
  | succ count ih =>
      rw [Nat.succ_add, entriesOf_succ, entriesOf_succ, ih, List.drop_tail, List.cons_append]

/-- What a query delivers first, and the items behind it. -/
def firstMatch (statement : Statement) (vars : Variables) :
    List Value → Option Result × List Value
  | [] => (none, [])
  | item :: rest =>
      match statement.queryItem vars item with
      | some r => (some r, rest)
      | none => firstMatch statement vars rest

/-- The next entry, none at the end. -/
def next : Cursor → Option Result × Cursor
  | results [] => (none, results [])
  | results (r :: rest) => (some r, results rest)
  | values delivery =>
      let (r, rest) := delivery.next
      (r, values rest)
  | matching statement vars [] => (none, matching statement vars [])
  | matching statement vars (item :: rest) =>
      (some ((statement.matchesItem vars item).map .boolean), matching statement vars rest)
  | query statement vars items =>
      let (r, rest) := firstMatch statement vars items
      (r, query statement vars rest)

/-- The next entries, and what is left behind them. -/
def take (cursor : Cursor) : Nat → List (Option Result) × Cursor
  | 0 => ([], cursor)
  | count + 1 =>
      let (r, cursor) := cursor.next
      let (rs, cursor) := cursor.take count
      (r :: rs, cursor)

/-- All results that have not been delivered. -/
def remaining : Cursor → Results
  | results rest => rest
  | values delivery => delivery.remaining
  | matching statement vars items =>
      (statement.matchesEach vars items).map fun outcome => outcome.map .boolean
  | query statement vars items => statement.query vars items

end Cursor

/-- The cursor of a call.  An evaluation begins at once and may be aborted; the
other calls begin when their first result is asked for. -/
def Call.cursor (call : Call) (statement : Statement) (vars : Variables)
    (items : List Value) : Except EvalError Cursor :=
  match call with
  | .evaluate =>
      let sequences := items.map (statement.evaluate vars)
      match sequences.findSome? Sequence.abortion? with
      | some e => .error e
      | none => .ok (.results (sequences.flatMap Sequence.results))
  | .value defaults => .ok (.values (.start statement vars defaults items))
  | .matching => .ok (.matching statement vars items)
  | .query => .ok (.query statement vars items)

/-- What a session is asked to do. -/
inductive Step where
  | compile (id source : String)
  | set (name : String) (v : Value)
  | unset (name : String)
  | openCursor (cursor id : String) (call : Call) (items : List Value)
  /-- The next entries of a cursor. -/
  | next (cursor : String) (count : Nat)
  /-- All remaining values of a cursor, which is closed. -/
  | collect (cursor : String)

/-- What can be wrong with a step. -/
inductive SessionError where
  | syntaxError (e : SyntaxError)
  | unknownStatement (id : String)
  | unknownCursor (cursor : String)
  | evaluation (e : EvalError)

/-- What a session answers. -/
inductive Reply where
  | compiled (statement : Statement)
  /-- The value of a variable before the step. -/
  | previous (v : Option Value)
  | opened
  /-- Results of a cursor; none is its end. -/
  | entries (es : List (Option Result))
  | collected (values : List Value)
  | failed (e : SessionError)

/-- What a session remembers: statements, variables and open cursors, each by name. -/
structure Session where
  statements : Named Statement
  vars : Variables
  cursors : Named Cursor

namespace Session

/-- A session in which nothing has been done. -/
def empty : Session := { statements := [], vars := [], cursors := [] }

/-- Does a step.  One that fails leaves statements and variables as they are. -/
def step (s : Session) : Step → Session × Reply
  | .compile id source =>
      match Statement.read source with
      | .ok statement =>
          ({ s with statements := s.statements.set id statement }, .compiled statement)
      | .error e => (s, .failed (.syntaxError e))
  | .set name v =>
      ({ s with vars := s.vars.set name v }, .previous (Members.get? s.vars name))
  | .unset name =>
      ({ s with vars := s.vars.unset name }, .previous (Members.get? s.vars name))
  | .openCursor cursor id call items =>
      match s.statements.lookup id with
      | some statement =>
          match call.cursor statement s.vars items with
          | .ok opened => ({ s with cursors := s.cursors.set cursor opened }, .opened)
          | .error e => (s, .failed (.evaluation e))
      | none => (s, .failed (.unknownStatement id))
  | .next cursor count =>
      match s.cursors.lookup cursor with
      | some found =>
          let (entries, rest) := found.take count
          ({ s with cursors := s.cursors.set cursor rest }, .entries entries)
      | none => (s, .failed (.unknownCursor cursor))
  | .collect cursor =>
      match s.cursors.lookup cursor with
      | some found =>
          let closed := { s with cursors := s.cursors.erase cursor }
          match found.remaining.values with
          | .ok values => (closed, .collected values)
          | .error e => (closed, .failed (.evaluation e))
      | none => (s, .failed (.unknownCursor cursor))

/-- Does some steps, one after the other. -/
def run (s : Session) : List Step → Session × List Reply
  | [] => (s, [])
  | step :: rest =>
      let (next, reply) := s.step step
      let (final, replies) := next.run rest
      (final, reply :: replies)

end Session

end JsonPath
