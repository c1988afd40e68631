import JsonPath.Eval.Error

/-!
# Result sequences

An evaluation yields results in order: values, and errors in the places where
they arose.  What follows an error is still there; it is for the consumer to
stop.

A `Sequence` says besides how much of it is known before the first result is
asked for.  That shows only with a fatal error: it ends the evaluation in the
moment in which it arises.
-/

namespace JsonPath

/-- A value, or the error that stands in its place. -/
abbrev Result := Except EvalError Value

/-- The results of an evaluation in their order. -/
abbrev Results := List Result

namespace Results

/-- Values without an error. -/
def ofValues (values : List Value) : Results := values.map .ok

/-- The values, or the first error. -/
def values : Results → Except EvalError (List Value)
  | [] => .ok []
  | .error e :: _ => .error e
  | .ok v :: rest =>
      match values rest with
      | .error e => .error e
      | .ok vs => .ok (v :: vs)

/-- The first error that nothing catches. -/
def fatal? (results : Results) : Option EvalError :=
  results.findSome? fun
    | .error e => if e.isFatal then some e else none
    | .ok _ => none

end Results

/-- The outcome of an evaluation. -/
inductive Sequence where
  /-- One value, which is known at once. -/
  | single (v : Value)
  /-- A fatal error before there was any result. -/
  | aborted (e : EvalError)
  /-- Results that are computed when they are asked for. -/
  | deferred (results : Results)

namespace Sequence

/-- No results. -/
def empty : Sequence := deferred []

/-- One error. -/
def failed (e : EvalError) : Sequence :=
  if e.isFatal then aborted e else deferred [.error e]

/-- Values that are computed when they are asked for. -/
def ofValues (values : List Value) : Sequence := deferred (.ofValues values)

/-- The sequence of a stage that yields one value or fails. -/
def ofResult : Result → Sequence
  | .ok v => single v
  | .error e => failed e

/-- The sequence of a stage that either fails as a whole or yields values. -/
def ofExcept : Except EvalError (List Value) → Sequence
  | .ok vs => ofValues vs
  | .error e => failed e

/-- The results in their order. -/
def results : Sequence → Results
  | single v => [.ok v]
  | aborted e => [.error e]
  | deferred results => results

/-- The error that ended the evaluation before there was any result. -/
def abortion? : Sequence → Option EvalError
  | aborted e => some e
  | _ => none

/-- The results of a stage on every value; errors stay where they are.  On a
value that is known at once the stage begins at once. -/
def andThen (sequence : Sequence) (stage : Value → Sequence) : Sequence :=
  match sequence with
  | single v => stage v
  | aborted e => aborted e
  | deferred results =>
      deferred <| results.flatMap fun
        | .ok v => (stage v).results
        | .error e => [.error e]

/-- One result from two sequences.  Both are evaluated before the first result
of either is asked for. -/
def combine (f : Results → Results → Result) (left right : Sequence) : Sequence :=
  match left.abortion?, right.abortion? with
  | some e, _ => aborted e
  | none, some e => aborted e
  | none, none => ofResult (f left.results right.results)

@[simp]
theorem results_failed (e : EvalError) : (failed e).results = [.error e] := by
  unfold failed
  split <;> rfl

@[simp]
theorem results_ofValues (values : List Value) :
    (ofValues values).results = Results.ofValues values := rfl

@[simp]
theorem results_ofResult (r : Result) : (ofResult r).results = [r] := by
  cases r with
  | ok v => rfl
  | error e => exact results_failed e

/-- A stage sees the results one by one, known at once or not. -/
theorem results_andThen (sequence : Sequence) (stage : Value → Sequence) :
    (sequence.andThen stage).results =
      sequence.results.flatMap fun
        | .ok v => (stage v).results
        | .error e => [.error e] := by
  cases sequence <;> simp [andThen, results]

end Sequence

end JsonPath
