import JsonPath.Eval.Semantics
import JsonPath.Syntax.Parser

/-!
# Statements

A statement is read once and evaluated against any number of items.  There are
four ways to ask it: for all results on one item, errors in their places; for
the values on each of some items, with defaults where there are none; whether it
matches each of some items; and for the items that it matches.
-/

namespace JsonPath

/-- A statement that has been read, with the text it was read from. -/
structure Statement where
  source : String
  mode : Mode
  body : Body

/-- What stands in for the values of an item. -/
structure Defaults where
  /-- Where there are no results. -/
  onEmpty : Option Value
  /-- Where an error comes before any value. -/
  onError : Option Value

namespace Statement

/-- Reads a statement. -/
def read (source : String) : Except SyntaxError Statement :=
  match tokenize source with
  | .error e => .error e
  | .ok tokens =>
      match parse tokens with
      | .error e => .error e
      | .ok (mode, body) => .ok { source, mode, body }

/-- All results on one item. -/
def evaluate (statement : Statement) (vars : Variables) (item : Value) : Sequence :=
  statement.body.eval statement.mode { root := item, vars }

/-! ## Values -/

/-- What takes the place of an error that comes before any value. -/
def onFailure (defaults : Defaults) (e : EvalError) : Result :=
  match defaults.onError with
  | some v => if e.isFatal then .error e else .ok v
  | none => .error e

/-- Delivers the results of an item up to its first error, or defaults.
`produced` says whether a value has been delivered. -/
def deliver (defaults : Defaults) (produced : Bool) : Results → Results
  | [] =>
      match produced, defaults.onEmpty with
      | false, some v => [.ok v]
      | _, _ => []
  | .ok v :: rest => .ok v :: deliver defaults true rest
  | .error e :: _ => if produced then [.error e] else [onFailure defaults e]

/-- The values on each of some items, one item after the other. -/
def values (statement : Statement) (vars : Variables) (defaults : Defaults)
    (items : List Value) : Results :=
  items.flatMap fun item => deliver defaults false (statement.evaluate vars item).results

/-! ## Matches -/

/-- Whether results are a match: a path matches if it has a first result, a
predicate if that is true. -/
def isMatch (body : Body) : Results → Except EvalError Bool
  | [] => .ok false
  | .error e :: _ => .error e
  | .ok v :: _ =>
      match body, v with
      | .path _, _ => .ok true
      | .predicate _, .boolean b => .ok b
      | .predicate _, _ => .ok false

/-- Whether the statement matches an item. -/
def matchesItem (statement : Statement) (vars : Variables) (item : Value) :
    Except EvalError Bool :=
  isMatch statement.body (statement.evaluate vars item).results

/-- Whether the statement matches each of some items. -/
def matchesEach (statement : Statement) (vars : Variables) (items : List Value) :
    List (Except EvalError Bool) :=
  items.map (statement.matchesItem vars)

/-- What a query delivers for one item: the item, nothing, or an error. -/
def queryItem (statement : Statement) (vars : Variables) (item : Value) : Option Result :=
  match statement.matchesItem vars item with
  | .ok true => some (.ok item)
  | .ok false => none
  | .error e => some (.error e)

/-- The items that the statement matches. -/
def query (statement : Statement) (vars : Variables) (items : List Value) : Results :=
  items.filterMap (statement.queryItem vars)

end Statement

end JsonPath
