import JsonPath.Eval.Arithmetic
import JsonPath.Eval.Compare
import JsonPath.Eval.Method
import JsonPath.Eval.Scope
import JsonPath.Syntax.Tree

/-!
# The meaning of statements

Expressions yield sequences, predicates a truth or an error.  A predicate over
sequences is true if it is true of some combination of their values, and an
error in an operand is an error of the predicate.  A filter leaves out the
candidates whose predicate is an error, unless the error is fatal.
-/

namespace JsonPath

/-- The truth of a test on any of some values. -/
def anyOf (test : Value → Truth) (values : List Value) : Truth := .any (values.map test)

/-- The truth of a test on any pair of values. -/
def anyPair (test : Value → Value → Truth) (lefts rights : List Value) : Truth :=
  .any (lefts.flatMap fun l => rights.map (test l))

/-- What a filter keeps of a candidate. -/
def kept (v : Value) : Except EvalError Truth → Results
  | .ok .holds => [.ok v]
  | .ok _ => []
  | .error e => if e.isFatal then [.error e] else []

/-- The values that a filter or a subscript takes for its candidates. -/
def candidates (mode : Mode) (v : Value) : List Value :=
  match mode with
  | .lax => v.elements
  | .strict => [v]

mutual

/-- The results of an expression. -/
def Expr.eval (mode : Mode) (s : Scope) : Expr → Sequence
  | .integer n => .single (.integer n)
  | .number x => .single (.number x)
  | .string t => .single (.string t)
  | .boolean b => .single (.boolean b)
  | .null => .single .null
  | .root => .single s.root
  | .current => .single s.candidate
  | .last => s.lastIndex
  | .variable name => .ofResult (s.lookup name)
  | .signed op operand => (operand.eval mode s).andThen (unary mode op)
  | .binary op left right =>
      .combine (JsonPath.binary mode op) (left.eval mode s) (right.eval mode s)
  | .access base step => (base.eval mode s).andThen (step.apply mode s)

/-- The results of an accessor on one value. -/
def Accessor.apply (mode : Mode) (s : Scope) : Accessor → Value → Sequence
  | .member name, v => JsonPath.member mode name v
  | .memberWildcard, v => JsonPath.memberWildcard mode v
  | .elementWildcard, v => JsonPath.elementWildcard mode v
  | .subscripts subs, v =>
      match subscripted mode v with
      | .error e => .failed e
      | .ok items => .ofExcept (selectAll mode (s.withLength items.length) items subs)
  | .filter condition, v =>
      .deferred <| (candidates mode v).flatMap fun candidate =>
        kept candidate (condition.truth mode (s.withCurrent candidate))
  | .method m, v => m.apply mode v
  | .dateTime template, v => JsonPath.dateTime mode template v

/-- The elements that subscripts select, one subscript after the other. -/
def selectAll (mode : Mode) (s : Scope) (items : List Value) :
    List Subscript → Except EvalError (List Value)
  | [] => .ok []
  | sub :: rest =>
      match sub.select mode s items with
      | .error e => .error e
      | .ok here =>
          match selectAll mode s items rest with
          | .error e => .error e
          | .ok more => .ok (here ++ more)

/-- The elements that one subscript selects. -/
def Subscript.select (mode : Mode) (s : Scope) (items : List Value) :
    Subscript → Except EvalError (List Value)
  | .indices positions => selectEach mode items (positions.eval mode s).results
  | .range low high =>
      match rangeBound (low.eval mode s).results with
      | .error e => .error e
      | .ok start =>
          match rangeBound (high.eval mode s).results with
          | .error e => .error e
          | .ok stop => selectRange mode items start stop

/-- The truth of a predicate. -/
def Predicate.truth (mode : Mode) (s : Scope) : Predicate → Except EvalError Truth
  | .compare op left right =>
      match (left.eval mode s).results.values with
      | .error e => .error e
      | .ok lefts =>
          match (right.eval mode s).results.values with
          | .error e => .error e
          | .ok rights => .ok (anyPair (Value.compareWith op) lefts rights)
  | .existence operand => Truth.existence EvalError.isFatal (operand.eval mode s).results
  | .startsWith subject start =>
      match (subject.eval mode s).results.values with
      | .error e => .error e
      | .ok subjects =>
          match (start.eval mode s).results.values with
          | .error e => .error e
          | .ok starts => .ok (anyPair Value.startsWith subjects starts)
  | .likeRegex subject pattern =>
      match (subject.eval mode s).results.values with
      | .error e => .error e
      | .ok subjects => .ok (anyOf pattern.test subjects)
  | .conjunction operands => Truth.conjunction (truths mode s operands)
  | .disjunction operands => Truth.disjunction (truths mode s operands)
  | .negation operand =>
      match operand.truth mode s with
      | .error e => .error e
      | .ok t => .ok t.negate
  | .isUnknown operand =>
      match operand.truth mode s with
      | .error e => .error e
      | .ok t => .ok t.isUnknown
  | .condition e =>
      match (e.eval mode s).results.values with
      | .error e => .error e
      | .ok values => .ok (anyOf Value.condition values)

/-- The truths of several predicates. -/
def truths (mode : Mode) (s : Scope) : List Predicate → List (Except EvalError Truth)
  | [] => []
  | p :: rest => p.truth mode s :: truths mode s rest

end

/-- The results of a body.  A predicate yields its truth as one value. -/
def Body.eval (mode : Mode) (s : Scope) : Body → Sequence
  | .path e => e.eval mode s
  | .predicate p => .ofResult ((p.truth mode s).map Truth.toValue)

end JsonPath
