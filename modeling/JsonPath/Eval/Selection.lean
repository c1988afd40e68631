import JsonPath.Eval.Result
import JsonPath.Number.Integer

/-!
# Members and elements

What the accessors select from one value.  Strict mode wants the right type of
value and existing members and elements.  Lax mode takes an array of objects for
its objects and any other value for an array of its own, and leaves out what is
missing.
-/

namespace JsonPath

namespace Value

/-- The elements of an array; any other value counts as an array of its own. -/
def elements : Value → List Value
  | array items => items
  | v => [v]

/-- The member of an object. -/
def member? (name : String) : Value → Option Value
  | object members => Members.get? members name
  | _ => none

/-- The values of all members of an object. -/
def memberValues : Value → List Value
  | object members => members.map Prod.snd
  | _ => []

end Value

/-! ## Members -/

/-- `.name` -/
def member (mode : Mode) (name : String) (v : Value) : Sequence :=
  match mode, v with
  | _, .object members =>
      match Members.get? members name, mode with
      | some found, _ => .single found
      | none, .strict => .failed (.keyNotFound name)
      | none, .lax => .empty
  | .strict, _ => .failed (.notAnObject .member v.kind)
  | .lax, _ => .ofValues (v.elements.filterMap (Value.member? name))

/-- `.*` -/
def memberWildcard (mode : Mode) (v : Value) : Sequence :=
  match mode, v with
  | _, .object _ => .ofValues v.memberValues
  | .strict, _ => .failed (.notAnObject .wildcard v.kind)
  | .lax, _ => .ofValues (v.elements.flatMap Value.memberValues)

/-! ## Elements -/

/-- `[*]` -/
def elementWildcard (mode : Mode) (v : Value) : Sequence :=
  match mode, v with
  | _, .array items => .ofValues items
  | .strict, _ => .failed (.notAnArray .wildcard v.kind)
  | .lax, _ => .single v

/-- The array that a subscript selects from. -/
def subscripted (mode : Mode) (v : Value) : Except EvalError (List Value) :=
  match mode, v with
  | _, .array items => .ok items
  | .strict, _ => .error (.notAnArray .subscript v.kind)
  | .lax, _ => .ok [v]

/-- The integer of 64 bits nearest to an integer. -/
def nearestInt64 (n : Int) : Int64 :=
  match int64? n with
  | some m => m
  | none => if n < 0 then Int64.minValue else Int64.maxValue

/-- A value as an index.  A fraction is cut off. -/
def asIndex : Value → Except EvalError Int64
  | .integer n => .ok n
  | .number x =>
      match x.trunc? with
      | some n => .ok (nearestInt64 n)
      | none => .error (.typeMismatch (.subscript .number))
  | v => .error (.typeMismatch (.subscript v.kind))

/-- The element at an index. -/
def elementAt? (items : List Value) (index : Int64) : Option Value :=
  if 0 ≤ index.toInt then items[index.toInt.toNat]? else none

/-- The element at an index, as a list; none is there if the index is out of
range. -/
def select (mode : Mode) (items : List Value) (index : Int64) : Except EvalError (List Value) :=
  match elementAt? items index, mode with
  | some v, _ => .ok [v]
  | none, .strict => .error (.indexOutOfRange index items.length)
  | none, .lax => .ok []

/-- The elements at the indices among some results. -/
def selectEach (mode : Mode) (items : List Value) :
    Results → Except EvalError (List Value)
  | [] => .ok []
  | .error e :: _ => .error e
  | .ok v :: rest => do
      let here ← select mode items (← asIndex v)
      return here ++ (← selectEach mode items rest)

/-- The bound of a range, which must be a single number. -/
def rangeBound (results : Results) : Except EvalError Int64 :=
  match results.values with
  | .error e => .error e
  | .ok [v] => asIndex v
  | .ok vs => .error (.typeMismatch (.rangeBound vs.length))

/-- The elements from one index to another, as far as they exist. -/
def slice (items : List Value) (low high : Int) : List Value :=
  let start := (max low 0).toNat
  let stop := (min (high + 1) items.length).toNat
  (items.drop start).take (stop - start)

/-- The elements from one index to another.  Strict mode wants both to exist,
and the first not to come after the second. -/
def selectRange (mode : Mode) (items : List Value) (low high : Int64) :
    Except EvalError (List Value) :=
  match mode with
  | .lax => .ok (slice items low.toInt high.toInt)
  | .strict =>
      if (elementAt? items low).isNone then .error (.indexOutOfRange low items.length)
      else if (elementAt? items high).isNone then .error (.indexOutOfRange high items.length)
      else if high < low then .error (.indexOutOfRange low items.length)
      else .ok (slice items low.toInt high.toInt)

end JsonPath
