import JsonPath.Command.Binding
import JsonPath.Json.Reader
import JsonPath.Statement

/-!
# Running a statement over text

The input, the variables and the defaults come as text.  What fails before the
statement runs fails as a whole; what fails on one item is one of the results.
-/

namespace JsonPath

/-- What is asked of a statement. -/
inductive Operation where
  /-- Its values. -/
  | value
  /-- Whether it matches, item by item. -/
  | matching
  /-- The items it matches. -/
  | query
  deriving DecidableEq, Repr

/-- A run of a statement, as it is asked for. -/
structure RunOptions where
  path : String
  input : Option String
  /-- Whether every line of the input is an item. -/
  lines : Bool
  /-- Bindings `NAME=JSON`. -/
  bindings : List String
  defaultOnEmpty : Option String
  defaultOnError : Option String
  operation : Operation

/-- Why a run does not begin. -/
inductive RunError where
  | syntaxError (e : SyntaxError)
  | invalidJson
  | invalidBinding (binding : String)
  | noInput

/-- The line that tells the user what is wrong. -/
def RunError.message : RunError → String
  | syntaxError e => s!"syntax error: {e.message}"
  | invalidJson => "invalid JSON"
  | invalidBinding binding => s!"invalid variable binding '{binding}', expected NAME=JSON"
  | noInput => "no input provided. Use --input or pipe JSON to stdin."

namespace RunOptions

/-- JSON text. -/
def readJson (text : String) : Except RunError Value :=
  match Json.read? text.toList with
  | some v => .ok v
  | none => .error .invalidJson

/-- A default, if it is given. -/
def readDefault : Option String → Except RunError (Option Value)
  | none => .ok none
  | some text => (readJson text).map some

/-- The items of the input. -/
def readItems (options : RunOptions) : Except RunError (List Value) :=
  match options.input with
  | none => .error .noInput
  | some text =>
      match Json.readInput? options.lines text.toList with
      | some items => .ok items
      | none => .error .invalidJson

/-- The variables of some bindings; the last binding of a name counts. -/
def readBindings (vars : Variables) : List String → Except RunError Variables
  | [] => .ok vars
  | binding :: rest =>
      match readBinding? binding.toList with
      | some (name, v) => readBindings (vars.set name v) rest
      | none => .error (.invalidBinding binding)

/-- The statement. -/
def readStatement (path : String) : Except RunError Statement :=
  match Statement.read path with
  | .ok statement => .ok statement
  | .error e => .error (.syntaxError e)

/-- The results of a run. -/
def execute (options : RunOptions) : Except RunError Results := do
  let statement ← readStatement options.path
  let items ← options.readItems
  let vars ← readBindings [] options.bindings
  match options.operation with
  | .value =>
      let onEmpty ← readDefault options.defaultOnEmpty
      let onError ← readDefault options.defaultOnError
      return statement.values vars { onEmpty, onError } items
  | .matching =>
      return (statement.matchesEach vars items).map fun outcome => outcome.map .boolean
  | .query => return statement.query vars items

end RunOptions

/-- The mode of a statement that is only checked. -/
def checkStatement (path : String) : Except RunError Mode := do
  return (← RunOptions.readStatement path).mode

end JsonPath
