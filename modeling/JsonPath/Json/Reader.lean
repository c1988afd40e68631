import JsonPath.Json.Token
import JsonPath.Text.Blank

/-!
# Reading JSON

The tokens of a text drive a machine whose state is the stack of containers
that are still open and what may come next.  A text is JSON when the machine
takes every token and ends with one value and nothing open.
-/

namespace JsonPath.Json

/-- A container that is open around a value. -/
inductive Frame where
  /-- An array with the elements before the value, last first. -/
  | element (before : List Value)
  /-- An object with the members before the value, and the key of the value. -/
  | member (before : Members) (key : String)

/-- What the machine has read and what it waits for. -/
inductive State where
  /-- A value. -/
  | value (stack : List Frame)
  /-- The first element of an array, or its end. -/
  | first (stack : List Frame)
  /-- A key, or the end of the object where that is allowed. -/
  | key (mayClose : Bool) (members : Members) (stack : List Frame)
  /-- The colon after a key. -/
  | colon (members : Members) (key : String) (stack : List Frame)
  /-- A value is complete: a comma, an end, or nothing more. -/
  | complete (value : Value) (stack : List Frame)

/-- Containers may be nested this deep. -/
def maxDepth : Nat := 127

/-- A token where a value is expected. -/
def State.begin (stack : List Frame) : Token → Option State
  | .scalar v => some (complete v stack)
  | .string s => some (complete (.string s) stack)
  | .openArray => if stack.length < maxDepth then some (first stack) else none
  | .openObject => if stack.length < maxDepth then some (key true [] stack) else none
  | _ => none

/-- The state behind a token; none where the token may not stand. -/
def State.step : State → Token → Option State
  | value stack, token => begin stack token
  | first stack, .closeArray => some (complete (.array []) stack)
  | first stack, token => begin (.element [] :: stack) token
  | key true members stack, .closeObject => some (complete (.object members) stack)
  | key _ members stack, .string s => some (colon members s stack)
  | colon members name stack, .colon => some (value (.member members name :: stack))
  | complete v (.element before :: stack), .comma => some (value (.element (v :: before) :: stack))
  | complete v (.element before :: stack), .closeArray =>
      some (complete (.array (v :: before).reverse) stack)
  | complete v (.member before name :: stack), .comma =>
      some (key false (before.insert name v) stack)
  | complete v (.member before name :: stack), .closeObject =>
      some (complete (.object (before.insert name v)) stack)
  | _, _ => none

/-- The value that a list of tokens spells. -/
def ofTokens? (tokens : List Token) : Option Value :=
  match tokens.foldlM State.step (.value []) with
  | some (.complete v []) => some v
  | _ => none

/-- The value of a JSON text. -/
def read? (text : List Char) : Option Value :=
  (Token.ofChars? text).bind ofTokens?

/-- The values of an input: one JSON text, or one on every line that is not
blank. -/
def readInput? (lines : Bool) (text : List Char) : Option (List Value) :=
  if lines then
    ((splitLines text).filter fun line => !line.all isBlank).mapM read?
  else
    (read? text).map fun v => [v]

end JsonPath.Json
