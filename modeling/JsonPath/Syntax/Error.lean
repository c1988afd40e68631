import JsonPath.Pattern.Error
import JsonPath.Syntax.Token

/-!
# Syntax errors

Why and where a source text is no statement, and the message that says so.
-/

namespace JsonPath

/-- What the grammar allows where another token was found. -/
inductive Expectation where
  | endOfInput
  | closeParen
  | filterParen
  | subscriptEnd
  | memberName
  | methodEnd
  | pathExpression
  | stringLiteral
  | stringOrVariable
  | word (w : String)
  deriving DecidableEq, Repr

/-- What a message says is expected. -/
def Expectation.text : Expectation → String
  | endOfInput => "end of input"
  | closeParen => "`)`"
  | filterParen => "`(` after `?`"
  | subscriptEnd => "`,`, `to` or `]`"
  | memberName => "member name, `*` or item method"
  | methodEnd => "`)` (item methods take no arguments)"
  | pathExpression => "path expression"
  | stringLiteral => "string literal"
  | stringOrVariable => "string literal or variable"
  | word w => s!"`{w}`"

/-- A token as messages show it. -/
def SourceToken.describe (t : SourceToken) : String :=
  if t.token = .endOfInput then "end of input" else s!"`{t.image}`"

/-- Why a text is refused. -/
inductive Complaint where
  -- The text is not made of tokens.
  | unexpectedChar (c : Char)
  | unterminatedString
  | invalidEscape (sequence : List Char)
  | invalidNumber (literal : List Char)
  -- The tokens are no statement.
  | unexpectedToken (expected : Expectation) (found : String)
  | currentOutsideFilter
  | lastOutsideSubscript
  | unknownMethod (name : String)
  | pattern (error : PatternError)
  -- The budget of calls is used up; `parse` gives one that suffices.
  | exhausted
  deriving DecidableEq, Repr

/-- What is wrong with a statement, and where. -/
structure SyntaxError where
  complaint : Complaint
  position : Position
  deriving DecidableEq, Repr

/-- The doubled operator that a lone character may have been meant as. -/
def hint (c : Char) : String :=
  if c = '=' ∨ c = '&' ∨ c = '|' then s!" (did you mean '{c}{c}'?)" else ""

/-- What is said of an error. -/
def SyntaxError.message (e : SyntaxError) : String :=
  let place := e.position.text
  match e.complaint with
  | .unexpectedChar c => s!"unexpected character '{c}' at {place}{hint c}"
  | .unterminatedString => s!"unterminated string starting at {place}"
  | .invalidEscape sequence => s!"invalid escape sequence '\\{String.ofList sequence}' at {place}"
  | .invalidNumber literal => s!"invalid number literal '{String.ofList literal}' at {place}"
  | .unexpectedToken expected found => s!"expected {expected.text}, found {found} at {place}"
  | .currentOutsideFilter => s!"`@` is only valid inside a filter expression at {place}"
  | .lastOutsideSubscript => s!"`last` is only valid inside an array subscript at {place}"
  | .unknownMethod name => s!"unknown item method `{name}()` at {place}"
  | .pattern error => s!"{error.message} at {place}"
  | .exhausted => s!"statement nested too deeply at {place}"

end JsonPath
