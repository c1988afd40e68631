import JsonPath.Number.Binary64

/-!
# Tokens of the path language

A token with the exact text it was read from and the place where that text
begins.  Words are never reserved; the parser decides from the place whether a
word is a keyword.
-/

namespace JsonPath

/-- A place in a source text, counted in characters: the offset from zero, line
and column from one.  Only a line feed ends a line. -/
structure Position where
  offset : Nat
  line : Nat
  column : Nat
  deriving DecidableEq, Repr

namespace Position

/-- The beginning of a text. -/
def start : Position := { offset := 0, line := 1, column := 1 }

/-- The place behind one more character. -/
def next (p : Position) (c : Char) : Position :=
  if c = '\n' then
    { offset := p.offset + 1, line := p.line + 1, column := 1 }
  else
    { p with offset := p.offset + 1, column := p.column + 1 }

/-- The place behind a text. -/
def after (p : Position) (text : List Char) : Position := text.foldl next p

/-- How messages name a position. -/
def text (p : Position) : String := s!"line {p.line}, column {p.column}"

end Position

/-- The tokens of a statement. -/
inductive Token where
  | integer (n : Int64)
  | number (x : Binary64)
  | string (s : String)
  | word (s : String)
  | variable (name : String)
  | dollar
  | at
  | dot
  | star
  | openBracket
  | closeBracket
  | openParen
  | closeParen
  | comma
  | question
  | plus
  | minus
  | slash
  | percent
  | equal
  | notEqual
  | less
  | lessEqual
  | greater
  | greaterEqual
  | andAnd
  | orOr
  | exclamation
  | endOfInput
  deriving DecidableEq, Repr

/-- A token where it stands in a source. -/
structure SourceToken where
  token : Token
  image : String
  position : Position
  deriving DecidableEq, Repr

end JsonPath
