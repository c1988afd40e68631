import JsonPath.Number.Scientific
import JsonPath.Text.UnicodeEscape
import JsonPath.Value

/-!
# Writing JSON

`compact` writes a value without white space, `pretty` on indented lines.  A
date-time is written as the string of its text, and a number that is not finite
as `null`.
-/

namespace JsonPath.Json

/-- A character inside quotes: quote, backslash and control characters are
escaped, the common ones by a letter. -/
def escapeChar (c : Char) : List Char :=
  if c = '"' then ['\\', '"']
  else if c = '\\' then ['\\', '\\']
  else if c = '\x08' then ['\\', 'b']
  else if c = '\x0c' then ['\\', 'f']
  else if c = '\n' then ['\\', 'n']
  else if c = '\r' then ['\\', 'r']
  else if c = '\t' then ['\\', 't']
  else if c.toNat < 0x20 then '\\' :: 'u' :: hex4 c.toNat
  else [c]

/-- A string with its quotes. -/
def quoted (text : List Char) : List Char :=
  '"' :: (text.flatMap escapeChar ++ ['"'])

/-- An integer in decimal. -/
def integerText (n : Int) : List Char :=
  if n < 0 then '-' :: Nat.toDigits 10 n.natAbs else Nat.toDigits 10 n.natAbs

/-- A value that is not a container. -/
def scalarText : Value → List Char
  | .boolean true => "true".toList
  | .boolean false => "false".toList
  | .integer n => integerText n.toInt
  | .number x => x.text?.getD "null".toList
  | .string s => quoted s.toList
  | .dateTime d => quoted d.text
  | _ => "null".toList

mutual

/-- The value on one line without blanks. -/
def compact : Value → List Char
  | .array items => '[' :: (compactItems items ++ [']'])
  | .object members => '\x7b' :: (compactMembers members ++ ['\x7d'])
  | v => scalarText v

/-- Elements with commas between them. -/
def compactItems : List Value → List Char
  | [] => []
  | [v] => compact v
  | v :: rest => compact v ++ ',' :: compactItems rest

/-- Members with commas between them. -/
def compactMembers : List (String × Value) → List Char
  | [] => []
  | [(key, v)] => quoted key.toList ++ ':' :: compact v
  | (key, v) :: rest => quoted key.toList ++ ':' :: (compact v ++ ',' :: compactMembers rest)

end

/-- A line break and the indentation of a depth. -/
def lineBreak (depth : Nat) : List Char := '\n' :: List.replicate (2 * depth) ' '

mutual

/-- The value with a line for every element and member; empty containers stay
on one line. -/
def pretty (depth : Nat) : Value → List Char
  | .array [] => ['[', ']']
  | .array items => '[' :: (prettyItems (depth + 1) items ++ lineBreak depth ++ [']'])
  | .object [] => ['\x7b', '\x7d']
  | .object members =>
      '\x7b' :: (prettyMembers (depth + 1) members ++ lineBreak depth ++ ['\x7d'])
  | v => scalarText v

/-- Elements with commas between them, each on a line of its own. -/
def prettyItems (depth : Nat) : List Value → List Char
  | [] => []
  | [v] => lineBreak depth ++ pretty depth v
  | v :: rest => lineBreak depth ++ pretty depth v ++ ',' :: prettyItems depth rest

/-- Members with commas between them, each on a line of its own. -/
def prettyMembers (depth : Nat) : List (String × Value) → List Char
  | [] => []
  | [(key, v)] => lineBreak depth ++ quoted key.toList ++ ':' :: ' ' :: pretty depth v
  | (key, v) :: rest =>
      lineBreak depth ++ quoted key.toList ++
        ':' :: ' ' :: (pretty depth v ++ ',' :: prettyMembers depth rest)

end

end JsonPath.Json
