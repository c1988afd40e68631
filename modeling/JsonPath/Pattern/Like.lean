import JsonPath.Eval.Truth
import JsonPath.Pattern.Error
import JsonPath.Pattern.Matching
import JsonPath.Pattern.Reader
import JsonPath.Value

/-!
# Patterns of `like_regex`

A pattern with its flags, read once and then tested against values.
-/

namespace JsonPath

/-- A pattern that has been read. -/
structure LikePattern where
  text : String
  flags : String
  regex : Regex

namespace LikePattern

/-- The flags that letters stand for, or the first letter that stands for none.
`q` makes the whole pattern literal and is no flag of the pattern's own. -/
def readFlags : PatternFlags → List Char → Except PatternError PatternFlags
  | flags, [] => .ok flags
  | flags, letter :: rest =>
      match letter with
      | 'i' => readFlags { flags with ignoreCase := true } rest
      | 's' => readFlags { flags with dotAll := true } rest
      | 'm' => readFlags { flags with multiLine := true } rest
      | 'x' => readFlags { flags with verbose := true } rest
      | 'q' => readFlags flags rest
      | other => .error (.unknownFlag other)

/-- The pattern of a text with flags. -/
def read (text flags : String) : Except PatternError LikePattern :=
  match readFlags .plain flags.toList with
  | .error e => .error e
  | .ok patternFlags =>
      let source := if flags.toList.contains 'q' then escapePattern text.toList else text.toList
      match Regex.read? patternFlags source with
      | some regex => .ok { text, flags, regex }
      | none => .error .malformed

/-- Whether a string matches; unknown for anything else. -/
def test (pattern : LikePattern) : Value → Truth
  | .string s => .ofBool (pattern.regex.isMatch s)
  | _ => .unknown

end LikePattern

end JsonPath
