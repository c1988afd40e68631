/-!
# Pattern errors

Why a `like_regex` pattern is refused.
-/

namespace JsonPath

/-- What can be wrong with a pattern and its flags. -/
inductive PatternError where
  /-- A flag that is none of `i`, `s`, `m`, `x` and `q`. -/
  | unknownFlag (flag : Char)
  /-- The pattern is no regular expression. -/
  | malformed
  deriving DecidableEq, Repr

/-- What is said of an error. -/
def PatternError.message : PatternError → String
  | unknownFlag flag => s!"unrecognized like_regex flag '{flag}'"
  | malformed => "invalid like_regex pattern"

end JsonPath
