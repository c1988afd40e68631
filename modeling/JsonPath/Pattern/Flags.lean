import JsonPath.Text.Blank

/-!
# Flags of a pattern

The flags in force at a place of a pattern, the directives that change them,
and the blanks and comments that one of them makes the reader skip.
-/

namespace JsonPath

/-- The ways in which a pattern may be read. -/
structure PatternFlags where
  /-- Letters match either case. -/
  ignoreCase : Bool
  /-- A dot matches a line feed. -/
  dotAll : Bool
  /-- `^` and `$` match at line ends. -/
  multiLine : Bool
  /-- Blanks and comments in the pattern are skipped. -/
  verbose : Bool
  /-- A carriage return ends lines, too. -/
  crlf : Bool
  /-- Classes are not limited to ASCII. -/
  unicode : Bool
  deriving DecidableEq, Repr

namespace PatternFlags

/-- No flags but `u`. -/
def plain : PatternFlags :=
  { ignoreCase := false, dotAll := false, multiLine := false, verbose := false, crlf := false,
    unicode := true }

/-- Turns a flag on or off.  `U` decides which of several matches is found and
changes nothing here. -/
def set? (flags : PatternFlags) (letter : Char) (on : Bool) : Option PatternFlags :=
  match letter with
  | 'i' => some { flags with ignoreCase := on }
  | 's' => some { flags with dotAll := on }
  | 'm' => some { flags with multiLine := on }
  | 'x' => some { flags with verbose := on }
  | 'R' => some { flags with crlf := on }
  | 'u' => some { flags with unicode := on }
  | 'U' => some flags
  | _ => none

/-- The letters of a directive, up to the colon or parenthesis behind them, and
the flags they make.  No letter comes twice, and a minus stands before a
letter.  `seen` holds what has been read, last first. -/
def readDirective (flags : PatternFlags) (seen : List Char) :
    List Char → Option (PatternFlags × List Char)
  | [] => none
  | c :: rest =>
      if c = ':' ∨ c = ')' then
        if seen.head? = some '-' then none else some (flags, c :: rest)
      else if seen.contains c then
        none
      else if c = '-' then
        readDirective flags (c :: seen) rest
      else
        match flags.set? c (!seen.contains '-') with
        | none => none
        | some changed => readDirective changed (c :: seen) rest

/-! ## Blanks and comments -/

/-- What follows blanks and comments.  A comment goes from `#` to the end of the
line. -/
def skipIgnored (inComment : Bool) : List Char → List Char
  | [] => []
  | c :: rest =>
      if inComment then skipIgnored (c != '\n') rest
      else if isBlank c then skipIgnored false rest
      else if c = '#' then skipIgnored true rest
      else c :: rest

theorem length_skipIgnored_le (inComment : Bool) (text : List Char) :
    (skipIgnored inComment text).length ≤ text.length := by
  induction text generalizing inComment with
  | nil => simp [skipIgnored]
  | cons c rest ih =>
      unfold skipIgnored
      split
      · exact Nat.le_succ_of_le (ih _)
      · split
        · exact Nat.le_succ_of_le (ih _)
        · split
          · exact Nat.le_succ_of_le (ih _)
          · exact Nat.le_refl _

/-- What follows the blanks and comments that the flags let stand in a
pattern. -/
def skip (flags : PatternFlags) (text : List Char) : List Char :=
  if flags.verbose then skipIgnored false text else text

theorem length_skip_le (flags : PatternFlags) (text : List Char) :
    (flags.skip text).length ≤ text.length := by
  unfold skip
  split
  · exact length_skipIgnored_le _ _
  · exact Nat.le_refl _

/-- The characters that satisfy a test, and what follows them; ignored text
behind each of them is skipped. -/
def takeWhile (flags : PatternFlags) (test : Char → Bool) (text : List Char) :
    List Char × List Char :=
  match text with
  | [] => ([], [])
  | c :: rest =>
      if test c then
        let (taken, after) := takeWhile flags test (flags.skip rest)
        (c :: taken, after)
      else
        ([], c :: rest)
termination_by text.length
decreasing_by
  have := flags.length_skip_le rest
  simp only [List.length_cons]
  omega

end PatternFlags

end JsonPath
