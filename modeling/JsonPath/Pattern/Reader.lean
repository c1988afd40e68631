import JsonPath.Pattern.Bracket
import JsonPath.Pattern.Size

/-!
# Reading a regular expression

A pattern is read from left to right into a draft: the groups that are open,
with the alternatives that each of them has so far.  `Regex.read?` reads a whole
pattern.
-/

namespace JsonPath

/-- A part of an alternative. -/
inductive PatternPiece where
  /-- A regular expression and how deeply it is nested. -/
  | item (r : Regex) (depth : Nat)
  /-- A directive `(?i)`, which cannot be repeated. -/
  | directive

namespace PatternPiece

/-- The expression of a piece; a directive matches the empty text. -/
def regex : PatternPiece → Regex
  | item r _ => r
  | directive => .empty

/-- How deep the groups and repetitions of a piece are nested. -/
def depth : PatternPiece → Nat
  | item _ depth => depth
  | directive => 0

end PatternPiece

/-- A group that is open, or the whole pattern. -/
structure OpenGroup where
  /-- The flags in force where the reader stands. -/
  flags : PatternFlags
  /-- The alternatives that have ended, last first. -/
  ended : List PatternPiece
  /-- The parts of the current alternative, last first. -/
  pieces : List PatternPiece
  /-- The number of a group that counts. -/
  number : Option Nat

namespace OpenGroup

/-- How deeply parts are nested that stand together; a part alone is no deeper. -/
def joinedDepth (parts : List PatternPiece) : Nat :=
  let deepest := (parts.map PatternPiece.depth).foldl max 0
  if parts.length ≤ 1 then deepest else deepest + 1

/-- The current alternative. -/
def alternative (g : OpenGroup) : PatternPiece :=
  .item (.ofParts (g.pieces.reverse.map PatternPiece.regex)) (joinedDepth g.pieces)

/-- All alternatives. -/
def whole (g : OpenGroup) : PatternPiece :=
  let all := g.alternative :: g.ended
  .item (.ofAlternatives (all.reverse.map PatternPiece.regex)) (joinedDepth all)

/-- The group when it closes. -/
def closed (g : OpenGroup) : PatternPiece :=
  let whole := g.whole
  match g.number with
  | some n => .item (.group n whole.regex) (whole.depth + 1)
  | none => .item whole.regex (whole.depth + 1)

end OpenGroup

/-- A pattern that has been read up to some place. -/
structure PatternDraft where
  current : OpenGroup
  /-- The groups around it, innermost first. -/
  enclosing : List OpenGroup
  /-- The names of groups so far. -/
  names : List (List Char)
  /-- How many groups count so far. -/
  count : Nat

namespace PatternDraft

/-- The depth to which a pattern may be nested. -/
def depthLimit : Nat := 250

/-- The draft of a pattern of which nothing has been read. -/
def start (flags : PatternFlags) : PatternDraft :=
  { current := { flags, ended := [], pieces := [], number := none }, enclosing := []
    names := [], count := 0 }

/-- The flags that are in force. -/
def flags (d : PatternDraft) : PatternFlags := d.current.flags

/-- One more part of the current alternative. -/
def pushPiece (d : PatternDraft) (piece : PatternPiece) : PatternDraft :=
  { d with current := { d.current with pieces := piece :: d.current.pieces } }

/-- Adds an expression without depth to the branch that is being read. -/
def push (d : PatternDraft) (r : Regex) : PatternDraft := d.pushPiece (.item r 0)

/-! ## Groups and alternatives -/

/-- Begins a new alternative. -/
def alternate (d : PatternDraft) : PatternDraft :=
  { d with current :=
      { d.current with ended := d.current.alternative :: d.current.ended, pieces := [] } }

/-- Opens a group with its own flags. -/
def openGroup (d : PatternDraft) (flags : PatternFlags) (number : Option Nat) : PatternDraft :=
  { d with current := { flags, ended := [], pieces := [], number }
           enclosing := d.current :: d.enclosing }

/-- Opens a group that counts. -/
def openCounted (d : PatternDraft) : PatternDraft :=
  { d.openGroup d.flags (some (d.count + 1)) with count := d.count + 1 }

/-- Closes a group; the flags from before it are in force again. -/
def closeGroup (d : PatternDraft) : Option PatternDraft :=
  match d.enclosing with
  | [] => none
  | outer :: more =>
      some ({ d with current := outer, enclosing := more }.pushPiece d.current.closed)

/-- The regular expression of a pattern that has been read to its end, unless it
is too deep or too large. -/
def finish (d : PatternDraft) : Option Regex :=
  match d.enclosing with
  | [] =>
      let whole := d.current.whole
      if whole.depth ≤ depthLimit ∧ whole.regex.isSmall then some whole.regex else none
  | _ :: _ => none

/-- The characters of a name: letters, digits, `_`, and except at the beginning
`.`, `[` and `]`. -/
def isNameChar (first : Bool) (c : Char) : Bool :=
  c == '_' || (CharClass.known "Alphabetic").contains c.toNat ||
    (!first && (c == '.' || c == '[' || c == ']' ||
      (CharClass.known "Number").contains c.toNat))

/-- The name of a group, up to its angle bracket.  It is not empty. -/
def readName? (text : List Char) : Option (List Char × List Char) :=
  match text with
  | [] => none
  | c :: rest =>
      match rest.dropWhile (isNameChar false) with
      | '>' :: after =>
          if isNameChar true c then some (c :: rest.takeWhile (isNameChar false), after) else none
      | _ => none

/-- Opens a group with a name that no group has yet. -/
def openNamed (d : PatternDraft) (text : List Char) : Option (PatternDraft × List Char) :=
  match readName? text with
  | some (name, after) =>
      if d.names.contains name then
        none
      else
        some ({ d.openCounted with names := name :: d.names }, after)
  | none => none

/-- What follows `(?`: flags for a group, or for the rest of the current one. -/
def readDirective (d : PatternDraft) (text : List Char) : Option (PatternDraft × List Char) :=
  match d.flags.readDirective [] text with
  | some (flags, ':' :: after) => some (d.openGroup flags none, after)
  | some (flags, ')' :: after) =>
      if text.head? = some ')' then
        none
      else
        some ({ d with current := { d.current with flags } }.pushPiece .directive, after)
  | _ => none

/-- What follows an opening parenthesis.  There is no looking ahead or behind. -/
def readGroup (d : PatternDraft) (text : List Char) : Option (PatternDraft × List Char) :=
  match d.flags.skip text with
  | '?' :: '=' :: _ => none
  | '?' :: '!' :: _ => none
  | '?' :: '<' :: '=' :: _ => none
  | '?' :: '<' :: '!' :: _ => none
  | '?' :: 'P' :: '<' :: rest => d.openNamed rest
  | '?' :: '<' :: rest => d.openNamed rest
  | '?' :: rest => d.readDirective rest
  | rest => some (d.openCounted, rest)

/-! ## Repetitions -/

/-- Repeats the last part. -/
def repeatLast (d : PatternDraft) (least : Nat) (most : Option Nat) : Option PatternDraft :=
  match d.current.pieces with
  | .item r depth :: before =>
      some { d with current :=
        { d.current with pieces := .item (r.times least most) (depth + 1) :: before } }
  | _ => none

/-- What follows the mark of a repetition that prefers few rounds; which match is
found does not matter. -/
def dropLazy : List Char → List Char
  | '?' :: rest => rest
  | rest => rest

/-- A count of a repetition, with blanks around it; none without digits. -/
def readCount (flags : PatternFlags) (text : List Char) : Option Nat × List Char :=
  let (digits, after) := flags.takeWhile Char.isDigit (text.dropWhile isBlank)
  let count := if digits.isEmpty then none else some (Nat.ofDigitChars 10 digits 0)
  (count, flags.skip (after.dropWhile isBlank))

/-- The least and the greatest count of a repetition whose brace has been read.
A count is less than 2³². -/
def readBounds (flags : PatternFlags) (text : List Char) :
    Option (Nat × Option Nat × List Char) := do
  let (low, rest) := readCount flags (flags.skip text)
  let least ← low
  let (most, rest) ← match rest with
    | ',' :: behind =>
        match flags.skip behind with
        | '\x7d' :: after => some (none, '\x7d' :: after)
        | inside =>
            let (high, after) := readCount flags inside
            high.map fun n => (some n, after)
    | _ => some (some least, rest)
  match rest with
  | '\x7d' :: after =>
      if least < UInt32.size ∧ most.all fun n => n < UInt32.size && least ≤ n then
        return (least, most, dropLazy (flags.skip after))
      none
  | _ => none

/-! ## Characters -/

/-- A character as it stands. -/
def literal (flags : PatternFlags) (c : Char) : Regex :=
  if flags.unicode ∨ c.toNat < 128 then .ofClass (flags.fold (.single c)) else .literal [c]

/-- What a dot matches: all but the ends of lines. -/
def dot? (flags : PatternFlags) : Option CharClass :=
  if !flags.unicode then none
  else if flags.dotAll then some .all
  else if flags.crlf then some (.complement (.union (.single '\n') (.single '\r')))
  else some (.complement (.single '\n'))

/-- One more part that an escape stands for. -/
def pushAtom (d : PatternDraft) : PatternAtom → PatternDraft
  | .literal c => d.push (literal d.flags c)
  | .chars members => d.push (.ofClass members)
  | .place assertion => d.push (.place assertion)

/-! ## The whole pattern -/

/-- Reads one part of a pattern, from its first character. -/
def step (d : PatternDraft) (c : Char) (rest : List Char) : Option (PatternDraft × List Char) :=
  match c with
  | '(' => d.readGroup rest
  | ')' => d.closeGroup.map (·, rest)
  | '|' => some (d.alternate, rest)
  | '?' => (d.repeatLast 0 (some 1)).map (·, dropLazy rest)
  | '*' => (d.repeatLast 0 none).map (·, dropLazy rest)
  | '+' => (d.repeatLast 1 none).map (·, dropLazy rest)
  | '\x7b' => do
      let (least, most, after) ← readBounds d.flags rest
      return (← d.repeatLast least most, after)
  | '[' => do
      let (k, after) ← PatternClass.read d.flags rest
      return (d.pushPiece (.item (.ofClass k.members) k.depth), after)
  | '\\' => do
      let (atom, after) ← PatternEscape.read d.flags rest
      return (d.pushAtom atom, after)
  | '.' => (dot? d.flags).map fun members => (d.push (.ofClass members), rest)
  | '^' =>
      let assertion := if d.flags.multiLine then .lineStart d.flags.crlf else .textStart
      some (d.push (.place assertion), rest)
  | '$' =>
      let assertion := if d.flags.multiLine then .lineEnd d.flags.crlf else .textEnd
      some (d.push (.place assertion), rest)
  | c => some (d.push (literal d.flags c), rest)

/-- Reads a pattern to its end.  No step gives back what it was given, so the
test of the lengths does not refuse anything. -/
def readFrom (d : PatternDraft) (text : List Char) : Option Regex :=
  match _h : d.flags.skip text with
  | [] => d.finish
  | c :: rest =>
      match d.step c rest with
      | none => none
      | some (next, after) =>
          if after.length ≤ rest.length then next.readFrom after else none
termination_by text.length
decreasing_by
  have := d.flags.length_skip_le text
  rw [_h] at this
  simp only [List.length_cons] at this
  omega

end PatternDraft

/-- The regular expression that a pattern spells under some flags. -/
def Regex.read? (flags : PatternFlags) (pattern : List Char) : Option Regex :=
  (PatternDraft.start flags).readFrom pattern

end JsonPath
