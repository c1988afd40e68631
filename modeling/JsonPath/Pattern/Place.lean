import JsonPath.Pattern.CharClass

/-!
# Places in a text

The conditions that a pattern puts on a place between two characters: the ends
of the text, of lines and of words.
-/

namespace JsonPath

/-- Conditions on where words begin and end, by the sides of a place. -/
inductive WordEdge where
  | boundary
  | inside
  | start
  | finish
  | startHalf
  | finishHalf
  deriving DecidableEq, Repr

/-- Whether the condition holds, from whether a word character stands before and
whether one stands behind the place. -/
def WordEdge.holds : WordEdge → Bool → Bool → Bool
  | boundary, before, behind => before != behind
  | inside, before, behind => before == behind
  | start, before, behind => !before && behind
  | finish, before, behind => before && !behind
  | startHalf, before, _ => !before
  | finishHalf, _, behind => !behind

/-- Conditions on a place in a text. -/
inductive Assertion where
  | textStart
  | textEnd
  /-- Lines end with a line feed; if `crlf`, also with a carriage return, and
  with both together. -/
  | lineStart (crlf : Bool)
  | lineEnd (crlf : Bool)
  | word (edge : WordEdge) (characters : CharClass)
  deriving DecidableEq, Repr

namespace Assertion

/-- Whether a condition holds between the character before a place, if any, and
the one behind it. -/
def holds : Assertion → Option Char → Option Char → Bool
  | textStart, before, _ => before.isNone
  | textEnd, _, behind => behind.isNone
  | lineStart crlf, before, behind =>
      before.isNone || before == some '\n' ||
        (crlf && before == some '\r' && behind != some '\n')
  | lineEnd crlf, before, behind =>
      behind.isNone || (behind == some '\n' && !(crlf && before == some '\r')) ||
        (crlf && behind == some '\r')
  | word edge characters, before, behind =>
      let isWord := fun side : Option Char => side.any fun c => characters.contains c.toNat
      edge.holds (isWord before) (isWord behind)

end Assertion

end JsonPath
