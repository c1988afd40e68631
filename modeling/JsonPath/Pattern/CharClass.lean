import JsonPath.Unicode.CaseFolding

/-!
# Classes of characters

A class is a list of ranges of code points in ascending order, between which
there are gaps.  The set operations that a pattern writes work on such lists
and keep that form, so equal classes have equal lists.

The surrogates from `D800` to `DFFF` are no characters.  A range may reach over
them, but none begins or ends there.
-/

namespace JsonPath

open Unicode

/-- A set of characters, given by ranges of their codes. -/
structure CharClass where
  ranges : List CodeRange
  deriving DecidableEq, Repr

namespace CharClass

/-! ## Neighbours -/

/-- The greatest code point. -/
def greatest : Nat := 0x10FFFF

/-- The last character before the surrogates. -/
def lastBelow : Nat := 0xD7FF

/-- The first character behind the surrogates. -/
def firstAbove : Nat := 0xE000

/-- The character before another. -/
def before (code : Nat) : Nat := if code = firstAbove then lastBelow else code - 1

/-- The character behind another. -/
def after (code : Nat) : Nat := if code = lastBelow then firstAbove else code + 1

/-! ## Ranges in order -/

/-- Joins ranges that overlap or touch.  They come in the order of their first
code points, and `current` is the one before them. -/
def joinOnto (current : CodeRange) : List CodeRange → List CodeRange
  | [] => [current]
  | r :: rest =>
      if r.first ≤ current.last + 1 then
        joinOnto ⟨current.first, max current.last r.last⟩ rest
      else
        current :: joinOnto r rest

/-- The code points of some ranges, which may come in any order. -/
def ofRanges (rs : List CodeRange) : CharClass :=
  match rs.mergeSort fun a b => a.first ≤ b.first with
  | [] => ⟨[]⟩
  | r :: rest => ⟨joinOnto r rest⟩

/-! ## Members -/

/-- Whether a code point is a member. -/
def contains (k : CharClass) (code : Nat) : Bool := k.ranges.any (·.contains code)

/-- No character. -/
def empty : CharClass := ⟨[]⟩

/-- All characters. -/
def all : CharClass := ⟨[⟨0, greatest⟩]⟩

/-- The characters from one to another. -/
def range (first last : Char) : CharClass := ⟨[⟨first.toNat, last.toNat⟩]⟩

/-- One character. -/
def single (c : Char) : CharClass := range c c

/-- The only member, if there is just one. -/
def single? (k : CharClass) : Option Char :=
  match k.ranges with
  | [r] => if r.first = r.last then some (Char.ofNat r.first) else none
  | _ => none

/-- Whether all members are ASCII. -/
def isAscii (k : CharClass) : Bool := k.ranges.all fun r => r.last < 128

/-! ## Set operations -/

/-- The members of any of some classes. -/
def unions (classes : List CharClass) : CharClass := ofRanges (classes.flatMap ranges)

/-- The members of either class. -/
def union (left right : CharClass) : CharClass := unions [left, right]

/-- What two ranges have in common. -/
def overlap? (a b : CodeRange) : Option CodeRange :=
  let first := max a.first b.first
  let last := min a.last b.last
  if first ≤ last then some ⟨first, last⟩ else none

/-- The members of both classes. -/
def intersection (left right : CharClass) : CharClass :=
  ⟨left.ranges.flatMap fun a => right.ranges.filterMap (overlap? a)⟩

/-- What remains of a range without another. -/
def remainder (a b : CodeRange) : List CodeRange :=
  if (overlap? a b).isNone then
    [a]
  else
    (if a.first < b.first then [⟨a.first, before b.first⟩] else []) ++
      (if b.last < a.last then [⟨after b.last, a.last⟩] else [])

/-- The members of the left class that are not members of the right one. -/
def difference (left right : CharClass) : CharClass :=
  ⟨left.ranges.flatMap fun a =>
    right.ranges.foldl (fun pieces b => pieces.flatMap (remainder · b)) [a]⟩

/-- The members of exactly one of two classes. -/
def symmetricDifference (left right : CharClass) : CharClass :=
  difference (union left right) (intersection left right)

/-- The range between the code points behind one range and before the next.
Where only the surrogates lie between the two, these are in reverse order, and
the range is made of both. -/
def gap (first last : Nat) : CodeRange :=
  if first ≤ last then ⟨first, last⟩ else ⟨last, first⟩

/-- The gaps between ranges, of which `last` ends the one before them, and the
rest behind them. -/
def gapsFrom (last : Nat) : List CodeRange → List CodeRange
  | [] => if last < greatest then [⟨after last, greatest⟩] else []
  | r :: rest => gap (after last) (before r.first) :: gapsFrom r.last rest

/-- The characters that are not members. -/
def complement (k : CharClass) : CharClass :=
  match k.ranges with
  | [] => all
  | r :: rest =>
      ⟨(if 0 < r.first then [⟨0, before r.first⟩] else []) ++ gapsFrom r.last rest⟩

/-- A class, or its complement. -/
def complementIf (negated : Bool) (k : CharClass) : CharClass :=
  if negated then complement k else k

/-- With every member, also the characters that differ from it in case. -/
def folded (k : CharClass) : CharClass :=
  let touched := caseOrbits.filter fun orbit => orbit.any k.contains
  ofRanges (k.ranges ++ touched.flatMap fun orbit => orbit.map fun code => ⟨code, code⟩)

/-! ## ASCII classes -/

/-- The characters with codes below 128. -/
def ascii : CharClass := range '\x00' '\x7f'

/-- The digits `0` to `9`. -/
def asciiDigit : CharClass := range '0' '9'

/-- The letters `a` to `z`. -/
def asciiLower : CharClass := range 'a' 'z'

/-- The letters `A` to `Z`. -/
def asciiUpper : CharClass := range 'A' 'Z'

/-- The letters of either case. -/
def asciiLetter : CharClass := union asciiLower asciiUpper

/-- Letters and digits. -/
def asciiAlphanumeric : CharClass := union asciiLetter asciiDigit

/-- Letters, digits and the underscore. -/
def asciiWord : CharClass := union asciiAlphanumeric (single '_')

/-- The blank and the controls from tab to carriage return. -/
def asciiSpace : CharClass := union (single ' ') (range '\t' '\r')

/-- The classes with a name of their own in brackets, as in `[:alpha:]`. -/
def named? (name : List Char) : Option CharClass :=
  match String.ofList name with
  | "alnum" => some asciiAlphanumeric
  | "alpha" => some asciiLetter
  | "ascii" => some ascii
  | "blank" => some (union (single '\t') (single ' '))
  | "cntrl" => some (union (range '\x00' '\x1f') (single '\x7f'))
  | "digit" => some asciiDigit
  | "graph" => some (range '!' '~')
  | "lower" => some asciiLower
  | "print" => some (range ' ' '~')
  | "punct" => some (unions [range '!' '/', range ':' '@', range '[' '\x60', range '\x7b' '~'])
  | "space" => some asciiSpace
  | "upper" => some asciiUpper
  | "word" => some asciiWord
  | "xdigit" => some (unions [asciiDigit, range 'a' 'f', range 'A' 'F'])
  | _ => none

end CharClass

end JsonPath
