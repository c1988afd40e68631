import JsonPath.Pattern.Regex

/-!
# Matching

A regular expression maps offsets of a text to offsets: from each place where
it may begin it reaches the places where it may end.  Sets of offsets are
ascending lists, so a match is found without trying one alternative after the
other.
-/

namespace JsonPath

/-! ## Sets of offsets -/

namespace Offsets

/-- The offsets in either of two ascending lists. -/
def union : List Nat → List Nat → List Nat
  | [], ys => ys
  | xs, [] => xs
  | x :: xs, y :: ys =>
      if x < y then x :: union xs (y :: ys)
      else if y < x then y :: union (x :: xs) ys
      else x :: union xs ys
termination_by xs ys => xs.length + ys.length

/-- The offsets of the first ascending list that are not in the second. -/
def difference : List Nat → List Nat → List Nat
  | [], _ => []
  | xs, [] => xs
  | x :: xs, y :: ys =>
      if x < y then x :: difference xs (y :: ys)
      else if y < x then difference (x :: xs) ys
      else difference xs ys
termination_by xs ys => xs.length + ys.length

/-- What exactly `n` steps reach; a step that changes nothing ends it. -/
def after (step : List Nat → List Nat) : Nat → List Nat → List Nat
  | 0, offsets => offsets
  | n + 1, offsets =>
      let next := step offsets
      if next = offsets then offsets else after step n next

/-- What at most `n` steps reach from `seen`, of which `frontier` was reached
last. -/
def within (step : List Nat → List Nat) : Nat → List Nat → List Nat → List Nat
  | 0, seen, _ => seen
  | n + 1, seen, frontier =>
      let fresh := difference (step frontier) seen
      if fresh.isEmpty then seen else within step n (union seen fresh) fresh

end Offsets

/-! ## Regular expressions -/

namespace Regex

/-- The character before an offset. -/
def charBefore? (text : Array Char) : Nat → Option Char
  | 0 => none
  | offset + 1 => text[offset]?

/-- Whether characters stand at an offset. -/
def standsAt (text : Array Char) : List Char → Nat → Bool
  | [], _ => true
  | c :: rest, offset => text[offset]? == some c && standsAt text rest (offset + 1)

mutual

/-- The places where a match may end that begins at one of some places. -/
def advance (text : Array Char) : Regex → List Nat → List Nat
  | empty, offsets => offsets
  | literal characters, offsets =>
      offsets.filterMap fun offset =>
        if standsAt text characters offset then some (offset + characters.length) else none
  | chars members, offsets =>
      offsets.filterMap fun offset =>
        if (text[offset]?).any fun c => members.contains c.toNat then
          some (offset + 1)
        else
          none
  | place assertion, offsets =>
      offsets.filter fun offset => assertion.holds (charBefore? text offset) text[offset]?
  | repeated body least most, offsets =>
      let step := advance text body
      let start := Offsets.after step least offsets
      -- Every round but the last reaches an offset that was not reached before.
      let rounds := match most with
        | some n => n - least
        | none => text.size + 1
      Offsets.within step rounds start start
  | group _ body, offsets => advance text body offsets
  | sequence parts, offsets => advanceAll text parts offsets
  | choice alternatives, offsets => advanceAny text alternatives offsets

/-- The places where a match of one after the other may end. -/
def advanceAll (text : Array Char) : List Regex → List Nat → List Nat
  | [], offsets => offsets
  | r :: rest, offsets => advanceAll text rest (advance text r offsets)

/-- The places where a match of any of several may end. -/
def advanceAny (text : Array Char) : List Regex → List Nat → List Nat
  | [], _ => []
  | r :: rest, offsets => Offsets.union (advance text r offsets) (advanceAny text rest offsets)

end

/-- Whether a match begins and ends anywhere in a text. -/
def isMatch (r : Regex) (text : String) : Bool :=
  let characters := text.toList.toArray
  !(r.advance characters (List.range (characters.size + 1))).isEmpty

end Regex

end JsonPath
