import Std.Data.HashMap
import JsonPath.Pattern.Regex
import JsonPath.Text.Utf8

/-!
# The size of a pattern

A regular expression stands for two automata over the bytes of UTF-8, one that
reads a text forward and one that reads it backward.  A pattern is refused if one
of them takes more than ten mebibytes.

Nothing is built here; `Regex.grow` counts the states of an automaton and what
is attached to them.  A state of a class that is there already is used again as
long as its slot in a small table has not been taken by another one, and the slot
depends on the numbers of states.  So the count has to follow the order in which
the states are made.
-/

namespace JsonPath

/-- The directions in which an automaton reads. -/
inductive Direction where
  | forward
  | backward
  deriving DecidableEq, Repr

/-- The size of an automaton that is being made. -/
structure AutomatonSize where
  /-- The number of states, which is the number of the next one. -/
  states : Nat := 0
  /-- The bytes of what is attached to states. -/
  attached : Nat := 0
  /-- Whether the last part ends in a fork, to which every way on is attached. -/
  endsInFork : Bool := false

namespace AutomatonSize

/-- What an automaton may take. -/
def limit : Nat := 10 * 1024 * 1024

/-- A state takes 32 bytes. -/
def bytes (a : AutomatonSize) : Nat := 32 * a.states + a.attached

/-- Whether an automaton is larger than allowed. -/
def isOver (a : AutomatonSize) : Bool := limit < a.bytes

/-- More states, of which the last one is no fork that is left. -/
def addStates (count : Nat) (a : AutomatonSize) : AutomatonSize :=
  { a with states := a.states + count, endsInFork := false }

/-- The ways on from a fork take four bytes each. -/
def addWays (count : Nat) (a : AutomatonSize) : AutomatonSize :=
  { a with attached := a.attached + 4 * count }

/-- The arrows of a state with several ranges of bytes take eight bytes each. -/
def addArrows (count : Nat) (a : AutomatonSize) : AutomatonSize :=
  { a with attached := a.attached + 8 * count }

/-- The way on from the last part. -/
def leave (a : AutomatonSize) : AutomatonSize :=
  if a.endsInFork then { a.addWays 1 with endsInFork := false } else a

/-- The last part ends in the fork that has been added for it. -/
def endInFork (a : AutomatonSize) : AutomatonSize := { a with endsInFork := true }

/-- Does a step so many times, but stops beyond the limit. -/
def iterate (step : AutomatonSize → AutomatonSize) : Nat → AutomatonSize → AutomatonSize
  | 0, a => a
  | n + 1, a => if a.isOver then a else iterate step n (step a)

end AutomatonSize

/-! ## Shared states -/

/-- The states of a class, with a table of those that can be used again. -/
structure ClassStates where
  size : AutomatonSize
  /-- The number of slots. -/
  capacity : UInt64
  /-- What describes a state, and its number. -/
  slots : Std.HashMap UInt64 (List Nat × Nat) := {}

namespace ClassStates

/-- The slot for a description: a number is mixed in by an exclusive or and a
product, both in 64 bits. -/
def slot (capacity : UInt64) (description : List Nat) : UInt64 :=
  let mix := fun (h : UInt64) (n : Nat) => (h ^^^ n.toUInt64) * 1099511628211
  description.foldl mix 14695981039346656037 % capacity

/-- The number of the state with a description, which is added with so many
arrows unless it is in its slot. -/
def obtain (description : List Nat) (arrows : Nat) (s : ClassStates) : Nat × ClassStates :=
  let slot := slot s.capacity description
  let id := s.size.states
  let added : ClassStates :=
    { s with size := (s.size.addStates 1).addArrows arrows
             slots := s.slots.insert slot (description, id) }
  match s.slots[slot]? with
  | some (other, shared) => if other = description then (shared, s) else (id, added)
  | none => (id, added)

end ClassStates

namespace CharClass

open Utf8

/-- The byte ranges of the members. -/
def byteSequences (k : CharClass) : List (List ByteRange) :=
  k.ranges.flatMap fun r => sequences r.first r.last

/-- Neighbours that begin with the same byte range, with what follows it. -/
def groupByFirst : List (List ByteRange) → List (ByteRange × List (List ByteRange))
  | [] => []
  | [] :: rest => groupByFirst rest
  | (range :: tail) :: rest =>
      match groupByFirst rest with
      | (next, tails) :: more =>
          if range = next then
            (range, tail :: tails) :: more
          else
            (range, [tail]) :: (next, tails) :: more
      | [] => [(range, [tail])]

/-- The state from which byte sequences lead to the last one.  The states behind
it are made before it, and `depth` is more than the length of a sequence. -/
def forwardState (final : Nat) :
    (depth : Nat) → List (List ByteRange) → ClassStates → Nat × ClassStates
  | 0, _, s => (final, s)
  | depth + 1, sequences, s =>
      if sequences.all List.isEmpty then
        (final, s)
      else
        let groups := groupByFirst sequences
        let (arrows, s) := groups.foldl (fun (arrows, s) (range, tails) =>
          let (next, s) := forwardState final depth tails s
          (arrows ++ [range.first, range.last, next], s)) ([], s)
        s.obtain arrows groups.length

/-- The states from which one byte sequence leads to a state, its first byte
being the last to be read. -/
def backwardState (final : Nat) (sequence : List ByteRange) (s : ClassStates) : ClassStates :=
  (sequence.foldl (fun (next, s) range =>
    ClassStates.obtain [next, range.first, range.last] 0 s) (final, s)).2

/-- The states of a class: one with an arrow for each range if all are ASCII. -/
def grow (direction : Direction) (k : CharClass) (a : AutomatonSize) : AutomatonSize :=
  if k.isAscii then
    (a.addStates 2).addArrows k.ranges.length
  else
    let sequences := k.byteSequences
    match direction with
    | .forward =>
        (forwardState a.states 5 sequences { size := a.addStates 1, capacity := 10000 }).2.size
    | .backward =>
        let start : ClassStates := { size := a.addStates 2, capacity := 1000 }
        let all := sequences.foldl (fun s sequence => backwardState (a.states + 1) sequence s) start
        all.size.addWays sequences.length

end CharClass

/-! ## Choices between texts -/

/-- The groups into which the texts that end divide those that go on. -/
def sections : List (List Nat) → List (List (List Nat))
  | [] => [[]]
  | [] :: rest => [] :: sections rest
  | text :: rest =>
      match sections rest with
      | group :: more => (text :: group) :: more
      | [] => [[text]]

/-- The texts that begin with a byte, without it. -/
def behind (byte : Nat) (texts : List (List Nat)) : List (List Nat) :=
  texts.filterMap fun
    | first :: rest => if first = byte then some rest else none
    | [] => none

/-- The states for what follows a common beginning of some texts: for each group
one with the bytes that come next, and a fork between the groups and the ends.
`depth` is more than the length of a text. -/
def growTexts : (depth : Nat) → List (List Nat) → AutomatonSize → AutomatonSize
  | 0, _, a => a
  | depth + 1, texts, a =>
      if texts.all List.isEmpty then
        a
      else
        let groups := match texts with
          | [] :: rest => [] :: sections (rest.dropWhile List.isEmpty)
          | _ => sections texts
        let grown := groups.foldl (fun a group =>
          let bytes := (group.filterMap List.head?).eraseDups
          let a := bytes.foldl (fun a byte => growTexts depth (behind byte group) a) a
          match bytes.length with
          | 0 => a
          | 1 => a.addStates 1
          | count => (a.addStates 1).addArrows count) a
        let filled := groups.filter fun group => !group.isEmpty
        (grown.addStates 1).addWays (filled.length + (groups.length - 1))

namespace Regex

/-! ## Lengths -/

mutual

/-- The number of characters that a match has at least.  There is none for what
contains a class without members. -/
def leastLength? : Regex → Option Nat
  | empty | place _ => some 0
  | literal text => some text.length
  | chars members => if members.ranges.isEmpty then none else some 1
  | repeated body least _ => (leastLength? body).map (· * least)
  | group _ body => leastLength? body
  | sequence parts => totalLength? parts
  | choice alternatives => shortestLength? alternatives

/-- The sum of the least lengths. -/
def totalLength? : List Regex → Option Nat
  | [] => some 0
  | r :: rest => do return (← leastLength? r) + (← totalLength? rest)

/-- The least of the least lengths. -/
def shortestLength? : List Regex → Option Nat
  | [] => none
  | [r] => leastLength? r
  | r :: rest => do return min (← leastLength? r) (← shortestLength? rest)

end

mutual

/-- Whether a match can only begin at the start of the text, or, read backward,
end at its end. -/
def isAnchored (direction : Direction) : Regex → Bool
  | empty | literal _ | chars _ => false
  | place assertion =>
      match direction with
      | .forward => assertion == .textStart
      | .backward => assertion == .textEnd
  | repeated body least _ => 0 < least && isAnchored direction body
  | group _ body => isAnchored direction body
  | sequence parts => isAnyAnchored direction parts
  | choice alternatives => areAnchored direction alternatives

/-- Whether an anchored part comes first, or last, in a sequence; others that
match only the empty text may stand before it, or behind. -/
def isAnyAnchored (direction : Direction) : List Regex → Bool
  | [] => false
  | r :: rest =>
      match direction with
      | .forward => isAnchored direction r || (r.isEmptyText && isAnyAnchored direction rest)
      | .backward => isAnyAnchored direction rest || (isAnchored direction r && areEmptyText rest)

/-- Whether all of some are anchored. -/
def areAnchored (direction : Direction) : List Regex → Bool
  | [] => true
  | r :: rest => isAnchored direction r && areAnchored direction rest

end

/-! ## Automata -/

/-- The bytes of a text. -/
def textBytes (text : List Char) : List Nat := text.flatMap fun c => Utf8.encode c.toNat

/-- The bytes of a text, if that is all that is matched, as they are read. -/
def literalBytes? (direction : Direction) : Regex → Option (List Nat)
  | literal text =>
      match direction with
      | .forward => some (textBytes text)
      | .backward => some (textBytes text).reverse
  | _ => none

/-- The states of a repetition; `once` adds those of its body, which `consumes`
if it never matches the empty text. -/
def growRepeated (once : AutomatonSize → AutomatonSize) (consumes : Bool)
    (least : Nat) (most : Option Nat) (a : AutomatonSize) : AutomatonSize :=
  let times := AutomatonSize.iterate fun a => once a.leave
  match least, most with
  | 0, some 1 => ((once (a.addStates 1)).leave.addStates 1).addWays 2
  | 0, none =>
      if consumes then
        ((once (a.addStates 1)).leave.addWays 1).endInFork
      else
        ((once a).leave.addStates 3).addWays 4
  | n, none => (((times n a).leave.addStates 1).addWays 1).endInFork
  | n, some m =>
      if n = m then
        times n a
      else
        let required := if n = 0 then a.addStates 1 else times n a
        let optional := fun (a : AutomatonSize) => ((once (a.addStates 1)).leave).addWays 2
        AutomatonSize.iterate optional (m - n) (required.leave.addStates 1)

mutual

/-- Adds the states of a regular expression. -/
def grow (direction : Direction) : Regex → AutomatonSize → AutomatonSize
  | empty, a | place _, a => a.addStates 1
  | literal text, a => a.addStates (textBytes text).length
  | chars members, a => members.grow direction a
  | repeated body least most, a =>
      let consumes := body.leastLength?.any (0 < ·)
      growRepeated (grow direction body) consumes least most a
  | group _ body, a =>
      match direction with
      | .forward => (grow direction body (a.addStates 1)).leave.addStates 1
      | .backward => grow direction body a
  | sequence parts, a => growAll direction parts a
  | choice alternatives, a =>
      match alternatives.mapM (literalBytes? direction) with
      | some texts =>
          growTexts ((texts.map List.length).foldl max 0 + 1) texts (a.addStates 1)
      | none => growAny direction 0 alternatives a

/-- Adds the states of one after the other, in the order of reading. -/
def growAll (direction : Direction) : List Regex → AutomatonSize → AutomatonSize
  | [], a => a
  | r :: rest, a =>
      match direction with
      | .forward => growAll direction rest (grow direction r a.leave)
      | .backward => grow direction r (growAll direction rest a).leave

/-- Adds the states of alternatives, of which so many are there.  Two states, the
fork before them and the end behind them, follow the second one. -/
def growAny (direction : Direction) (count : Nat) :
    List Regex → AutomatonSize → AutomatonSize
  | [], a => a
  | r :: rest, a =>
      let a := (grow direction r a).leave.addWays 1
      growAny direction (count + 1) rest (if count = 1 then a.addStates 2 else a)

end

/-- The states in front of an automaton: those that let a match begin anywhere,
unless it is anchored. -/
def front (direction : Direction) (r : Regex) : AutomatonSize :=
  let start : AutomatonSize := {}
  if r.isAnchored direction then
    start.addStates 1
  else
    ((start.addStates 3).addArrows 1).addWays 2

/-- The size of the automaton.  The forward one marks where the match begins and
ends, and both have a last state. -/
def automatonSize (direction : Direction) (r : Regex) : AutomatonSize :=
  match direction with
  | .forward => (r.grow direction ((r.front direction).addStates 1)).leave.addStates 2
  | .backward => (r.grow direction (r.front direction)).leave.addStates 1

/-- Whether both automata keep to the limit. -/
def isSmall (r : Regex) : Bool :=
  !(r.automatonSize .forward).isOver && !(r.automatonSize .backward).isOver

end Regex

end JsonPath
