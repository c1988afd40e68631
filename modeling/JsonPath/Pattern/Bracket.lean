import JsonPath.Pattern.Escape

/-!
# Classes in brackets

A class lists characters, ranges and other classes, which may stand in brackets
of their own; `&&`, `--` and `~~` between such lists are set operations, applied
from left to right.
-/

namespace JsonPath

/-- Operations between two lists of a class. -/
inductive SetOp where
  | intersection
  | difference
  | symmetricDifference

/-- The class that an operator makes of two. -/
def SetOp.apply : SetOp → CharClass → CharClass → CharClass
  | intersection => .intersection
  | difference => .difference
  | symmetricDifference => .symmetricDifference

/-- A class that has been read, and how deeply it is nested. -/
structure NestedClass where
  members : CharClass
  depth : Nat

namespace NestedClass

/-- A character, a range or a class that is no bracket. -/
def plain (members : CharClass) : NestedClass := { members, depth := 0 }

/-- The members of a list of classes.  One class alone is no list. -/
def ofList (parts : List NestedClass) : NestedClass :=
  match parts with
  | [k] => k
  | _ =>
      { members := .unions (parts.map members)
        depth := if parts.isEmpty then 0 else (parts.map depth).foldl max 0 + 1 }

/-- The result of an operation. -/
def combine (flags : PatternFlags) (op : SetOp) (left right : NestedClass) : NestedClass :=
  { members := op.apply (flags.fold left.members) (flags.fold right.members)
    depth := max left.depth right.depth + 1 }

end NestedClass

/-- A class whose brackets are open. -/
structure OpenClass where
  negated : Bool
  /-- The operation before the current list, and what stands before it. -/
  pending : Option (SetOp × NestedClass) := none
  /-- The current list, last first. -/
  parts : List NestedClass := []

namespace OpenClass

/-- Adds a part behind the others. -/
def add (k : OpenClass) (part : NestedClass) : OpenClass := { k with parts := part :: k.parts }

/-- All that has been read, with the pending operation applied. -/
def resolved (flags : PatternFlags) (k : OpenClass) : NestedClass :=
  let list := NestedClass.ofList k.parts
  match k.pending with
  | none => list
  | some (op, left) => .combine flags op left list

/-- Begins the list behind an operation. -/
def operate (flags : PatternFlags) (k : OpenClass) (op : SetOp) : OpenClass :=
  { k with pending := some (op, k.resolved flags), parts := [] }

/-- The class when its brackets close. -/
def closed? (flags : PatternFlags) (k : OpenClass) : Option NestedClass :=
  let inner := k.resolved flags
  (flags.complementIf? k.negated (flags.fold inner.members)).map fun members =>
    { members, depth := inner.depth + 1 }

/-- The beginning of a class behind its bracket: a caret for the complement,
hyphens, and a bracket that does not close an empty class. -/
def start (flags : PatternFlags) (text : List Char) : Option (OpenClass × List Char) :=
  let inside := flags.skip text
  let negated := inside.head? == some '^'
  let inside := if negated then flags.skip (inside.drop 1) else inside
  let (hyphens, inside) := flags.takeWhile (· == '-') inside
  let k : OpenClass := { negated }
  match hyphens, inside with
  | _, [] => none
  | [], ']' :: rest => some (k.add (.plain (.single ']')), rest)
  | _, _ => some (hyphens.foldl (fun k c => k.add (.plain (.single c))) k, inside)

end OpenClass

namespace PatternClass

/-- A class `[:name:]` or `[:^name:]`, of which the first bracket has been read,
and whether its complement is meant. -/
def readNamed? (text : List Char) : Option (CharClass × Bool × List Char) :=
  match text with
  | ':' :: rest =>
      let negated := rest.head? == some '^'
      let name := if negated then rest.drop 1 else rest
      match name.dropWhile (· != ':') with
      | ':' :: ']' :: after =>
          (CharClass.named? (name.takeWhile (· != ':'))).map fun k => (k, negated, after)
      | _ => none
  | _ => none

/-- A character or an escape in a class. -/
def readAtom (flags : PatternFlags) (c : Char) (rest : List Char) :
    Option (PatternAtom × List Char) :=
  if c = '\\' then PatternEscape.read flags rest else some (.literal c, rest)

/-- The next character behind a hyphen, which tells whether a range follows.
Of a comment only the mark is skipped. -/
def behindHyphen? (flags : PatternFlags) (text : List Char) : Option Char :=
  if flags.verbose then
    match text.dropWhile isBlank with
    | '#' :: rest => (rest.dropWhile isBlank).head?
    | rest => rest.head?
  else
    text.head?

/-- A character of a class; without `u` only ASCII has any. -/
def member? (flags : PatternFlags) (c : Char) : Option Char :=
  if flags.unicode ∨ c.toNat < 128 then some c else none

/-- The members that an atom stands for. -/
def membersOf? (flags : PatternFlags) : PatternAtom → Option CharClass
  | .literal c => (member? flags c).map .single
  | .chars members => some members
  | .place _ => none

/-- A character, a range or a class within a class. -/
def readMembers (flags : PatternFlags) (c : Char) (rest : List Char) :
    Option (CharClass × List Char) := do
  let (first, after) ← readAtom flags c rest
  match flags.skip after with
  | [] => none
  | '-' :: behind =>
      let next := behindHyphen? flags behind
      if next = some ']' ∨ next = some '-' then
        return (← membersOf? flags first, '-' :: behind)
      match first, flags.skip behind with
      | .literal low, d :: rest =>
          let (last, after) ← readAtom flags d rest
          match last with
          | .literal high =>
              if (← member? flags low).toNat ≤ (← member? flags high).toNat then
                return (.range low high, after)
              none
          | _ => none
      | _, _ => none
  | behind => return (← membersOf? flags first, behind)

/-- The class of the innermost brackets closes. -/
inductive ClassStep where
  | done (k : NestedClass) (rest : List Char)
  | more (k : OpenClass) (enclosing : List OpenClass) (rest : List Char)

/-- Reads one part of a class, from its first character. -/
def step (flags : PatternFlags) (k : OpenClass) (enclosing : List OpenClass) (c : Char)
    (rest : List Char) : Option ClassStep :=
  match c, rest with
  | '[', _ =>
      match readNamed? rest with
      | some (members, negated, after) =>
          (flags.complementIf? negated (flags.fold members)).map fun members =>
            .more (k.add (.plain members)) enclosing after
      | none => (OpenClass.start flags rest).map fun (inner, after) =>
          .more inner (k :: enclosing) after
  | ']', _ =>
      (k.closed? flags).map fun closed =>
        match enclosing with
        | [] => .done closed rest
        | outer :: more => .more (outer.add closed) more rest
  | '&', '&' :: after => some (.more (k.operate flags .intersection) enclosing after)
  | '-', '-' :: after => some (.more (k.operate flags .difference) enclosing after)
  | '~', '~' :: after => some (.more (k.operate flags .symmetricDifference) enclosing after)
  | _, _ => (readMembers flags c rest).map fun (members, after) =>
      .more (k.add (.plain members)) enclosing after

/-- Reads a class to its last bracket.  No step gives back what it was given, so
the test of the lengths does not refuse anything. -/
def readFrom (flags : PatternFlags) (k : OpenClass) (enclosing : List OpenClass)
    (text : List Char) : Option (NestedClass × List Char) :=
  match _h : flags.skip text with
  | [] => none
  | c :: rest =>
      match step flags k enclosing c rest with
      | none => none
      | some (.done closed after) => some (closed, after)
      | some (.more inner outer after) =>
          if after.length ≤ rest.length then readFrom flags inner outer after else none
termination_by text.length
decreasing_by
  have := flags.length_skip_le text
  rw [_h] at this
  simp only [List.length_cons] at this
  omega

/-- A class whose first bracket has been read. -/
def read (flags : PatternFlags) (text : List Char) : Option (NestedClass × List Char) := do
  let (k, inside) ← OpenClass.start flags text
  readFrom flags k [] inside

end PatternClass

end JsonPath
