import JsonPath.Pattern.Place

/-!
# Regular expressions

Regular expressions are kept in a simple form, to which the functions
`Regex.ofClass`, `ofParts`, `ofAlternatives` and `times` reduce what they are
given: characters that stand together are one text, a choice between characters
is a class, and the beginning that all alternatives share stands before the
choice.  None of that changes what is matched; it decides how large the automata
of `Pattern.Size` are.
-/

namespace JsonPath

/-- A regular expression. -/
inductive Regex where
  /-- The empty text. -/
  | empty
  /-- These characters, at least one. -/
  | literal (text : List Char)
  /-- One character of a class. -/
  | chars (members : CharClass)
  | place (assertion : Assertion)
  /-- At least and at most so many times. -/
  | repeated (body : Regex) (least : Nat) (most : Option Nat)
  /-- A group that counts, with its number. -/
  | group (number : Nat) (body : Regex)
  /-- One after the other. -/
  | sequence (parts : List Regex)
  /-- Any of several. -/
  | choice (alternatives : List Regex)

namespace Regex

/-! ## Equality -/

mutual

/-- Whether two regular expressions are the same. -/
def same : Regex → Regex → Bool
  | empty, empty => true
  | literal a, literal b => a == b
  | chars a, chars b => a == b
  | place a, place b => a == b
  | repeated a least most, repeated b least' most' =>
      same a b && least == least' && most == most'
  | group n a, group m b => n == m && same a b
  | sequence as, sequence bs => sameAll as bs
  | choice as, choice bs => sameAll as bs
  | _, _ => false

/-- Whether two lists are the same, one by one. -/
def sameAll : List Regex → List Regex → Bool
  | [], [] => true
  | a :: as, b :: bs => same a b && sameAll as bs
  | _, _ => false

end

/-! ## The empty text -/

mutual

/-- Whether only the empty text can be matched. -/
def isEmptyText : Regex → Bool
  | empty | place _ => true
  | literal _ | chars _ => false
  | repeated body _ most => most.isSome && isEmptyText body
  | group _ body => isEmptyText body
  | sequence parts => areEmptyText parts
  | choice alternatives => areEmptyText alternatives

/-- Whether each of some can match only the empty text. -/
def areEmptyText : List Regex → Bool
  | [] => true
  | r :: rest => isEmptyText r && areEmptyText rest

end

/-! ## Simple forms -/

/-- One character of a class. -/
def ofClass (members : CharClass) : Regex :=
  match members.single? with
  | some c => literal [c]
  | none => chars members

/-- The parts of a sequence; what is none counts as one part, and the empty text
as no part. -/
def parts : Regex → List Regex
  | sequence parts => parts
  | empty => []
  | r => [r]

/-- Joins texts that stand side by side. -/
def joinTexts : List Regex → List Regex
  | [] => []
  | literal text :: rest =>
      match joinTexts rest with
      | literal more :: others => literal (text ++ more) :: others
      | others => literal text :: others
  | r :: rest => r :: joinTexts rest

/-- One after the other. -/
def ofParts (rs : List Regex) : Regex :=
  match joinTexts (rs.flatMap parts) with
  | [] => empty
  | [r] => r
  | several => sequence several

/-- The alternatives of a choice; what is none counts as one alternative. -/
def alternatives : Regex → List Regex
  | choice alternatives => alternatives
  | r => [r]

/-- The class of a text of one character. -/
def singleClass? : Regex → Option CharClass
  | literal [c] => some (.single c)
  | _ => none

/-- The class that is matched. -/
def class? : Regex → Option CharClass
  | chars members => some members
  | _ => none

/-- The class of a choice between characters, or of one between classes. -/
def choiceClass? (rs : List Regex) : Option CharClass :=
  ((rs.mapM singleClass?) <|> (rs.mapM class?)).map CharClass.unions

/-- Any of several that are no choices themselves. -/
def ofChoices (rs : List Regex) : Regex :=
  match rs with
  | [r] => r
  | _ =>
      match choiceClass? rs with
      | some members => ofClass members
      | none => choice rs

/-- What two lists begin with alike. -/
def sharedParts : List Regex → List Regex → List Regex
  | a :: as, b :: bs => if same a b then a :: sharedParts as bs else []
  | _, _ => []

/-- The parts of a sequence; nothing else has any. -/
def sequenceParts : Regex → List Regex
  | sequence parts => parts
  | _ => []

/-- The parts with which all of some sequences begin. -/
def sharedStart : List Regex → List Regex
  | [] => []
  | r :: rest => rest.foldl (fun shared s => sharedParts shared s.sequenceParts) r.sequenceParts

/-- Any of several. -/
def ofAlternatives (rs : List Regex) : Regex :=
  let flat := rs.flatMap alternatives
  match flat, choiceClass? flat, sharedStart flat with
  | [r], _, _ => r
  | _, some members, _ => ofClass members
  | _, none, [] => choice flat
  | _, none, start =>
      let ends := flat.map fun r => ofParts (r.sequenceParts.drop start.length)
      ofParts (start ++ [ofChoices (ends.flatMap alternatives)])

/-- At least and at most so many times.  The empty text is repeated at most
once. -/
def times (body : Regex) (least : Nat) (most : Option Nat) : Regex :=
  let (least, most) :=
    if body.isEmptyText then (min least 1, some (min (most.getD 1) 1)) else (least, most)
  if most = some 0 then empty
  else if least = 1 ∧ most = some 1 then body
  else repeated body least most

end Regex

end JsonPath
