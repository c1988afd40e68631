import JsonPath.Pattern.Flags
import JsonPath.Pattern.Place
import JsonPath.Pattern.Property
import JsonPath.Text.UnicodeEscape

/-!
# Escapes of a pattern

What stands behind a backslash: a character, a class, or a condition on the
place.
-/

namespace JsonPath

/-- What an escape stands for. -/
inductive PatternAtom where
  | literal (c : Char)
  | chars (characters : CharClass)
  | place (assertion : Assertion)

/-- The characters that mean something in a pattern, unless a backslash stands
before them. -/
def isMetacharacter (c : Char) : Bool :=
  "\\.+*?()|[]\x7b\x7d^$#&-~".toList.contains c

/-- The characters that a pattern matches as they stand. -/
def escapePattern : List Char → List Char
  | [] => []
  | c :: rest =>
      if isMetacharacter c then '\\' :: c :: escapePattern rest else c :: escapePattern rest

/-! ## Flags and classes -/

namespace PatternFlags

/-- A class as the flags want it: with the characters that differ in case if `i`
is on, but without `u` only with ASCII. -/
def fold (flags : PatternFlags) (members : CharClass) : CharClass :=
  if !flags.ignoreCase then members
  else if flags.unicode then members.folded
  else members.folded.intersection .ascii

/-- The complement of a class, if asked for.  Without `u` it would have members
that are no characters, and is refused. -/
def complementIf? (flags : PatternFlags) (negated : Bool) (members : CharClass) :
    Option CharClass :=
  if !negated then some members
  else if flags.unicode then some members.complement
  else none

end PatternFlags

namespace PatternEscape

/-- The characters that a backslash leaves as they are. -/
def isPlain (c : Char) : Bool :=
  isMetacharacter c || (c.toNat < 128 && !c.isAlphanum && c != '<' && c != '>')

/-- The controls with a letter of their own. -/
def control? : Char → Option Char
  | 'a' => some '\x07'
  | 'f' => some '\x0c'
  | 't' => some '\t'
  | 'n' => some '\n'
  | 'r' => some '\r'
  | 'v' => some '\x0b'
  | _ => none

/-! ## Characters by number -/

/-- The character with a number, if it has one. -/
def scalar? (code : Nat) : Option Char :=
  if code.isValidChar then some (Char.ofNat code) else none

/-- So many hexadecimal digits, and what follows them. -/
def readDigits (flags : PatternFlags) : Nat → List Char → Option (List Char × List Char)
  | 0, text => some ([], text)
  | n + 1, text =>
      match flags.skip text with
      | [] => none
      | c :: rest =>
          if isHexDigit c then
            (readDigits flags n rest).map fun (digits, after) => (c :: digits, after)
          else
            none

/-- A character by its number, of a fixed count of digits or in braces.  A
number of two digits beyond ASCII is no character unless `u` is on. -/
def readNumbered (flags : PatternFlags) (digits : Nat) (text : List Char) :
    Option (Char × List Char) :=
  match flags.skip text with
  | '\x7b' :: rest => do
      let (inside, after) := flags.takeWhile (· != '\x7d') (flags.skip rest)
      if inside.isEmpty ∨ after.isEmpty ∨ !inside.all isHexDigit then none
      let c ← scalar? (hexNumber inside)
      return (c, after.drop 1)
  | _ => do
      let (code, after) ← readDigits flags digits text
      let c ← scalar? (hexNumber code)
      if !flags.unicode ∧ digits = 2 ∧ 128 ≤ c.toNat then none
      return (c, after)

/-! ## Classes -/

/-- What stands before and behind the first occurrence of a separator. -/
def splitAtFirst? (separator text : List Char) : Option (List Char × List Char) :=
  match text with
  | [] => none
  | c :: rest =>
      if separator.isPrefixOf text then
        some ([], text.drop separator.length)
      else
        (splitAtFirst? separator rest).map fun (before, behind) => (c :: before, behind)

/-- The class of a property, with or without a value, and whether its complement
is meant. -/
def property? (name : List Char) : Option (CharClass × Bool) :=
  match splitAtFirst? ['!', '='] name with
  | some (property, value) => (CharClass.ofValue? property value).map (·, true)
  | none =>
      match splitAtFirst? [':'] name <|> splitAtFirst? ['='] name with
      | some (property, value) => (CharClass.ofValue? property value).map (·, false)
      | none => (CharClass.ofName? name).map (·, false)

/-- The name of a property, one letter or a text in braces. -/
def readName (flags : PatternFlags) (text : List Char) : Option (List Char × List Char) :=
  match flags.skip text with
  | [] => none
  | '\x7b' :: rest =>
      let (inside, after) := flags.takeWhile (· != '\x7d') (flags.skip rest)
      if after.isEmpty then none else some (inside, after.drop 1)
  | c :: rest => if c = '\\' then none else some ([c], rest)

/-- The class of a property.  Properties are those of Unicode. -/
def readProperty (flags : PatternFlags) (negated : Bool) (text : List Char) :
    Option (CharClass × List Char) := do
  let (name, after) ← readName flags text
  let (members, opposite) ← property? name
  if flags.unicode then
    some ((flags.fold members).complementIf (negated != opposite), after)
  else
    none

/-- The classes with a letter of their own; a capital stands for the
complement. -/
def shortClass? (flags : PatternFlags) (c : Char) : Option CharClass :=
  let choose := fun wide narrow : CharClass => some (if flags.unicode then wide else narrow)
  match c.toLower with
  | 'd' => choose .digit .asciiDigit
  | 's' => choose .space .asciiSpace
  | 'w' => choose .word .asciiWord
  | _ => none

/-! ## Places -/

/-- The characters that words are made of. -/
def wordClass (flags : PatternFlags) : CharClass :=
  if flags.unicode then .word else .asciiWord

/-- The edge of a word that a name in braces stands for. -/
def edge? (name : List Char) : Option WordEdge :=
  match String.ofList name with
  | "start" => some .start
  | "end" => some .finish
  | "start-half" => some .startHalf
  | "end-half" => some .finishHalf
  | _ => none

/-- What follows `\b`: the name of an edge in braces.  Braces with something else
belong to a repetition. -/
def readEdge (flags : PatternFlags) (text : List Char) : Option (WordEdge × List Char) :=
  let isNameChar := fun c : Char => c.isAlpha || c == '-'
  match text with
  | '\x7b' :: rest =>
      match flags.skip rest with
      | [] => none
      | c :: inside =>
          if isNameChar c then
            match flags.takeWhile isNameChar (c :: inside) with
            | (name, '\x7d' :: after) => (edge? name).map (·, after)
            | _ => none
          else
            some (.boundary, text)
  | _ => some (.boundary, text)

/-- The condition on a place that a letter stands for. -/
def readPlace (flags : PatternFlags) (c : Char) (rest : List Char) :
    Option (Assertion × List Char) :=
  match c with
  | 'A' => some (.textStart, rest)
  | 'z' => some (.textEnd, rest)
  | 'b' => (readEdge flags rest).map fun (edge, after) => (.word edge (wordClass flags), after)
  | 'B' => some (.word .inside (wordClass flags), rest)
  | '<' => some (.word .start (wordClass flags), rest)
  | '>' => some (.word .finish (wordClass flags), rest)
  | _ => none

/-- The meaning of the escape whose backslash has been read, and what follows
it. -/
def read (flags : PatternFlags) (text : List Char) : Option (PatternAtom × List Char) :=
  match text with
  | [] => none
  | c :: rest =>
      if isPlain c then
        some (.literal c, rest)
      else
        match control? c, shortClass? flags c with
        | some d, _ => some (.literal d, rest)
        | none, some members =>
            (flags.complementIf? c.isUpper members).map fun k => (.chars k, rest)
        | none, none =>
            match c with
            | 'x' => (readNumbered flags 2 rest).map fun (d, after) => (.literal d, after)
            | 'u' => (readNumbered flags 4 rest).map fun (d, after) => (.literal d, after)
            | 'U' => (readNumbered flags 8 rest).map fun (d, after) => (.literal d, after)
            | 'p' => (readProperty flags false rest).map fun (k, after) => (.chars k, after)
            | 'P' => (readProperty flags true rest).map fun (k, after) => (.chars k, after)
            | _ => (readPlace flags c rest).map fun (a, after) => (.place a, after)

end PatternEscape

end JsonPath
