import JsonPath.Pattern.CharClass
import JsonPath.Unicode.Age
import JsonPath.Unicode.BinaryProperty
import JsonPath.Unicode.GeneralCategory
import JsonPath.Unicode.Script
import JsonPath.Unicode.ScriptExtension
import JsonPath.Unicode.Segmentation

/-!
# Classes by property

The classes that a pattern names: digits, blanks and word characters; those of a
binary property, a general category or a script; and those of a property with a
value.  Names are compared without regard to case, blanks, hyphens, underscores,
and a leading `is`.
-/

namespace JsonPath

open Unicode

/-! ## Names -/

/-- The letters of a name that count. -/
def significantLetters (name : List Char) : List Char :=
  (name.filter fun c => c.toNat < 128 && !(c == ' ' || c == '_' || c == '-')).map Char.toLower

/-- A name without what does not count.  `isc` keeps its beginning. -/
def looseName (name : List Char) : List Char :=
  match name with
  | i :: s :: rest =>
      if i.toLower = 'i' ∧ s.toLower = 's' then
        let letters := significantLetters rest
        if letters = ['c'] then ['i', 's', 'c'] else letters
      else
        significantLetters name
  | _ => significantLetters name

/-- Whether a loose name is among some names. -/
def isNamed (names : List String) (name : List Char) : Bool :=
  names.any fun n => looseName n.toList == name

namespace CharClass

/-! ## Tables -/

/-- The members of a property. -/
def ofProperty (property : CharProperty) : CharClass :=
  ofRanges (CodeRange.readAll property.ranges)

/-- The class of a table that a loose name stands for. -/
def inTable? (table : List CharProperty) (name : List Char) : Option CharClass :=
  (table.find? fun property => isNamed property.names name).map ofProperty

/-- The general categories whose short names begin with one of some letters. -/
def categories (codes : List String) : CharClass :=
  unions ((generalCategories.filter fun property =>
    codes.any fun code => code.toList.isPrefixOf (property.names.headD "").toList).map ofProperty)

/-- The characters that a general category is assigned to. -/
def assigned : CharClass := categories ["L", "M", "N", "P", "S", "Z", "C"]

/-- General categories that are made of others. -/
def categoryGroups : List (List String × List String) :=
  [(["L", "Letter"], ["L"]),
   (["LC", "Cased_Letter"], ["Lu", "Ll", "Lt"]),
   (["M", "Mark", "Combining_Mark"], ["M"]),
   (["N", "Number"], ["N"]),
   (["P", "Punctuation", "Punct"], ["P"]),
   (["S", "Symbol"], ["S"]),
   (["Z", "Separator"], ["Z"])]

/-- The class of a general category, or of one of the names that are used like one. -/
def category? (name : List Char) : Option CharClass :=
  if isNamed ["Any"] name then
    some all
  else if isNamed ["ASCII"] name then
    some ascii
  else if isNamed ["Assigned"] name then
    some assigned
  else if isNamed ["Cn", "Unassigned"] name then
    some (complement assigned)
  else if isNamed ["C", "Other"] name then
    some (complement (categories ["L", "M", "N", "P", "S", "Z"]))
  else
    match categoryGroups.find? fun group => isNamed group.1 name with
    | some (_, codes) => some (categories codes)
    | none => inTable? generalCategories name

/-- The abbreviations that belong to a general category although a property
has them too. -/
def categoryOnly : List String := ["cf", "sc", "lc"]

/-- The class that one name stands for: a binary property, a general category,
or a script. -/
def ofName? (name : List Char) : Option CharClass :=
  let loose := looseName name
  let property := if isNamed categoryOnly loose then none else inTable? binaryProperties loose
  property <|> category? loose <|> inTable? scripts loose

/-- The characters that a version of the database has, with those of all
versions before it. -/
def ofAge? (name : List Char) : Option CharClass :=
  let isThis := fun property : CharProperty => isNamed property.names name
  match ages.dropWhile fun property => !isThis property with
  | [] => none
  | this :: _ =>
      let older := ages.takeWhile fun property => !isThis property
      some (unions ((older ++ [this]).map ofProperty))

/-- The class of a property with a value. -/
def ofValue? (property value : List Char) : Option CharClass :=
  let name := looseName property
  let value := looseName value
  if isNamed ["gc", "General_Category"] name then
    category? value
  else if isNamed ["sc", "Script"] name then
    inTable? scripts value
  else if isNamed ["scx", "Script_Extensions"] name then
    inTable? scriptExtensions value
  else if isNamed ["age"] name then
    ofAge? value
  else if isNamed ["GCB", "Grapheme_Cluster_Break"] name then
    inTable? graphemeBreaks value
  else if isNamed ["WB", "Word_Break"] name then
    inTable? wordBreaks value
  else if isNamed ["SB", "Sentence_Break"] name then
    inTable? sentenceBreaks value
  else
    none

/-! ## Digits, blanks and words -/

/-- The class of a name that stands in a table. -/
def known (name : String) : CharClass := (ofName? name.toList).getD empty

/-- The digits of all scripts. -/
def digit : CharClass := known "Decimal_Number"

/-- The blanks of all scripts. -/
def space : CharClass := known "White_Space"

/-- The characters that words are made of. -/
def word : CharClass :=
  unions [known "Alphabetic", known "Mark", digit, known "Connector_Punctuation",
    known "Join_Control"]

end CharClass

end JsonPath
