import DeltaLint.Unicode.Age
import DeltaLint.Unicode.Break

/-
  DeltaLint.Unicode.Query — the set of characters that a property name asks for.

  Names are loose: case, spaces, hyphens and low lines do not count, nor does a leading `is`. A bare
  name asks for a property that a character has or has not, a general category or a script; the short
  names that a category shares with a property of many values (`cf`, `sc`, `lc`) mean the category.
  With a value, a name asks for the characters that have this value of the property.
-/

namespace DeltaLint.Unicode.Query

/-- A name without what its spelling may vary in. A name of `is` and `c` alone keeps both. -/
def loose (name : List Char) : List Char :=
  let bare (cs : List Char) := (cs.filter fun c => c.toNat < 0x80 && c != ' ' && c != '_' && c != '-').map Char.toLower
  match name with
  | i :: s :: r =>
    if i.toLower = 'i' ∧ s.toLower = 's' then if bare r = ['c'] then ['i', 's', 'c'] else bare r else bare name
  | _ => bare name

/-- The set that a bare name stands for. -/
def named? (name : List Char) : Option CharSet :=
  let key := String.ofList (loose name)
  Property.binary.lookup key <|> Property.categories.lookup key <|> (Script.named? key).map (·.characters)

/-- The set of the characters for which a property has the given value. -/
def valued? (property value : List Char) : Option CharSet :=
  let value := String.ofList (loose value)
  match String.ofList (loose property) with
  | "generalcategory" | "gc" => Property.categories.lookup value
  | "script" | "sc" => (Script.named? value).map (·.characters)
  | "scriptextensions" | "scx" => (Script.named? value).map (·.extended)
  | "age" => Age.upTo? value
  | "graphemeclusterbreak" | "gcb" => Break.named? value Break.Grapheme.parts
  | "wordbreak" | "wb" => Break.named? value Break.Word.parts
  | "sentencebreak" | "sb" => Break.named? value Break.Sentence.parts
  | _ => none

end DeltaLint.Unicode.Query
