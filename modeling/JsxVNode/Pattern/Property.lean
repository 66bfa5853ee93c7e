import JsxVNode.Text.Age
import JsxVNode.Text.Break.Sentence
import JsxVNode.Text.Property
import JsxVNode.Text.Script

/-!
# Sets by name

A pattern names a set of characters by a property, a general category or a script, or
by a property and its value: a version of the standard, for instance, or a class of
characters that tells where words break. In names, case, blanks, hyphens,
underscores and a leading `is` do not count.
-/

namespace JsxVNode.Pattern

open Text (CharSet Category Script Release)

/-- A name with what does not count left out. Characters beyond the first 128 do not count
either; `isc` is a name of its own, apart from `c`. -/
private def plainName (name : List Char) : String :=
  let plain (cs : List Char) : List Char :=
    (cs.filter fun c => c.toNat < 128 && !" _-".toList.contains c).map Char.toLower
  match name with
  | a :: b :: rest =>
    if a.toLower = 'i' ∧ b.toLower = 's' then
      if plain rest = ['c'] then "isc" else String.ofList (plain rest)
    else String.ofList (plain name)
  | _ => String.ofList (plain name)

/-- The set with a name in a list. -/
private def find? (name : String) (sets : List (List String × CharSet)) : Option CharSet :=
  (sets.find? (·.1.contains name)).map (·.2)

/-- The set that a name alone denotes. -/
private def named? (name : String) : Option CharSet :=
  find? name Text.Property.named <|> find? name Category.named <|>
    (Script.ofName? name).map (·.members)

/-- The set of the characters for which a property has a value. -/
private def valued? (property value : String) : Option CharSet :=
  if ["gc", "generalcategory"].contains property then find? value Category.named
  else if ["sc", "script"].contains property then (Script.ofName? value).map (·.members)
  else if ["scx", "scriptextensions"].contains property then
    (Script.ofName? value).map (·.extended)
  else if property = "age" then Release.charsOf? value
  else if ["gcb", "graphemeclusterbreak"].contains property then
    find? value Text.Break.Grapheme.named
  else if ["wb", "wordbreak"].contains property then find? value Text.Break.Word.named
  else if ["sb", "sentencebreak"].contains property then find? value Text.Break.Sentence.named
  else none

/-- The parts of a text before and after the first occurrence of a separator. -/
private def splitAt? (separator : List Char) : List Char → Option (List Char × List Char)
  | [] => none
  | c :: rest =>
    if separator.isPrefixOf (c :: rest) then some ([], (c :: rest).drop separator.length)
    else (splitAt? separator rest).map fun (before, after) => (c :: before, after)

/-- The set that a description denotes: a name, or a property and its value. -/
def property? (description : List Char) : Option CharSet :=
  let parts := splitAt? ['!', '='] description <|> splitAt? [':'] description <|>
    splitAt? ['='] description
  match parts with
  | some (property, value) => valued? (plainName property) (plainName value)
  | none => named? (plainName description)

end JsxVNode.Pattern
