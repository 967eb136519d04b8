import Heirloom.Regex.NamedSet
import Heirloom.Text.Age
import Heirloom.Text.Segmentation

/-!
# Character properties by name

A property is named loosely: case, spaces, hyphens, underscores and a leading
`is` do not matter. A bare name is a binary property, a general category or a
script, looked for in this order; a name with a value is a general category, a
script, a script that a character is used with, an age or a class of text
segmentation.
-/

namespace Heirloom
namespace Regex

open Text (CharSet)

/-- The loose form of a property name. -/
def looseName (name : String) : String :=
  let chars := name.toList.map Char.toLower
  let body := match chars with
    | 'i' :: 's' :: rest => rest
    | _ => chars
  let kept := body.filter fun c => c != ' ' && c != '_' && c != '-' && c.toNat < 0x80
  if kept == ['c'] && body.length < chars.length then "isc" else String.ofList kept

/-- The entry of a table under a name. -/
def lookup? (table : List (List String × CharSet)) (name : String) :
    Option (List String × CharSet) :=
  table.find? fun entry => entry.1.contains name

/-- The set of a table under a name. -/
def named? (table : List (List String × CharSet)) (name : String) : Option CharSet :=
  (lookup? table name).map Prod.snd

/-- The characters of a general category or of one of the catch-all names. -/
def generalCategory? (name : String) : Option CharSet :=
  if name == "any" then some .all
  else if name == "assigned" then some Text.Category.unassigned.complement
  else if name == "ascii" then some NamedSet.ascii
  else named? Text.Category.byName name

/-- Names that are a category although a property shares them. -/
def categoryFirstNames : List String := ["cf", "sc", "lc"]

/-- The characters with a property given by a bare name. -/
def bareProperty? (name : String) : Option CharSet :=
  let loose := looseName name
  let binary :=
    if categoryFirstNames.contains loose then none else named? Text.Property.byName loose
  binary <|> generalCategory? loose <|> named? Text.Script.byName loose

/-- The characters with a property given by a name and a value, both loose. -/
def valuedProperty? (name value : String) : Option CharSet :=
  match name with
  | "gc" | "generalcategory" => generalCategory? value
  | "sc" | "script" => named? Text.Script.byName value
  | "scx" | "scriptextensions" =>
      (lookup? Text.Script.byName value).map fun (names, own) => Text.Script.usedWith names own
  | "age" => Text.Age.upTo? value
  | "gcb" | "graphemeclusterbreak" => named? Text.Segmentation.graphemeByName value
  | "wb" | "wordbreak" => named? Text.Segmentation.wordByName value
  | "sb" | "sentencebreak" => named? Text.Segmentation.sentenceByName value
  | _ => none

/-- Split a text at the first occurrence of a separator. -/
def splitAtFirst? (separator : List Char) : List Char → Option (List Char × List Char)
  | [] => none
  | c :: rest =>
      if separator.isPrefixOf (c :: rest) then
        some ([], (c :: rest).drop separator.length)
      else
        (splitAtFirst? separator rest).map fun parts => (c :: parts.1, parts.2)

/-- The characters with the property written between braces, and whether these
are the characters to leave out. -/
def property? (chars : List Char) : Option (CharSet × Bool) :=
  let valued (excluded : Bool) (parts : List Char × List Char) : Option (CharSet × Bool) :=
    (valuedProperty? (looseName (String.ofList parts.1)) (looseName (String.ofList parts.2))).map
      (·, excluded)
  match splitAtFirst? ['!', '='] chars with
  | some parts => valued true parts
  | none =>
      match splitAtFirst? [':'] chars <|> splitAtFirst? ['='] chars with
      | some parts => valued false parts
      | none => (bareProperty? (String.ofList chars)).map (·, false)

end Regex
end Heirloom
