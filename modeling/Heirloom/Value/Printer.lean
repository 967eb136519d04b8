import Heirloom.Text.Quoted
import Heirloom.Value

/-!
# The written form of values

Scalars are written as they stand in grammar source. Lists are bracketed and
objects braced; an object writes its keys without quotes.
-/

namespace Heirloom
namespace Value

/-- The decimal form of an integer. -/
def renderInt (number : Int64) : String :=
  toString number.toInt

mutual

/-- The written form of a value. -/
def render : Value → String
  | undefined => "undefined"
  | null => "null"
  | bool true => "true"
  | bool false => "false"
  | int number => renderInt number
  | char c => Text.Quoted.char c
  | str text => Text.Quoted.text text
  | list items => "[" ++ renderItems items ++ "]"
  | object fields => "\x7b" ++ renderFields fields ++ "\x7d"

/-- The written items of a list, separated by commas. -/
def renderItems : List Value → String
  | [] => ""
  | [item] => render item
  | item :: items => render item ++ ", " ++ renderItems items

/-- The written fields of an object, separated by commas. -/
def renderFields : List (String × Value) → String
  | [] => ""
  | [(key, value)] => key ++ ": " ++ render value
  | (key, value) :: fields => key ++ ": " ++ render value ++ ", " ++ renderFields fields

end

end Value
end Heirloom
