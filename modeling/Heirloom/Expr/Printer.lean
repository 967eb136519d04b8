import Heirloom.Expr
import Heirloom.Text.Letter
import Heirloom.Value.Printer

/-!
# The written form of expressions

Expressions are written as grammar source, with parentheses where an operand
binds less tightly than its place asks for.
-/

namespace Heirloom

namespace CharRange

/-- The written form of a range of characters. -/
def render (range : CharRange) : String :=
  Text.Quoted.char range.first ++ "..=" ++ Text.Quoted.char range.last

end CharRange

namespace Expr

/-- How tightly an expression binds; operands of higher places bind tighter. A
sequence of one item counts as an atom, as does the empty sequence. -/
def precedence : Expr → Nat
  | alt _ _ => 0
  | seq (_ :: _ :: _) => 1
  | bind _ _ => 2
  | many _ _ => 3
  | opt _ => 3
  | not _ => 4
  | peek _ => 4
  | _ => 5

/-- Put a text in parentheses if needed. -/
def parenthesize (needed : Bool) (text : String) : String :=
  if needed then "(" ++ text ++ ")" else text

/-- Whether an object key can be written without quotes: a word of letters,
numbers and underscores that does not start with a number and is not the lone
underscore. -/
def isPlainKey (key : String) : Bool :=
  match key.toList with
  | [] => false
  | first :: others =>
      (Text.isAlphabetic first || first == '_') && key != "_" &&
        others.all fun c => Text.isAlphanumeric c || c == '_'

/-- The written form of an object key. -/
def renderKey (key : String) : String :=
  if isPlainKey key then key else Text.Quoted.text key

mutual

/-- The written form of an expression. -/
def render : Expr → String
  | prim value => value.render
  | app rule => rule
  | alt left right =>
      render left ++ " | " ++ parenthesize (right.precedence < 1) (render right)
  | seq [] => "()"
  | seq (item :: items) =>
      parenthesize (item.precedence < 2) (render item) ++ renderTail items
  | bind body name => parenthesize (body.precedence < 3) (render body) ++ ":" ++ name
  | many body min =>
      parenthesize (body.precedence < 4) (render body) ++ (if min == 0 then "*" else "+")
  | opt body => parenthesize (body.precedence < 4) (render body) ++ "?"
  | not body => "~" ++ parenthesize (body.precedence < 4) (render body)
  | peek body => "&" ++ parenthesize (body.precedence < 4) (render body)
  | str body => "<" ++ render body ++ ">"
  | lst body => "[" ++ render body ++ "]"
  | obj [] true => "\x7b...\x7d"
  | obj properties true => "\x7b" ++ renderProperties properties ++ ", ...\x7d"
  | obj properties false => "\x7b" ++ renderProperties properties ++ "\x7d"
  | inline _ body => "#(" ++ render body ++ ")"
  | any => "_"
  | range chars => chars.render
  | regex literal => "/" ++ Text.Quoted.text literal.source ++ "/"

/-- The written items of a sequence after its first, each after a space. -/
def renderTail : List Expr → String
  | [] => ""
  | item :: items =>
      " " ++ parenthesize (item.precedence < 2) (render item) ++ renderTail items

/-- The written properties of an object pattern, separated by commas. -/
def renderProperties : List (String × Expr) → String
  | [] => ""
  | [(key, body)] => renderKey key ++ ": " ++ render body
  | (key, body) :: properties =>
      renderKey key ++ ": " ++ render body ++ ", " ++ renderProperties properties

end

end Expr
end Heirloom
