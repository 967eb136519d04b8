import Heirloom.Source.Literal
import Heirloom.Source.Position

/-!
# Patterns

Rule bodies as they are written. Parts that are looked at again when the rule
is built keep their positions, so that a fault found then can be placed.
-/

namespace Heirloom
namespace Source

/-- An object key as written. -/
structure Key where
  /-- The key. -/
  name : String
  /-- Where it stands. -/
  position : Position

/-- A written rule body. -/
inductive Pattern
  | any
  | undefined
  | null
  | bool (value : Bool)
  | literal (position : Position) (value : Literal)
  /-- A minus sign before an integer, which may carry a sign of its own. -/
  | negative (position : Position) (signed : Bool) (value : Nat)
  | range (first last : Char)
  | regex (position : Position) (source : String)
  | call (rule : String)
  | alt (alternatives : List Pattern)
  | seq (items : List Pattern)
  | bind (body : Pattern) (name : String)
  | star (body : Pattern)
  | plus (body : Pattern)
  | opt (body : Pattern)
  | not (body : Pattern)
  | peek (body : Pattern)
  | str (body : Pattern)
  | list (body : Pattern)
  | object (properties : List (Key × Pattern)) (lenient : Bool)
  | inline (body : Pattern)

namespace Pattern

/-- Alternatives as one pattern; a single one stands for itself. -/
def ofAlternatives : List Pattern → Pattern
  | [only] => only
  | alternatives => alt alternatives

/-- A sequence as one pattern; a single item stands for itself. -/
def ofSequence : List Pattern → Pattern
  | [only] => only
  | items => seq items

end Pattern
end Source
end Heirloom
