import Heirloom.Regex.Literal
import Heirloom.Value

/-!
# Expressions

The body of a rule: a closed set of parsing combinators over streams of values.
Alternatives are tried in order and repetition is greedy. Strings, lists and
objects are matched inside, each as a stream of its own.
-/

namespace Heirloom

/-- An inclusive range of characters. -/
structure CharRange where
  /-- The first character. -/
  first : Char
  /-- The last character. -/
  last : Char
  deriving DecidableEq

namespace CharRange

/-- Whether a character lies in the range. -/
def contains (range : CharRange) (c : Char) : Bool :=
  range.first ≤ c && c ≤ range.last

end CharRange

/-- A parsing expression. -/
inductive Expr
  /-- An element equal to the value. -/
  | prim (value : Value)
  /-- A rule, looked up by name when it is applied. -/
  | app (rule : String)
  /-- Ordered choice. -/
  | alt (left right : Expr)
  /-- One expression after the other. -/
  | seq (items : List Expr)
  /-- The value of the inner match is recorded under a name. -/
  | bind (body : Expr) (name : String)
  /-- Greedy repetition with a least count. -/
  | many (body : Expr) (min : Nat)
  /-- The body, or nothing. -/
  | opt (body : Expr)
  /-- The body must not match here. -/
  | not (body : Expr)
  /-- The body must match here, and nothing is consumed. -/
  | peek (body : Expr)
  /-- The characters of a string element. -/
  | str (body : Expr)
  /-- The items of a list element. -/
  | lst (body : Expr)
  /-- The named fields of an object element; a lenient pattern allows others. -/
  | obj (properties : List (String × Expr)) (lenient : Bool)
  /-- An anonymous rule, applied by its synthesized name. -/
  | inline (rule : String) (body : Expr)
  /-- Any single element. -/
  | any
  /-- A character of the range. -/
  | range (chars : CharRange)
  /-- A regular expression. -/
  | regex (literal : Regex.Literal)

namespace Expr

mutual

/-- Structural equality as a computation. -/
def beq : Expr → Expr → Bool
  | prim left, prim right => left == right
  | app left, app right => left == right
  | alt left₁ left₂, alt right₁ right₂ => beq left₁ right₁ && beq left₂ right₂
  | seq left, seq right => beqItems left right
  | bind left leftName, bind right rightName => beq left right && leftName == rightName
  | many left leftMin, many right rightMin => beq left right && leftMin == rightMin
  | opt left, opt right => beq left right
  | not left, not right => beq left right
  | peek left, peek right => beq left right
  | str left, str right => beq left right
  | lst left, lst right => beq left right
  | obj left leftLenient, obj right rightLenient =>
      beqProperties left right && leftLenient == rightLenient
  | inline leftName left, inline rightName right => leftName == rightName && beq left right
  | any, any => true
  | range left, range right => left == right
  | regex left, regex right => left == right
  | _, _ => false

/-- Structural equality of lists of expressions. -/
def beqItems : List Expr → List Expr → Bool
  | [], [] => true
  | left :: lefts, right :: rights => beq left right && beqItems lefts rights
  | _, _ => false

/-- Structural equality of properties, in order. -/
def beqProperties : List (String × Expr) → List (String × Expr) → Bool
  | [], [] => true
  | (leftKey, left) :: lefts, (rightKey, right) :: rights =>
      leftKey == rightKey && (beq left right && beqProperties lefts rights)
  | _, _ => false

end

mutual

theorem beq_iff_eq : ∀ left right : Expr, beq left right = true ↔ left = right
  | prim _, right => by cases right <;> simp [beq]
  | app _, right => by cases right <;> simp [beq]
  | alt first second, right => by
      cases right <;> simp [beq, beq_iff_eq first, beq_iff_eq second]
  | seq items, right => by cases right <;> simp [beq, beqItems_iff_eq items]
  | bind body _, right => by cases right <;> simp [beq, beq_iff_eq body]
  | many body _, right => by cases right <;> simp [beq, beq_iff_eq body]
  | opt body, right => by cases right <;> simp [beq, beq_iff_eq body]
  | not body, right => by cases right <;> simp [beq, beq_iff_eq body]
  | peek body, right => by cases right <;> simp [beq, beq_iff_eq body]
  | str body, right => by cases right <;> simp [beq, beq_iff_eq body]
  | lst body, right => by cases right <;> simp [beq, beq_iff_eq body]
  | obj properties _, right => by
      cases right <;> simp [beq, beqProperties_iff_eq properties]
  | inline _ body, right => by cases right <;> simp [beq, beq_iff_eq body]
  | any, right => by cases right <;> simp [beq]
  | range _, right => by cases right <;> simp [beq]
  | regex _, right => by cases right <;> simp [beq]

theorem beqItems_iff_eq : ∀ left right : List Expr,
    beqItems left right = true ↔ left = right
  | [], right => by cases right <;> simp [beqItems]
  | item :: items, right => by
      cases right <;> simp [beqItems, beq_iff_eq item, beqItems_iff_eq items]

theorem beqProperties_iff_eq : ∀ left right : List (String × Expr),
    beqProperties left right = true ↔ left = right
  | [], right => by cases right <;> simp [beqProperties]
  | (key, body) :: properties, right => by
      cases right with
      | nil => simp [beqProperties]
      | cons head tail =>
          simp [beqProperties, beq_iff_eq body, beqProperties_iff_eq properties,
            Prod.ext_iff, and_assoc]

end

instance : DecidableEq Expr := fun left right =>
  decidable_of_iff (beq left right = true) (beq_iff_eq left right)

end Expr
end Heirloom
