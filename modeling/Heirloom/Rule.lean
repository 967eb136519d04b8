import Heirloom.Expr
import Heirloom.Text.Letter

/-!
# Rules

A rule is a named expression. A rule whose name starts with an uppercase
character is syntactic: it skips blanks before every term of its body. A rule
that was synthesized for an inline expression has a hyphen in its name, which
no written rule can have.
-/

namespace Heirloom

/-- Whether rules of this name skip blanks between their terms. -/
def isSyntacticName (name : String) : Bool :=
  match name.toList with
  | [] => false
  | first :: _ => Text.isUppercase first

/-- The name of an inline rule: its enclosing rule and its ordinal there. -/
def inlineRuleName (enclosing : String) (ordinal : Nat) : String :=
  enclosing ++ "-" ++ toString ordinal

/-- A named expression. -/
structure Rule where
  /-- The name it is applied by. -/
  name : String
  /-- What it matches. -/
  body : Expr
  deriving DecidableEq

namespace Rule

/-- Whether the rule skips blanks between its terms. -/
def isSyntactic (rule : Rule) : Bool :=
  isSyntacticName rule.name

/-- Whether the rule was synthesized for an inline expression. -/
def isInline (rule : Rule) : Bool :=
  rule.name.toList.contains '-'

end Rule
end Heirloom
