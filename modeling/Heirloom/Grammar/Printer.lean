import Heirloom.Expr.Printer
import Heirloom.Grammar

/-!
# The written form of grammars

A grammar is written as source that declares each of its own rules with its
final body. Inline rules are written where they are used, and a super-grammar
is named unless it is the base grammar.
-/

namespace Heirloom
namespace Grammar

/-- The clause that names the super-grammar. -/
def renderParent (grammar : Grammar) : String :=
  match grammar.parent with
  | some parent => if parent.isBase then "" else " : " ++ parent.name
  | none => ""

/-- The line that declares a rule. -/
def renderRule (rule : Rule) : String :=
  "    " ++ rule.name ++ " = " ++ rule.body.render ++ ",\n"

/-- The written form of a grammar. -/
def render (grammar : Grammar) : String :=
  "grammar " ++ grammar.name ++ grammar.renderParent ++ " \x7b\n" ++
    String.join ((grammar.rules.filter fun rule => !rule.isInline).map renderRule) ++ "\x7d"

end Grammar
end Heirloom
