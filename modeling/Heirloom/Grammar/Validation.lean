import Heirloom.Error
import Heirloom.Expr.Names
import Heirloom.Grammar
import Heirloom.Log

/-!
# Validation

A grammar is valid when every rule that its own rules apply is found in its
lineage. A name bound more than once in one sequence is warned about, since the
last binding wins. Rules are looked at in order, and what is recorded before an
error stays recorded.
-/

namespace Heirloom
namespace Grammar

/-- The first of some rule names that is found nowhere in the lineage. -/
def firstUndefined? (grammar : Grammar) (names : List String) : Option String :=
  names.find? fun name => (grammar.rule? name).isNone

/-- The warnings about a rule. -/
def bindingWarnings (grammar : Grammar) (rule : Rule) : List Log.Record :=
  rule.body.duplicateBindings.map fun name => .reboundName grammar.name rule.name name

/-- The warnings about some rules, and the error that ends the validation. -/
def validateRules (grammar : Grammar) : List Rule → List Log.Record × Option Error
  | [] => ([], none)
  | rule :: rules =>
      match grammar.firstUndefined? rule.body.referencedRules with
      | some name => ([], some (.undefinedRule grammar.name name))
      | none =>
          let (records, error) := grammar.validateRules rules
          (grammar.bindingWarnings rule ++ records, error)

/-- The warnings about a grammar, and the error if it is not valid. -/
def validate (grammar : Grammar) : List Log.Record × Option Error :=
  grammar.validateRules grammar.rules

end Grammar
end Heirloom
