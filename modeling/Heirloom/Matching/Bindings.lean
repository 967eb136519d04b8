import Heirloom.Expr.Names
import Heirloom.Text.Quoted
import Heirloom.Value

/-!
# Bindings and actions

The values that a rule application binds, in the order in which they were
bound, and the actions that turn them into the value of the rule.
-/

namespace Heirloom

/-- Named values in the order in which they were bound. -/
abbrev Bindings := List (String × Value)

namespace Bindings

/-- The value bound last under a name. -/
def get? (bindings : Bindings) (name : String) : Option Value :=
  (bindings.reverse.find? fun binding => binding.1 == name).map Prod.snd

end Bindings

/-- An action makes the value of a rule from its bindings and its default
value. -/
abbrev Action := Bindings → Value → Value

/-- Actions by the names of their rules. -/
structure Actions where
  /-- The rules with their actions, the latest first. -/
  table : List (String × Action) := []

namespace Actions

/-- No actions. -/
def none : Actions := {}

/-- Set the action of a rule. -/
def on (actions : Actions) (rule : String) (action : Action) : Actions :=
  ⟨(rule, action) :: actions.table.filter fun entry => entry.1 != rule⟩

/-- The action of a rule. -/
def get? (actions : Actions) (rule : String) : Option Action :=
  actions.table.lookup rule

/-- The value of a rule: what its action makes, or the default value. -/
def apply (actions : Actions) (rule : String) (bindings : Bindings) (value : Value) : Value :=
  match actions.get? rule with
  | some action => action bindings value
  | .none => value

/-- The rules that have an action. -/
def rules (actions : Actions) : List String :=
  actions.table.map Prod.fst

/-- The text that shows which rules have an action. -/
def render (actions : Actions) : String :=
  "Actions \x7b rules: [" ++
    ", ".intercalate ((sortedNames actions.rules).map Text.Quoted.text) ++ "] \x7d"

end Actions
end Heirloom
