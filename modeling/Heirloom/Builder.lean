import Heirloom.Error
import Heirloom.Grammar
import Heirloom.Log

/-!
# Building grammars

A builder assembles one grammar. Rules are defined, overridden or extended over
the rules of a super-grammar, which can be set once. Inline expressions become
rules of their own, named after the rule they stand in and the next ordinal
that is free in the whole lineage. A call that fails leaves no new builder.
-/

namespace Heirloom

/-- A grammar under construction. -/
structure Builder where
  /-- The name, if it has been set. -/
  givenName : Option String := none
  /-- The super-grammar, if it has been set. -/
  parent : Option Grammar := none
  /-- The rules in the order of their first installation. -/
  rules : List Rule := []
  /-- The rule whose body is being compiled. -/
  currentRule : Option String := none
  /-- The last ordinal given to an inline rule, by enclosing rule. -/
  inlineCounts : List (String × Nat) := []
  /-- What has been recorded, in order. -/
  records : List Log.Record := []

namespace Builder

/-- A builder with nothing in it. -/
def empty : Builder := {}

/-- The name of the grammar; it is anonymous until one is set. -/
def name (builder : Builder) : String :=
  builder.givenName.getD "Anonymous"

/-- Set the name. -/
def setName (builder : Builder) (name : String) : Builder :=
  { builder with givenName := some name }

/-- Note the rule whose body is about to be compiled, which names its inline
rules. -/
def beginRule (builder : Builder) (name : String) : Builder :=
  { builder with currentRule := some name }

/-- Add a record to the log. -/
def record (builder : Builder) (record : Log.Record) : Builder :=
  { builder with records := builder.records ++ [record] }

/-- Link the grammar to its super-grammar, which can be done once. -/
def setParent (builder : Builder) (parent : Grammar) : Except Error Builder :=
  match builder.parent with
  | some _ => .error (.superGrammarAlreadySet builder.name)
  | none =>
      .ok ({ builder with parent := some parent }.record
        (.superGrammarSet builder.name parent.name))

/-- The rule that has been installed under a name. -/
def localRule? (builder : Builder) (name : String) : Option Rule :=
  builder.rules.find? fun rule => rule.name == name

/-- The body of the rule of that name, local or inherited. -/
def lookup? (builder : Builder) (name : String) : Option Expr :=
  match builder.localRule? name with
  | some rule => some rule.body
  | none => (builder.parent.bind fun parent => parent.rule? name).map Rule.body

/-- Put a rule in the place of the one with its name, or at the end. -/
def installIn (rule : Rule) : List Rule → List Rule
  | [] => [rule]
  | other :: others =>
      if other.name == rule.name then rule :: others else other :: installIn rule others

/-- Install a body under a name. -/
def install (builder : Builder) (name : String) (body : Expr) : Builder :=
  { builder with rules := installIn ⟨name, body⟩ builder.rules }

/-- Add a rule whose name is not local yet. -/
def define (builder : Builder) (name : String) (body : Expr) : Except Error Builder :=
  match builder.localRule? name with
  | some _ => .error (.duplicateRule builder.name name)
  | none => .ok ((builder.record (.ruleDefined builder.name name)).install name body)

/-- The existing body of a name, or the error that there is none. -/
def require (builder : Builder) (name : String) : Except Error Expr :=
  match builder.lookup? name with
  | some body => .ok body
  | none => .error (.undefinedRule builder.name name)

/-- Replace an existing rule, local or inherited. -/
def override (builder : Builder) (name : String) (body : Expr) : Except Error Builder :=
  match builder.require name with
  | .ok _ => .ok ((builder.record (.ruleOverridden builder.name name)).install name body)
  | .error error => .error error

/-- Add a last alternative to an existing rule, local or inherited. -/
def extend (builder : Builder) (name : String) (body : Expr) : Except Error Builder :=
  match builder.require name with
  | .ok existing =>
      .ok ((builder.record (.ruleExtended builder.name name)).install name (.alt existing body))
  | .error error => .error error

/-- The rule that inline rules are named after. -/
def enclosingName (builder : Builder) : String :=
  builder.currentRule.getD "inline"

/-- The last ordinal given to an inline rule of the enclosing rule. -/
def inlineCount (builder : Builder) (enclosing : String) : Nat :=
  (builder.inlineCounts.lookup enclosing).getD 0

/-- The number of rules that are local or inherited. -/
def visibleCount (builder : Builder) : Nat :=
  builder.rules.length +
    match builder.parent with
    | some parent => parent.visibleCount
    | none => 0

/-- The first ordinal from the given one on whose name is free. One of as many
ordinals as there are rules, and one more, is free. -/
def freeOrdinal (builder : Builder) (enclosing : String) : Nat → Nat → Nat
  | 0, ordinal => ordinal
  | tries + 1, ordinal =>
      if (builder.lookup? (inlineRuleName enclosing ordinal)).isSome then
        builder.freeOrdinal enclosing tries (ordinal + 1)
      else
        ordinal

/-- Define a body as an inline rule of the current rule, and refer to it. -/
def inline (builder : Builder) (body : Expr) : Except Error (Expr × Builder) :=
  let enclosing := builder.enclosingName
  let ordinal :=
    builder.freeOrdinal enclosing builder.visibleCount (builder.inlineCount enclosing + 1)
  let rule := inlineRuleName enclosing ordinal
  let counted :=
    { builder with inlineCounts := (enclosing, ordinal) :: builder.inlineCounts }
  match (counted.record (.inlineRule builder.name rule)).define rule body with
  | .ok defined => .ok (.inline rule body, defined)
  | .error error => .error error

/-- The finished grammar, with the number it is to have. -/
def build (builder : Builder) (serial : Nat) : Grammar :=
  { serial := serial
    name := builder.name
    rules := builder.rules
    parent := builder.parent }

/-- The record of finishing the grammar. -/
def builtRecord (builder : Builder) : Log.Record :=
  .built builder.name builder.rules.length

end Builder
end Heirloom
