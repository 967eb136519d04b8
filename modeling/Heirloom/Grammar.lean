import Heirloom.Rule

/-!
# Grammars

A grammar is a named list of rules over an optional super-grammar. Rules are
looked up in the grammar itself and then along its lineage, so a grammar sees
every rule of its ancestors that none of its nearer ancestors shadows.

Each grammar carries a serial number from the moment it is built. Two grammars
with the same content that were built apart stay apart by their numbers.
-/

namespace Heirloom

/-- A named collection of rules with an optional super-grammar. -/
structure Grammar where
  /-- The number given when the grammar was built. -/
  serial : Nat
  /-- The name it is registered and referred to by. -/
  name : String
  /-- Its own rules, in the order of their first declaration. -/
  rules : List Rule
  /-- The grammar whose rules it inherits. -/
  parent : Option Grammar

namespace Grammar

/-- The rule that the grammar itself declares under a name. -/
def localRule? (grammar : Grammar) (name : String) : Option Rule :=
  grammar.rules.find? fun rule => rule.name == name

/-- The grammar followed by each of its ancestors, the nearest first. -/
def lineage : Grammar → List Grammar
  | ⟨serial, name, rules, none⟩ => [⟨serial, name, rules, none⟩]
  | ⟨serial, name, rules, some parent⟩ =>
      ⟨serial, name, rules, some parent⟩ :: parent.lineage

/-- The nearest rule of that name in the lineage. -/
def rule? (grammar : Grammar) (name : String) : Option Rule :=
  grammar.lineage.findSome? fun ancestor => ancestor.localRule? name

/-- The number of rules in the whole lineage. -/
def visibleCount (grammar : Grammar) : Nat :=
  grammar.lineage.foldr (fun ancestor count => ancestor.rules.length + count) 0

end Grammar

/-- The name of the grammar that others inherit from by default. -/
def baseGrammarName : String := "Base"

/-- The rule that syntactic rules apply before each of their terms. -/
def skipRuleName : String := "spaces"

/-- Whether a grammar is the root of the grammars read from source. -/
def Grammar.isBase (grammar : Grammar) : Bool :=
  grammar.name == baseGrammarName && grammar.parent.isNone

end Heirloom
