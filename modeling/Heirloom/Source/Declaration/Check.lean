import Heirloom.Regex.Literal
import Heirloom.Source.Declaration

/-!
# Checks on declarations

What can be told from a declaration alone: no rule is defined twice, every
regular expression is one, and no object pattern names a key twice. The first
violation in the order of the text is reported.
-/

namespace Heirloom
namespace Source

/-- Fail at the second occurrence of a key. -/
def checkKeys (seen : List String) : List (Key × Pattern) → Except Fault Unit
  | [] => .ok ()
  | (key, _) :: properties =>
      if seen.contains key.name then
        .error ⟨key.position, .repeatedKey key.name, false⟩
      else
        checkKeys (key.name :: seen) properties

mutual

/-- Check the regular expressions and object patterns of a pattern. -/
def checkPattern : Pattern → Except Fault Unit
  | .regex position source =>
      if (Regex.Literal.ofSource? source).isSome then .ok ()
      else .error ⟨position, .invalidRegex, false⟩
  | .alt alternatives => checkPatterns alternatives
  | .seq items => checkPatterns items
  | .bind body _ => checkPattern body
  | .star body => checkPattern body
  | .plus body => checkPattern body
  | .opt body => checkPattern body
  | .not body => checkPattern body
  | .peek body => checkPattern body
  | .str body => checkPattern body
  | .list body => checkPattern body
  | .inline body => checkPattern body
  | .object properties _ => do
      checkKeys [] properties
      checkProperties properties
  | _ => .ok ()

/-- Check each pattern of a list. -/
def checkPatterns : List Pattern → Except Fault Unit
  | [] => .ok ()
  | pattern :: patterns => do
      checkPattern pattern
      checkPatterns patterns

/-- Check the pattern of each property. -/
def checkProperties : List (Key × Pattern) → Except Fault Unit
  | [] => .ok ()
  | (_, pattern) :: properties => do
      checkPattern pattern
      checkProperties properties

end

/-- Check rules in order, given the names defined by the rules before them. -/
def checkRules (defined : List String) : List RuleDeclaration → Except Fault Unit
  | [] => .ok ()
  | rule :: rules =>
      if rule.operator = .define then
        if defined.contains rule.name then
          .error ⟨rule.position, .repeatedRule rule.name, false⟩
        else do
          checkPattern rule.body
          checkRules (rule.name :: defined) rules
      else do
        checkPattern rule.body
        checkRules defined rules

/-- Check a declaration. -/
def Declaration.check (declaration : Declaration) : Except Fault Unit :=
  checkRules [] declaration.rules

end Source
end Heirloom
