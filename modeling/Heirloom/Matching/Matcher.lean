import Heirloom.Grammar
import Heirloom.Matching.Eval

/-!
# Matchers

A matcher applies the rules of a grammar to streams of values. A rule is
evaluated at most once at each position of a stream; later applications are
answered from memory. An application that meets itself in progress is a
mismatch at first. If the rule matches all the same, it is evaluated again with
its last match as the answer, for as long as the match gets longer. So a rule
whose alternatives start with itself matches from left to right.

Applications on one stream nest at most as deep as there are rules and
positions, which bounds the nesting of a whole run.
-/

namespace Heirloom
namespace Matching

mutual

/-- The number of positions in the streams inside a value. -/
def innerPositions : Value → Nat
  | .str text => text.length + 1
  | .list items => items.length + 1 + innerPositionsOf items
  | .object fields => fieldPositions fields
  | _ => 0

/-- The number of positions in the streams inside values. -/
def innerPositionsOf : List Value → Nat
  | [] => 0
  | value :: values => innerPositions value + innerPositionsOf values

/-- The number of positions in the streams of the fields of an object, each of
which is a stream of one value. -/
def fieldPositions : List (String × Value) → Nat
  | [] => 0
  | (_, value) :: fields => 2 + innerPositions value + fieldPositions fields

end

/-- The number of positions in a stream and in the streams inside it. -/
def positionCount (stream : List Value) : Nat :=
  stream.length + 1 + innerPositionsOf stream

end Matching

open Matching

/-- A grammar with actions, ready to match. -/
structure Matcher where
  /-- The grammar whose rules are applied. -/
  grammar : Grammar
  /-- The actions of its rules. -/
  actions : Actions := {}
  /-- The rule that syntactic rules skip with. -/
  skipRule : Option String := some skipRuleName

namespace Matcher

/-- The rule to skip with inside a rule, if the rule is syntactic and the
grammar has a rule to skip with. -/
def skipRuleFor (matcher : Matcher) (syntactic : Bool) : Option String :=
  if syntactic then
    matcher.skipRule.filter fun rule => (matcher.grammar.rule? rule).isSome
  else
    none

/-- The context in which the body of a rule is evaluated. -/
def contextFor (matcher : Matcher) (apply : Applier) (rule : Rule) : Context :=
  { apply := apply, skipRule := matcher.skipRuleFor rule.isSyntactic }

/-- Evaluate the body of a rule in a scope of its own and run its action. -/
def invoke
    (matcher : Matcher)
    (apply : Applier)
    (rule : Rule)
    (stream : List Value)
    (position : Nat) : Run Hit := do
  Run.tell (.entered rule.name position)
  match ← (eval (matcher.contextFor apply rule) rule.body stream position []).attempt with
  | none =>
      Run.tell (.left rule.name position none)
      Run.mismatch
  | some step =>
      Run.tell (.left rule.name position (some ⟨step.scope, step.value, step.position⟩))
      return ⟨matcher.actions.apply rule.name step.scope step.value, step.position⟩

/-- Evaluate a rule again with its last match as the answer, for as long as the
match gets longer. The number of rounds is bounded. -/
def grow
    (matcher : Matcher)
    (apply : Applier)
    (rule : Rule)
    (stream : List Value)
    (position : Nat) : Nat → Hit → Run Hit
  | 0, _ => Run.fail .exhausted
  | rounds + 1, best => do
      Run.remember rule.name position (.done (some best))
      match ← (matcher.invoke apply rule stream position).attempt with
      | some hit =>
          if best.finish < hit.finish then
            matcher.grow apply rule stream position rounds hit
          else
            return best
      | none => return best

/-- Evaluate a rule for the first time at a position and remember the answer. -/
def evaluate
    (matcher : Matcher)
    (apply : Applier)
    (rule : Rule)
    (stream : List Value)
    (position : Nat) : Run (Option Hit) := do
  Run.remember rule.name position (.pending false)
  let first ← (matcher.invoke apply rule stream position).attempt
  let result ← match first, ← Run.consult rule.name position with
    | some hit, some (.pending true) => do
        let best ← matcher.grow apply rule stream position (roundLimit stream position) hit
        pure (some best)
    | _, _ => pure first
  Run.remember rule.name position (.done result)
  return result

/-- Apply a rule, given how the applications inside its body are made. -/
def applyWith (matcher : Matcher) (apply : Applier) : Applier :=
  fun stream name position =>
    match matcher.grammar.rule? name with
    | none => Run.fail (.undefinedRule matcher.grammar.name name)
    | some rule => do
        match ← Run.consult rule.name position with
        | some (.pending _) =>
            Run.remember rule.name position (.pending true)
            Run.tell (.reentered rule.name position)
            Run.mismatch
        | some (.done result) =>
            Run.tell (.answered rule.name position result)
            Run.ofOption result
        | none =>
            let result ← matcher.evaluate apply rule stream position
            Run.tell (.answered rule.name position result)
            Run.ofOption result

/-- Apply a rule with a bound on how deep applications nest. -/
def applyWithin (matcher : Matcher) : Nat → Applier
  | 0 => fun _ _ _ => Run.fail .exhausted
  | depth + 1 => matcher.applyWith (matcher.applyWithin depth)

/-- A bound on how deep applications nest while a stream is matched. -/
def depthLimit (matcher : Matcher) (stream : List Value) : Nat :=
  matcher.grammar.visibleCount * positionCount stream + 2

/-- Match a rule against a whole stream with a given way to apply rules. -/
def runWith
    (matcher : Matcher)
    (apply : Applier)
    (stream : List Value)
    (name : String) : Run Value :=
  match matcher.grammar.rule? name with
  | none => Run.fail (.undefinedRule matcher.grammar.name name)
  | some rule => do
      let context := matcher.contextFor apply rule
      let start ← context.skip stream 0
      let hit ← apply stream name start
      let finish ← context.skip stream hit.finish
      if stream.length ≤ finish then return hit.value else Run.mismatch

/-- Match a rule against a whole stream, and report what happened. -/
def run (matcher : Matcher) (stream : List Value) (name : String) : Report Value :=
  matcher.runWith (matcher.applyWithin (matcher.depthLimit stream)) stream name Memo.empty

/-- Match a rule against a whole stream. -/
def matchAll (matcher : Matcher) (stream : List Value) (name : String) : Outcome Value :=
  (matcher.run stream name).outcome

/-- Match a rule against a stream of one value. -/
def matchValue (matcher : Matcher) (value : Value) (name : String) : Outcome Value :=
  matcher.matchAll [value] name

/-- Match a rule against the characters of a text. -/
def matchText (matcher : Matcher) (text : String) (name : String) : Outcome Value :=
  matcher.matchAll (Value.chars text) name

end Matcher
end Heirloom
