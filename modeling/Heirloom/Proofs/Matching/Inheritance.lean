import Heirloom.Grammar.Base
import Heirloom.Proofs.Matching.Termination

/-!
# Grammars that only add rules

A grammar that declares no rule its super-grammar finds shadows nothing, so it
finds the rules of the super-grammar as they are. Matching through it does what
matching through the super-grammar does, up to the first application of a rule
that the super-grammar does not find, which is where that match ends with a fault.
-/

namespace Heirloom

open Matching

/-- A rule that is found stays the same in a grammar that only adds rules. -/
theorem Grammar.rule?_of_parent
    {grammar parent : Grammar}
    (inherits : grammar.parent = some parent)
    (added : ∀ rule ∈ grammar.rules, parent.rule? rule.name = none)
    {name : String}
    {rule : Rule}
    (found : parent.rule? name = some rule) :
    grammar.rule? name = some rule := by
  have undeclared : grammar.localRule? name = none := by
    refine List.find?_eq_none.mpr ?_
    intro declared present same
    have missing := added declared present
    rw [beq_iff_eq.mp same, found] at missing
    cases missing
  rw [rule?_eq, undeclared, inherits, Option.none_or, Option.bind_some, found]

namespace Matcher

section Extension

variable
  {parent child : Matcher}
  (sameActions : child.actions = parent.actions)
  (finds : ∀ {name : String} {rule : Rule},
    parent.grammar.rule? name = some rule → child.grammar.rule? name = some rule)
  (skips : ∀ syntactic, child.skipRuleFor syntactic = parent.skipRuleFor syntactic)

include sameActions finds skips

/-- Applications through a matcher that finds at least the same rules do the same,
unless one through the other ends with a fault. -/
theorem applyWithin_extending (depth : Nat) :
    ∀ deeper, depth ≤ deeper →
      (coinciding fun _ => True).simulation.AppliersAgree (fun _ => True)
        (parent.applyWithin depth) fun _ => child.applyWithin deeper := by
  induction depth with
  | zero =>
      intro deeper _ stream offset position name _ _ memo rightMemo _
      exact .inl (.inl ⟨.exhausted, trivial, rfl⟩)
  | succ depth inductionHypothesis =>
      intro deeper below stream offset position name _ inside
      obtain ⟨deeper, rfl⟩ := Nat.exists_eq_succ_of_ne_zero (Nat.ne_zero_of_lt below)
      have applied := inductionHypothesis deeper (Nat.le_of_succ_le_succ below)
      cases found : parent.grammar.rule? name with
      | none =>
          intro memo rightMemo _
          refine .inl (.inl ⟨.undefinedRule parent.grammar.name name, trivial, ?_⟩)
          rw [applyWithin, applyWith_of_undefined found]
          rfl
      | some rule =>
          have contexts : (coinciding fun _ => True).simulation.Agree (fun _ => True)
              (parent.contextFor (parent.applyWithin depth) rule)
              fun _ => child.contextFor (child.applyWithin deeper) rule := by
            simp only [contextFor, skips]
            exact applied.agree fun _ _ => trivial
          refine applyWith_related_of_found coinciding_respectsMemory trivial found (finds found)
            (fun _ _ => trivial) ?_ contexts inside
          rw [sameActions]
          exact actions_alike id parent.actions name

/-- A match that does not end with a fault has the same outcome through a matcher
that finds at least the same rules. -/
theorem matchAll_extending
    {stream : List Value}
    {name : String}
    (ends : ∀ fault, parent.matchAll stream name ≠ .fault fault) :
    child.matchAll stream name = parent.matchAll stream name := by
  let deeper := max (parent.depthLimit stream) (child.depthLimit stream)
  have sameBelow : (child.runWith (child.applyWithin deeper) stream name Memo.empty).outcome =
      child.matchAll stream name :=
    runWith_deeper (Nat.le_max_right _ _) (child.matchAll_ne_exhausted stream name)
  have applied := applyWithin_extending sameActions finds skips (parent.depthLimit stream)
    deeper (Nat.le_max_left _ _)
  cases found : parent.grammar.rule? name with
  | none =>
      refine absurd ?_ (ends (.undefinedRule parent.grammar.name name))
      simp only [matchAll, run, runWith, found, Run.fail]
  | some rule =>
      have contexts : (coinciding fun _ => True).simulation.Agree (fun _ => True)
          (parent.contextFor (parent.applyWithin (parent.depthLimit stream)) rule)
          fun _ => child.contextFor (child.applyWithin deeper) rule := by
        simp only [contextFor, skips]
        exact applied.agree fun _ _ => trivial
      have start : (coinciding fun _ => True).memories stream 0 Memo.empty Memo.empty :=
        ⟨rfl, rfl, .empty stream⟩
      rcases runWith_related found (finds found) contexts trivial Memo.empty Memo.empty start
        with (⟨fault, -, faulty⟩ | ⟨_, ⟨⟩, _⟩) | report
      · exact absurd faulty (ends fault)
      · rw [← sameBelow]
        exact report.outcomes.eq.symm

end Extension

/-- Inheritance that only adds names is conservative. If a grammar declares no rule
that its super-grammar finds, and the super-grammar finds the rule to skip with,
then every match through the super-grammar that does not end with a fault has the
same outcome through the grammar, with the same actions. -/
theorem inheritance_that_only_adds_is_conservative
    {parent child : Grammar}
    (inherits : child.parent = some parent)
    (skips : (parent.rule? skipRuleName).isSome)
    (added : ∀ rule ∈ child.rules, parent.rule? rule.name = none)
    (actions : Actions)
    (name : String) :
    let above : Matcher := { grammar := parent, actions := actions }
    let below : Matcher := { grammar := child, actions := actions }
    (∀ stream, (∀ fault, above.matchAll stream name ≠ .fault fault) →
      below.matchAll stream name = above.matchAll stream name) ∧
    (∀ value, (∀ fault, above.matchValue value name ≠ .fault fault) →
      below.matchValue value name = above.matchValue value name) ∧
    (∀ text, (∀ fault, above.matchText text name ≠ .fault fault) →
      below.matchText text name = above.matchText text name) := by
  intro above below
  have finds : ∀ {name : String} {rule : Rule},
      above.grammar.rule? name = some rule → below.grammar.rule? name = some rule :=
    fun found => Grammar.rule?_of_parent inherits added found
  have sameSkips : ∀ syntactic, below.skipRuleFor syntactic = above.skipRuleFor syntactic := by
    obtain ⟨skip, found⟩ := Option.isSome_iff_exists.mp skips
    intro syntactic
    have foundAbove : above.grammar.rule? skipRuleName = some skip := found
    simp only [skipRuleFor, above, below, Option.filter_some, finds foundAbove, foundAbove]
  have sameActions : below.actions = above.actions := rfl
  have same : ∀ stream, (∀ fault, above.matchAll stream name ≠ .fault fault) →
      below.matchAll stream name = above.matchAll stream name :=
    fun _ ends => matchAll_extending sameActions finds sameSkips ends
  exact ⟨same, fun value => same [value], fun text => same (Value.chars text)⟩

/-- Words whose letters may be apart. -/
def spacedWords : Grammar :=
  ⟨1, "Words", [⟨"Word", .many (.app "letter") 1⟩], some baseGrammar⟩

/-- A grammar that adds a rule to those for words. -/
def spacedNotes : Grammar :=
  ⟨2, "Notes", [⟨"Note", .seq [.app "Word", .any]⟩], some spacedWords⟩

/-- A word with blanks between its letters is the same through a grammar that adds a
rule. -/
theorem spaced_word_is_inherited :
    spacedNotes.parent = some spacedWords ∧
    (spacedWords.rule? skipRuleName).isSome ∧
    (∀ rule ∈ spacedNotes.rules, spacedWords.rule? rule.name = none) ∧
    matchText { grammar := spacedWords } "a b" "Word" =
      .matched (.list [.char 'a', .char 'b']) ∧
    matchText { grammar := spacedNotes } "a b" "Word" =
      .matched (.list [.char 'a', .char 'b']) := by
  have skips : (spacedWords.rule? skipRuleName).isSome := by decide
  have added : ∀ rule ∈ spacedNotes.rules, spacedWords.rule? rule.name = none := by decide
  have above : matchText { grammar := spacedWords } "a b" "Word" =
      .matched (.list [.char 'a', .char 'b']) := by
    decide +kernel
  have same := inheritance_that_only_adds_is_conservative rfl skips added .none "Word"
  refine ⟨rfl, skips, added, above, (same.2.2 "a b" ?_).trans above⟩
  exact Outcome.ne_fault_of_matched above

end Matcher
end Heirloom
