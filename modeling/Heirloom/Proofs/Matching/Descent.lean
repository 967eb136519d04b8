import Heirloom.Proofs.Matching.Application

/-!
# Plain recursive descent

Rules can be applied without a memory: the body of the rule is simply evaluated
at the position. Nothing is remembered and no match is grown, so a rule that
starts with itself descends forever. Plain descent has an outcome if some bound
on how deep applications nest is enough. It does not depend on the memory, and a
higher bound gives the same.
-/

namespace Heirloom

open Matching

namespace Matcher

/-- Apply a rule by evaluating its body, with a bound on how deep applications
nest. -/
def descendWithin (matcher : Matcher) : Nat → Applier
  | 0 => fun _ _ _ => Run.fail .exhausted
  | depth + 1 => fun stream name position =>
      match matcher.grammar.rule? name with
      | none => Run.fail (.undefinedRule matcher.grammar.name name)
      | some rule => matcher.invoke (matcher.descendWithin depth) rule stream position

/-- Plain descent matches a rule against a whole stream with an outcome: nested
deep enough, it comes to an end with it. -/
def Descends
    (matcher : Matcher)
    (stream : List Value)
    (name : String)
    (outcome : Outcome Value) : Prop :=
  outcome ≠ .fault .exhausted ∧
    ∃ depth, (matcher.runWith (matcher.descendWithin depth) stream name Memo.empty).outcome =
      outcome

/-- The outcome of plain descent at a position, with a bound on its depth. -/
def descent
    (matcher : Matcher)
    (depth : Nat)
    (stream : List Value)
    (name : String)
    (position : Nat) : Outcome Hit :=
  (matcher.descendWithin depth stream name position Memo.empty).outcome

/-- Plain descent answers an application, at some depth. -/
def DescentAnswers
    (matcher : Matcher)
    (stream : List Value)
    (name : String)
    (position : Nat)
    (answer : Option Hit) : Prop :=
  ∃ depth, matcher.descent depth stream name position = .ofOption answer

section Descent

variable
  {matcher : Matcher}
  {depth deeper : Nat}
  {stream : List Value}
  {name : String}
  {rule : Rule}
  {position : Nat}

theorem descendWithin_of_undefined
    (missing : matcher.grammar.rule? name = none) :
    matcher.descendWithin (depth + 1) stream name position =
      Run.fail (.undefinedRule matcher.grammar.name name) := by
  simp only [descendWithin, missing]

theorem descendWithin_of_found
    (found : matcher.grammar.rule? name = some rule) :
    matcher.descendWithin (depth + 1) stream name position =
      matcher.invoke (matcher.descendWithin depth) rule stream position := by
  simp only [descendWithin, found]

end Descent

end Matcher

namespace Matching

/-- Runs that end alike whatever is remembered, unless the first one reaches a
bound. -/
def forgetful : Lockstep where
  alike := Eq
  memories _ offset _ _ := offset = 0
  changed _ _ _ _ := True
  events _ _ := True
  excused fault := fault = .exhausted
  rightExcused _ := False
  laws.alike_refl := Eq.refl
  laws.alike_list := Value.list_eq_of_forall₂
  laws.changed_refl _ _ := trivial
  laws.changed_trans _ _ := trivial
  laws.events_nil := trivial
  laws.events_append _ _ := trivial
  laws.events_nested _ := trivial
  laws.inner _ _ := rfl

end Matching

namespace Matcher

variable
  {matcher : Matcher}
  {depth deeper : Nat}
  {stream : List Value}
  {name : String}
  {position : Nat}

/-- Plain descent does not depend on what is remembered, and not on the bound
unless it is reached. -/
theorem descendWithin_forgetful
    (matcher : Matcher)
    (depth : Nat) :
    ∀ deeper, depth ≤ deeper →
      forgetful.simulation.AppliersAgree (fun _ => True) (matcher.descendWithin depth)
        fun _ => matcher.descendWithin deeper := by
  induction depth with
  | zero =>
      intro deeper _ stream offset position name _ _ memo rightMemo _
      exact .inl (.inl ⟨.exhausted, rfl, rfl⟩)
  | succ depth inductionHypothesis =>
      intro deeper below stream offset position name _ inside
      obtain ⟨deeper, rfl⟩ := Nat.exists_eq_succ_of_ne_zero (Nat.ne_zero_of_lt below)
      have agree := (inductionHypothesis deeper (Nat.le_of_succ_le_succ below))
      cases found : matcher.grammar.rule? name with
      | none =>
          simp only [descendWithin_of_undefined found]
          exact Lockstep.Goes.fail _
      | some rule =>
          simp only [descendWithin_of_found found]
          exact invoke_related (agree.agree fun _ _ => trivial) (fun _ _ => trivial)
            (actions_alike id _ _) inside (Lockstep.Goes.tell fun _ => trivial)
            fun _ _ _ => Lockstep.Goes.tell fun _ => trivial

/-- Plain descent ends alike with a higher bound and another memory, unless its
bound is reached. A match lies in the stream. -/
theorem descendWithin_related
    (below : depth ≤ deeper)
    (inside : position ≤ stream.length)
    {memo : Memo}
    (ends : (matcher.descendWithin depth stream name position memo).outcome ≠
      .fault .exhausted)
    (rightMemo : Memo) :
    Outcome.Rel (forgetful.simulation.HitsAlike stream 0 position)
      (matcher.descendWithin depth stream name position memo).outcome
      (matcher.descendWithin deeper stream name position rightMemo).outcome := by
  rcases matcher.descendWithin_forgetful depth deeper below trivial inside
    memo rightMemo rfl with (⟨_, rfl, exhausted⟩ | ⟨_, excused, _⟩) | report
  · exact absurd exhausted ends
  · exact excused.elim
  · exact report.outcomes

theorem descendWithin_eq
    (below : depth ≤ deeper)
    (inside : position ≤ stream.length)
    {memo : Memo}
    (ends : (matcher.descendWithin depth stream name position memo).outcome ≠
      .fault .exhausted)
    (rightMemo : Memo) :
    (matcher.descendWithin deeper stream name position rightMemo).outcome =
      (matcher.descendWithin depth stream name position memo).outcome :=
  ((descendWithin_related below inside ends rightMemo).imp fun hits => hits.eq id).eq.symm

/-- Plain descent that reaches a bound reaches every lower one, whatever is
remembered. -/
theorem descendWithin_exhausted
    (below : depth ≤ deeper)
    (inside : position ≤ stream.length)
    (ends : matcher.descent deeper stream name position = .fault .exhausted)
    (memo : Memo) :
    (matcher.descendWithin depth stream name position memo).outcome = .fault .exhausted := by
  by_contra goes
  exact goes (descendWithin_eq below inside goes Memo.empty ▸ ends)

/-- If plain descent answers, then it does so whenever it is not stopped by its
bound, whatever is remembered. -/
theorem DescentAnswers.related
    {answer : Option Hit}
    (answers : matcher.DescentAnswers stream name position answer)
    (inside : position ≤ stream.length)
    {memo : Memo}
    (ends : (matcher.descendWithin depth stream name position memo).outcome ≠
      .fault .exhausted) :
    Outcome.Rel (forgetful.simulation.HitsAlike stream 0 position) (.ofOption answer)
      (matcher.descendWithin depth stream name position memo).outcome := by
  obtain ⟨known, answered⟩ := answers
  have goes : matcher.descent known stream name position ≠ .fault .exhausted := by
    rw [answered]
    exact Outcome.ofOption_ne_fault _ _
  rw [← answered]
  rcases Nat.le_total known depth with below | below
  · exact descendWithin_related below inside goes memo
  · rw [descent, descendWithin_eq below inside ends Memo.empty]
    exact descendWithin_related (Nat.le_refl depth) inside ends memo

/-- The outcome of a match by plain descent does not depend on the bound unless
it is reached. -/
theorem runWith_descent_eq
    (below : depth ≤ deeper)
    (ends : (matcher.runWith (matcher.descendWithin depth) stream name Memo.empty).outcome ≠
      .fault .exhausted) :
    (matcher.runWith (matcher.descendWithin deeper) stream name Memo.empty).outcome =
      (matcher.runWith (matcher.descendWithin depth) stream name Memo.empty).outcome := by
  refine runWith_outcome_eq id (matcher.descendWithin_forgetful depth deeper below) rfl ?_
  rintro (⟨_, rfl, exhausted⟩ | ⟨_, excused, _⟩)
  · exact ends exhausted
  · exact excused

/-- Plain descent has at most one outcome. -/
theorem Descends.unique
    {first second : Outcome Value}
    (descends : matcher.Descends stream name first)
    (again : matcher.Descends stream name second) :
    first = second := by
  obtain ⟨goes, depth, rfl⟩ := descends
  obtain ⟨goesAgain, deeper, rfl⟩ := again
  rcases Nat.le_total depth deeper with below | below
  · exact (runWith_descent_eq below goes).symm
  · exact runWith_descent_eq below goesAgain

end Matcher
end Heirloom
