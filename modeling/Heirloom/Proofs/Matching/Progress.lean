import Heirloom.Proofs.Matching.Report

/-!
# Applications in progress

Which applications are in progress at a moment of a run can be told from the events
before it: the evaluation of a rule body is entered and left, and those that have been
entered and not left yet lie on a stack. The applications on a stream inside an element
have a stack of their own.
-/

namespace Heirloom
namespace Matching

/-- A rule at a position. -/
abbrev Place := String × Nat

/-- The applications in progress after an event, the innermost first: those whose rule
bodies are being evaluated. -/
def Event.inProgress (stack : List Place) : Event → List Place
  | .entered rule position => (rule, position) :: stack
  | .left _ _ _ => stack.tail
  | _ => stack

/-- The applications in progress after several events. -/
def inProgressAfter (stack : List Place) : List Event → List Place
  | [] => stack
  | event :: events => inProgressAfter (event.inProgress stack) events

theorem inProgressAfter_append (stack : List Place) (first second : List Event) :
    inProgressAfter stack (first ++ second) =
      inProgressAfter (inProgressAfter stack first) second := by
  induction first generalizing stack with
  | nil => rfl
  | cons event first inductionHypothesis =>
      simp only [List.cons_append, inProgressAfter, inductionHypothesis]

/-! ## Tests of applications -/

mutual

/-- Whether an application that is made passes a test, given what is in progress: one test
if it finds itself in progress, the other if it is answered. -/
def Event.passes (met answered : List Place → Place → Bool) (stack : List Place) : Event → Bool
  | .reentered rule position => met stack (rule, position)
  | .answered rule position _ => answered stack (rule, position)
  | .nested events => allPass met answered [] events
  | _ => true

/-- Whether all applications pass the tests, on the stream and inside it. -/
def allPass (met answered : List Place → Place → Bool) (stack : List Place) :
    List Event → Bool
  | [] => true
  | event :: events =>
      event.passes met answered stack &&
        allPass met answered (event.inProgress stack) events

end

section Tests

variable
  {met answered : List Place → Place → Bool}
  {stack : List Place}

theorem allPass_append (first second : List Event) :
    allPass met answered stack (first ++ second) =
      (allPass met answered stack first &&
        allPass met answered (inProgressAfter stack first) second) := by
  induction first generalizing stack with
  | nil => rw [List.nil_append, allPass, Bool.true_and, inProgressAfter]
  | cons event first inductionHypothesis =>
      simp only [List.cons_append, allPass, inProgressAfter, inductionHypothesis,
        Bool.and_assoc]

/-- What happens first in a run that passes the tests passes them. -/
theorem allPass_of_extended
    {first whole : List Event}
    (extended : first <+: whole)
    (passes : allPass met answered stack whole = true) :
    allPass met answered stack first = true := by
  obtain ⟨rest, rfl⟩ := extended
  rw [allPass_append, Bool.and_eq_true] at passes
  exact passes.1

end Tests

/-! ## The evaluation of a rule body -/

section Bracket

variable
  (stack : List Place)
  (rule : String)
  (position : Nat)
  (events : List Event)
  (result : Option Completion)

theorem allPass_bracket (met answered : List Place → Place → Bool) :
    allPass met answered stack
        (.entered rule position :: (events ++ [Event.left rule position result])) =
      allPass met answered ((rule, position) :: stack) events := by
  rw [allPass, allPass_append]
  simp only [Event.passes, Event.inProgress, allPass, Bool.true_and, Bool.and_true]

theorem inProgressAfter_bracket :
    inProgressAfter stack
        (.entered rule position :: (events ++ [Event.left rule position result])) =
      (inProgressAfter ((rule, position) :: stack) events).tail := by
  rw [inProgressAfter, inProgressAfter_append]
  rfl

end Bracket
end Matching
end Heirloom
