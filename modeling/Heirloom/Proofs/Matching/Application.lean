import Heirloom.Matching.Matcher
import Heirloom.Proofs.Matching.Lockstep
import Heirloom.Proofs.Validation

/-!
# Applying rules

What an application does, case by case: the rule is not defined, the
application is in progress, it is answered from memory, or its rule is
evaluated. From these cases the invariants and simulations of whole runs are
derived.
-/

namespace Heirloom

open Matching

namespace Matcher

variable
  {matcher : Matcher}
  {apply : Applier}
  {stream : List Value}
  {name : String}
  {rule : Rule}
  {position : Nat}
  {memo : Memo}

/-! ## The cases of an application -/

/-- A rule that is not defined cannot be applied. -/
theorem applyWith_of_undefined
    (missing : matcher.grammar.rule? name = none) :
    matcher.applyWith apply stream name position =
      Run.fail (.undefinedRule matcher.grammar.name name) := by
  simp only [applyWith, missing]

/-- An application in progress is a mismatch, and it is noted. -/
theorem applyWith_of_pending
    (found : matcher.grammar.rule? name = some rule)
    {reentered : Bool}
    (known : memo.find? rule.name position = some (.pending reentered)) :
    matcher.applyWith apply stream name position memo =
      ⟨.mismatch, Memo.put rule.name (.pending true) position memo,
        .single (.reentered rule.name position)⟩ := by
  simp only [applyWith, found, Run.consult_bind, known, Run.remember_bind, Run.tell_bind,
    Run.mismatch, Journal.append_empty]

/-- An application with an answer is answered from memory. -/
theorem applyWith_of_done
    (found : matcher.grammar.rule? name = some rule)
    {answer : Option Hit}
    (known : memo.find? rule.name position = some (.done answer)) :
    matcher.applyWith apply stream name position memo =
      ⟨.ofOption answer, memo, .single (.answered rule.name position answer)⟩ := by
  simp only [applyWith, found, Run.consult_bind, known, Run.tell_bind, Run.ofOption_apply,
    Journal.append_empty]

/-- Otherwise the rule is evaluated, unless that ends with a fault. -/
theorem applyWith_of_evaluated
    (found : matcher.grammar.rule? name = some rule)
    (unknown : memo.find? rule.name position = none)
    {answer : Option Hit}
    (ends : (matcher.evaluate apply rule stream position memo).outcome = .matched answer) :
    matcher.applyWith apply stream name position memo =
      ⟨.ofOption answer, (matcher.evaluate apply rule stream position memo).memo,
        (matcher.evaluate apply rule stream position memo).journal ++
          .single (.answered rule.name position answer)⟩ := by
  simp only [applyWith, found, Run.consult_bind, unknown, Run.bind_of_matched ends,
    Run.tell_bind, Run.ofOption_apply, Journal.append_empty]

/-- A fault of the evaluation is one of the application. -/
theorem applyWith_of_fault
    (found : matcher.grammar.rule? name = some rule)
    (unknown : memo.find? rule.name position = none)
    {fault : Fault}
    (ends : (matcher.evaluate apply rule stream position memo).outcome = .fault fault) :
    matcher.applyWith apply stream name position memo =
      ⟨.fault fault, (matcher.evaluate apply rule stream position memo).memo,
        (matcher.evaluate apply rule stream position memo).journal⟩ := by
  simp only [applyWith, found, Run.consult_bind, unknown, Run.bind_of_fault ends]

/-! ## The cases of an invocation -/

/-- The match of a rule whose body has been evaluated. -/
def hitOf (matcher : Matcher) (rule : Rule) (step : Step) : Hit :=
  ⟨matcher.actions.apply rule.name step.scope step.value, step.position⟩

section Invocation

variable {report : Report Step}

section Report

variable
  (evaluated : eval (matcher.contextFor apply rule) rule.body stream position [] memo = report)

include evaluated

/-- A body that matches ends the invocation with a match. -/
theorem invoke_of_matched
    {step : Step}
    (ends : report.outcome = .matched step) :
    matcher.invoke apply rule stream position memo =
      ⟨.matched (matcher.hitOf rule step), report.memo,
        .single (.entered rule.name position) ++ (report.journal ++
          .single (.left rule.name position
            (some ⟨step.scope, step.value, step.position⟩)))⟩ := by
  subst evaluated
  have attempted := Run.attempt_of_matched ends
  have outcome := congrArg Report.outcome attempted
  rw [invoke, Run.tell_bind, Run.bind_of_matched outcome, attempted]
  simp only [Run.tell_bind, Run.pure_apply, Journal.append_empty]
  rfl

/-- A body that does not match ends the invocation without a match. -/
theorem invoke_of_mismatch
    (ends : report.outcome = .mismatch) :
    matcher.invoke apply rule stream position memo =
      ⟨.mismatch, report.memo,
        .single (.entered rule.name position) ++ (report.journal ++
          .single (.left rule.name position none))⟩ := by
  subst evaluated
  have attempted := Run.attempt_of_mismatch ends
  have outcome := congrArg Report.outcome attempted
  rw [invoke, Run.tell_bind, Run.bind_of_matched outcome, attempted]
  simp only [Run.tell_bind, Run.mismatch, Journal.append_empty]

/-- A fault in a body is one of the invocation. -/
theorem invoke_of_fault
    {fault : Fault}
    (ends : report.outcome = .fault fault) :
    matcher.invoke apply rule stream position memo =
      ⟨.fault fault, report.memo,
        .single (.entered rule.name position) ++ report.journal⟩ := by
  subst evaluated
  have attempted := Run.attempt_of_fault ends
  have outcome := congrArg Report.outcome attempted
  rw [invoke, Run.tell_bind, Run.bind_of_fault outcome, attempted]

end Report

variable {after : Memo}

theorem ending_invoke_of_matched
    {step : Step}
    (ends : (eval (matcher.contextFor apply rule) rule.body stream position [] memo).ending =
      (.matched step, after)) :
    (matcher.invoke apply rule stream position memo).ending =
      (.matched (matcher.hitOf rule step), after) := by
  rw [invoke_of_matched rfl (Report.outcome_of_ending ends), Report.memo_of_ending ends]
  rfl

theorem ending_invoke_of_mismatch
    (ends : (eval (matcher.contextFor apply rule) rule.body stream position [] memo).ending =
      (.mismatch, after)) :
    (matcher.invoke apply rule stream position memo).ending = (.mismatch, after) := by
  rw [invoke_of_mismatch rfl (Report.outcome_of_ending ends), Report.memo_of_ending ends]
  rfl

theorem ending_invoke_of_fault
    {fault : Fault}
    (ends : (eval (matcher.contextFor apply rule) rule.body stream position [] memo).ending =
      (.fault fault, after)) :
    (matcher.invoke apply rule stream position memo).ending = (.fault fault, after) := by
  rw [invoke_of_fault rfl (Report.outcome_of_ending ends), Report.memo_of_ending ends]
  rfl

end Invocation

/-! ## The cases of an evaluation -/

section Evaluation

variable
  {report grown : Report Hit}
  (first : matcher.invoke apply rule stream position
    (Memo.put rule.name (.pending false) position memo) = report)

include first

/-- A first evaluation that ends with a fault leaves it at that. -/
theorem evaluate_of_fault
    {fault : Fault}
    (ends : report.outcome = .fault fault) :
    matcher.evaluate apply rule stream position memo =
      ⟨.fault fault, report.memo, report.journal⟩ := by
  subst first
  have attempted := Run.attempt_of_fault ends
  have outcome := congrArg Report.outcome attempted
  rw [evaluate, Run.remember_bind, Run.bind_of_fault outcome, attempted]

/-- A first evaluation that does not match is the answer. -/
theorem evaluate_of_mismatch
    (ends : report.outcome = .mismatch) :
    matcher.evaluate apply rule stream position memo =
      ⟨.matched none, Memo.put rule.name (.done none) position report.memo,
        report.journal⟩ := by
  subst first
  have attempted := Run.attempt_of_mismatch ends
  have outcome := congrArg Report.outcome attempted
  rw [evaluate, Run.remember_bind, Run.bind_of_matched outcome, attempted]
  simp only [Run.consult_bind, pure_bind, Run.remember_bind, Run.pure_apply,
    Journal.append_empty]

/-- A first match is the answer unless the application was met in progress. -/
theorem evaluate_of_settled
    {hit : Hit}
    (ends : report.outcome = .matched hit)
    (settled : report.memo.find? rule.name position ≠ some (.pending true)) :
    matcher.evaluate apply rule stream position memo =
      ⟨.matched (some hit), Memo.put rule.name (.done (some hit)) position report.memo,
        report.journal⟩ := by
  subst first
  have attempted := Run.attempt_of_matched ends
  have outcome := congrArg Report.outcome attempted
  rw [evaluate, Run.remember_bind, Run.bind_of_matched outcome, attempted]
  rcases known : (matcher.invoke apply rule stream position
      (Memo.put rule.name (.pending false) position memo)).memo.find? rule.name position
    with _ | ((_ | _) | answer)
  case some.pending.true => exact absurd known settled
  all_goals
    simp only [Run.consult_bind, known, pure_bind, Run.remember_bind, Run.pure_apply,
      Journal.append_empty]

/-- A first match of an application that was met in progress is grown. -/
theorem evaluate_of_grown
    {hit best : Hit}
    (ends : report.outcome = .matched hit)
    (known : report.memo.find? rule.name position = some (.pending true))
    (grows : matcher.grow apply rule stream position (roundLimit stream position) hit
      report.memo = grown)
    (grownEnds : grown.outcome = .matched best) :
    matcher.evaluate apply rule stream position memo =
      ⟨.matched (some best), Memo.put rule.name (.done (some best)) position grown.memo,
        report.journal ++ grown.journal⟩ := by
  subst first grows
  have attempted := Run.attempt_of_matched ends
  have outcome := congrArg Report.outcome attempted
  rw [evaluate, Run.remember_bind, Run.bind_of_matched outcome, attempted]
  simp only [Run.consult_bind, known, pure_bind, Run.bind_of_matched grownEnds,
    Run.remember_bind, Run.pure_apply, Journal.append_empty]

/-- A fault while a match is grown is one of the evaluation. -/
theorem evaluate_of_grow_fault
    {hit : Hit}
    {fault : Fault}
    (ends : report.outcome = .matched hit)
    (known : report.memo.find? rule.name position = some (.pending true))
    (grows : matcher.grow apply rule stream position (roundLimit stream position) hit
      report.memo = grown)
    (grownEnds : grown.outcome = .fault fault) :
    matcher.evaluate apply rule stream position memo =
      ⟨.fault fault, grown.memo, report.journal ++ grown.journal⟩ := by
  subst first grows
  have attempted := Run.attempt_of_matched ends
  have outcome := congrArg Report.outcome attempted
  rw [evaluate, Run.remember_bind, Run.bind_of_matched outcome, attempted]
  simp only [Run.consult_bind, known, pure_bind, Run.bind_of_fault grownEnds]

/-- A fault of the first evaluation is one of the application. -/
theorem applyWith_of_first_fault
    (found : matcher.grammar.rule? name = some rule)
    (unknown : memo.find? rule.name position = none)
    {fault : Fault}
    (ends : report.outcome = .fault fault) :
    matcher.applyWith apply stream name position memo =
      ⟨.fault fault, report.memo, report.journal⟩ := by
  have evaluated := evaluate_of_fault first ends
  rw [applyWith_of_fault found unknown (congrArg Report.outcome evaluated), evaluated]

/-- The first evaluation of a rule that is not met in progress is the answer of
the application. -/
theorem applyWith_of_quiet
    (found : matcher.grammar.rule? name = some rule)
    (unknown : memo.find? rule.name position = none)
    {answer : Option Hit}
    (ends : report.outcome = .ofOption answer)
    (quiet : report.memo.find? rule.name position = some (.pending false)) :
    matcher.applyWith apply stream name position memo =
      ⟨.ofOption answer, Memo.put rule.name (.done answer) position report.memo,
        report.journal ++ .single (.answered rule.name position answer)⟩ := by
  have evaluated : matcher.evaluate apply rule stream position memo =
      ⟨.matched answer, Memo.put rule.name (.done answer) position report.memo,
        report.journal⟩ := by
    cases answer with
    | none => exact evaluate_of_mismatch first ends
    | some hit =>
        refine evaluate_of_settled first ends ?_
        rw [quiet]
        exact nofun
  rw [applyWith_of_evaluated found unknown (congrArg Report.outcome evaluated), evaluated]

/-- A first evaluation that does not match is one of the application. -/
theorem ending_of_first_mismatch
    (found : matcher.grammar.rule? name = some rule)
    (unknown : memo.find? rule.name position = none)
    (ends : report.outcome = .mismatch) :
    (matcher.applyWith apply stream name position memo).ending =
      (.mismatch, Memo.put rule.name (.done none) position report.memo) := by
  have evaluated := evaluate_of_mismatch first ends
  rw [applyWith_of_evaluated found unknown (congrArg Report.outcome evaluated), evaluated]
  rfl

/-- An application that is met in progress ends like the growth of its first
match. -/
theorem outcome_of_met
    (found : matcher.grammar.rule? name = some rule)
    (unknown : memo.find? rule.name position = none)
    {hit : Hit}
    (ends : report.outcome = .matched hit)
    (met : report.memo.find? rule.name position = some (.pending true))
    (stays : (matcher.grow apply rule stream position (roundLimit stream position) hit
      report.memo).outcome ≠ .mismatch) :
    (matcher.applyWith apply stream name position memo).outcome =
      (matcher.grow apply rule stream position (roundLimit stream position) hit
        report.memo).outcome := by
  generalize grows : matcher.grow apply rule stream position (roundLimit stream position) hit
    report.memo = grown at stays
  cases grownEnds : grown.outcome with
  | mismatch => exact absurd grownEnds stays
  | fault fault =>
      have evaluated := evaluate_of_grow_fault first ends met grows grownEnds
      rw [applyWith_of_fault found unknown (congrArg Report.outcome evaluated)]
  | matched best =>
      have evaluated := evaluate_of_grown first ends met grows grownEnds
      rw [applyWith_of_evaluated found unknown (congrArg Report.outcome evaluated)]
      rfl

/-- A match that has been grown is noted. -/
theorem memo_of_met
    (found : matcher.grammar.rule? name = some rule)
    (unknown : memo.find? rule.name position = none)
    {hit best : Hit}
    (ends : report.outcome = .matched hit)
    (met : report.memo.find? rule.name position = some (.pending true))
    (grownEnds : (matcher.grow apply rule stream position (roundLimit stream position) hit
      report.memo).outcome = .matched best) :
    (matcher.applyWith apply stream name position memo).memo =
      Memo.put rule.name (.done (some best)) position
        (matcher.grow apply rule stream position (roundLimit stream position) hit
          report.memo).memo := by
  have evaluated := evaluate_of_grown first ends met rfl grownEnds
  rw [applyWith_of_evaluated found unknown (congrArg Report.outcome evaluated), evaluated]

/-- What happens in the first evaluation of a rule happens in the application. -/
theorem events_of_first
    (found : matcher.grammar.rule? name = some rule)
    (unknown : memo.find? rule.name position = none) :
    report.events <+: (matcher.applyWith apply stream name position memo).events := by
  subst first
  simp only [applyWith, found, Run.consult_bind, unknown]
  refine List.IsPrefix.trans ?_ (Run.events_bind _ _ _)
  rw [evaluate, Run.remember_bind, ← Run.events_attempt]
  exact Run.events_bind _ _ _

end Evaluation

/-- A rule is answered by the evaluation of its body, unless that meets it in
progress. -/
theorem ending_applyWith_of_body
    (found : matcher.grammar.rule? name = some rule)
    (unknown : memo.find? rule.name position = none)
    {answer : Option Step}
    {after : Memo}
    (evaluated : (eval (matcher.contextFor apply rule) rule.body stream position []
      (Memo.put rule.name (.pending false) position memo)).ending = (.ofOption answer, after))
    (quiet : after.find? rule.name position = some (.pending false)) :
    (matcher.applyWith apply stream name position memo).ending =
      (.ofOption (answer.map (matcher.hitOf rule)),
        Memo.put rule.name (.done (answer.map (matcher.hitOf rule))) position after) := by
  have invoked : (matcher.invoke apply rule stream position
      (Memo.put rule.name (.pending false) position memo)).ending =
        (.ofOption (answer.map (matcher.hitOf rule)), after) := by
    cases answer with
    | none => exact ending_invoke_of_mismatch evaluated
    | some step => exact ending_invoke_of_matched evaluated
  have left := Report.memo_of_ending invoked
  rw [applyWith_of_quiet rfl found unknown (Report.outcome_of_ending invoked)
    (left ▸ quiet), left]
  rfl

/-! ## The cases of a round of growth -/

section Growth

variable
  {rounds : Nat}
  {best : Hit}
  {report : Report Hit}
  (again : matcher.invoke apply rule stream position
    (Memo.put rule.name (.done (some best)) position memo) = report)

include again

/-- A round that ends with a fault ends the growth. -/
theorem grow_of_fault
    {fault : Fault}
    (ends : report.outcome = .fault fault) :
    matcher.grow apply rule stream position (rounds + 1) best memo =
      ⟨.fault fault, report.memo, report.journal⟩ := by
  subst again
  have attempted := Run.attempt_of_fault ends
  have outcome := congrArg Report.outcome attempted
  rw [grow, Run.remember_bind, Run.bind_of_fault outcome, attempted]

/-- A round that does not match ends the growth. -/
theorem grow_of_mismatch
    (ends : report.outcome = .mismatch) :
    matcher.grow apply rule stream position (rounds + 1) best memo =
      ⟨.matched best, report.memo, report.journal⟩ := by
  subst again
  have attempted := Run.attempt_of_mismatch ends
  have outcome := congrArg Report.outcome attempted
  rw [grow, Run.remember_bind, Run.bind_of_matched outcome, attempted]
  simp only [Run.pure_apply, Journal.append_empty]

/-- A match that is not longer ends the growth. -/
theorem grow_of_not_longer
    {hit : Hit}
    (ends : report.outcome = .matched hit)
    (stays : hit.finish ≤ best.finish) :
    matcher.grow apply rule stream position (rounds + 1) best memo =
      ⟨.matched best, report.memo, report.journal⟩ := by
  subst again
  have attempted := Run.attempt_of_matched ends
  have outcome := congrArg Report.outcome attempted
  rw [grow, Run.remember_bind, Run.bind_of_matched outcome, attempted]
  simp only [if_neg (Nat.not_lt.mpr stays), Run.pure_apply, Journal.append_empty]

/-- A longer match is grown on. -/
theorem grow_of_longer
    {hit : Hit}
    {rest : Report Hit}
    (ends : report.outcome = .matched hit)
    (longer : best.finish < hit.finish)
    (goes : matcher.grow apply rule stream position rounds hit report.memo = rest) :
    matcher.grow apply rule stream position (rounds + 1) best memo =
      ⟨rest.outcome, rest.memo, report.journal ++ rest.journal⟩ := by
  subst again goes
  have attempted := Run.attempt_of_matched ends
  have outcome := congrArg Report.outcome attempted
  rw [grow, Run.remember_bind, Run.bind_of_matched outcome, attempted]
  simp only [if_pos longer]

end Growth

/-- A match that is grown stays a match. -/
theorem grow_ne_mismatch
    (rounds : Nat) :
    ∀ (best : Hit) (memo : Memo),
      (matcher.grow apply rule stream position rounds best memo).outcome ≠ .mismatch := by
  induction rounds with
  | zero => exact nofun
  | succ rounds inductionHypothesis =>
      intro best memo
      generalize again : matcher.invoke apply rule stream position
        (Memo.put rule.name (.done (some best)) position memo) = report
      cases ends : report.outcome with
      | fault fault =>
          rw [grow_of_fault again ends]
          exact nofun
      | mismatch =>
          rw [grow_of_mismatch again ends]
          exact nofun
      | matched hit =>
          by_cases longer : best.finish < hit.finish
          · rw [grow_of_longer again ends longer rfl]
            exact inductionHypothesis hit report.memo
          · rw [grow_of_not_longer again ends (Nat.not_lt.mp longer)]
            exact nofun

/-! ## Related applications -/

section Related

variable
  {ι : Type}
  {sim : Simulation ι}
  {names : String → Prop}
  {rightMatcher : Matcher}
  {rightApply : ι → Applier}

/-- Rules with related evaluations of their bodies are invoked in related ways,
as long as their actions keep values alike and what is told is related. -/
theorem invoke_related
    (agree : sim.Agree names (matcher.contextFor apply rule)
      fun index => rightMatcher.contextFor (rightApply index) rule)
    (applied : ∀ other ∈ rule.body.references, names other)
    (acts : ∀ (scope rightScope : Bindings) (value rightValue : Value),
      sim.ScopesAlike scope rightScope → sim.alike value rightValue →
        sim.alike (matcher.actions.apply rule.name scope value)
          (rightMatcher.actions.apply rule.name rightScope rightValue))
    {offset : Nat}
    (inside : position + offset ≤ stream.length)
    (entered : sim.Related stream offset (fun _ _ => True)
      (Run.tell (.entered rule.name (position + offset)))
      fun _ => Run.tell (.entered rule.name position))
    (left : ∀ result rightResult,
      Option.Rel (sim.CompletionsAlike stream offset (position + offset)) result rightResult →
        sim.Related stream offset (fun _ _ => True)
          (Run.tell (.left rule.name (position + offset) result))
          fun _ => Run.tell (.left rule.name position rightResult)) :
    sim.Related stream offset (sim.HitsAlike stream offset (position + offset))
      (matcher.invoke apply rule stream (position + offset))
      fun index => rightMatcher.invoke (rightApply index) rule (stream.drop offset) position := by
  unfold invoke
  refine sim.andThen entered ?_
  rintro _ _ -
  refine sim.andThen (sim.attempt (Simulation.eval_related agree rule.body applied
    stream offset position [] [] inside .nil)) ?_
  rintro _ _ (steps | _)
  · refine sim.andThen (left _ _ (.some ⟨steps.value, steps.reaches, steps.scopes⟩)) ?_
    rintro _ _ -
    exact sim.done ⟨acts _ _ _ _ steps.scopes steps.value, steps.reaches⟩
  · refine sim.andThen (left _ _ .none) ?_
    rintro _ _ -
    exact sim.mismatch

/-- Where only equal values are alike, every action keeps values alike. -/
theorem actions_alike
    (exact : ∀ {left right : Value}, sim.alike left right → left = right)
    (actions : Actions)
    (name : String)
    (scope rightScope : Bindings)
    (value rightValue : Value)
    (scopes : sim.ScopesAlike scope rightScope)
    (values : sim.alike value rightValue) :
    sim.alike (actions.apply name scope value) (actions.apply name rightScope rightValue) := by
  rw [scopes.eq exact, exact values]
  exact sim.alike_refl _

/-- Matches of a whole stream are related if the applications they start from
are. -/
theorem runWith_related
    {rightRule : Rule}
    (found : matcher.grammar.rule? name = some rule)
    (rightFound : rightMatcher.grammar.rule? name = some rightRule)
    (agree : sim.Agree names (matcher.contextFor apply rule)
      fun index => rightMatcher.contextFor (rightApply index) rightRule)
    (applied : names name) :
    sim.Related stream 0 sim.alike (matcher.runWith apply stream name)
      fun index => rightMatcher.runWith (rightApply index) stream name := by
  simp only [runWith, found, rightFound]
  refine sim.andThen (agree.skip (Nat.zero_le _)) ?_
  rintro _ start ⟨rfl, -, startInside⟩
  refine sim.andThen (agree.apply applied startInside) ?_
  rintro hit rightHit ⟨value, finish, -, finishInside⟩
  rw [finish] at finishInside ⊢
  refine sim.andThen (agree.skip finishInside) ?_
  rintro _ last ⟨rfl, -, -⟩
  split
  · exact sim.done value
  · exact sim.mismatch

/-- Matches of a whole stream in lockstep have the same outcome, if only equal
values are alike and neither excuses the other. -/
theorem runWith_outcome_eq
    {lockstep : Lockstep}
    (exact : ∀ {left right : Value}, lockstep.alike left right → left = right)
    {rightApply : Applier}
    (agree : lockstep.simulation.AppliersAgree (fun _ => True) apply fun _ => rightApply)
    (start : lockstep.memories stream 0 Memo.empty Memo.empty)
    (unexcused : ¬ lockstep.Excuses (matcher.runWith apply stream name Memo.empty).outcome
      (matcher.runWith rightApply stream name Memo.empty).outcome) :
    (matcher.runWith rightApply stream name Memo.empty).outcome =
      (matcher.runWith apply stream name Memo.empty).outcome := by
  cases found : matcher.grammar.rule? name with
  | none => simp only [runWith, found]
  | some rule =>
      have contexts : lockstep.simulation.Agree (fun _ => True) (matcher.contextFor apply rule)
          fun _ => matcher.contextFor rightApply rule :=
        agree.agree fun _ _ => trivial
      rcases runWith_related found found contexts trivial Memo.empty Memo.empty start with
        excuses | report
      · exact absurd excuses unexcused
      · exact (report.outcomes.imp exact).eq.symm

end Related

end Matcher
end Heirloom
