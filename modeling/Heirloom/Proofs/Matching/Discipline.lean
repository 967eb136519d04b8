import Heirloom.Grammar.Base
import Heirloom.Proofs.Matching.Choice
import Heirloom.Proofs.Matching.Termination

/-!
# The discipline of evaluation

From every state that a run can reach, an evaluation that matches goes forward
inside its stream and adds to the scope, and every match in memory lies inside
the stream too. An evaluation that does not match leaves neither a position nor
a binding behind, so what is tried next starts where it started. Negation and
lookahead stay in place, and exactly one of them matches.
-/

namespace Heirloom
namespace Matching

deriving instance DecidableEq for Step

/-! ## Evaluations that respect an invariant -/

/-- A step that goes forward inside the stream and keeps what was bound. -/
structure Step.Advances
    (stream : List Value)
    (start : Nat)
    (scope : Bindings)
    (step : Step) : Prop where
  forward : start ≤ step.position
  inside : step.position ≤ stream.length
  keeps : scope <+: step.scope

namespace Invariant

variable
  {invariant : Invariant}
  {apply : Applier}

/-- What applications respect is respected by the evaluation of any expression,
whose matches advance. -/
theorem eval_respects
    (respect : invariant.AppliersRespect (fun _ => True) apply)
    (skipRule : Option String)
    (expr : Expr)
    {stream : List Value}
    {position : Nat}
    (inside : position ≤ stream.length)
    (scope : Bindings)
    {memo : Memo}
    (holds : invariant.holds stream memo) :
    invariant.Respects stream (Step.Advances stream position scope) memo
      (eval ⟨apply, skipRule⟩ expr stream position scope memo) := by
  have agree : invariant.simulation.Agree (fun _ => True) ⟨apply, skipRule⟩
      fun index : Empty => ⟨index.elim, skipRule⟩ :=
    respect.agree.agree fun _ _ => trivial
  have report := Simulation.eval_related agree expr (fun _ _ => trivial) stream 0 position
    scope scope inside (Simulation.ScopesAlike.refl _ scope) memo holds
  refine ⟨report.holds, report.changed, ?_, report.faulted⟩
  intro step ends
  obtain ⟨_, -, reaches, -, keeps⟩ := report.matched step ends
  exact ⟨reaches.start_le, reaches.le_length, keeps⟩

end Invariant

/-! ## Evaluations around a body -/

section Around

variable
  {context : Context}
  {expr : Expr}
  {stream : List Value}
  {position : Nat}
  {scope : Bindings}
  {memo after : Memo}

/-- A negation does not match where its body matches. -/
theorem ending_not_of_matched
    {step : Step}
    (ends : (eval context expr stream position scope memo).ending = (.matched step, after)) :
    (eval context (.not expr) stream position scope memo).ending = (.mismatch, after) := by
  have answer : _ = (Outcome.ofOption (some step), after) := ends
  rw [eval, Run.ending_bind_of_matched (Run.ending_attempt_of_answer answer)]
  rfl

/-- A negation matches in place where its body does not match. -/
theorem ending_not_of_mismatch
    (ends : (eval context expr stream position scope memo).ending = (.mismatch, after)) :
    (eval context (.not expr) stream position scope memo).ending =
      (.matched ⟨.undefined, position, scope⟩, after) := by
  have answer : _ = (Outcome.ofOption none, after) := ends
  rw [eval, Run.ending_bind_of_matched (Run.ending_attempt_of_answer answer)]
  rfl

/-- A fault of its body is one of the negation. -/
theorem ending_not_of_fault
    {fault : Fault}
    (ends : (eval context expr stream position scope memo).ending = (.fault fault, after)) :
    (eval context (.not expr) stream position scope memo).ending = (.fault fault, after) := by
  rw [eval, Run.ending_bind_of_fault (Run.ending_attempt_of_fault ends)]

/-- A lookahead matches in place what its body matches. -/
theorem ending_peek_of_matched
    {step : Step}
    (ends : (eval context expr stream position scope memo).ending = (.matched step, after)) :
    (eval context (.peek expr) stream position scope memo).ending =
      (.matched { step with position := position }, after) := by
  rw [eval, Run.ending_bind_of_matched ends]
  rfl

/-- A lookahead does not match where its body does not match. -/
theorem ending_peek_of_mismatch
    (ends : (eval context expr stream position scope memo).ending = (.mismatch, after)) :
    (eval context (.peek expr) stream position scope memo).ending = (.mismatch, after) := by
  rw [eval, Run.ending_bind_of_mismatch ends]

/-- A fault of its body is one of the lookahead. -/
theorem ending_peek_of_fault
    {fault : Fault}
    (ends : (eval context expr stream position scope memo).ending = (.fault fault, after)) :
    (eval context (.peek expr) stream position scope memo).ending = (.fault fault, after) := by
  rw [eval, Run.ending_bind_of_fault ends]

/-- Where the body of an option does not match, the option matches in place. -/
theorem ending_opt_of_mismatch
    (ends : (eval context expr stream position scope memo).ending = (.mismatch, after)) :
    (eval context (.opt expr) stream position scope memo).ending =
      (.matched ⟨.undefined, position, scope⟩, after) := by
  have answer : _ = (Outcome.ofOption none, after) := ends
  rw [eval, Run.ending_bind_of_matched (Run.ending_attempt_of_answer answer)]
  rfl

/-- Where the body of a repetition does not match, the repetition ends in place. -/
theorem ending_many_of_mismatch
    (ends : (eval context expr stream position scope memo).ending = (.mismatch, after)) :
    (eval context (.many expr 0) stream position scope memo).ending =
      (.matched ⟨.list [], position, scope⟩, after) := by
  have answer : _ = (Outcome.ofOption none, after) := ends
  have rounds : (repeatedly (eval context expr stream) (roundLimit stream position) position
      scope [] memo).ending = (.matched ([], position, scope), after) := by
    rw [roundLimit, repeatedly, Run.ending_bind_of_matched (Run.ending_attempt_of_answer answer)]
    rfl
  rw [eval, Run.ending_bind_of_matched rounds]
  rfl

/-- What a negation matches, it matches in place, and it binds nothing. -/
theorem not_stays
    {step : Step}
    (ends : (eval context (.not expr) stream position scope memo).outcome = .matched step) :
    step.position = position ∧ step.scope = scope := by
  generalize body : (eval context expr stream position scope memo).ending = ending
  obtain ⟨outcome, after⟩ := ending
  cases outcome with
  | matched inner =>
      rw [Report.outcome_of_ending (ending_not_of_matched body)] at ends
      cases ends
  | mismatch =>
      rw [Report.outcome_of_ending (ending_not_of_mismatch body)] at ends
      cases ends
      exact ⟨rfl, rfl⟩
  | fault fault =>
      rw [Report.outcome_of_ending (ending_not_of_fault body)] at ends
      cases ends

/-- What a lookahead matches, it matches in place. -/
theorem peek_stays
    {step : Step}
    (ends : (eval context (.peek expr) stream position scope memo).outcome = .matched step) :
    step.position = position := by
  generalize body : (eval context expr stream position scope memo).ending = ending
  obtain ⟨outcome, after⟩ := ending
  cases outcome with
  | matched inner =>
      rw [Report.outcome_of_ending (ending_peek_of_matched body)] at ends
      cases ends
      rfl
  | mismatch =>
      rw [Report.outcome_of_ending (ending_peek_of_mismatch body)] at ends
      cases ends
  | fault fault =>
      rw [Report.outcome_of_ending (ending_peek_of_fault body)] at ends
      cases ends

/-- Unless the body ends with a fault, exactly one of its negation and its
lookahead matches. -/
theorem not_xor_peek
    (going : ∀ fault, (eval context expr stream position scope memo).outcome ≠ .fault fault) :
    Xor (∃ step, (eval context (.not expr) stream position scope memo).outcome = .matched step)
      (∃ step, (eval context (.peek expr) stream position scope memo).outcome =
        .matched step) := by
  generalize body : (eval context expr stream position scope memo).ending = ending
  obtain ⟨outcome, after⟩ := ending
  cases outcome with
  | matched inner =>
      rw [Report.outcome_of_ending (ending_not_of_matched body),
        Report.outcome_of_ending (ending_peek_of_matched body)]
      exact .inr ⟨⟨_, rfl⟩, nofun⟩
  | mismatch =>
      rw [Report.outcome_of_ending (ending_not_of_mismatch body),
        Report.outcome_of_ending (ending_peek_of_mismatch body)]
      exact .inl ⟨⟨_, rfl⟩, nofun⟩
  | fault fault => exact absurd (Report.outcome_of_ending body) (going fault)

end Around

/-- Every match in memory lies inside the stream, whatever ends the run. -/
def boundedness : Invariant where
  holds stream memo := memo.Bounded stream
  changed _ _ := True
  allowed _ := True
  changed_refl _ := trivial
  changed_trans _ _ := trivial
  inner _ _ := .empty _

end Matching

open Matching

namespace Matcher

/-- The context of an evaluation in which applications nest to a depth at most. -/
def contextAtDepth (matcher : Matcher) (depth : Nat) (syntactic : Bool) : Context :=
  { apply := matcher.applyWithin depth, skipRule := matcher.skipRuleFor syntactic }

/-- Applications keep every match in memory inside the stream. -/
theorem applyWithin_bounded
    (matcher : Matcher)
    (depth : Nat) :
    boundedness.AppliersRespect (fun _ => True) (matcher.applyWithin depth) := by
  induction depth with
  | zero =>
      intro stream position name memo _ _ _
      exact .of_fault rfl trivial
  | succ depth respect =>
      intro stream position name memo _ inside bounded
      refine applyWith_respects bounded (fun _ => trivial)
        (fun _ _ => ⟨Memo.Bounded.put_pending bounded _ _ _, trivial⟩)
        (fun _ known => bounded known) ?_
      rintro rule found rfl unknown
      have rounds : matcher.Rounds (matcher.applyWithin depth) rule stream position
          (Memo.Bounded stream) (Hit.Bounded stream position) boundedness.allowed :=
        { kept := by
            intro memo bounded
            have report := invoke_respects respect (Closed.all matcher) trivial found inside
              bounded
            exact ⟨report.holds, report.matched _, report.faulted _⟩
          noted := by
            intro memo hit bounded fits
            refine bounded.put_done ?_
            rintro _ ⟨⟩
            exact fits
          bounded := id }
      have report := rounds.evaluate (Memo.Bounded.put_pending bounded _ _ _)
      refine ⟨report.stays, ?_⟩
      generalize matcher.evaluate (matcher.applyWithin depth) rule stream position memo =
        evaluated at report
      cases ends : evaluated.outcome with
      | mismatch => exact absurd ends report.stays
      | fault fault => exact .of_fault ends trivial
      | matched answer =>
          obtain ⟨fits, reached, during, noted⟩ := report.answered ends
          refine .of_matched ends ?_ trivial fits
          rw [noted]
          exact during.put_done fits

/-! ## Reachable states -/

/-- The states of a stream that a run can reach: a position and what is known
there. Any expression may be the one that is evaluated, in any scope, so these
are all the states in which a rule body, a part of one, an inline rule or the
skip rule is ever evaluated. -/
inductive Reachable (matcher : Matcher) (stream : List Value) : Nat → Memo → Prop
  /-- A run starts at the beginning of its stream with nothing known, and so does
  a run inside a string, a list or an object. -/
  | start : Reachable matcher stream 0 Memo.empty
  /-- After a match the run goes on behind it. -/
  | matched
      {position depth : Nat} {memo after : Memo} {syntactic : Bool}
      {expr : Expr} {scope : Bindings} {step : Step}
      (before : Reachable matcher stream position memo)
      (ends : (eval (matcher.contextAtDepth depth syntactic) expr stream position scope
        memo).ending = (.matched step, after)) :
      Reachable matcher stream step.position after
  /-- After a mismatch the run goes on from where it was. -/
  | mismatched
      {position depth : Nat} {memo after : Memo} {syntactic : Bool}
      {expr : Expr} {scope : Bindings}
      (before : Reachable matcher stream position memo)
      (ends : (eval (matcher.contextAtDepth depth syntactic) expr stream position scope
        memo).ending = (.mismatch, after)) :
      Reachable matcher stream position after
  /-- A rule of which nothing is known starts to be evaluated. -/
  | entered
      {position : Nat} {memo : Memo} {name : String} {rule : Rule}
      (before : Reachable matcher stream position memo)
      (found : matcher.grammar.rule? name = some rule)
      (unknown : memo.find? rule.name position = none) :
      Reachable matcher stream position (Memo.put rule.name (.pending false) position memo)
  /-- A rule that matched is evaluated again with its match as the answer. -/
  | grown
      {position depth : Nat} {memo after : Memo} {name : String} {rule : Rule} {hit : Hit}
      (before : Reachable matcher stream position memo)
      (found : matcher.grammar.rule? name = some rule)
      (ends : (matcher.invoke (matcher.applyWithin depth) rule stream position memo).ending =
        (.matched hit, after)) :
      Reachable matcher stream position (Memo.put rule.name (.done (some hit)) position after)

variable
  {matcher : Matcher}
  {stream : List Value}
  {position : Nat}
  {memo : Memo}

/-- An evaluation inside a stream keeps its memory inside and advances. -/
theorem eval_bounded
    (matcher : Matcher)
    (inside : position ≤ stream.length)
    (bounded : memo.Bounded stream)
    (depth : Nat)
    (syntactic : Bool)
    (expr : Expr)
    (scope : Bindings) :
    boundedness.Respects stream (Step.Advances stream position scope) memo
      (eval (matcher.contextAtDepth depth syntactic) expr stream position scope memo) :=
  Invariant.eval_respects (matcher.applyWithin_bounded depth) _ expr inside scope bounded

/-- In every state that is reached the position and the matches in memory lie
inside the stream. -/
theorem Reachable.bounded
    (reachable : matcher.Reachable stream position memo) :
    position ≤ stream.length ∧ memo.Bounded stream := by
  induction reachable with
  | start => exact ⟨Nat.zero_le _, .empty stream⟩
  | @matched _ depth _ _ syntactic expr scope step _ ends inductionHypothesis =>
      obtain ⟨inside, bounded⟩ := inductionHypothesis
      have report := eval_bounded matcher inside bounded depth syntactic expr scope
      have outcome := Report.outcome_of_ending ends
      have kept := report.holds (Outcome.ne_fault_of_matched outcome)
      rw [Report.memo_of_ending ends] at kept
      exact ⟨(report.matched step outcome).inside, kept⟩
  | @mismatched _ depth _ _ syntactic expr scope _ ends inductionHypothesis =>
      obtain ⟨inside, bounded⟩ := inductionHypothesis
      have report := eval_bounded matcher inside bounded depth syntactic expr scope
      have kept := report.holds
        (Outcome.ne_fault_of_mismatch (Report.outcome_of_ending ends))
      rw [Report.memo_of_ending ends] at kept
      exact ⟨inside, kept⟩
  | entered _ _ _ inductionHypothesis =>
      exact ⟨inductionHypothesis.1, inductionHypothesis.2.put_pending _ _ _⟩
  | @grown _ depth _ _ _ _ hit _ found ends inductionHypothesis =>
      obtain ⟨inside, bounded⟩ := inductionHypothesis
      have report := invoke_respects (matcher.applyWithin_bounded depth) (Closed.all matcher)
        trivial found inside bounded
      have outcome := Report.outcome_of_ending ends
      have kept := report.holds (Outcome.ne_fault_of_matched outcome)
      rw [Report.memo_of_ending ends] at kept
      refine ⟨inside, kept.put_done ?_⟩
      rintro _ ⟨⟩
      exact report.matched hit outcome

/-- Within the limit on depth the only fault of an evaluation is the application
of a rule that is not defined. -/
theorem eval_ne_exhausted
    (inside : position ≤ stream.length)
    (bounded : memo.Bounded stream)
    {depth : Nat}
    (enough : matcher.depthLimit stream ≤ depth)
    (syntactic : Bool)
    (expr : Expr)
    (scope : Bindings) :
    (eval (matcher.contextAtDepth depth syntactic) expr stream position scope memo).outcome ≠
      .fault .exhausted := by
  intro exhausted
  have start : (matcher.budget (fun _ => True) depth).holds stream memo :=
    ⟨bounded, Nat.lt_of_lt_of_le (matcher.demand_lt_depthLimit stream memo) enough⟩
  have report := Invariant.eval_respects (applyWithin_respects (Closed.all matcher) depth)
    (matcher.skipRuleFor syntactic) expr inside scope start
  obtain ⟨_, -, -, undefined⟩ := report.faulted .exhausted exhausted
  cases undefined

/-- From every state that a run can reach, whatever is evaluated there: the
position and every match in memory lie inside the stream; a match goes forward
inside the stream and only adds to the scope; after a mismatch what is tried
next is evaluated at the position and in the scope from before; negation and
lookahead stay in place, and negation binds nothing; and exactly one of them
matches, unless their body ends with a fault. Within the limit on depth such a
fault is always a rule that is not defined. -/
theorem evaluation_is_disciplined
    (matcher : Matcher)
    {stream : List Value}
    {position : Nat}
    {memo : Memo}
    (reachable : matcher.Reachable stream position memo)
    (depth : Nat)
    (syntactic : Bool)
    (expr : Expr)
    (scope : Bindings) :
    let context := matcher.contextAtDepth depth syntactic
    let report := fun expr => eval context expr stream position scope memo
    (position ≤ stream.length ∧
      ∀ rule start hit, memo.find? rule start = some (.done (some hit)) →
        start ≤ hit.finish ∧ hit.finish ≤ stream.length) ∧
    (∀ step, (report expr).outcome = .matched step →
      position ≤ step.position ∧ step.position ≤ stream.length ∧ scope <+: step.scope) ∧
    ((report expr).outcome = .mismatch →
      (∀ other, (report (.alt expr other)).ending =
        (eval context other stream position scope (report expr).memo).ending) ∧
      (report (.opt expr)).outcome = .matched ⟨.undefined, position, scope⟩ ∧
      (report (.many expr 0)).outcome = .matched ⟨.list [], position, scope⟩) ∧
    (∀ step, (report (.not expr)).outcome = .matched step →
      step.position = position ∧ step.scope = scope) ∧
    (∀ step, (report (.peek expr)).outcome = .matched step → step.position = position) ∧
    ((∀ fault, (report expr).outcome ≠ .fault fault) →
      Xor (∃ step, (report (.not expr)).outcome = .matched step)
        (∃ step, (report (.peek expr)).outcome = .matched step)) ∧
    (matcher.depthLimit stream ≤ depth → (report expr).outcome ≠ .fault .exhausted) := by
  intro context report
  obtain ⟨inside, bounded⟩ := reachable.bounded
  refine ⟨⟨inside, fun rule start hit known => bounded known⟩, ?_, ?_, fun _ => not_stays,
    fun _ => peek_stays, not_xor_peek, ?_⟩
  · intro step ends
    have advances := (eval_bounded matcher inside bounded depth syntactic expr scope).matched
      step ends
    exact ⟨advances.forward, advances.inside, advances.keeps⟩
  · intro ends
    have ending := Report.ending_eq ends
    refine ⟨fun other => ?_, Report.outcome_of_ending (ending_opt_of_mismatch ending),
      Report.outcome_of_ending (ending_many_of_mismatch ending)⟩
    change (eval context (.alt expr other) stream position scope memo).ending = _
    rw [eval_alt, Run.ending_orElse_of_mismatch ending]
  · exact fun enough => eval_ne_exhausted inside bounded enough syntactic expr scope

/-- The state after the first letter of a text is reached, and evaluations there
are disciplined. -/
theorem second_letter_is_disciplined :
    let matcher : Matcher := { grammar := baseGrammar }
    let context := matcher.contextAtDepth 9 true
    let stream := Value.chars "ab"
    let first := eval context (.app "letter") stream 0 [] Memo.empty
    let report := fun expr => eval context expr stream 1 [("x", .char 'a')] first.memo
    matcher.Reachable stream 1 first.memo ∧
    first.memo.find? "letter" 0 = some (.done (some ⟨.char 'a', 1⟩)) ∧
    (∀ step, (report (.bind .any "y")).outcome = .matched step →
      1 ≤ step.position ∧ step.position ≤ 2 ∧ [("x", .char 'a')] <+: step.scope) ∧
    Xor (∃ step, (report (.not (.app "digit"))).outcome = .matched step)
      (∃ step, (report (.peek (.app "digit"))).outcome = .matched step) := by
  intro matcher context stream first report
  have letter : first.outcome = .matched ⟨.char 'a', 1, []⟩ := by decide +kernel
  have reachable : matcher.Reachable stream 1 first.memo :=
    .matched .start (Report.ending_eq letter)
  have bound := evaluation_is_disciplined matcher reachable 9 true (.bind .any "y")
    [("x", .char 'a')]
  have digit := evaluation_is_disciplined matcher reachable 9 true (.app "digit")
    [("x", .char 'a')]
  refine ⟨reachable, by decide +kernel, bound.2.1, digit.2.2.2.2.2.1 fun fault => ?_⟩
  have fails : (report (.app "digit")).outcome = .mismatch := by
    decide +kernel
  exact Outcome.ne_fault_of_mismatch fails fault

end Matcher
end Heirloom
