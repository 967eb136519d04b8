import Heirloom.Proofs.Matching.Termination
import Heirloom.Proofs.Matching.Wrapping

/-!
# Shadowed applications

The applications of a grammar in which an alternative is left to an inline rule are
tracked by those of the grammar where it is not. A rule body is evaluated alike on both
sides up to the alternative. There the inline rule is evaluated once, like the
alternative, and is answered from memory afterwards, where the alternative comes to the
same again.
-/

namespace Heirloom
namespace Matching

/-- The outcome with the match of a step. -/
def Outcome.hit : Outcome Step → Outcome Hit
  | .matched step => .matched step.hit
  | .mismatch => .mismatch
  | .fault reason => .fault reason

theorem Outcome.hit_eq_fault_iff {outcome : Outcome Step} {fault : Fault} :
    outcome.hit = .fault fault ↔ outcome = .fault fault := by
  cases outcome <;> simp [Outcome.hit]

theorem Outcome.hit_ofOption (answer : Option Step) :
    (Outcome.ofOption answer).hit = .ofOption (answer.map Step.hit) := by
  cases answer <;> rfl

theorem Outcome.Rel.hit_left
    {same : Hit → β → Prop}
    {outcome : Outcome Step}
    {other : Outcome β}
    (outcomes : Outcome.Rel (fun step other => same step.hit other) outcome other) :
    Outcome.Rel same outcome.hit other := by
  cases outcomes with
  | matched results => exact .matched results
  | mismatch => exact .mismatch
  | fault fault => exact .fault fault

theorem Outcome.Rel.hit_right
    {same : α → Hit → Prop}
    {outcome : Outcome α}
    {other : Outcome Step}
    (outcomes : Outcome.Rel (fun result step => same result step.hit) outcome other) :
    Outcome.Rel same outcome other.hit := by
  cases outcomes with
  | matched results => exact .matched results
  | mismatch => exact .mismatch
  | fault fault => exact .fault fault

/-- Where the match of a step counts, a run ends like that match. -/
theorem Report.ComesTo.hit_left
    {same : Hit → β → Prop}
    {outcome : Outcome Step}
    {leaves : Memo → Prop}
    {report : Report β}
    (ends : report.ComesTo (fun step other => same step.hit other) outcome leaves) :
    report.ComesTo same outcome.hit leaves :=
  Or.imp_right (fun ends => ⟨ends.1.hit_left,
    fun going => ends.2 fun fault failed => going fault (Outcome.hit_eq_fault_iff.mpr failed)⟩)
    ends

theorem Report.ComesTo.hit_ofOption
    {same : Hit → β → Prop}
    {answer : Option Step}
    {leaves : Memo → Prop}
    {report : Report β}
    (ends : report.ComesTo (fun step other => same step.hit other) (.ofOption answer) leaves) :
    report.ComesTo same (.ofOption (answer.map Step.hit)) leaves := by
  rw [← Outcome.hit_ofOption]
  exact ends.hit_left

end Matching

open Matching

namespace Matcher

variable
  {matcher : Matcher}
  {apply : Applier}
  {stream : List Value}
  {name : String}
  {rule : Rule}
  {position : Nat}
  {memo : Memo}

/-! ## Invocations without actions -/

/-- An invocation ends like the body, if there are no actions. -/
theorem ending_invoke
    (matcher : Matcher)
    (apply : Applier)
    (rule : Rule)
    (stream : List Value)
    (position : Nat)
    (memo : Memo)
    (unacted : matcher.actions = {}) :
    (matcher.invoke apply rule stream position memo).ending =
      ((eval (matcher.contextFor apply rule) rule.body stream position [] memo).outcome.hit,
        (eval (matcher.contextFor apply rule) rule.body stream position [] memo).memo) := by
  generalize evaluated : eval (matcher.contextFor apply rule) rule.body stream position [] memo =
    report
  have hits : ∀ step, matcher.hitOf rule step = step.hit := by
    intro step
    rw [hitOf, unacted]
    rfl
  cases ends : report.outcome with
  | matched step =>
      rw [invoke_of_matched evaluated ends, hits]
      rfl
  | mismatch =>
      rw [invoke_of_mismatch evaluated ends]
      rfl
  | fault fault =>
      rw [invoke_of_fault evaluated ends]
      rfl

/-- What happens in a body happens in the invocation, once the body has been entered. -/
theorem events_body :
    .entered rule.name position ::
        (eval (matcher.contextFor apply rule) rule.body stream position [] memo).events <+:
      (matcher.invoke apply rule stream position memo).events := by
  generalize evaluated : eval (matcher.contextFor apply rule) rule.body stream position [] memo =
    report
  cases ends : report.outcome with
  | matched step =>
      rw [invoke_of_matched evaluated ends]
      simp [Report.events]
  | mismatch =>
      rw [invoke_of_mismatch evaluated ends]
      simp [Report.events]
  | fault fault =>
      rw [invoke_of_fault evaluated ends]
      simp [Report.events]

/-- What is apart in an invocation is apart in the body. -/
theorem isApart_body
    {outer inner : String}
    {stack : List Place}
    (apart : isApart outer inner stack
      (matcher.invoke apply rule stream position memo).events = true) :
    isApart outer inner ((rule.name, position) :: stack)
      (eval (matcher.contextFor apply rule) rule.body stream position [] memo).events = true := by
  have passes := allPass_of_extended events_body apart
  simp only [allPass, Event.passes, Bool.true_and] at passes
  exact passes

/-- A body that ends without a fault is entered and left. -/
theorem events_invoke
    (matcher : Matcher)
    (apply : Applier)
    (rule : Rule)
    (stream : List Value)
    (position : Nat)
    (memo : Memo)
    (going : ∀ fault,
      (eval (matcher.contextFor apply rule) rule.body stream position [] memo).outcome ≠
        .fault fault) :
    ∃ result, (matcher.invoke apply rule stream position memo).events =
      .entered rule.name position ::
        ((eval (matcher.contextFor apply rule) rule.body stream position [] memo).events ++
          [Event.left rule.name position result]) := by
  generalize evaluated : eval (matcher.contextFor apply rule) rule.body stream position [] memo =
    report at going
  cases ends : report.outcome with
  | matched step =>
      rw [invoke_of_matched evaluated ends]
      exact ⟨some ⟨step.scope, step.value, step.position⟩, by simp [Report.events]⟩
  | mismatch =>
      rw [invoke_of_mismatch evaluated ends]
      exact ⟨none, by simp [Report.events]⟩
  | fault fault => exact absurd ends (going fault)

/-! ## Ends of applications -/

/-- What happens when a rule is evaluated happens in the application. -/
theorem events_evaluate
    (found : matcher.grammar.rule? name = some rule)
    (unknown : memo.find? rule.name position = none) :
    (matcher.evaluate apply rule stream position memo).events <+:
      (matcher.applyWith apply stream name position memo).events := by
  simp only [applyWith, found, Run.consult_bind, unknown]
  exact Run.events_bind _ _ _

section Ends

variable
  {α : Type}
  {same : α → Hit → Prop}
  {leaves : Memo → Prop}

/-- An invocation without an action comes to what the body comes to. -/
theorem invoke_comesTo
    (unacted : matcher.actions = {})
    {outcome : Outcome α}
    (ends : (eval (matcher.contextFor apply rule) rule.body stream position [] memo).ComesTo
      (fun result step => same result step.hit) outcome leaves) :
    (matcher.invoke apply rule stream position memo).ComesTo same outcome leaves := by
  have invoked := ending_invoke matcher apply rule stream position memo unacted
  unfold Report.ComesTo
  rw [Report.outcome_of_ending invoked, Report.memo_of_ending invoked]
  exact Or.imp Outcome.hit_eq_fault_iff.mpr (fun ends => ⟨ends.1.hit_right, ends.2⟩) ends

variable (found : matcher.grammar.rule? name = some rule)

include found

/-- An application of which nothing is known comes to what the evaluation comes to. -/
theorem applyWith_comesTo
    (unknown : memo.find? rule.name position = none)
    {answer : Option α}
    (ends : (matcher.evaluate apply rule stream position memo).ComesTo (Option.Rel same)
      (.matched answer) leaves) :
    (matcher.applyWith apply stream name position memo).ComesTo same (.ofOption answer)
      leaves := by
  simp only [applyWith, found, Run.consult_bind, unknown]
  refine ends.bind_matched fun other after answers left => .inr ?_
  rw [Run.tell_bind, Run.ofOption_apply]
  exact ⟨.ofOption answers, fun _ => left⟩

theorem applyWith_comesTo_fault
    (unknown : memo.find? rule.name position = none)
    {answers : β → Option Hit → Prop}
    {fault : Fault}
    {middle : Memo → Prop}
    (ends : (matcher.evaluate apply rule stream position memo).ComesTo answers (.fault fault)
      middle) :
    (matcher.applyWith apply stream name position memo).ComesTo same (.fault fault) leaves := by
  simp only [applyWith, found, Run.consult_bind, unknown]
  exact ends.bind_fault

end Ends
end Matcher

/-- What the alternative applies is applied in the body. -/
theorem Encloses.references
    {names : String → String}
    {inner : String}
    {alternative body wrapped : Expr}
    (encloses : Encloses names inner alternative body wrapped)
    {rule : String}
    (there : rule ∈ alternative.references) :
    rule ∈ body.references := by
  induction encloses with
  | here => exact there
  | left _ inductionHypothesis => exact List.mem_append_left _ inductionHypothesis
  | right _ inductionHypothesis => exact List.mem_append_right _ inductionHypothesis

theorem Encloses.calls
    {names : String → String}
    {inner : String}
    {alternative body wrapped : Expr}
    (encloses : Encloses names inner alternative body wrapped)
    {rule : String}
    (there : rule ∈ alternative.calls) :
    rule ∈ body.calls := by
  induction encloses with
  | here => exact there
  | left _ inductionHypothesis => exact List.mem_append_left _ inductionHypothesis
  | right _ inductionHypothesis => exact List.mem_append_right _ inductionHypothesis

namespace Wrapping

variable
  {wrapping : Wrapping}
  {stream : List Value}
  {stack : List Place}
  {own barred : Option Place}
  {memo after later shadow : Memo}
  {name : String}
  {rule : Rule}
  {position : Nat}

/-! ## Notes in the memory -/

theorem names_eq_iff
    {other : String}
    (named : wrapping.known name)
    (otherNamed : wrapping.known other) :
    wrapping.names other = wrapping.names name ↔ other = name :=
  ⟨wrapping.injective otherNamed named, fun same => by rw [same]⟩

/-- What is noted of a rule is shown under its name. -/
theorem Shadows.put
    (shadows : wrapping.Shadows memo shadow)
    (named : wrapping.known name)
    (entry : Entry)
    (position : Nat) :
    wrapping.Shadows (Memo.put (wrapping.names name) entry position memo)
      (Memo.put name entry position shadow) := by
  intro other otherNamed place
  simp only [Memo.find?_put, shadows otherNamed place, names_eq_iff named otherNamed]

/-- What is noted of the inner rule is not shown. -/
theorem Shadows.put_inner
    (shadows : wrapping.Shadows memo shadow)
    (entry : Entry)
    (position : Nat) :
    wrapping.Shadows (Memo.put wrapping.inner entry position memo) shadow := by
  intro other otherNamed place
  rw [Memo.find?_put_of_ne fun same => wrapping.apart otherNamed same.1]
  exact shadows otherNamed place

theorem Shadows.retains
    (shadows : wrapping.Shadows memo shadow) :
    wrapping.Retains barred memo shadow :=
  fun named _ _ found => (shadows named _).trans found

theorem Shadows.of_unchanged
    (shadows : wrapping.Shadows memo shadow)
    (same : shadow.Unchanged after) :
    wrapping.Shadows memo after :=
  fun named position => (same _ position).trans (shadows named position)

/-- What has held on to everything but the outer rule at a place has held on to what was
known before a run that held on to everything but that. -/
theorem Retains.of_except
    (retains : wrapping.Retains (some (wrapping.outer, position)) after later)
    (outerNamed : wrapping.known wrapping.outer)
    (holds : memo.Holds (some (wrapping.outer, position)) after) :
    wrapping.Retains (some (wrapping.outer, position)) memo later := by
  intro other place entry named firm apart found
  refine retains named firm apart (holds.firm firm ?_ found)
  intro same
  obtain ⟨names, rfl⟩ := Prod.ext_iff.mp (Option.some.inj same)
  refine apart ?_
  rw [← wrapping.injective outerNamed named (wrapping.names_outer.trans names)]

/-- What is noted of the inner rule need not be held on to. -/
theorem Retains.of_put_inner
    {entry : Entry}
    (retains : wrapping.Retains barred (Memo.put wrapping.inner entry position memo) later) :
    wrapping.Retains barred memo later := by
  intro other place found named firm apart known
  refine retains named firm apart ((Memo.find?_put_of_ne ?_ _ _).trans known)
  exact fun same => wrapping.apart named same.1

/-- What comes to the same again from later memories does so from memories later still. -/
theorem Reruns.of_holds
    {answer : Option Hit}
    (reruns : wrapping.Reruns stream position answer memo)
    (outerNamed : wrapping.known wrapping.outer)
    (holds : memo.Holds (some (wrapping.outer, position)) after) :
    wrapping.Reruns stream position answer after :=
  fun depth later retains => reruns depth later (retains.of_except outerNamed holds)

/-- The outer rule does not go by the name of the inner one. -/
theorem outer_ne_inner
    (enclosed : wrapping.enclosed) :
    wrapping.outer ≠ wrapping.inner := by
  have apart := wrapping.apart (wrapping.known_outer enclosed)
  rwa [wrapping.names_outer] at apart

/-- A known rule may be noted if that takes away nothing but what is known of the
innermost application. -/
theorem Sound.put
    (sound : wrapping.Sound stream stack own memo)
    (named : wrapping.known name)
    {entry : Entry}
    (bounded : (Memo.put (wrapping.names name) entry position memo).Bounded stream)
    (holds : memo.Holds own (Memo.put (wrapping.names name) entry position memo)) :
    wrapping.Sound stream stack own (Memo.put (wrapping.names name) entry position memo) := by
  have aside : ∀ place,
      (Memo.put (wrapping.names name) entry position memo).find? wrapping.inner place =
        memo.find? wrapping.inner place :=
    fun place => Memo.find?_put_of_ne (fun same => wrapping.apart named same.1.symm) _ _
  refine ⟨bounded, ?_, ?_, ?_, ?_⟩
  · intro place reentered
    rw [aside]
    exact sound.pending
  · intro place known
    rw [aside] at known
    exact ⟨(sound.known known).1, holds.known (sound.known known).2⟩
  · exact fun innermost => holds.known (sound.innermost innermost)
  · intro place answer innermost answered
    rw [aside] at answered
    have enclosed := (sound.known (by rw [answered]; rfl)).1
    rw [innermost] at holds
    exact (sound.answered innermost answered).of_holds (wrapping.known_outer enclosed) holds

/-- A known rule of which nothing is known may be noted as in progress. -/
theorem Sound.begin
    (sound : wrapping.Sound stream stack own memo)
    (named : wrapping.known name)
    (unknown : memo.find? (wrapping.names name) position = none) :
    wrapping.Sound stream stack (some (wrapping.names name, position))
      (Memo.put (wrapping.names name) (.pending false) position memo) := by
  have aside : ∀ place,
      (Memo.put (wrapping.names name) (.pending false) position memo).find? wrapping.inner place =
        memo.find? wrapping.inner place :=
    fun place => Memo.find?_put_of_ne (fun same => wrapping.apart named same.1.symm) _ _
  refine ⟨sound.bounded.put_pending _ _ _, ?_, ?_, ?_, ?_⟩
  · intro place reentered
    rw [aside]
    exact sound.pending
  · intro place known
    rw [aside] at known
    exact ⟨(sound.known known).1, Memo.isSome_find?_put _ _ _ (sound.known known).2⟩
  · rintro other place ⟨⟩
    rw [Memo.find?_put_self]
    rfl
  · intro place answer innermost answered
    rw [aside] at answered
    obtain ⟨names, rfl⟩ := Prod.ext_iff.mp (Option.some.inj innermost)
    have known := (sound.known (by rw [answered]; rfl)).2
    dsimp only at names
    rw [← names, unknown] at known
    cases known

/-- An application that has been answered is not the innermost one any more. -/
theorem Sound.finish
    {place : Place}
    (sound : wrapping.Sound stream stack (some place) after)
    (before : wrapping.Sound stream stack own memo)
    (holds : memo.Holds none after)
    (kept : ∀ {position : Nat}, own = some (wrapping.outer, position) →
      after.find? wrapping.inner position = memo.find? wrapping.inner position) :
    wrapping.Sound stream stack own after where
  bounded := sound.bounded
  pending := sound.pending
  known := sound.known
  innermost here := holds.known (before.innermost here)
  answered := by
    intro position answer innermost answered
    have enclosed := (sound.known (by rw [answered]; rfl)).1
    rw [kept innermost] at answered
    exact (before.answered innermost answered).of_holds (wrapping.known_outer enclosed)
      (holds.except _)

/-- Nothing is in progress of the inner rule where nothing is known of the outer one. -/
theorem Sound.not_mem_of_unknown
    (sound : wrapping.Sound stream stack own memo)
    (unknown : memo.find? wrapping.outer position = none) :
    (wrapping.inner, position) ∉ stack := by
  intro present
  have pending := sound.pending.mpr ⟨present, rfl⟩
  have known := (sound.known (by rw [pending]; rfl)).2
  rw [unknown] at known
  cases known

/-- What is remembered as an answer ends an application on both sides. -/
theorem Sound.answers
    (sound : wrapping.Sound stream stack own memo)
    {answer : Option Hit}
    (known : memo.find? name position = some (.done answer)) :
    Outcome.Rel (EqualHits stream position) (.ofOption answer) (.ofOption answer) := by
  cases answer with
  | none => exact .mismatch
  | some hit => exact .matched ⟨rfl, sound.bounded known⟩

/-- Another rule than the inner one may be noted to be in progress as well. -/
theorem Sound.push_iff
    {place : Place}
    (other : place.1 ≠ wrapping.inner) :
    wrapping.Sound stream (place :: stack) own memo ↔ wrapping.Sound stream stack own memo := by
  have same : ∀ position,
      (wrapping.inner, position) ∈ place :: stack ↔ (wrapping.inner, position) ∈ stack := by
    intro position
    rw [List.mem_cons, or_iff_right]
    rintro rfl
    exact other rfl
  constructor
  · rintro ⟨bounded, pending, known, innermost, answered⟩
    exact ⟨bounded, pending.trans (and_congr (same _) .rfl), known, innermost, answered⟩
  · rintro ⟨bounded, pending, known, innermost, answered⟩
    exact ⟨bounded, pending.trans (and_congr (same _).symm .rfl), known, innermost,
      answered⟩

/-! ## Bodies -/

/-- The rule to skip with is the same on both sides in rules of the same class. -/
theorem skipRuleFor_eq (syntactic : Bool) :
    wrapping.wrappedMatcher.skipRuleFor syntactic =
      wrapping.plainMatcher.skipRuleFor syntactic := by
  have same : (wrapping.wrapped.rule? skipRuleName).isSome =
      (wrapping.plain.rule? skipRuleName).isSome := by
    cases found : wrapping.plain.rule? skipRuleName with
    | none =>
        have missing := (wrapping.missing wrapping.known_skip found).1
        rw [wrapping.names_skip] at missing
        rw [missing]
    | some rule =>
        obtain ⟨body, there, -⟩ := wrapping.found wrapping.known_skip found
        rw [wrapping.names_skip] at there
        rw [there]
        rfl
  unfold Matcher.skipRuleFor wrappedMatcher plainMatcher
  simp only [Option.filter, same]

/-- Only one rule is ever skipped with. -/
theorem eq_of_skipRuleFor
    {syntactic : Bool}
    (skips : wrapping.wrappedMatcher.skipRuleFor syntactic = some name) :
    name = skipRuleName := by
  unfold Matcher.skipRuleFor at skips
  split at skips
  · exact (Option.some.inj (Option.filter_eq_some_iff.mp skips).1).symm
  · cases skips

/-- The rule to skip with keeps its name. -/
theorem names_of_skipRule
    {apply : Applier}
    (other : String)
    (skipped : (wrapping.wrappedMatcher.contextFor apply rule).skipRule = some other) :
    wrapping.names other = other := by
  rw [eq_of_skipRuleFor skipped, wrapping.names_skip]

section Bodies

variable
  {apply : Applier}
  {rightApply : Nat → Applier}
  (applied : wrapping.shadowing.AppliersAgree wrapping.known
    (Applier.renamed apply wrapping.names) rightApply)

include applied

/-- Rules of the same class are evaluated in contexts that agree. -/
theorem contexts_agree
    {wrappedRule rule : Rule}
    (same : wrappedRule.isSyntactic = rule.isSyntactic) :
    wrapping.shadowing.Agree wrapping.known
      ((wrapping.wrappedMatcher.contextFor apply wrappedRule).renamed wrapping.names)
      fun depth => wrapping.plainMatcher.contextFor (rightApply depth) rule := by
  have skips : wrapping.wrappedMatcher.skipRuleFor wrappedRule.isSyntactic =
      wrapping.plainMatcher.skipRuleFor rule.isSyntactic := by
    rw [same, skipRuleFor_eq]
  unfold Matcher.contextFor Context.renamed
  rw [skips]
  refine applied.agree fun other skipped => ?_
  rw [← skipRuleFor_eq] at skipped
  rw [eq_of_skipRuleFor skipped]
  exact wrapping.known_skip

/-- A part of a body that does not call the inner rule is tracked. -/
theorem rename_tracks
    {wrappedRule rule : Rule}
    (same : wrappedRule.isSyntactic = rule.isSyntactic)
    {expr : Expr}
    (references : ∀ other ∈ expr.references, wrapping.known other)
    (calls : ∀ other ∈ expr.calls, wrapping.names other = other)
    (inside : position ≤ stream.length)
    (stack : List Place) :
    wrapping.Tracks stream stack stack.head? none
      (fun step other => EqualHits stream position step.hit other.hit)
      (eval (wrapping.wrappedMatcher.contextFor apply wrappedRule) (expr.rename wrapping.names)
        stream position [])
      fun depth => eval (wrapping.plainMatcher.contextFor (rightApply depth) rule) expr
        stream position [] := by
  rw [eval_rename names_of_skipRule expr calls]
  have tracks : wrapping.Tracks stream stack stack.head? none
      (wrapping.shadowing.StepsAlike stream 0 position [])
      (eval ((wrapping.wrappedMatcher.contextFor apply wrappedRule).renamed wrapping.names) expr
        stream position [])
      fun depth => eval (wrapping.plainMatcher.contextFor (rightApply depth) rule) expr
        stream position [] :=
    Simulation.eval_related (contexts_agree applied same) expr references stream 0 position
      [] [] inside .nil rfl stack
  refine tracks.imp fun {step other} steps => ?_
  obtain rfl := steps.eq id
  exact ⟨rfl, steps.reaches.start_le, steps.reaches.le_length⟩

/-- A body in which an alternative is left to the inner rule is tracked, if the inner rule
is tracked by the alternative. -/
theorem encloses_tracks
    {wrappedRule rule : Rule}
    (same : wrappedRule.isSyntactic = rule.isSyntactic)
    {body wrapped : Expr}
    (encloses : Encloses wrapping.names wrapping.inner wrapping.alternative body wrapped)
    (references : ∀ other ∈ body.references, wrapping.known other)
    (calls : ∀ other ∈ body.calls, wrapping.names other = other)
    (inside : position ≤ stream.length)
    (alternative : wrapping.Tracks stream stack stack.head? none
      (fun step other => EqualHits stream position step.hit other.hit)
      (eval (wrapping.wrappedMatcher.contextFor apply wrappedRule)
        (.inline wrapping.inner (wrapping.alternative.rename wrapping.names)) stream position [])
      fun depth => eval (wrapping.plainMatcher.contextFor (rightApply depth) rule)
        wrapping.alternative stream position []) :
    wrapping.Tracks stream stack stack.head? none
      (fun step other => EqualHits stream position step.hit other.hit)
      (eval (wrapping.wrappedMatcher.contextFor apply wrappedRule) wrapped stream position [])
      fun depth => eval (wrapping.plainMatcher.contextFor (rightApply depth) rule) body
        stream position [] := by
  induction encloses with
  | here => exact alternative
  | left encloses inductionHypothesis =>
      simp only [Expr.references, Expr.calls, List.forall_mem_append]
        at references calls
      simp only [eval]
      refine (inductionHypothesis references.1 calls.1).attempt.bind ?_
      rintro _ _ (steps | _)
      · exact .done steps
      · exact rename_tracks applied same references.2 calls.2 inside stack
  | right encloses inductionHypothesis =>
      simp only [Expr.references, Expr.calls, List.forall_mem_append]
        at references calls
      simp only [eval]
      refine (rename_tracks applied same references.1 calls.1 inside stack).attempt.bind ?_
      rintro _ _ (steps | _)
      · exact .done steps
      · exact inductionHypothesis references.2 calls.2

end Bodies

/-! ## The inner rule -/

/-- What the alternative has come to in the inner rule, it comes to again after that has
been noted. -/
theorem Tracked.reruns
    {report : Report Step}
    (tracked : wrapping.Tracked stream ((wrapping.inner, position) :: stack)
      (some (wrapping.inner, position)) none
      (fun step other => EqualHits stream position step.hit other.hit) memo report
      fun depth => wrapping.alternativeWithin depth stream position)
    {answer : Option Step}
    (ends : report.outcome = .ofOption answer) :
    wrapping.Reruns stream position (answer.map Step.hit)
      (Memo.put wrapping.inner (.done (answer.map Step.hit)) position report.memo) := by
  intro depth later retains
  have going : ∀ fault, report.outcome ≠ .fault fault := by
    rw [ends]
    exact Outcome.ofOption_ne_fault answer
  have barredOuter : wrapping.Retains (wrapping.barred (some (wrapping.inner, position)))
      report.memo later := by
    rw [Wrapping.barred, if_pos rfl]
    exact retains.of_put_inner
  have came := tracked.again rfl going depth later barredOuter
  rw [ends] at came
  exact came.hit_ofOption

section Inner

variable (enclosed : wrapping.enclosed)

include enclosed

/-- Nothing is barred where the outer rule is the innermost in progress. -/
theorem Retains.of_outer
    (retains : wrapping.Retains (wrapping.barred (some (wrapping.outer, position))) memo later) :
    wrapping.Retains barred memo later := by
  intro name place entry named firm _ found
  refine retains named firm ?_ found
  rw [Wrapping.barred, if_neg (outer_ne_inner enclosed)]
  exact nofun

/-- The inner rule may be noted as in progress where the outer one is the innermost. -/
theorem Sound.begin_inner
    (sound : wrapping.Sound stream stack (some (wrapping.outer, position)) memo)
    (unknown : memo.find? wrapping.inner position = none) :
    wrapping.Sound stream ((wrapping.inner, position) :: stack)
      (some (wrapping.inner, position))
      (Memo.put wrapping.inner (.pending false) position memo) := by
  refine ⟨sound.bounded.put_pending _ _ _, ?_, ?_, ?_, ?_⟩
  · intro place reentered
    rw [List.mem_cons, Prod.mk.injEq]
    by_cases here : place = position
    · subst here
      simp [Memo.find?_put_self, eq_comm]
    · rw [Memo.find?_put_of_ne fun same => here same.2, sound.pending]
      simp [here]
  · intro place known
    refine ⟨enclosed, Memo.isSome_find?_put _ _ _ ?_⟩
    by_cases here : place = position
    · subst here
      exact sound.innermost rfl
    · rw [Memo.find?_put_of_ne fun same => here same.2] at known
      exact (sound.known known).2
  · rintro other place ⟨⟩
    rw [Memo.find?_put_self]
    rfl
  · intro place answer innermost
    exact absurd (Prod.ext_iff.mp (Option.some.inj innermost)).1.symm (outer_ne_inner enclosed)

/-- The inner rule is not in progress any more once it has been answered. -/
theorem Sound.finish_inner
    {answer : Option Hit}
    (during : wrapping.Sound stream ((wrapping.inner, position) :: stack)
      (some (wrapping.inner, position)) memo)
    (absent : (wrapping.inner, position) ∉ stack)
    (fits : ∀ hit, answer = some hit → hit.Bounded stream position)
    (reruns : wrapping.Reruns stream position answer
      (Memo.put wrapping.inner (.done answer) position memo)) :
    wrapping.Sound stream stack (some (wrapping.outer, position))
      (Memo.put wrapping.inner (.done answer) position memo) := by
  have outerKnown : (memo.find? wrapping.outer position).isSome := by
    have pending := during.pending.mpr ⟨List.mem_cons_self, rfl⟩
    exact (during.known (by rw [pending]; rfl)).2
  refine ⟨during.bounded.put_done fits, ?_, ?_, ?_, ?_⟩
  · intro place reentered
    by_cases here : place = position
    · subst here
      simp [Memo.find?_put_self, absent]
    · rw [Memo.find?_put_of_ne fun same => here same.2, during.pending, List.mem_cons]
      simp [here]
  · intro place known
    refine ⟨enclosed, Memo.isSome_find?_put _ _ _ ?_⟩
    by_cases here : place = position
    · subst here
      exact outerKnown
    · rw [Memo.find?_put_of_ne fun same => here same.2] at known
      exact (during.known known).2
  · rintro other place ⟨⟩
    exact Memo.isSome_find?_put _ _ _ outerKnown
  · intro place given innermost answered
    obtain rfl := (Prod.ext_iff.mp (Option.some.inj innermost)).2
    rw [Memo.find?_put_self] at answered
    cases answered
    exact reruns

/-- The inner rule is tracked by the alternative where it is answered from memory. -/
theorem inner_tracked_of_done
    {apply : Applier}
    (sound : wrapping.Sound stream stack (some (wrapping.outer, position)) memo)
    {answer : Option Hit}
    (known : memo.find? wrapping.inner position = some (.done answer)) :
    wrapping.Tracked stream stack (some (wrapping.outer, position)) none
      (fun hit step => EqualHits stream position hit step.hit) memo
      (wrapping.wrappedMatcher.applyWith apply stream wrapping.inner position memo)
      fun depth => wrapping.alternativeWithin depth stream position := by
  have reruns := sound.answered rfl known
  rw [Matcher.applyWith_of_done (wrapping.inner_found enclosed) known]
  refine ⟨fun depth shadow shadows => ?_, fun _ => ⟨?_, rfl, sound, .refl none memo,
    fun _ _ => rfl⟩, fun _ _ depth later retains => ?_⟩
  · exact (reruns depth shadow shadows.retains).imp id shadows.of_unchanged
  · cases answer with
    | none => exact ⟨.mismatch, .mismatch⟩
    | some hit =>
        exact ⟨.matched ⟨hit.value, hit.finish, []⟩, .matched ⟨rfl, sound.bounded known⟩⟩
  · exact reruns depth later (retains.of_outer enclosed)

/-- Once the answer of the inner rule has been noted, the run goes on as it does after the
outer rule. -/
theorem GoesOn.finish_inner
    {report : Report Step}
    (absent : (wrapping.inner, position) ∉ stack)
    (unknown : memo.find? wrapping.inner position = none)
    (goes : wrapping.GoesOn stream ((wrapping.inner, position) :: stack)
      (some (wrapping.inner, position)) none
      (fun (step other : Step) => EqualHits stream position step.hit other.hit)
      (Memo.put wrapping.inner (.pending false) position memo) report)
    {answer : Option Step}
    (ends : report.outcome = .ofOption answer)
    (reruns : wrapping.Reruns stream position (answer.map Step.hit)
      (Memo.put wrapping.inner (.done (answer.map Step.hit)) position report.memo))
    {journal : Journal Event}
    (balanced : inProgressAfter stack journal.entries = stack) :
    wrapping.GoesOn stream stack (some (wrapping.outer, position)) none
      (fun (hit : Hit) (step : Step) => EqualHits stream position hit step.hit) memo
      ⟨.ofOption (answer.map Step.hit),
        Memo.put wrapping.inner (.done (answer.map Step.hit)) position report.memo, journal⟩ := by
  obtain ⟨⟨other, outcomes⟩, -, during, holds, kept⟩ := goes
  rw [ends] at outcomes
  replace outcomes : Outcome.Rel (fun hit step => EqualHits stream position hit step.hit)
    (Outcome.ofOption answer).hit other := outcomes.hit_left
  rw [Outcome.hit_ofOption] at outcomes
  refine ⟨⟨other, outcomes⟩, balanced, ?_, ?_, ?_⟩
  · refine during.finish_inner enclosed absent ?_ reruns
    intro hit given
    rw [given] at outcomes
    obtain ⟨step, -, results⟩ := outcomes.exists_of_matched
    exact results.bounded
  · have noted : (Memo.put wrapping.inner (.pending false) position memo).Holds
        (some (wrapping.inner, position))
        (Memo.put wrapping.inner (.done (answer.map Step.hit)) position report.memo) :=
      (holds.except _).trans (.put_self _ _)
    exact noted.of_put unknown
  · intro place known innermost
    have elsewhere : place ≠ position := by
      rintro rfl
      exact innermost rfl
    dsimp only
    rw [Memo.find?_put_of_ne fun same => elsewhere same.2,
      kept (Memo.isSome_find?_put _ _ _ known) ?_,
      Memo.find?_put_of_ne fun same => elsewhere same.2]
    intro same
    exact elsewhere (Prod.ext_iff.mp (Option.some.inj same)).2.symm

/-- The inner rule is tracked by the alternative where it is evaluated. -/
theorem inner_tracked_of_unknown
    {apply : Applier}
    (absent : (wrapping.inner, position) ∉ stack)
    (body : wrapping.Tracks stream ((wrapping.inner, position) :: stack)
      (some (wrapping.inner, position)) none
      (fun step other => EqualHits stream position step.hit other.hit)
      (eval (wrapping.wrappedMatcher.contextFor apply
        ⟨wrapping.inner, wrapping.alternative.rename wrapping.names⟩)
        (wrapping.alternative.rename wrapping.names) stream position [])
      fun depth => wrapping.alternativeWithin depth stream position)
    (sound : wrapping.Sound stream stack (some (wrapping.outer, position)) memo)
    (unknown : memo.find? wrapping.inner position = none)
    (apart : isApart wrapping.outer wrapping.inner stack
      (wrapping.wrappedMatcher.applyWith apply stream wrapping.inner position memo).events =
        true) :
    (wrapping.wrappedMatcher.applyWith apply stream wrapping.inner position memo).outcome =
        .fault .exhausted ∨
      wrapping.Tracked stream stack (some (wrapping.outer, position)) none
        (fun hit step => EqualHits stream position hit step.hit) memo
        (wrapping.wrappedMatcher.applyWith apply stream wrapping.inner position memo)
        fun depth => wrapping.alternativeWithin depth stream position := by
  have found := wrapping.inner_found enclosed
  have begun := sound.begin_inner enclosed unknown
  have invokedApart := allPass_of_extended (Matcher.events_of_first rfl found unknown) apart
  have ended := body _ begun fun _ => Matcher.isApart_body invokedApart
  have invoked := wrapping.wrappedMatcher.ending_invoke apply
    ⟨wrapping.inner, wrapping.alternative.rename wrapping.names⟩ stream position
    (Memo.put wrapping.inner (.pending false) position memo) rfl
  have bracketed := wrapping.wrappedMatcher.events_invoke apply
    ⟨wrapping.inner, wrapping.alternative.rename wrapping.names⟩ stream position
    (Memo.put wrapping.inner (.pending false) position memo)
  dsimp only at ended invoked bracketed
  generalize eval (wrapping.wrappedMatcher.contextFor apply
    ⟨wrapping.inner, wrapping.alternative.rename wrapping.names⟩)
    (wrapping.alternative.rename wrapping.names) stream position []
    (Memo.put wrapping.inner (.pending false) position memo) = report
    at ended invoked bracketed
  have outcome := Report.outcome_of_ending invoked
  rcases ended with exhausted | tracked
  · left
    rw [exhausted] at outcome
    rw [Matcher.applyWith_of_first_fault rfl found unknown outcome]
  right
  rcases report.outcome.fault_or_ofOption with ⟨fault, ends⟩ | ⟨answer, ends⟩
  · rw [ends] at outcome
    rw [Matcher.applyWith_of_first_fault rfl found unknown outcome]
    refine .of_fault rfl fun depth shadow shadows => ?_
    have ended := tracked.alongside depth shadow (shadows.put_inner _ _)
    rw [ends] at ended
    exact ended.of_fault
  · have going : ∀ fault, report.outcome ≠ .fault fault := by
      rw [ends]
      exact Outcome.ofOption_ne_fault answer
    have goes := tracked.goes going
    have reruns := tracked.reruns ends
    rw [ends, Outcome.hit_ofOption] at outcome
    have quiet : (wrapping.wrappedMatcher.invoke apply
        ⟨wrapping.inner, wrapping.alternative.rename wrapping.names⟩ stream position
        (Memo.put wrapping.inner (.pending false) position memo)).memo.find? wrapping.inner
          position = some (.pending false) := by
      rw [Report.memo_of_ending invoked]
      exact goes.sound.pending.mpr ⟨List.mem_cons_self, rfl⟩
    rw [Matcher.applyWith_of_quiet rfl found unknown outcome quiet,
      Report.memo_of_ending invoked]
    refine ⟨fun depth shadow shadows => ?_,
      fun _ => goes.finish_inner enclosed absent unknown ends reruns ?_,
      fun _ _ depth later retains => reruns depth later (retains.of_outer enclosed)⟩
    · have came := tracked.alongside depth shadow (shadows.put_inner _ _)
      rw [ends] at came
      exact came.hit_ofOption.imp id fun left => left.put_inner _ _
    · obtain ⟨result, events⟩ := bracketed going
      simp only [Journal.entries_append, Journal.entries_single,
        inProgressAfter_append, inProgressAfter, Event.inProgress]
      rw [← Report.events, events, inProgressAfter_bracket, goes.balanced, List.tail_cons]

end Inner

/-- The inner rule is tracked by the alternative where the outer one is the innermost. -/
theorem inner_tracks
    {apply : Applier}
    (enclosed : wrapping.enclosed)
    (absent : (wrapping.inner, position) ∉ stack)
    (body : wrapping.Tracks stream
      ((wrapping.inner, position) :: (wrapping.outer, position) :: stack)
      (some (wrapping.inner, position)) none
      (fun step other => EqualHits stream position step.hit other.hit)
      (eval (wrapping.wrappedMatcher.contextFor apply
        ⟨wrapping.inner, wrapping.alternative.rename wrapping.names⟩)
        (wrapping.alternative.rename wrapping.names) stream position [])
      fun depth => wrapping.alternativeWithin depth stream position) :
    wrapping.Tracks stream ((wrapping.outer, position) :: stack)
      (some (wrapping.outer, position)) none
      (fun hit step => EqualHits stream position hit step.hit)
      (wrapping.wrappedMatcher.applyWith apply stream wrapping.inner position)
      fun depth => wrapping.alternativeWithin depth stream position := by
  have apartHere : (wrapping.inner, position) ∉ (wrapping.outer, position) :: stack := by
    rw [List.mem_cons, not_or]
    exact ⟨fun same => outer_ne_inner enclosed (Prod.ext_iff.mp same).1.symm, absent⟩
  intro memo sound apart
  rcases known : memo.find? wrapping.inner position with _ | (reentered | answer)
  · exact inner_tracked_of_unknown enclosed apartHere body sound known (apart enclosed)
  · exact absurd (sound.pending.mp known).1 apartHere
  · exact .inr (inner_tracked_of_done enclosed sound known)

/-! ## Known rules -/

section Rules

variable
  {nesting : Nat}
  (applied : ∀ nested ≤ nesting, wrapping.shadowing.AppliersAgree wrapping.known
    (Applier.renamed (wrapping.wrappedMatcher.applyWithin nested) wrapping.names)
    wrapping.plainMatcher.applyWithin)

include applied

/-- The alternative is tracked where it is left to the inner rule. -/
theorem inline_tracks
    (enclosed : wrapping.enclosed)
    (references : ∀ other ∈ wrapping.alternative.references, wrapping.known other)
    (calls : ∀ other ∈ wrapping.alternative.calls, wrapping.names other = other)
    (inside : position ≤ stream.length)
    (absent : (wrapping.inner, position) ∉ stack)
    {wrappedRule rule : Rule}
    (named : rule.name = wrapping.outer) :
    wrapping.Tracks stream ((wrapping.outer, position) :: stack)
      (some (wrapping.outer, position)) none
      (fun step other => EqualHits stream position step.hit other.hit)
      (eval (wrapping.wrappedMatcher.contextFor (wrapping.wrappedMatcher.applyWithin nesting)
        wrappedRule) (.inline wrapping.inner (wrapping.alternative.rename wrapping.names))
        stream position [])
      fun depth => eval (wrapping.plainMatcher.contextFor
        (wrapping.plainMatcher.applyWithin depth) rule) wrapping.alternative stream position
        [] := by
  have context : ∀ depth, eval (wrapping.plainMatcher.contextFor
      (wrapping.plainMatcher.applyWithin depth) rule) wrapping.alternative stream position [] =
        wrapping.alternativeWithin depth stream position := by
    intro depth
    unfold alternativeWithin Matcher.contextFor Rule.isSyntactic
    rw [named]
  simp only [context]
  have applies : wrapping.Tracks stream ((wrapping.outer, position) :: stack)
      (some (wrapping.outer, position)) none
      (fun hit step => EqualHits stream position hit step.hit)
      (wrapping.wrappedMatcher.applyWithin nesting stream wrapping.inner position)
      fun depth => wrapping.alternativeWithin depth stream position := by
    cases nesting with
    | zero => exact fun _ _ _ => .inl rfl
    | succ nested =>
        have same : (⟨wrapping.inner, wrapping.alternative.rename wrapping.names⟩ :
            Rule).isSyntactic = (⟨wrapping.outer, wrapping.alternative⟩ : Rule).isSyntactic :=
          wrapping.inner_class enclosed
        exact inner_tracks enclosed absent
          (rename_tracks (applied nested (Nat.le_succ nested)) same references calls inside _)
  have steps := applies.bind fun hit other hits =>
    (Tracks.done hits : wrapping.Tracks stream ((wrapping.outer, position) :: stack)
      (some (wrapping.outer, position)) none
      (fun step other => EqualHits stream position step.hit other.hit)
      (pure (⟨hit.value, hit.finish, []⟩ : Step)) fun _ => pure other)
  simp only [bind_pure] at steps
  simp only [eval]
  exact steps

/-- The body of a known rule is tracked by its body in the plain grammar. -/
theorem body_tracks
    (named : wrapping.known name)
    (found : wrapping.plain.rule? name = some rule)
    {body : Expr}
    (wrapped : body = rule.body.rename wrapping.names ∨
      name = wrapping.outer ∧ wrapping.enclosed ∧
        Encloses wrapping.names wrapping.inner wrapping.alternative rule.body body)
    (inside : position ≤ stream.length)
    (absent : wrapping.names name = wrapping.outer → (wrapping.inner, position) ∉ stack) :
    wrapping.Tracks stream ((wrapping.names name, position) :: stack)
      (some (wrapping.names name, position)) none
      (fun step other => EqualHits stream position step.hit other.hit)
      (eval (wrapping.wrappedMatcher.contextFor (wrapping.wrappedMatcher.applyWithin nesting)
        ⟨wrapping.names name, body⟩) body stream position [])
      fun depth => eval (wrapping.plainMatcher.contextFor
        (wrapping.plainMatcher.applyWithin depth) rule) rule.body stream position [] := by
  obtain rfl := Grammar.name_of_rule? found
  have same : (⟨wrapping.names rule.name, body⟩ : Rule).isSyntactic = rule.isSyntactic :=
    wrapping.same_class named (by rw [found]; rfl)
  have references := wrapping.applies named found
  have calls := wrapping.calls named found
  rcases wrapped with rfl | ⟨outer, enclosed, encloses⟩
  · exact rename_tracks (applied nesting (Nat.le_refl nesting)) same references calls inside
      ((wrapping.names rule.name, position) :: stack)
  · have renamed : wrapping.names rule.name = wrapping.outer := by
      rw [outer, wrapping.names_outer]
    rw [renamed] at absent ⊢
    rw [renamed] at same
    refine encloses_tracks (applied nesting (Nat.le_refl nesting)) same encloses references calls
      inside ?_
    exact inline_tracks applied enclosed (fun other there => references other
      (encloses.references there)) (fun other there => calls other (encloses.calls there))
      inside (absent rfl) outer

end Rules

/-- An invocation is tracked if the body is. -/
theorem invoke_tracks
    {apply : Applier}
    {rightApply : Nat → Applier}
    (wrappedRule rule : Rule)
    (other : wrappedRule.name ≠ wrapping.inner)
    (body : wrapping.Tracks stream ((wrappedRule.name, position) :: stack)
      (some (wrappedRule.name, position)) none
      (fun step other => EqualHits stream position step.hit other.hit)
      (eval (wrapping.wrappedMatcher.contextFor apply wrappedRule) wrappedRule.body stream
        position [])
      fun depth => eval (wrapping.plainMatcher.contextFor (rightApply depth) rule) rule.body
        stream position []) :
    wrapping.Tracks stream stack (some (wrappedRule.name, position))
      (some (wrappedRule.name, position)) (EqualHits stream position)
      (wrapping.wrappedMatcher.invoke apply wrappedRule stream position)
      fun depth => wrapping.plainMatcher.invoke (rightApply depth) rule stream position := by
  intro memo sound apart
  have ended := body memo ((Sound.push_iff other).mpr sound)
    fun enclosed => Matcher.isApart_body (apart enclosed)
  have invoked := wrapping.wrappedMatcher.ending_invoke apply wrappedRule stream position memo rfl
  have bracketed := wrapping.wrappedMatcher.events_invoke apply wrappedRule stream position memo
  generalize eval (wrapping.wrappedMatcher.contextFor apply wrappedRule) wrappedRule.body stream
    position [] memo = report at ended invoked bracketed
  generalize wrapping.wrappedMatcher.invoke apply wrappedRule stream position memo = invocation
    at invoked bracketed
  have outcome := Report.outcome_of_ending invoked
  rcases ended with exhausted | tracked
  · left
    rw [outcome, exhausted]
    rfl
  right
  refine ⟨fun depth shadow shadows => ?_, fun going => ?_, fun whole => nomatch whole⟩
  · rw [outcome, Report.memo_of_ending invoked]
    have ended : Report.ComesTo
        (fun (hit : Hit) (step : Step) => EqualHits stream position hit step.hit)
        report.outcome.hit (wrapping.Shadows report.memo) _ :=
      (tracked.alongside depth shadow shadows).hit_left
    exact Matcher.invoke_comesTo rfl ended
  · have bodyGoing : ∀ fault, report.outcome ≠ .fault fault := by
      intro fault failed
      exact going fault (outcome.trans (Outcome.hit_eq_fault_iff.mpr failed))
    obtain ⟨⟨other, outcomes⟩, balanced, during, holds, kept⟩ := tracked.goes bodyGoing
    replace outcomes : Outcome.Rel (fun hit step => EqualHits stream position hit step.hit)
      report.outcome.hit other := outcomes.hit_left
    obtain ⟨result, events⟩ := bracketed bodyGoing
    rw [← outcome] at outcomes
    refine ⟨⟨other.hit, outcomes.hit_right⟩, ?_, ?_, ?_, ?_⟩
    · rw [events, inProgressAfter_bracket, balanced, List.tail_cons]
    · rw [Report.memo_of_ending invoked]
      exact (Sound.push_iff ‹_›).mp during
    · rw [Report.memo_of_ending invoked]
      exact holds.except _
    · rw [Report.memo_of_ending invoked]
      exact kept

/-- The evaluation of a known rule notes its matches on both sides. -/
theorem tracking_respectsPlace
    (named : wrapping.known name)
    (stream : List Value)
    (stack : List Place)
    (position : Nat) :
    (wrapping.tracking stream stack (some (wrapping.names name, position))
      (some (wrapping.names name, position))).RespectsPlace
      (EqualHits stream position) (wrapping.names name) name position position where
  noted := by
    intro answer rightAnswer answers memo sound _
    have same : rightAnswer = answer := by
      cases answers with
      | none => rfl
      | some hits => rw [hits.equal]
    have fits : ∀ hit, answer = some hit → hit.Bounded stream position := by
      rintro hit rfl
      cases answers with
      | some hits => exact hits.bounded
    subst same
    refine .inr ⟨fun depth shadow shadows => .inr ⟨.matched trivial, fun _ =>
      shadows.put named _ position⟩, fun _ => ⟨⟨.matched (), .matched trivial⟩, rfl, ?_,
      .put_self _ _, ?_⟩, fun whole => nomatch whole⟩
    · exact sound.put named (sound.bounded.put_done fits) (.put_self _ _)
    · intro place _ _
      exact Memo.find?_put_of_ne (fun same => wrapping.apart named same.1.symm) _ _
  met := by
    intro memo sound _
    refine .inr ⟨fun depth shadow shadows => .inr ⟨.matched ?_, fun _ => shadows⟩,
      fun _ => ⟨⟨.matched (memo.find? (wrapping.names name) position), .matched Iff.rfl⟩, rfl,
        sound, .refl _ memo, fun _ _ => rfl⟩, fun whole => nomatch whole⟩
    rw [shadows named]
  failed := Tracks.fail .exhausted
  longer bests hits := by rw [bests.equal, hits.equal]

/-! ## Evaluations -/

/-- An evaluation that has begun is tracked, if the applications in its body are. -/
theorem complete_tracks
    {nesting : Nat}
    (applied : ∀ nested ≤ nesting, wrapping.shadowing.AppliersAgree wrapping.known
      (Applier.renamed (wrapping.wrappedMatcher.applyWithin nested) wrapping.names)
      wrapping.plainMatcher.applyWithin)
    (named : wrapping.known rule.name)
    (found : wrapping.plain.rule? rule.name = some rule)
    {body : Expr}
    (wrapped : body = rule.body.rename wrapping.names ∨
      rule.name = wrapping.outer ∧ wrapping.enclosed ∧
        Encloses wrapping.names wrapping.inner wrapping.alternative rule.body body)
    (inside : position ≤ stream.length)
    (absent : wrapping.names rule.name = wrapping.outer → (wrapping.inner, position) ∉ stack) :
    wrapping.Tracks stream stack (some (wrapping.names rule.name, position))
      (some (wrapping.names rule.name, position)) (Option.Rel (EqualHits stream position))
      (wrapping.wrappedMatcher.complete (wrapping.wrappedMatcher.applyWithin nesting)
        ⟨wrapping.names rule.name, body⟩ stream position)
      fun depth => wrapping.plainMatcher.complete (wrapping.plainMatcher.applyWithin depth) rule
        stream position := by
  have invoked : (wrapping.tracking stream stack (some (wrapping.names rule.name, position))
      (some (wrapping.names rule.name, position))).Related (EqualHits stream position)
      (wrapping.wrappedMatcher.invoke (wrapping.wrappedMatcher.applyWithin nesting)
        ⟨wrapping.names rule.name, body⟩ stream position)
      fun depth => wrapping.plainMatcher.invoke (wrapping.plainMatcher.applyWithin depth) rule
        stream position :=
    invoke_tracks ⟨wrapping.names rule.name, body⟩ rule (wrapping.apart named)
      (body_tracks applied named found wrapped inside absent)
  have related := Matcher.complete_related
    (tracking_respectsPlace named stream stack position) rfl invoked
  exact related

section Evaluations

variable
  (named : wrapping.known name)
  {report : Report (Option Hit)}

include named

/-- What an evaluation that has begun comes to, the plain one comes to from its start. -/
theorem Tracked.evaluate_comesTo
    {same : Option Hit → Option Hit → Prop}
    (tracked : wrapping.Tracked stream stack own but same
      (Memo.put (wrapping.names name) (.pending false) position memo) report
      fun depth => wrapping.plainMatcher.complete (wrapping.plainMatcher.applyWithin depth) rule
        stream position)
    (here : rule.name = name)
    {outcome : Outcome (Option Hit)}
    (ends : report.outcome = outcome)
    (depth : Nat)
    {shadow : Memo}
    (shadows : wrapping.Shadows memo shadow) :
    (wrapping.plainMatcher.evaluate (wrapping.plainMatcher.applyWithin depth) rule stream
      position shadow).ComesTo same outcome (wrapping.Shadows report.memo) := by
  have came := tracked.alongside depth _ (shadows.put named (.pending false) position)
  rw [ends] at came
  rw [Matcher.evaluate_apply, here]
  exact came

/-- Once its answer has been noted, an application goes on as it does in the rule it is made
in. -/
theorem GoesOn.finish
    {before : Option Place}
    (goes : wrapping.GoesOn stream stack (some (wrapping.names name, position))
      (some (wrapping.names name, position)) (Option.Rel (EqualHits stream position))
      (Memo.put (wrapping.names name) (.pending false) position memo) report)
    (sound : wrapping.Sound stream stack before memo)
    (unknown : memo.find? (wrapping.names name) position = none)
    {answer : Option Hit}
    (noted : report.memo.find? (wrapping.names name) position = some (.done answer))
    {journal : Journal Event}
    (balanced : inProgressAfter stack journal.entries = stack) :
    wrapping.GoesOn stream stack before none (EqualHits stream position) memo
      ⟨.ofOption answer, report.memo, journal⟩ := by
  obtain ⟨-, -, during, holds, kept⟩ := goes
  have holdsAll : memo.Holds none report.memo := holds.of_put unknown
  have keptAll : ∀ {place : Nat}, (memo.find? wrapping.outer place).isSome →
      report.memo.find? wrapping.inner place = memo.find? wrapping.inner place := by
    intro place known
    rw [kept (Memo.isSome_find?_put _ _ _ known) ?_,
      Memo.find?_put_of_ne fun same => wrapping.apart named same.1.symm]
    intro same
    obtain ⟨outer, rfl⟩ := Prod.ext_iff.mp (Option.some.inj same)
    dsimp only at outer
    rw [← outer, unknown] at known
    cases known
  refine ⟨⟨_, during.answers noted⟩, balanced, ?_, holdsAll, fun known _ => keptAll known⟩
  exact during.finish sound holdsAll fun innermost => keptAll (sound.innermost innermost)

end Evaluations

/-! ## Applications -/

/-- Nothing bars an application that is made apart from the inner rule. -/
theorem barred_ne
    (sound : wrapping.Sound stream stack stack.head? memo)
    (apart : wrapping.enclosed → (wrapping.names name != wrapping.outer ||
      !stack.contains (wrapping.inner, position)) = true) :
    wrapping.barred stack.head? ≠ some (name, position) := by
  intro same
  rcases innermost : stack.head? with _ | ⟨rule, place⟩
  · rw [innermost] at same
    cases same
  · rw [innermost, barred] at same
    split at same
    · next inner =>
        obtain ⟨outer, here⟩ := Prod.ext_iff.mp (Option.some.inj same)
        dsimp only at outer here
        rw [inner, here] at innermost
        have present := List.mem_of_mem_head? innermost
        have known := sound.pending.mpr ⟨present, rfl⟩
        have passes := apart (sound.known (by rw [known]; rfl)).1
        simp [← outer, wrapping.names_outer, present] at passes
    · cases same

section Applications

variable
  {apply : Applier}
  {rightApply : Nat → Applier}
  {body : Expr}
  (named : wrapping.known rule.name)
  (found : wrapping.plain.rule? rule.name = some rule)
  (wrappedFound : wrapping.wrapped.rule? (wrapping.names rule.name) =
    some ⟨wrapping.names rule.name, body⟩)

include named found wrappedFound

/-- An application that finds itself in progress is tracked. -/
theorem applyWith_tracked_of_pending
    (sound : wrapping.Sound stream stack stack.head? memo)
    {reentered : Bool}
    (known : memo.find? (wrapping.names rule.name) position = some (.pending reentered))
    (apart : wrapping.enclosed → isApart wrapping.outer wrapping.inner stack
      (wrapping.wrappedMatcher.applyWith apply stream (wrapping.names rule.name) position
        memo).events = true) :
    wrapping.Tracked stream stack stack.head? none (EqualHits stream position) memo
      (wrapping.wrappedMatcher.applyWith apply stream (wrapping.names rule.name) position memo)
      fun depth =>
        wrapping.plainMatcher.applyWith (rightApply depth) stream rule.name position := by
  rw [Matcher.applyWith_of_pending wrappedFound known] at apart ⊢
  refine ⟨fun depth shadow shadows => ?_, fun _ => ⟨⟨.mismatch, .mismatch⟩, rfl, ?_,
    .put_met known, fun _ _ => ?_⟩, fun _ _ depth later retains => ?_⟩
  · rw [Matcher.applyWith_of_pending found ((shadows named position).trans known)]
    exact .inr ⟨.mismatch, fun _ => shadows.put named _ position⟩
  · exact sound.put named (sound.bounded.put_pending _ _ _) (.put_met known)
  · exact Memo.find?_put_of_ne (fun same => wrapping.apart named same.1.symm) _ _
  · have unbarred := barred_ne sound fun enclosed => by
      simpa [Report.events, isApart, allPass, Event.passes] using apart enclosed
    have noted : (Memo.put (wrapping.names rule.name) (.pending true) position memo).find?
        (wrapping.names rule.name) position = some (.pending true) :=
      Memo.find?_put_self _ _ _ _
    have laterKnown := retains named (by simp) unbarred noted
    rw [Matcher.applyWith_of_pending found laterKnown]
    refine .inr ⟨.mismatch, fun _ other place => ?_⟩
    dsimp only
    rw [Memo.find?_put]
    split
    · next here => rw [here.1, here.2, laterKnown]
    · rfl

/-- An application that is answered from memory is tracked. -/
theorem applyWith_tracked_of_done
    (sound : wrapping.Sound stream stack stack.head? memo)
    {answer : Option Hit}
    (known : memo.find? (wrapping.names rule.name) position = some (.done answer))
    (apart : wrapping.enclosed → isApart wrapping.outer wrapping.inner stack
      (wrapping.wrappedMatcher.applyWith apply stream (wrapping.names rule.name) position
        memo).events = true) :
    wrapping.Tracked stream stack stack.head? none (EqualHits stream position) memo
      (wrapping.wrappedMatcher.applyWith apply stream (wrapping.names rule.name) position memo)
      fun depth =>
        wrapping.plainMatcher.applyWith (rightApply depth) stream rule.name position := by
  have answers := sound.answers known
  rw [Matcher.applyWith_of_done wrappedFound known] at apart ⊢
  refine ⟨fun depth shadow shadows => ?_, fun _ => ⟨⟨_, answers⟩, rfl, sound,
    .refl none memo, fun _ _ => rfl⟩, fun _ _ depth later retains => ?_⟩
  · rw [Matcher.applyWith_of_done found ((shadows named position).trans known)]
    exact .inr ⟨answers, fun _ => shadows⟩
  · have unbarred := barred_ne sound fun enclosed => by
      simpa [Report.events, isApart, allPass, Event.passes] using apart enclosed
    have settled : Entry.done answer ≠ .pending false := by
      rintro ⟨⟩
    rw [Matcher.applyWith_of_done found (retains named settled unbarred known)]
    exact .inr ⟨answers, fun _ _ _ => rfl⟩

/-- An application of which nothing is known is tracked, if those in its body are. -/
theorem applyWith_tracked_of_unknown
    {nesting : Nat}
    (applied : ∀ nested ≤ nesting, wrapping.shadowing.AppliersAgree wrapping.known
      (Applier.renamed (wrapping.wrappedMatcher.applyWithin nested) wrapping.names)
      wrapping.plainMatcher.applyWithin)
    (wrapped : body = rule.body.rename wrapping.names ∨
      rule.name = wrapping.outer ∧ wrapping.enclosed ∧
        Encloses wrapping.names wrapping.inner wrapping.alternative rule.body body)
    (inside : position ≤ stream.length)
    (sound : wrapping.Sound stream stack stack.head? memo)
    (unknown : memo.find? (wrapping.names rule.name) position = none)
    (apart : wrapping.enclosed → isApart wrapping.outer wrapping.inner stack
      (wrapping.wrappedMatcher.applyWith (wrapping.wrappedMatcher.applyWithin nesting) stream
        (wrapping.names rule.name) position memo).events = true) :
    (wrapping.wrappedMatcher.applyWith (wrapping.wrappedMatcher.applyWithin nesting) stream
        (wrapping.names rule.name) position memo).outcome = .fault .exhausted ∨
      wrapping.Tracked stream stack stack.head? none (EqualHits stream position) memo
        (wrapping.wrappedMatcher.applyWith (wrapping.wrappedMatcher.applyWithin nesting) stream
          (wrapping.names rule.name) position memo)
        fun depth => wrapping.plainMatcher.applyWith (wrapping.plainMatcher.applyWithin depth)
          stream rule.name position := by
  have absent : wrapping.names rule.name = wrapping.outer →
      (wrapping.inner, position) ∉ stack :=
    fun outer => sound.not_mem_of_unknown (by rwa [← outer])
  have evaluated : wrapping.wrappedMatcher.evaluate
      (wrapping.wrappedMatcher.applyWithin nesting) ⟨wrapping.names rule.name, body⟩ stream
      position memo =
        wrapping.wrappedMatcher.complete (wrapping.wrappedMatcher.applyWithin nesting)
          ⟨wrapping.names rule.name, body⟩ stream position
          (Memo.put (wrapping.names rule.name) (.pending false) position memo) :=
    Matcher.evaluate_apply memo
  have ended := complete_tracks applied named found wrapped inside absent _
    (sound.begin named unknown)
  rw [← evaluated] at ended
  replace ended := ended fun enclosed =>
    allPass_of_extended (Matcher.events_evaluate wrappedFound unknown) (apart enclosed)
  rcases ended with exhausted | tracked
  · left
    rw [Matcher.applyWith_of_fault wrappedFound unknown exhausted]
  right
  rcases wrapping.wrappedMatcher.evaluate_answers (wrapping.wrappedMatcher.applyWithin nesting)
    ⟨wrapping.names rule.name, body⟩ stream position memo with
    ⟨fault, ends⟩ | ⟨answer, ends, noted⟩
  · rw [Matcher.applyWith_of_fault wrappedFound unknown ends]
    refine .of_fault rfl fun depth shadow shadows => ?_
    exact Matcher.applyWith_comesTo_fault found ((shadows named position).trans unknown)
      (tracked.evaluate_comesTo named rfl ends depth shadows)
  have goes := tracked.goes (Outcome.ne_fault_of_matched ends)
  rw [Matcher.applyWith_of_evaluated wrappedFound unknown ends] at apart ⊢
  refine ⟨fun depth shadow shadows => ?_,
    fun _ => goes.finish named sound unknown noted ?_, fun _ _ depth later retains => ?_⟩
  · exact Matcher.applyWith_comesTo found ((shadows named position).trans unknown)
      (tracked.evaluate_comesTo named rfl ends depth shadows)
  · simp only [Journal.entries_append, Journal.entries_single, inProgressAfter_append,
      inProgressAfter, Event.inProgress]
    rw [← Report.events, goes.balanced]
  · have unbarred := barred_ne sound fun enclosed => by
      have passes := apart enclosed
      simp only [isApart, Report.events, Journal.entries_append, Journal.entries_single,
        allPass_append, Bool.and_eq_true] at passes
      rw [← Report.events, goes.balanced] at passes
      simpa [allPass, Event.passes] using passes.2
    rw [Matcher.applyWith_of_done found (retains named (by simp) unbarred noted)]
    exact .inr ⟨goes.sound.answers noted, fun _ _ _ => rfl⟩

end Applications

/-- An application of a known rule is tracked, if those in its body are. -/
theorem applyWith_tracks
    {nesting : Nat}
    (applied : ∀ nested ≤ nesting, wrapping.shadowing.AppliersAgree wrapping.known
      (Applier.renamed (wrapping.wrappedMatcher.applyWithin nested) wrapping.names)
      wrapping.plainMatcher.applyWithin)
    (named : wrapping.known name)
    (inside : position ≤ stream.length) :
    wrapping.Tracks stream stack stack.head? none (EqualHits stream position)
      (wrapping.wrappedMatcher.applyWith (wrapping.wrappedMatcher.applyWithin nesting) stream
        (wrapping.names name) position)
      fun depth => wrapping.plainMatcher.applyWith (wrapping.plainMatcher.applyWithin depth)
        stream name position := by
  cases found : wrapping.plain.rule? name with
  | none =>
      obtain ⟨wrappedMissing, same⟩ := wrapping.missing named found
      have fails : wrapping.wrappedMatcher.applyWith
          (wrapping.wrappedMatcher.applyWithin nesting) stream (wrapping.names name) position =
            Run.fail (.undefinedRule wrapping.plain.name name) := by
        rw [Matcher.applyWith_of_undefined wrappedMissing, same]
        exact congrArg (fun grammar => Run.fail (.undefinedRule grammar name)) wrapping.same_name
      have rightFails : ∀ depth, wrapping.plainMatcher.applyWith
          (wrapping.plainMatcher.applyWithin depth) stream name position =
            Run.fail (.undefinedRule wrapping.plain.name name) :=
        fun depth => Matcher.applyWith_of_undefined found
      simp only [fails, rightFails]
      exact .fail _
  | some rule =>
      obtain rfl := Grammar.name_of_rule? found
      obtain ⟨body, wrappedFound, wrapped⟩ := wrapping.found named found
      intro memo sound apart
      rcases known : memo.find? (wrapping.names rule.name) position with _ | (reentered | answer)
      · exact applyWith_tracked_of_unknown named found wrappedFound applied wrapped inside sound
          known apart
      · exact .inr (applyWith_tracked_of_pending named found wrappedFound sound known apart)
      · exact .inr (applyWith_tracked_of_done named found wrappedFound sound known apart)

/-- Up to a bound on the run on the right, runs at the next depth may be tracked. -/
theorem Tracks.deeper
    {same : α → β → Prop}
    {but : Option Place}
    {left : Run α}
    {right deeper : Nat → Run β}
    (tracks : wrapping.Tracks stream stack own but same left right)
    (zero : ∀ memo, (deeper 0 memo).outcome = .fault .exhausted)
    (succ : ∀ depth, deeper (depth + 1) = right depth) :
    wrapping.Tracks stream stack own but same left deeper := by
  intro memo sound apart
  refine (tracks memo sound apart).imp_right fun tracked => ⟨?_, tracked.goes, ?_⟩
  · rintro (_ | depth) shadow shadows
    · exact .inl (zero shadow)
    · rw [succ]
      exact tracked.alongside depth shadow shadows
  · rintro whole going (_ | depth) later retains
    · exact .inl (zero later)
    · rw [succ]
      exact tracked.again whole going depth later retains

/-- The applications of the wrapped grammar are tracked by those of the plain one. -/
theorem applyWithin_tracks
    (wrapping : Wrapping)
    (nesting : Nat) :
    wrapping.shadowing.AppliersAgree wrapping.known
      (Applier.renamed (wrapping.wrappedMatcher.applyWithin nesting) wrapping.names)
      wrapping.plainMatcher.applyWithin := by
  induction nesting using Nat.strong_induction_on with
  | _ nesting inductionHypothesis =>
      rintro stream offset position name named inside rfl stack
      have hits : wrapping.Tracks stream stack stack.head? none (EqualHits stream position)
          (wrapping.wrappedMatcher.applyWithin nesting stream (wrapping.names name) position)
          fun depth => wrapping.plainMatcher.applyWithin depth stream name position := by
        cases nesting with
        | zero => exact fun _ _ _ => .inl rfl
        | succ nesting =>
            have applied := fun nested (below : nested ≤ nesting) =>
              inductionHypothesis nested (Nat.lt_succ_of_le below)
            have tracks : wrapping.Tracks stream stack stack.head? none (EqualHits stream position)
                (wrapping.wrappedMatcher.applyWith (wrapping.wrappedMatcher.applyWithin nesting)
                  stream (wrapping.names name) position)
                fun depth => wrapping.plainMatcher.applyWith
                  (wrapping.plainMatcher.applyWithin depth) stream name position :=
              applyWith_tracks applied named inside
            exact tracks.deeper (fun _ => rfl) fun _ => rfl
      refine hits.imp fun {hit other} hits => ?_
      obtain ⟨rfl, starts, ends⟩ := hits
      exact ⟨rfl, rfl, starts, ends⟩

/-! ## Matches -/

/-- A match is tracked if it starts from a known rule that keeps its name. -/
theorem runWith_tracks
    (named : wrapping.known name)
    (fixed : wrapping.names name = name)
    (nesting : Nat)
    (stream : List Value) :
    wrapping.Tracks stream [] none none Eq
      (wrapping.wrappedMatcher.runWith (wrapping.wrappedMatcher.applyWithin nesting) stream name)
      fun depth =>
        wrapping.plainMatcher.runWith (wrapping.plainMatcher.applyWithin depth) stream name := by
  cases found : wrapping.plain.rule? name with
  | none =>
      have wrappedMissing := (wrapping.missing named found).1
      rw [fixed] at wrappedMissing
      have fails : wrapping.wrappedMatcher.runWith
          (wrapping.wrappedMatcher.applyWithin nesting) stream name =
            Run.fail (.undefinedRule wrapping.plain.name name) := by
        simp only [Matcher.runWith, wrappedMatcher, wrappedMissing, wrapping.same_name]
      have rightFails : ∀ depth, wrapping.plainMatcher.runWith
          (wrapping.plainMatcher.applyWithin depth) stream name =
            Run.fail (.undefinedRule wrapping.plain.name name) := by
        intro depth
        simp only [Matcher.runWith, plainMatcher, found]
      simp only [fails, rightFails]
      exact .fail _
  | some rule =>
      obtain rfl := Grammar.name_of_rule? found
      obtain ⟨body, wrappedFound, -⟩ := wrapping.found named found
      rw [fixed] at wrappedFound
      have renamed : wrapping.wrappedMatcher.runWith
          (Applier.renamed (wrapping.wrappedMatcher.applyWithin nesting) wrapping.names) stream
            rule.name =
          wrapping.wrappedMatcher.runWith (wrapping.wrappedMatcher.applyWithin nesting) stream
            rule.name := by
        have there : wrapping.wrappedMatcher.grammar.rule? rule.name = some ⟨rule.name, body⟩ :=
          wrappedFound
        have context : wrapping.wrappedMatcher.contextFor
            (Applier.renamed (wrapping.wrappedMatcher.applyWithin nesting) wrapping.names)
              ⟨rule.name, body⟩ =
            (wrapping.wrappedMatcher.contextFor (wrapping.wrappedMatcher.applyWithin nesting)
              ⟨rule.name, body⟩).renamed wrapping.names := rfl
        have applies : Applier.renamed (wrapping.wrappedMatcher.applyWithin nesting)
            wrapping.names stream rule.name =
              wrapping.wrappedMatcher.applyWithin nesting stream rule.name := by
          unfold Applier.renamed
          rw [fixed]
        simp only [Matcher.runWith, there, context, skip_renamed names_of_skipRule, applies]
      rw [← renamed]
      have same : (⟨rule.name, body⟩ : Rule).isSyntactic = rule.isSyntactic := rfl
      have contexts : wrapping.shadowing.Agree wrapping.known
          (wrapping.wrappedMatcher.contextFor (Applier.renamed
            (wrapping.wrappedMatcher.applyWithin nesting) wrapping.names) ⟨rule.name, body⟩)
          fun depth => wrapping.plainMatcher.contextFor
            (wrapping.plainMatcher.applyWithin depth) rule :=
        contexts_agree (applyWithin_tracks wrapping nesting) same
      exact Matcher.runWith_related wrappedFound found contexts named rfl []

/-- Wrapping an alternative does not change what a known rule matches, as long as the
outer rule stays apart from the inner one. -/
theorem matchAll_eq
    (wrapping : Wrapping)
    (named : wrapping.known name)
    (fixed : wrapping.names name = name)
    (stream : List Value)
    (apart : wrapping.enclosed → isApart wrapping.outer wrapping.inner []
      (wrapping.wrappedMatcher.run stream name).events = true) :
    wrapping.wrappedMatcher.matchAll stream name = wrapping.plainMatcher.matchAll stream name := by
  have tracks := runWith_tracks named fixed (wrapping.wrappedMatcher.depthLimit stream) stream
  rcases tracks Memo.empty (.empty wrapping stream) apart with exhausted | tracked
  · exact absurd exhausted (wrapping.wrappedMatcher.matchAll_ne_exhausted stream name)
  · rcases tracked.alongside (wrapping.plainMatcher.depthLimit stream) Memo.empty
      (Shadows.empty wrapping) with exhausted | ⟨outcomes, -⟩
    · exact absurd exhausted (wrapping.plainMatcher.matchAll_ne_exhausted stream name)
    · exact outcomes.eq

end Wrapping
end Heirloom
