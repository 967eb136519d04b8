import Heirloom.Proofs.Matching.Choice
import Heirloom.Proofs.Matching.Independence

/-!
# Left recursion

A rule whose alternatives start with the rule itself, but for a last one that
does not lead back to it, matches as an iteration: the last alternative is
matched once, and then what follows the rule in the other alternatives is
matched again and again, for as long as something is consumed. The rule finds
itself in progress at first, so only the last alternative can match. In each
later round the match so far stands for the rule, and what was left out at the
start is replayed.
-/

namespace Heirloom
namespace Matching

/-- What follows a rule in an alternative that starts with it, and the name that
the value of the rule is bound to there, if any. -/
structure Continuation where
  /-- The name for the value of the rule. -/
  name : Option String
  /-- What follows the rule. -/
  tail : List Expr

namespace Continuation

/-- The application that the alternative starts with. -/
def head (rule : String) (continuation : Continuation) : Expr :=
  match continuation.name with
  | some name => .bind (.app rule) name
  | none => .app rule

/-- The whole alternative. -/
def alternative (rule : String) (continuation : Continuation) : Expr :=
  .seq (continuation.head rule :: continuation.tail)

/-- The scope in which the rest is evaluated. -/
def scope (continuation : Continuation) (value : Value) : Bindings :=
  match continuation.name with
  | some name => [(name, value)]
  | none => []

/-- Evaluate the rest after a match of the rule. -/
def follow
    (context : Context)
    (stream : List Value)
    (best : Hit)
    (continuation : Continuation) : Run Step :=
  evalItems context continuation.tail stream best.finish (continuation.scope best.value) best.value

end Continuation

/-- The body of a rule with alternatives that start with the rule itself, and a
last alternative. -/
def leftRecursion (rule : String) (continuations : List Continuation) (base : Expr) : Expr :=
  choice (continuations.map (Continuation.alternative rule) ++ [base])

/-- Evaluate the first alternative that matches, or else the rest. -/
def alternatives
    (context : Context)
    (rule : String)
    (stream : List Value)
    (position : Nat)
    (continuations : List Continuation)
    (rest : Run Step) : Run Step :=
  firstOf (continuations.map (fun continuation =>
    eval context (continuation.alternative rule) stream position []) ++ [rest])

/-- Evaluate the first continuation that matches after a match of the rule. -/
def followFirst
    (context : Context)
    (continuations : List Continuation)
    (stream : List Value)
    (best : Hit) : Run Step :=
  firstOf (continuations.map (Continuation.follow context stream best))

end Matching

open Matching

namespace Matcher

/-- The iteration of a rule from a match and a memory, and how it ends. It goes on
for as long as the first continuation that matches consumes something, each
time with the value of the rule so far and the memory left before. -/
inductive Iterates
    (matcher : Matcher)
    (context : Context)
    (rule : Rule)
    (continuations : List Continuation)
    (stream : List Value) : Hit → Memo → Outcome Hit → Prop
  /-- No continuation matches. -/
  | settled {best : Hit} {memo : Memo}
      (ends : (followFirst context continuations stream best memo).outcome = .mismatch) :
      Iterates matcher context rule continuations stream best memo (.matched best)
  /-- The continuation consumes nothing, and the round does not count. -/
  | stalled {best : Hit} {memo : Memo} {step : Step}
      (ends : (followFirst context continuations stream best memo).outcome = .matched step)
      (still : step.position = best.finish) :
      Iterates matcher context rule continuations stream best memo (.matched best)
  /-- The continuation consumes something, and the iteration goes on. -/
  | advanced {best : Hit} {memo : Memo} {step : Step} {outcome : Outcome Hit}
      (ends : (followFirst context continuations stream best memo).outcome = .matched step)
      (moved : step.position ≠ best.finish)
      (rest : Iterates matcher context rule continuations stream (matcher.hitOf rule step)
        (followFirst context continuations stream best memo).memo outcome) :
      Iterates matcher context rule continuations stream best memo outcome
  /-- A fault ends the iteration. -/
  | faulted {best : Hit} {memo : Memo} {fault : Fault}
      (ends : (followFirst context continuations stream best memo).outcome = .fault fault) :
      Iterates matcher context rule continuations stream best memo (.fault fault)

/-- The rules that are applied from some rules on, by themselves or through
others. -/
inductive LeadsTo (matcher : Matcher) (start : String → Prop) : String → Prop
  /-- The rules themselves. -/
  | start {name : String} (starts : start name) : LeadsTo matcher start name
  /-- What a rule applies that is led to. -/
  | applied {name other : String} {rule : Rule}
      (reached : LeadsTo matcher start name)
      (found : matcher.grammar.rule? name = some rule)
      (applied : other ∈ rule.body.references) :
      LeadsTo matcher start other

/-- What the continuations and the base of a rule apply, and the skip rule. -/
def PartsApply
    (matcher : Matcher)
    (continuations : List Continuation)
    (base : Expr)
    (name : String) : Prop :=
  name ∈ base.references ∨
    (∃ continuation ∈ continuations, name ∈ Expr.itemReferences continuation.tail) ∨
    matcher.skipRule = some name

/-- The rules that are led to are closed. -/
theorem leadsTo_closed
    (matcher : Matcher)
    (continuations : List Continuation)
    (base : Expr) :
    matcher.Closed (matcher.LeadsTo (matcher.PartsApply continuations base)) where
  applied reached found _ applied := .applied reached found applied
  skipped skips := .start (.inr (.inr (skipRule_of_skipRuleFor skips).1))

/-- Rules that only apply each other lead to no others. -/
theorem LeadsTo.mem_of_closed
    {matcher : Matcher}
    {start : String → Prop}
    {names : List String}
    (starts : ∀ name, start name → name ∈ names)
    (closed : names.all (fun name => (matcher.grammar.rule? name).all fun rule =>
      rule.body.references.all names.contains) = true)
    {name : String}
    (reached : matcher.LeadsTo start name) :
    name ∈ names := by
  induction reached with
  | start begins => exact starts _ begins
  | @applied name other rule reached found applied inductionHypothesis =>
      have listed := List.all_eq_true.mp closed name inductionHypothesis
      rw [found] at listed
      exact List.contains_iff_mem.mp (List.all_eq_true.mp listed other applied)

namespace Iterates

variable
  {matcher : Matcher}
  {context : Context}
  {rule : Rule}
  {continuations : List Continuation}
  {stream : List Value}
  {best : Hit}
  {memo : Memo}

/-- An iteration ends with a match or a fault. -/
theorem ne_mismatch
    {outcome : Outcome Hit}
    (iterates : matcher.Iterates context rule continuations stream best memo outcome) :
    outcome ≠ .mismatch := by
  induction iterates with
  | settled => exact nofun
  | stalled => exact nofun
  | advanced _ _ _ inductionHypothesis => exact inductionHypothesis
  | faulted => exact nofun

/-- An iteration ends in only one way. -/
theorem unique
    {first second : Outcome Hit}
    (iterates : matcher.Iterates context rule continuations stream best memo first)
    (again : matcher.Iterates context rule continuations stream best memo second) :
    first = second := by
  induction iterates with
  | settled ends =>
      cases again with
      | settled => rfl
      | stalled other => cases ends.symm.trans other
      | advanced other => cases ends.symm.trans other
      | faulted other => cases ends.symm.trans other
  | stalled ends still =>
      cases again with
      | settled other => cases ends.symm.trans other
      | stalled => rfl
      | advanced other moved =>
          cases ends.symm.trans other
          exact absurd still moved
      | faulted other => cases ends.symm.trans other
  | advanced ends moved _ inductionHypothesis =>
      cases again with
      | settled other => cases ends.symm.trans other
      | stalled other still =>
          cases ends.symm.trans other
          exact absurd still moved
      | advanced other _ rest =>
          cases ends.symm.trans other
          exact inductionHypothesis rest
      | faulted other => cases ends.symm.trans other
  | faulted ends =>
      cases again with
      | settled other => cases ends.symm.trans other
      | stalled other => cases ends.symm.trans other
      | advanced other => cases ends.symm.trans other
      | faulted other =>
          cases ends.symm.trans other
          rfl

end Iterates
end Matcher

namespace Matching
namespace Continuation

/-! ## Alternatives that start with their rule -/

variable
  {context : Context}
  {stream : List Value}
  {rule : String}
  {position place : Nat}
  {memo between after : Memo}

/-- Where the rule has a match, the alternative goes on from it. -/
theorem ending_of_best
    (continuation : Continuation)
    {best : Hit}
    (skips : (context.skip stream position memo).ending = (.matched place, between))
    (applies : (context.apply stream rule place between).ending = (.matched best, after)) :
    (eval context (continuation.alternative rule) stream position [] memo).ending =
      (continuation.follow context stream best after).ending := by
  have app : (eval context (.app rule) stream position [] memo).ending =
      (.matched ⟨best.value, best.finish, []⟩, after) := by
    rw [eval, Run.ending_bind_of_matched skips, Run.ending_bind_of_matched applies]
    rfl
  have head : (eval context (continuation.head rule) stream position [] memo).ending =
      (.matched ⟨best.value, best.finish, continuation.scope best.value⟩, after) := by
    unfold Continuation.head scope
    cases continuation.name with
    | none => exact app
    | some name =>
        rw [eval, Run.ending_bind_of_matched app]
        rfl
  rw [alternative, eval, evalItems, Run.ending_bind_of_matched head]
  rfl

/-- Where the rule does not match, the alternative does not match either. -/
theorem ending_of_mismatch
    (continuation : Continuation)
    (skips : (context.skip stream position memo).ending = (.matched place, between))
    (applies : (context.apply stream rule place between).ending = (.mismatch, after)) :
    (eval context (continuation.alternative rule) stream position [] memo).ending =
      (.mismatch, after) := by
  have app : (eval context (.app rule) stream position [] memo).ending = (.mismatch, after) := by
    rw [eval, Run.ending_bind_of_matched skips, Run.ending_bind_of_mismatch applies]
  have head : (eval context (continuation.head rule) stream position [] memo).ending =
      (.mismatch, after) := by
    unfold Continuation.head
    cases continuation.name with
    | none => exact app
    | some name => rw [eval, Run.ending_bind_of_mismatch app]
  rw [alternative, eval, evalItems, Run.ending_bind_of_mismatch head]

/-- A fault of the rule is one of the alternative. -/
theorem ending_of_fault
    (continuation : Continuation)
    {fault : Fault}
    (skips : (context.skip stream position memo).ending = (.matched place, between))
    (applies : (context.apply stream rule place between).ending = (.fault fault, after)) :
    (eval context (continuation.alternative rule) stream position [] memo).ending =
      (.fault fault, after) := by
  have app : (eval context (.app rule) stream position [] memo).ending =
      (.fault fault, after) := by
    rw [eval, Run.ending_bind_of_matched skips, Run.ending_bind_of_fault applies]
  have head : (eval context (continuation.head rule) stream position [] memo).ending =
      (.fault fault, after) := by
    unfold Continuation.head
    cases continuation.name with
    | none => exact app
    | some name => rw [eval, Run.ending_bind_of_fault app]
  rw [alternative, eval, evalItems, Run.ending_bind_of_fault head]

end Continuation
end Matching

namespace Matcher

/-- A rule that is left-recursive: what its parts lead to does not lead back to it,
and nothing is skipped where it is applied. -/
structure Setting
    (matcher : Matcher)
    (rule : Rule)
    (names : String → Prop)
    (continuations : List Continuation)
    (base : Expr)
    (stream : List Value)
    (position depth : Nat) : Prop where
  found : matcher.grammar.rule? rule.name = some rule
  shape : rule.body = leftRecursion rule.name continuations base
  closed : matcher.Closed names
  other : ¬ names rule.name
  base_named : ∀ name ∈ base.references, names name
  tails_named : ∀ continuation ∈ continuations,
    ∀ name ∈ Expr.itemReferences continuation.tail, names name
  inside : position ≤ stream.length
  deep : matcher.depthLimit stream ≤ depth

/-- How the alternatives of a rule go beside its continuations, from memories
abreast: they end alike, unless no continuation matches and something else is
tried. -/
inductive Beside
    (names : String → Prop)
    (stream : List Value)
    (best : Hit)
    (known memo : Memo)
    (alternatives rest : Run Step)
    (report : Report Step) : Prop
  /-- A continuation matches, and so does its alternative. -/
  | matched {step : Step} {after : Memo}
      (ends : report.outcome = .matched step)
      (fits : best.finish ≤ step.position ∧ step.position ≤ stream.length)
      (leads : (alternatives memo).ending = (.matched step, after))
      (stays : Abreast names stream known after report.memo) :
      Beside names stream best known memo alternatives rest report
  /-- No continuation matches, and something else is tried. -/
  | mismatch {after : Memo}
      (ends : report.outcome = .mismatch)
      (leads : (alternatives memo).ending = (rest after).ending)
      (stays : Abreast names stream known after report.memo) :
      Beside names stream best known memo alternatives rest report
  /-- A fault ends both. -/
  | faulted {fault : Fault}
      (ends : report.outcome = .fault fault)
      (leads : (alternatives memo).outcome = .fault fault) :
      Beside names stream best known memo alternatives rest report

/-- What follows a match of the rule does not bring it further: no continuation
matches, or one does without consuming anything. -/
def Rests (report : Report Step) (best : Hit) : Prop :=
  report.outcome = .mismatch ∨
    ∃ step, report.outcome = .matched step ∧ step.position = best.finish

/-- The memory after a match that rests: what follows it has been tried from a memory
without the rule, and the one that this left is abreast. -/
def Rested
    (names : String → Prop)
    (stream : List Value)
    (known : Memo)
    (follow : Run Step)
    (best : Hit)
    (after : Memo) : Prop :=
  ∃ tried, Abreast names stream tried tried tried ∧
    Abreast names stream known after (follow tried).memo ∧ Rests (follow tried) best

/-- A match that rests does so without a fault. -/
theorem Rests.ne_fault
    {report : Report Step}
    {best : Hit}
    (rests : Rests report best)
    (fault : Fault) :
    report.outcome ≠ .fault fault := by
  rcases rests with missed | ⟨step, stalled, -⟩
  · exact Outcome.ne_fault_of_mismatch missed fault
  · exact Outcome.ne_fault_of_matched stalled fault

/-- What follows a match that rests comes to the same again. -/
theorem Rested.again
    {matcher : Matcher}
    {names : String → Prop}
    {depth : Nat}
    {stream : List Value}
    {known after : Memo}
    {good : Step → Prop}
    {follow : Run Step}
    {best : Hit}
    (rested : Rested names stream known follow best after)
    (independent : matcher.Independent names depth stream good follow)
    (deep : matcher.depthLimit stream ≤ depth) :
    Rests (follow after) best ∧ ∃ rightMemo, Abreast names stream known after rightMemo := by
  obtain ⟨tried, start, stays, rests⟩ := rested
  have same := (stays.outcome_eq independent).trans (Report.outcome_of_ending
    (start.decides independent deep rests.ne_fault _ fun _ _ _ => id))
  rw [Rests, same]
  exact ⟨rests, _, stays⟩

/-- A round of growth beside the continuations, from memories abreast. Unless a
fault ends both, the match rests or a continuation brings it further. -/
inductive Round
    (matcher : Matcher)
    (rule : Rule)
    (names : String → Prop)
    (stream : List Value)
    (best : Hit)
    (known : Memo)
    (report : Report Step)
    (grown : Report Hit)
    (further : Hit → Run Hit) : Prop
  /-- A fault ends both. -/
  | faulted {fault : Fault}
      (ends : report.outcome = .fault fault)
      (stops : grown.outcome = .fault fault)
  /-- The match stays as it is. -/
  | rests
      (ends : Rests report best)
      (stops : grown.outcome = .matched best)
      (stays : Abreast names stream known grown.memo report.memo)
  /-- The match is grown on. -/
  | advances {step : Step} {after : Memo}
      (ends : report.outcome = .matched step)
      (longer : best.finish < step.position)
      (inside : step.position ≤ stream.length)
      (goes : grown.ending = (further (matcher.hitOf rule step) after).ending)
      (stays : Abreast names stream known after report.memo)

namespace Setting

variable
  {matcher : Matcher}
  {rule : Rule}
  {names : String → Prop}
  {continuations : List Continuation}
  {base : Expr}
  {stream : List Value}
  {position depth : Nat}
  {known memo rightMemo : Memo}
  {best : Hit}

/-- Some applications may nest. -/
theorem exists_nested
    (setting : matcher.Setting rule names continuations base stream position depth) :
    ∃ before, matcher.applyWithin depth = matcher.applyWith (matcher.applyWithin before) := by
  have positive : 0 < depth := Nat.lt_of_lt_of_le (Nat.succ_pos _) setting.deep
  obtain ⟨before, rfl⟩ := Nat.exists_eq_succ_of_ne_zero (Nat.ne_of_gt positive)
  exact ⟨before, rfl⟩

/-- The rule is answered by its match. -/
theorem apply_best
    (setting : matcher.Setting rule names continuations base stream position depth)
    (answered : memo.find? rule.name position = some (.done (some best))) :
    (matcher.applyWithin depth stream rule.name position memo).ending =
      (.matched best, memo) := by
  obtain ⟨before, nested⟩ := setting.exists_nested
  rw [nested, applyWith_of_done setting.found answered]
  rfl

/-- The rule in progress does not match. -/
theorem apply_pending
    (setting : matcher.Setting rule names continuations base stream position depth)
    {reentered : Bool}
    (pending : memo.find? rule.name position = some (.pending reentered)) :
    (matcher.applyWithin depth stream rule.name position memo).ending =
      (.mismatch, Memo.put rule.name (.pending true) position memo) := by
  obtain ⟨before, nested⟩ := setting.exists_nested
  rw [nested, applyWith_of_pending setting.found pending]
  rfl

/-- A continuation does not depend on the rule. -/
theorem follow_independent
    (setting : matcher.Setting rule names continuations base stream position depth)
    {continuation : Continuation}
    (named : ∀ name ∈ Expr.itemReferences continuation.tail, names name)
    (fits : best.Bounded stream position) :
    matcher.Independent names depth stream
      (fun step => best.finish ≤ step.position ∧ step.position ≤ stream.length)
      (continuation.follow (matcher.contextWithin depth rule) stream best) :=
  evalItems_independent setting.closed depth rule named _ _ fits.2

/-- While the rule has a match, its alternatives go beside its continuations. -/
theorem alternatives_beside
    (setting : matcher.Setting rule names continuations base stream position depth)
    (skips : known.Decides ((matcher.contextWithin depth rule).skip stream position)
      (.matched position))
    (fits : best.Bounded stream position)
    (rest : Run Step)
    (several : List Continuation)
    (named : ∀ continuation ∈ several, ∀ name ∈ Expr.itemReferences continuation.tail, names name) :
    ∀ memo rightMemo, Abreast names stream known memo rightMemo →
      memo.find? rule.name position = some (.done (some best)) →
        Beside names stream best known memo
          (alternatives (matcher.contextWithin depth rule) rule.name stream position several rest)
          rest
          (followFirst (matcher.contextWithin depth rule) several stream best rightMemo) := by
  induction several with
  | nil =>
      intro memo rightMemo abreast _
      refine .mismatch rfl ?_ abreast
      exact congrArg (fun run => (run memo).ending) (Run.orElse_mismatch rest)
  | cons continuation several inductionHypothesis =>
      intro memo rightMemo abreast answered
      have independent := setting.follow_independent (named continuation List.mem_cons_self) fits
      have same := abreast.outcome_eq independent
      have left := continuation.ending_of_best (skips memo abreast.answered)
        (setting.apply_best answered)
      simp only [alternatives, followFirst, firstOf, List.map_cons, List.cons_append,
        List.foldr_cons]
      cases ends : (continuation.follow (matcher.contextWithin depth rule) stream best
          memo).outcome with
      | matched step =>
          have after := abreast.after independent setting.deep (Outcome.ne_fault_of_matched ends)
          rw [Run.orElse_of_matched (same.symm.trans ends)]
          exact .matched rfl (abreast.good_of_matched independent ends)
            (Run.ending_orElse_of_matched (left.trans (Report.ending_eq ends)) _) after
      | fault fault =>
          rw [Run.orElse_of_fault (same.symm.trans ends)]
          exact .faulted rfl (Report.outcome_of_ending
            (Run.ending_orElse_of_fault (left.trans (Report.ending_eq ends)) _))
      | mismatch =>
          have going := Outcome.ne_fault_of_mismatch ends
          have after := abreast.after independent setting.deep going
          have passed := Run.ending_orElse_of_mismatch (left.trans (Report.ending_eq ends))
            (alternatives (matcher.contextWithin depth rule) rule.name stream position several
              rest)
          rw [Run.orElse_of_mismatch (same.symm.trans ends)]
          cases inductionHypothesis
            (fun other member => named other (List.mem_cons_of_mem _ member)) _ _ after
            ((abreast.find?_after independent going setting.other).trans answered) with
          | matched ends fits leads stays => exact .matched ends fits (passed.trans leads) stays
          | mismatch ends leads stays => exact .mismatch ends (passed.trans leads) stays
          | faulted ends leads =>
              exact .faulted ends (Report.outcome_of_ending (passed.trans (Report.ending_eq leads)))

/-- The body of the rule tries its alternatives and then the base. -/
theorem eval_body
    (setting : matcher.Setting rule names continuations base stream position depth)
    (context : Context) :
    eval context rule.body stream position [] =
      alternatives context rule.name stream position continuations
        (eval context base stream position []) := by
  rw [setting.shape, leftRecursion, eval_choice context (by simp), List.map_append, List.map_map]
  rfl

/-- A round of growth goes beside the continuations. In the last one the base is
replayed, which is not longer than any match. -/
theorem grow_round
    (setting : matcher.Setting rule names continuations base stream position depth)
    (skips : known.Decides ((matcher.contextWithin depth rule).skip stream position)
      (.matched position))
    {first : Step}
    (again : known.Decides (eval (matcher.contextWithin depth rule) base stream position [])
      (.matched first))
    (unanswered : ∀ answer, known.find? rule.name position ≠ some (.done answer))
    (rounds : Nat)
    (abreast : Abreast names stream known memo rightMemo)
    (fits : best.Bounded stream position)
    (notLonger : first.position ≤ best.finish) :
    matcher.Round rule names stream best known
      (followFirst (matcher.contextWithin depth rule) continuations stream best rightMemo)
      (matcher.grow (matcher.applyWithin depth) rule stream position (rounds + 1) best memo)
      (matcher.grow (matcher.applyWithin depth) rule stream position rounds) := by
  have noted : Abreast names stream known
      (Memo.put rule.name (.done (some best)) position memo) rightMemo :=
    abreast.put setting.other unanswered (by rintro _ ⟨⟩; exact fits)
  have beside := setting.alternatives_beside skips fits
    (eval (matcher.contextWithin depth rule) base stream position [])
    continuations setting.tails_named _ rightMemo noted (Memo.find?_put_self _ _ _ _)
  rw [← setting.eval_body] at beside
  cases beside with
  | faulted ends leads =>
      have faulted := ending_invoke_of_fault (Report.ending_eq leads)
      exact .faulted ends (by rw [grow_of_fault rfl (Report.outcome_of_ending faulted)])
  | @mismatch after ends leads stays =>
      have matched := ending_invoke_of_matched (leads.trans (again after stays.answered))
      rw [grow_of_not_longer rfl (Report.outcome_of_ending matched) notLonger]
      exact .rests (.inl ends) rfl (Report.memo_of_ending matched ▸ stays)
  | @matched step after ends within leads stays =>
      obtain ⟨start, finish⟩ := within
      have matched := ending_invoke_of_matched leads
      by_cases still : step.position = best.finish
      · rw [grow_of_not_longer rfl (Report.outcome_of_ending matched) (Nat.le_of_eq still)]
        exact .rests (.inr ⟨step, ends, still⟩) rfl (Report.memo_of_ending matched ▸ stays)
      · have longer : best.finish < step.position := Nat.lt_of_le_of_ne start (Ne.symm still)
        rw [grow_of_longer rfl (Report.outcome_of_ending matched) longer rfl,
          Report.memo_of_ending matched]
        exact .advances ends longer finish rfl stays

/-- A match of the rule is grown by the iteration of its continuations, and rests in
the end. -/
theorem grow_iterates
    (setting : matcher.Setting rule names continuations base stream position depth)
    (skips : known.Decides ((matcher.contextWithin depth rule).skip stream position)
      (.matched position))
    {first : Step}
    (again : known.Decides (eval (matcher.contextWithin depth rule) base stream position [])
      (.matched first))
    (unanswered : ∀ answer, known.find? rule.name position ≠ some (.done answer))
    (rounds : Nat) :
    ∀ best memo rightMemo, Abreast names stream known memo rightMemo →
      best.Bounded stream position → first.position ≤ best.finish →
      stream.length < rounds + best.finish →
        matcher.Iterates (matcher.contextWithin depth rule) rule continuations
          stream best rightMemo
          (matcher.grow (matcher.applyWithin depth) rule stream position rounds best
            memo).outcome ∧
        ∀ hit, (matcher.grow (matcher.applyWithin depth) rule stream position rounds best
            memo).outcome = .matched hit →
          hit.Bounded stream position ∧ Rested names stream known
            (followFirst (matcher.contextWithin depth rule) continuations stream hit) hit
            (matcher.grow (matcher.applyWithin depth) rule stream position rounds best
              memo).memo := by
  induction rounds with
  | zero =>
      intro best memo rightMemo _ fits _ enough
      have finish := fits.2
      omega
  | succ rounds inductionHypothesis =>
      intro best memo rightMemo abreast fits notLonger enough
      cases setting.grow_round skips again unanswered rounds abreast fits notLonger with
      | faulted ends stops =>
          rw [stops]
          exact ⟨.faulted ends, nofun⟩
      | rests ends stops stays =>
          rw [stops]
          refine ⟨?_, fun hit same => ?_⟩
          · rcases ends with settled | ⟨step, stalled, still⟩
            · exact .settled settled
            · exact .stalled stalled still
          · obtain rfl := Outcome.matched.inj same
            exact ⟨fits, rightMemo, abreast.right, stays, ends⟩
      | @advances step after ends longer inside goes stays =>
          rw [Report.outcome_of_ending goes, Report.memo_of_ending goes]
          obtain ⟨iterates, rested⟩ := inductionHypothesis (matcher.hitOf rule step) after _ stays
            ⟨Nat.le_trans fits.1 (Nat.le_of_lt longer), inside⟩
            (Nat.le_trans notLonger (Nat.le_of_lt longer)) (by unfold hitOf; dsimp only; omega)
          exact ⟨.advanced ends (Nat.ne_of_gt longer) iterates, rested⟩

/-- While the rule is in progress, only the last alternative can match. -/
theorem alternatives_pending
    (setting : matcher.Setting rule names continuations base stream position depth)
    (skips : known.Decides ((matcher.contextWithin depth rule).skip stream position)
      (.matched position))
    (unanswered : ∀ answer, known.find? rule.name position ≠ some (.done answer))
    (rest : Run Step)
    (several : List Continuation) :
    ∀ memo, Abreast names stream known memo rightMemo →
      memo.find? rule.name position = some (.pending true) →
        ∃ after,
          (alternatives (matcher.contextWithin depth rule) rule.name stream position several rest
            memo).ending = (rest after).ending ∧
          Abreast names stream known after rightMemo ∧
          after.find? rule.name position = some (.pending true) := by
  induction several with
  | nil =>
      intro memo abreast pending
      refine ⟨memo, ?_, abreast, pending⟩
      exact congrArg (fun run => (run memo).ending) (Run.orElse_mismatch rest)
  | cons continuation several inductionHypothesis =>
      intro memo abreast pending
      have fails := continuation.ending_of_mismatch (skips memo abreast.answered)
        (setting.apply_pending pending)
      have noted : Abreast names stream known
          (Memo.put rule.name (.pending true) position memo) rightMemo :=
        abreast.put setting.other unanswered nofun
      obtain ⟨after, leads, stays, stillPending⟩ := inductionHypothesis _ noted
        (Memo.find?_put_self _ _ _ _)
      exact ⟨after, (Run.ending_orElse_of_mismatch fails _).trans leads, stays, stillPending⟩

/-- The first evaluation of the rule comes down to its base. It skips as it does
without the rule, which is replayed by every later alternative. -/
theorem body_reaches_base
    (setting : matcher.Setting rule names continuations base stream position depth)
    (nonempty : continuations ≠ [])
    {before : Memo}
    (bounded : before.Bounded stream)
    (idle : before.Idle names)
    (unknown : before.find? rule.name position = none)
    (still : ((matcher.contextWithin depth rule).skip stream position
      before).outcome = .matched position) :
    ∃ known memo,
      known.Decides ((matcher.contextWithin depth rule).skip stream position)
        (.matched position) ∧
      Abreast names stream known memo
        ((matcher.contextWithin depth rule).skip stream position before).memo ∧
      memo.find? rule.name position = some (.pending true) ∧
      (eval (matcher.contextWithin depth rule) rule.body stream position []
          (Memo.put rule.name (.pending false) position before)).ending =
        (eval (matcher.contextWithin depth rule) base stream position [] memo).ending := by
  have independent := skip_independent setting.closed depth rule setting.inside
  have start : Abreast names stream before
      (Memo.put rule.name (.pending false) position before) before := by
    refine (Abreast.self bounded idle).put setting.other ?_ nofun
    intro answer found
    rw [unknown] at found
    cases found
  have skipped := (start.outcome_eq independent).trans still
  have going := Outcome.ne_fault_of_matched skipped
  have after := (start.after independent setting.deep going).advance
  have pending := (start.find?_after independent going setting.other).trans
    (Memo.find?_put_self rule.name (.pending false) position before)
  have again := start.decides independent setting.deep going
  rw [skipped] at again
  have unanswered : ∀ answer,
      ((matcher.contextWithin depth rule).skip stream position
        (Memo.put rule.name (.pending false) position before)).memo.find? rule.name position ≠
        some (.done answer) := by
    intro answer
    rw [pending]
    exact nofun
  -- The first alternative finds the rule in progress, which the others find noted.
  obtain ⟨continuation, several, rfl⟩ := List.exists_cons_of_ne_nil nonempty
  have fails := continuation.ending_of_mismatch (Report.ending_eq skipped)
    (setting.apply_pending pending)
  have noted := after.put setting.other unanswered
    (nofun : ∀ hit, Entry.pending true = .done (some hit) → hit.Bounded stream position)
  obtain ⟨memo, leads, stays, met⟩ := setting.alternatives_pending again unanswered
    (eval (matcher.contextWithin depth rule) base stream position [])
    several _ noted (Memo.find?_put_self _ _ _ _)
  refine ⟨_, memo, again, stays, met, ?_⟩
  rw [setting.eval_body]
  exact (Run.ending_orElse_of_mismatch fails _).trans leads

/-- How an application of the rule goes, given how its base does where the rule is not
known. -/
inductive Applied
    (matcher : Matcher)
    (rule : Rule)
    (names : String → Prop)
    (continuations : List Continuation)
    (base : Expr)
    (stream : List Value)
    (position : Nat)
    (context : Context)
    (first : Report Step)
    (report : Report Hit) : Prop
  /-- A fault ends both. -/
  | faulted {fault : Fault}
      (ends : first.outcome = .fault fault)
      (stops : report.outcome = .fault fault)
  /-- Neither matches, and the base does not match again. -/
  | mismatch {known : Memo}
      (ends : first.outcome = .mismatch)
      (stops : report.outcome = .mismatch)
      (answered : known.AnsweredBy report.memo)
      (skips : known.Decides (context.skip stream position) (.matched position))
      (again : known.Decides (eval context base stream position []) .mismatch)
  /-- The match of the base is iterated, and rests in the end. -/
  | matched {step : Step} {known : Memo}
      (ends : first.outcome = .matched step)
      (iterates : matcher.Iterates context rule continuations stream (matcher.hitOf rule step)
        first.memo report.outcome)
      (skips : known.Decides (context.skip stream position) (.matched position))
      (again : known.Decides (eval context base stream position []) (.matched step))
      (rests : ∀ hit, report.outcome = .matched hit → hit.Bounded stream position ∧
        Rested names stream known (followFirst context continuations stream hit) hit report.memo)

/-- Another report with the same ending will do. -/
theorem Applied.of_same
    {context : Context}
    {first : Report Step}
    {report other : Report Hit}
    (applied : Applied matcher rule names continuations base stream position context first report)
    (outcome : other.outcome = report.outcome)
    (memo : (∀ fault, other.outcome ≠ .fault fault) → other.memo = report.memo) :
    Applied matcher rule names continuations base stream position context first other := by
  cases applied with
  | faulted ends stops => exact .faulted ends (outcome.trans stops)
  | mismatch ends stops answered skips again =>
      have missed := outcome.trans stops
      refine .mismatch ends missed ?_ skips again
      rw [memo (Outcome.ne_fault_of_mismatch missed)]
      exact answered
  | matched ends iterates skips again rests =>
      refine .matched ends (outcome ▸ iterates) skips again fun hit hits => ?_
      rw [memo (Outcome.ne_fault_of_matched hits)]
      exact rests hit (outcome.symm.trans hits)

/-- An application of the rule where nothing is known of it is an iteration. -/
theorem applied
    (setting : matcher.Setting rule names continuations base stream position depth)
    (nonempty : continuations ≠ [])
    {before : Memo}
    (bounded : before.Bounded stream)
    (idle : before.Idle names)
    (unknown : before.find? rule.name position = none)
    (still : ((matcher.contextWithin depth rule).skip stream position
      before).outcome = .matched position) :
    Applied matcher rule names continuations base stream position
      (matcher.contextWithin depth rule)
      (eval (matcher.contextWithin depth rule) base stream position []
        ((matcher.contextWithin depth rule).skip stream position before).memo)
      (matcher.applyWith (matcher.applyWithin depth) stream rule.name position before) := by
  obtain ⟨known, memo, skips, abreast, pending, leads⟩ :=
    setting.body_reaches_base nonempty bounded idle unknown still
  have independent := eval_independent setting.closed depth rule setting.base_named []
    setting.inside
  have same := abreast.outcome_eq independent
  cases ends : (eval (matcher.contextWithin depth rule) base stream position []
      ((matcher.contextWithin depth rule).skip stream position before).memo).outcome with
  | fault fault =>
      have invoked := ending_invoke_of_fault (leads.trans (Report.ending_eq (same.trans ends)))
      refine .faulted ends ?_
      rw [applyWith_of_first_fault rfl setting.found unknown (Report.outcome_of_ending invoked)]
  | mismatch =>
      have mismatched := same.trans ends
      have going := Outcome.ne_fault_of_mismatch mismatched
      have after := (abreast.after independent setting.deep going)
      have met := (abreast.find?_after independent going setting.other).trans pending
      have again := abreast.decides independent setting.deep going
      rw [mismatched] at again
      have invoked := ending_invoke_of_mismatch (leads.trans (Report.ending_eq mismatched))
      have answers := ending_of_first_mismatch rfl setting.found unknown
        (Report.outcome_of_ending invoked)
      rw [Report.memo_of_ending invoked] at answers
      have noted := after.advance.put setting.other (fun answer => by rw [met]; exact nofun)
        (nofun : ∀ hit, Entry.done none = .done (some hit) → hit.Bounded stream position)
      refine .mismatch ends (Report.outcome_of_ending answers) ?_ (skips.mono after.answered) again
      rw [Report.memo_of_ending answers]
      exact noted.answered
  | matched step =>
      have matched := same.trans ends
      have going := Outcome.ne_fault_of_matched matched
      have after := abreast.after independent setting.deep going
      have met := (abreast.find?_after independent going setting.other).trans pending
      have again := abreast.decides independent setting.deep going
      rw [matched] at again
      have unanswered : ∀ answer,
          (eval (matcher.contextWithin depth rule) base stream position [] memo).memo.find?
            rule.name position ≠ some (.done answer) := by
        intro answer
        rw [met]
        exact nofun
      have bounds := abreast.good_of_matched independent matched
      have invoked := ending_invoke_of_matched (leads.trans (Report.ending_eq matched))
      obtain ⟨iterates, rests⟩ := setting.grow_iterates
        (skips.mono after.answered) again unanswered
        (roundLimit stream position) (matcher.hitOf rule step) _ _ after.advance bounds
        (Nat.le_refl _) (by have := bounds.1; unfold roundLimit hitOf; dsimp only; omega)
      have left := Report.memo_of_ending invoked
      rw [← left] at iterates rests met again after unanswered
      have grown := outcome_of_met rfl setting.found unknown (Report.outcome_of_ending invoked) met
        iterates.ne_mismatch
      refine .matched ends (grown ▸ iterates) (skips.mono after.answered) again fun hit hits => ?_
      rw [grown] at hits
      obtain ⟨fits, tried, start, stays, rested⟩ := rests hit hits
      rw [memo_of_met rfl setting.found unknown (Report.outcome_of_ending invoked) met hits]
      exact ⟨fits, tried, start,
        stays.put setting.other unanswered (by rintro _ ⟨⟩; exact fits), rested⟩

end Setting

/-- A rule with alternatives that start with the rule itself, and a base that does
not lead back to it, matches like an iteration. Where nothing is skipped, it does
not match if its base does not match. Otherwise the match of the base is followed
by the first continuation that matches, again and again, until none matches or
nothing is consumed. The memory goes from one evaluation to the next. -/
theorem left_recursion_iterates
    (matcher : Matcher)
    {rule : Rule}
    {name : String}
    (found : matcher.grammar.rule? name = some rule)
    {continuations : List Continuation}
    (nonempty : continuations ≠ [])
    {base : Expr}
    (shape : rule.body = leftRecursion name continuations base)
    (apart : ¬ matcher.LeadsTo (matcher.PartsApply continuations base) name)
    (stream : List Value)
    {position : Nat}
    (inside : position ≤ stream.length)
    {depth : Nat}
    (deep : matcher.depthLimit stream ≤ depth)
    (still : rule.isSyntactic = true →
      ((matcher.contextFor (matcher.applyWithin depth) rule).skip stream position
        Memo.empty).outcome = .matched position) :
    let context := matcher.contextFor (matcher.applyWithin depth) rule
    let start := (context.skip stream position Memo.empty).memo
    let first := eval context base stream position [] start
    let result := (matcher.applyWithin (depth + 1) stream name position Memo.empty).outcome
    (result = .mismatch ↔ first.outcome = .mismatch) ∧
    (∀ fault, first.outcome = .fault fault → result = .fault fault) ∧
    (∀ step, first.outcome = .matched step →
      ∀ outcome, matcher.Iterates context rule continuations stream (matcher.hitOf rule step)
        first.memo outcome ↔ outcome = result) := by
  obtain rfl := Grammar.name_of_rule? found
  have setting : matcher.Setting rule (matcher.LeadsTo (matcher.PartsApply continuations base))
      continuations base stream position depth := by
    refine ⟨found, shape, matcher.leadsTo_closed continuations base, apart, ?_, ?_, inside, deep⟩
    · exact fun name applied => .start (.inl applied)
    · exact fun continuation member name applied =>
        .start (.inr (.inl ⟨continuation, member, applied⟩))
  have still : ((matcher.contextFor (matcher.applyWithin depth) rule).skip stream position
      Memo.empty).outcome = .matched position := by
    cases syntactic : rule.isSyntactic with
    | true => exact still syntactic
    | false =>
        simp only [contextFor, skipRuleFor, syntactic, Context.skip]
        rfl
  intro context start first result
  cases setting.applied nonempty (.empty stream) (.empty _) (Memo.find?_empty _ _) still with
  | faulted ends stops =>
      change first.outcome = _ at ends
      change result = _ at stops
      rw [ends, stops]
      refine ⟨⟨nofun, nofun⟩, ?_, nofun⟩
      rintro _ ⟨⟩
      rfl
  | mismatch ends stops =>
      change first.outcome = _ at ends
      change result = _ at stops
      rw [ends, stops]
      exact ⟨⟨fun _ => rfl, fun _ => rfl⟩, nofun, nofun⟩
  | matched ends iterates =>
      change first.outcome = _ at ends
      rw [ends]
      refine ⟨⟨fun mismatched => absurd mismatched iterates.ne_mismatch, nofun⟩, nofun, ?_⟩
      rintro _ ⟨⟩ outcome
      exact ⟨fun again => again.unique iterates, fun same => same ▸ iterates⟩

/-- Digits with plus signs between them. -/
def sumRule : Rule :=
  ⟨"sum", leftRecursion "sum"
    [⟨some "left", [.prim (.char '+'), .bind (.range ⟨'0', '9'⟩) "right"]⟩]
    (.range ⟨'0', '9'⟩)⟩

/-- A matcher for sums. -/
def sums : Matcher := { grammar := ⟨1, "Sums", [sumRule], none⟩ }

/-- A sum is matched by its first digit and an iteration of what follows. -/
theorem sum_iterates :
    let stream := Value.chars "1+2+3"
    let context := sums.contextFor (sums.applyWithin (sums.depthLimit stream)) sumRule
    let first := eval context (.range ⟨'0', '9'⟩) stream 0 [] Memo.empty
    (sums.grammar.rule? "sum" = some sumRule ∧ sumRule.isSyntactic = false) ∧
    first.outcome = .matched ⟨.char '1', 1, []⟩ ∧
    sums.Iterates context sumRule
      [⟨some "left", [.prim (.char '+'), .bind (.range ⟨'0', '9'⟩) "right"]⟩] stream
      ⟨.char '1', 1⟩ first.memo
      (sums.applyWithin (sums.depthLimit stream + 1) stream "sum" 0 Memo.empty).outcome := by
  have found : sums.grammar.rule? "sum" = some sumRule := by decide +kernel
  have lexical : sumRule.isSyntactic = false := by decide +kernel
  have only : ∀ name, sums.LeadsTo (sums.PartsApply
      [⟨some "left", [.prim (.char '+'), .bind (.range ⟨'0', '9'⟩) "right"]⟩]
      (.range ⟨'0', '9'⟩)) name → name = skipRuleName := by
    intro name reached
    induction reached with
    | start starts =>
        rcases starts with applied | ⟨continuation, member, applied⟩ | skips
        · simp only [Expr.references, List.not_mem_nil] at applied
        · obtain rfl := List.mem_singleton.mp member
          simp [Expr.itemReferences, Expr.references] at applied
        · exact (Option.some.inj skips).symm
    | applied _ found _ same =>
        have missing : sums.grammar.rule? skipRuleName = none := by decide +kernel
        rw [same, missing] at found
        cases found
  have iterates := sums.left_recursion_iterates found (List.cons_ne_nil _ _) rfl
    (fun reached => absurd (only _ reached) (by decide)) (Value.chars "1+2+3") (Nat.zero_le _)
    (Nat.le_refl _) (fun syntactic => absurd (lexical.symm.trans syntactic) Bool.false_ne_true)
  have unskipped (apply : Applier) : (sums.contextFor apply sumRule).skipRule = none := by
    simp only [contextFor, skipRuleFor, lexical, Bool.false_eq_true, if_false]
  have digit (apply : Applier) : (eval (sums.contextFor apply sumRule) (.range ⟨'0', '9'⟩)
      (Value.chars "1+2+3") 0 [] Memo.empty).outcome = .matched ⟨.char '1', 1, []⟩ := by
    have matched : matchRange ⟨'0', '9'⟩ (Value.chars "1+2+3") 0 = some ⟨.char '1', 1⟩ := by cbv
    have answer : (Run.ofOption (matchRange ⟨'0', '9'⟩ (Value.chars "1+2+3") 0)
        Memo.empty).ending = (.matched ⟨.char '1', 1⟩, Memo.empty) := by
      rw [matched]
      rfl
    simp only [eval, Context.leaf, Context.skip, unskipped]
    exact Report.outcome_of_ending
      ((Run.ending_bind_of_matched rfl).trans (Run.ending_bind_of_matched answer))
  intro stream context first
  refine ⟨⟨found, lexical⟩, digit _, ?_⟩
  simp only [Context.skip, unskipped] at iterates
  exact (iterates.2.2 ⟨.char '1', 1, []⟩ (digit _) _).mpr rfl

end Matcher
end Heirloom
