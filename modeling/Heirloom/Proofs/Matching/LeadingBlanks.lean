import Heirloom.Proofs.Matching.Blanks
import Heirloom.Proofs.Matching.Discipline
import Heirloom.Proofs.Matching.LeftRecursion

/-!
# Left recursion after blanks

A syntactic rule skips blanks before it applies itself. Where it is applied in front
of blanks, it finds itself in progress only behind them. So it is there that its
match is grown, and it stands in front of the blanks with a match that goes no
further than its last alternative.
-/

namespace Heirloom
namespace Matching

/-- An expression that starts with a term, before which blanks are skipped. -/
inductive StartsWithTerm : Expr → Prop
  | any : StartsWithTerm .any
  | prim (value : Value) : StartsWithTerm (.prim value)
  | range (chars : CharRange) : StartsWithTerm (.range chars)
  | regex (literal : Regex.Literal) : StartsWithTerm (.regex literal)
  | app (rule : String) : StartsWithTerm (.app rule)
  | str (body : Expr) : StartsWithTerm (.str body)
  | lst (body : Expr) : StartsWithTerm (.lst body)
  | obj (properties : List (String × Expr)) (lenient : Bool) :
      StartsWithTerm (.obj properties lenient)
  | bind {body : Expr} (name : String) (starts : StartsWithTerm body) :
      StartsWithTerm (.bind body name)
  | seq {item : Expr} (items : List Expr) (starts : StartsWithTerm item) :
      StartsWithTerm (.seq (item :: items))
  | alt {left right : Expr} (starts : StartsWithTerm left) (rightStarts : StartsWithTerm right) :
      StartsWithTerm (.alt left right)

namespace Run

/-- What follows two runs that end alike ends alike. -/
theorem ending_bind_congr
    {first other : Run α}
    {memo : Memo}
    (same : (first memo).ending = (other memo).ending)
    (next : α → Run β) :
    ((first >>= next) memo).ending = ((other >>= next) memo).ending := by
  cases ends : (other memo).outcome with
  | matched result =>
      rw [ending_bind_of_matched (same.trans (Report.ending_eq ends)),
        ending_bind_of_matched (Report.ending_eq ends)]
  | mismatch =>
      rw [ending_bind_of_mismatch (same.trans (Report.ending_eq ends)),
        ending_bind_of_mismatch (Report.ending_eq ends)]
  | fault fault =>
      rw [ending_bind_of_fault (same.trans (Report.ending_eq ends)),
        ending_bind_of_fault (Report.ending_eq ends)]

end Run
end Matching

open Matching

namespace Matcher

variable
  {matcher : Matcher}
  {names : String → Prop}
  {rule : Rule}
  {depth : Nat}
  {stream : List Value}
  {position place : Nat}
  {known memo rightMemo : Memo}

/-- What starts with a term does the same from everywhere that blanks are skipped from
to one place. -/
theorem eval_of_starts
    (closed : matcher.Closed names)
    (deep : matcher.depthLimit stream ≤ depth)
    (inside : place ≤ stream.length)
    (skips : known.Decides ((matcher.contextWithin depth rule).skip stream position)
      (.matched place))
    (again : known.Decides ((matcher.contextWithin depth rule).skip stream place)
      (.matched place))
    {expr : Expr}
    (starts : StartsWithTerm expr) :
    (∀ other ∈ expr.references, names other) →
      ∀ scope memo rightMemo, Abreast names stream known memo rightMemo →
        (eval (matcher.contextWithin depth rule) expr stream position scope memo).ending =
          (eval (matcher.contextWithin depth rule) expr stream place scope memo).ending := by
  have through {memo rightMemo : Memo} (abreast : Abreast names stream known memo rightMemo)
      (next : Nat → Run Step) :
      (((matcher.contextWithin depth rule).skip stream position >>= next) memo).ending =
        (((matcher.contextWithin depth rule).skip stream place >>= next) memo).ending := by
    rw [Run.ending_bind_of_matched (skips memo abreast.answered),
      Run.ending_bind_of_matched (again memo abreast.answered)]
  induction starts with
  | any | prim | range | regex =>
      intro _ scope memo rightMemo abreast
      simp only [eval, Context.leaf]
      exact through abreast _
  | app | str | lst | obj =>
      intro _ scope memo rightMemo abreast
      simp only [eval]
      exact through abreast _
  | bind name starts inductionHypothesis =>
      intro applied scope memo rightMemo abreast
      simp only [eval]
      exact Run.ending_bind_congr (inductionHypothesis applied scope memo rightMemo abreast) _
  | seq items starts inductionHypothesis =>
      intro applied scope memo rightMemo abreast
      have head := inductionHypothesis
        (fun other applies => applied other (by
          simp [Expr.references, Expr.itemReferences, applies]))
        scope memo rightMemo abreast
      simp only [eval, evalItems]
      exact Run.ending_bind_congr head _
  | @alt left right starts rightStarts inductionHypothesis rightHypothesis =>
      intro applied scope memo rightMemo abreast
      have leftApplied : ∀ other ∈ left.references, names other :=
        fun other applies => applied other (by simp [Expr.references, applies])
      have rightApplied : ∀ other ∈ right.references, names other :=
        fun other applies => applied other (by simp [Expr.references, applies])
      have first := inductionHypothesis leftApplied scope memo rightMemo abreast
      rw [eval_alt, eval_alt]
      cases ends : (eval (matcher.contextWithin depth rule) left stream place scope
          memo).outcome with
      | matched step =>
          have there := Report.ending_eq ends
          rw [Run.ending_orElse_of_matched (first.trans there),
            Run.ending_orElse_of_matched there]
      | fault fault =>
          have there := Report.ending_eq ends
          rw [Run.ending_orElse_of_fault (first.trans there), Run.ending_orElse_of_fault there]
      | mismatch =>
          have there := Report.ending_eq ends
          have independent := eval_independent closed depth rule leftApplied scope inside
          have after := abreast.after independent deep (Outcome.ne_fault_of_mismatch ends)
          rw [Run.ending_orElse_of_mismatch (first.trans there),
            Run.ending_orElse_of_mismatch there]
          exact rightHypothesis rightApplied scope _ _ after

/-! ## Bounds that are deep enough -/

/-- From a memory with matches in the stream, an application respects every bound that is
deep enough. -/
theorem applyWithin_respected
    (matcher : Matcher)
    (deep : matcher.depthLimit stream ≤ depth)
    (name : String)
    (inside : position ≤ stream.length)
    (bounded : memo.Bounded stream) :
    (matcher.budget (fun _ => True) depth).Respects stream (Hit.Bounded stream position) memo
      (matcher.applyWithin depth stream name position memo) :=
  applyWithin_respects (Closed.all matcher) depth trivial inside
    ⟨bounded, Nat.lt_of_lt_of_le (matcher.demand_lt_depthLimit stream memo) deep⟩

/-- Such a bound is not reached. -/
theorem applyWithin_goes
    (matcher : Matcher)
    (deep : matcher.depthLimit stream ≤ depth)
    (name : String)
    (inside : position ≤ stream.length)
    (bounded : memo.Bounded stream) :
    (matcher.applyWithin depth stream name position memo).outcome ≠ .fault .exhausted := by
  intro ends
  obtain ⟨_, -, -, undefined⟩ :=
    (matcher.applyWithin_respected deep name inside bounded).faulted _ ends
  cases undefined

/-- An application that may nest deeper ends alike and leaves the same memory, unless
it ends with a fault. -/
theorem applyWithin_deeper
    (matcher : Matcher)
    (deep : matcher.depthLimit stream ≤ depth)
    {deeper : Nat}
    (below : depth ≤ deeper)
    (name : String)
    (inside : position ≤ stream.length)
    (bounded : memo.Bounded stream) :
    (matcher.applyWithin depth stream name position memo).outcome =
        (matcher.applyWithin deeper stream name position memo).outcome ∧
      ((∀ fault, (matcher.applyWithin depth stream name position memo).outcome ≠ .fault fault) →
        (matcher.applyWithin depth stream name position memo).memo =
          (matcher.applyWithin deeper stream name position memo).memo) := by
  have goes := matcher.applyWithin_goes deep name inside bounded
  rcases matcher.applyWithin_deepening depth deeper below trivial inside memo memo
    ⟨rfl, rfl, bounded⟩ with (⟨_, rfl, stops⟩ | ⟨_, excused, _⟩) | report
  · exact absurd stops goes
  · exact excused.elim
  · exact ⟨(report.outcomes.imp fun hits => hits.eq id).eq,
      fun going => (report.memories going).2.1⟩

/-! ## Skipping blanks -/

/-- A syntactic rule skips all blanks ahead. -/
theorem SkipsBlanks.ending_skip
    (skips : matcher.SkipsBlanks)
    (syntactic : rule.isSyntactic = true)
    (deep : matcher.depthLimit stream ≤ depth)
    (inside : position ≤ stream.length)
    (bounded : memo.Bounded stream)
    (truthful : memo.Truthful (blanksFixed matcher.actions) stream) :
    ∃ after,
      ((matcher.contextWithin depth rule).skip stream position memo).ending =
        (.matched (afterBlanks stream position), after) ∧
      after.Truthful (blanksFixed matcher.actions) stream ∧
      memo.SameBut (fun other => (blanksFixed matcher.actions other).isSome) after := by
  have context : matcher.contextWithin depth rule =
      ⟨matcher.applyWithin depth, some skipRuleName⟩ := by
    simp only [contextFor, skipRuleFor, syntactic, if_true, skips.skips, Option.filter_some,
      skips.knows.found_blanks, Option.isSome_some]
  have given : blanksFixed matcher.actions skipRuleName = some (blanksAnswer matcher.actions) := rfl
  rcases skips.knows.gives depth given inside memo truthful with stops | gave
  · exact absurd stops (matcher.applyWithin_goes deep skipRuleName inside bounded)
  · rw [context]
    exact ⟨_, ending_skip_of_gives gave, gave.truthful, gave.same⟩

/-! ## What is ahead -/

/-- Nothing is known of what is ahead, apart from blanks. -/
structure OpenAhead
    (matcher : Matcher)
    (stream : List Value)
    (place : Nat)
    (memo : Memo) : Prop where
  bounded : memo.Bounded stream
  truthful : memo.Truthful (blanksFixed matcher.actions) stream
  unknown : ∀ {rule : String}, blanksFixed matcher.actions rule = none →
    ∀ {further : Nat}, place ≤ further → memo.find? rule further = none

theorem OpenAhead.empty
    (matcher : Matcher)
    (stream : List Value)
    (place : Nat) :
    matcher.OpenAhead stream place Memo.empty :=
  ⟨.empty stream, .empty _ stream, fun _ _ _ => Memo.find?_empty _ _⟩

/-- Where nothing is known of what is ahead, a rule is applied as it is to the rest of the
stream. -/
theorem OpenAhead.reports
    (ahead : matcher.OpenAhead stream place memo)
    (skips : matcher.SkipsBlanks)
    (deep : matcher.depthLimit stream ≤ depth)
    (name : String)
    (inside : place ≤ stream.length) :
    (shifting (blanksFixed matcher.actions) memo.find?).Reports stream place
      ((shifting (blanksFixed matcher.actions) memo.find?).simulation.HitsAlike stream place place)
      memo Memo.empty (matcher.applyWithin depth stream name place memo)
      (matcher.applyWithin (matcher.depthLimit (stream.drop place)) (stream.drop place) name 0
        Memo.empty) := by
  have start : 0 + place ≤ stream.length := by omega
  have agree := applyWithin_shifting (blanksFixed_inside matcher.actions) skips.knows.gives
    memo.find? depth (matcher.depthLimit (stream.drop place))
  have related := @agree stream place 0 name trivial start
  rw [Nat.zero_add] at related
  rcases related memo Memo.empty (.start inside ahead.truthful ahead.unknown) with
    (⟨_, rfl, stops⟩ | ⟨_, rfl, stops⟩) | report
  · exact absurd stops (matcher.applyWithin_goes deep name inside ahead.bounded)
  · exact absurd stops (matcher.applyWithin_goes (Nat.le_refl _) name (Nat.zero_le _) (.empty _))
  · exact report

/-- Where nothing is known of what is ahead, a rule is answered as it is from the empty
memory. -/
theorem OpenAhead.outcome_eq
    (ahead : matcher.OpenAhead stream place memo)
    (skips : matcher.SkipsBlanks)
    (deep : matcher.depthLimit stream ≤ depth)
    (name : String)
    (inside : place ≤ stream.length) :
    (matcher.applyWithin depth stream name place memo).outcome =
      (matcher.applyWithin (matcher.depthLimit stream) stream name place Memo.empty).outcome := by
  have alone := (OpenAhead.empty matcher stream place).reports skips (Nat.le_refl _) name inside
  refine Outcome.Rel.eq_of_common ?_ (ahead.reports skips deep name inside).outcomes alone.outcomes
  intro hit other common hits others
  have value : hit.value = other.value := hits.value.trans others.value.symm
  exact (Hit.mk.injEq ..).mpr
    ⟨value, hits.reaches.eq_add.trans others.reaches.eq_add.symm⟩

/-- What is known of what is behind stays. -/
theorem OpenAhead.find?_behind
    (ahead : matcher.OpenAhead stream place memo)
    (skips : matcher.SkipsBlanks)
    (deep : matcher.depthLimit stream ≤ depth)
    (name : String)
    (inside : place ≤ stream.length)
    (going : ∀ fault, (matcher.applyWithin depth stream name place memo).outcome ≠ .fault fault)
    {other : String}
    (free : blanksFixed matcher.actions other = none)
    {before : Nat}
    (behind : before < place) :
    (matcher.applyWithin depth stream name place memo).memo.find? other before =
      memo.find? other before :=
  ((ahead.reports skips deep name inside).memories going).kept free behind

/-- Where nothing is known of what is ahead, an expression is evaluated as it is on the
rest of the stream. -/
theorem OpenAhead.eval_outcomes
    (ahead : matcher.OpenAhead stream place memo)
    (skips : matcher.SkipsBlanks)
    (rule : Rule)
    (expr : Expr)
    (inside : place ≤ stream.length) :
    Outcome.Rel
      ((shifting (blanksFixed matcher.actions) memo.find?).simulation.StepsAlike stream place place
        [])
      (eval (matcher.contextWithin (matcher.depthLimit stream) rule) expr stream place []
        memo).outcome
      (eval (matcher.contextWithin (matcher.depthLimit (stream.drop place)) rule) expr
        (stream.drop place) 0 [] Memo.empty).outcome := by
  have start : 0 + place ≤ stream.length := by omega
  have appliers := applyWithin_shifting (blanksFixed_inside matcher.actions) skips.knows.gives
    memo.find? (matcher.depthLimit stream) (matcher.depthLimit (stream.drop place))
  have contexts : (shifting (blanksFixed matcher.actions) memo.find?).simulation.Agree
      (fun _ => True) (matcher.contextWithin (matcher.depthLimit stream) rule)
      (fun _ => matcher.contextWithin (matcher.depthLimit (stream.drop place)) rule) :=
    appliers.agree fun _ _ => trivial
  have related := Simulation.eval_related contexts expr (fun _ _ => trivial) stream place 0 [] []
    start (.refl _ [])
  rw [Nat.zero_add] at related
  rcases related memo Memo.empty (.start inside ahead.truthful ahead.unknown) with
    (⟨_, rfl, stops⟩ | ⟨_, rfl, stops⟩) | report
  · exact absurd stops (eval_ne_exhausted inside ahead.bounded (Nat.le_refl _) rule.isSyntactic
      expr [])
  · exact absurd stops (eval_ne_exhausted (Nat.zero_le _) (.empty _) (Nat.le_refl _)
      rule.isSyntactic expr [])
  · exact report.outcomes

/-- Where nothing is known of what is ahead, an expression comes to what it comes to from
the empty memory. -/
theorem OpenAhead.eval_outcome_eq
    (ahead : matcher.OpenAhead stream place memo)
    (skips : matcher.SkipsBlanks)
    (rule : Rule)
    (expr : Expr)
    (inside : place ≤ stream.length) :
    (eval (matcher.contextWithin (matcher.depthLimit stream) rule) expr stream place []
        memo).outcome =
      (eval (matcher.contextWithin (matcher.depthLimit stream) rule) expr stream place []
        Memo.empty).outcome := by
  refine Outcome.Rel.eq_of_common ?_ (ahead.eval_outcomes skips rule expr inside)
    ((OpenAhead.empty matcher stream place).eval_outcomes skips rule expr inside)
  intro step other common steps others
  have value : step.value = other.value := steps.value.trans others.value.symm
  have scope : step.scope = other.scope := (steps.scopes.eq id).trans (others.scopes.eq id).symm
  exact (Step.mk.injEq ..).mpr
    ⟨value, steps.reaches.eq_add.trans others.reaches.eq_add.symm, scope⟩

/-! ## Behind the blanks -/

/-- One alternative that starts with its rule is a choice between it and the base. -/
theorem leftRecursion_single
    (name : String)
    (continuation : Continuation)
    (base : Expr) :
    leftRecursion name [continuation] base = .alt (continuation.alternative name) base := rfl

/-- A left-recursive syntactic rule, in front of blanks. -/
structure FacesBlanks
    (matcher : Matcher)
    (rule : Rule)
    (continuation : Continuation)
    (base : Expr)
    (stream : List Value)
    (position : Nat) : Prop where
  skips : matcher.SkipsBlanks
  found : matcher.grammar.rule? rule.name = some rule
  syntactic : rule.isSyntactic = true
  shape : rule.body = leftRecursion rule.name [continuation] base
  apart : ¬ matcher.LeadsTo (matcher.PartsApply [continuation] base) rule.name
  starts : StartsWithTerm base
  before : position < afterBlanks stream position
  inside : afterBlanks stream position ≤ stream.length

namespace FacesBlanks

variable
  {continuation : Continuation}
  {base : Expr}

/-- The rule is neither of those for blanks. -/
theorem free
    (faces : matcher.FacesBlanks rule continuation base stream position) :
    blanksFixed matcher.actions rule.name = none := by
  cases given : blanksFixed matcher.actions rule.name with
  | none => rfl
  | some answer =>
      have syntactic : isSyntacticName rule.name = true := faces.syntactic
      rcases eq_of_blanksFixed given with ⟨same, -⟩ | ⟨same, -⟩ <;>
        · rw [same] at syntactic
          exact absurd syntactic (by decide +kernel)

/-- Behind the blanks the rule matches as an iteration. -/
theorem setting
    (faces : matcher.FacesBlanks rule continuation base stream position) :
    matcher.Setting rule (matcher.LeadsTo (matcher.PartsApply [continuation] base))
      [continuation] base stream (afterBlanks stream position) (matcher.depthLimit stream) where
  found := faces.found
  shape := faces.shape
  closed := matcher.leadsTo_closed [continuation] base
  other := faces.apart
  base_named _ applied := .start (.inl applied)
  tails_named other member _ applied := .start (.inr (.inl ⟨other, member, applied⟩))
  inside := faces.inside
  deep := Nat.le_refl _

/-- What is known where the rule is applied again. -/
structure Arrives
    (matcher : Matcher)
    (rule : Rule)
    (names : String → Prop)
    (stream : List Value)
    (position : Nat)
    (memo : Memo) : Prop where
  idle : memo.Idle names
  ahead : matcher.OpenAhead stream (afterBlanks stream position) memo
  pending : memo.find? rule.name position = some (.pending false)
  skipped : memo.Decides
    ((matcher.contextWithin (matcher.depthLimit stream) rule).skip stream position)
    (.matched (afterBlanks stream position))

/-- From its first evaluation the rule arrives behind the blanks, where nothing is known of
it. -/
theorem arrives
    (faces : matcher.FacesBlanks rule continuation base stream position) :
    ∃ memo,
      ((matcher.contextWithin (matcher.depthLimit stream) rule).skip stream position
        (Memo.put rule.name (.pending false) position Memo.empty)).ending =
          (.matched (afterBlanks stream position), memo) ∧
      Arrives matcher rule (matcher.LeadsTo (matcher.PartsApply [continuation] base)) stream
        position memo := by
  have inside : position ≤ stream.length := Nat.le_trans (Nat.le_of_lt faces.before) faces.inside
  have bounded := (Memo.Bounded.empty stream).put_pending rule.name position false
  have truthful := (Memo.Truthful.empty (blanksFixed matcher.actions) stream).put faces.free
    (.pending false) position
  have idle : (Memo.put rule.name (.pending false) position Memo.empty).Idle
      (matcher.LeadsTo (matcher.PartsApply [continuation] base)) := by
    intro name place reentered named known
    rw [Memo.find?_put_of_ne (by rintro ⟨rfl, -⟩; exact faces.apart named),
      Memo.find?_empty] at known
    cases known
  obtain ⟨memo, ends, still, same⟩ :=
    faces.skips.ending_skip faces.syntactic (Nat.le_refl _) inside bounded truthful
  have kept {other : String} (free : blanksFixed matcher.actions other = none) (place : Nat) :=
    same (show ¬ (blanksFixed matcher.actions other).isSome = true by simp [free]) place
  have independent := skip_independent faces.setting.closed (matcher.depthLimit stream) rule inside
  have abreast := Abreast.self bounded idle
  have matched := Report.outcome_of_ending ends
  have going := Outcome.ne_fault_of_matched matched
  have after := abreast.after independent (Nat.le_refl _) going
  have decides := abreast.decides independent (Nat.le_refl _) going
  rw [Report.memo_of_ending ends] at after decides
  rw [matched] at decides
  refine ⟨memo, ends, after.idle, ⟨after.bounded, still, ?_⟩, ?_, decides⟩
  · intro other free further ahead
    have before := faces.before
    rw [kept free, Memo.find?_put_of_ne (by omega), Memo.find?_empty]
  · rw [kept faces.free, Memo.find?_put_self]

/-- Behind the blanks nothing is skipped, and the base comes to what it comes to from the
empty memory. -/
theorem opens
    (faces : matcher.FacesBlanks rule continuation base stream position)
    (arrives : Arrives matcher rule (matcher.LeadsTo (matcher.PartsApply [continuation] base))
      stream position memo) :
    ∃ between,
      ((matcher.contextWithin (matcher.depthLimit stream) rule).skip stream
        (afterBlanks stream position) memo).ending =
          (.matched (afterBlanks stream position), between) ∧
      (eval (matcher.contextWithin (matcher.depthLimit stream) rule) base stream
          (afterBlanks stream position) [] between).outcome =
        (eval (matcher.contextWithin (matcher.depthLimit stream) rule) base stream
          (afterBlanks stream position) [] Memo.empty).outcome := by
  obtain ⟨between, again, truthful, same⟩ := faces.skips.ending_skip faces.syntactic (Nat.le_refl _)
    faces.inside arrives.ahead.bounded arrives.ahead.truthful
  rw [afterBlanks_afterBlanks] at again
  have independent := skip_independent faces.setting.closed (matcher.depthLimit stream) rule
    faces.inside
  have after := (Abreast.self arrives.ahead.bounded arrives.idle).after independent (Nat.le_refl _)
    (Outcome.ne_fault_of_matched (Report.outcome_of_ending again))
  rw [Report.memo_of_ending again] at after
  have ahead : matcher.OpenAhead stream (afterBlanks stream position) between := by
    refine ⟨after.bounded, truthful, ?_⟩
    intro other free further ahead
    rw [same (by simp [free])]
    exact arrives.ahead.unknown free ahead
  exact ⟨between, again, ahead.eval_outcome_eq faces.skips rule base faces.inside⟩

/-- Later the base comes to the same in front of the blanks as behind them. -/
theorem base_replayed
    (faces : matcher.FacesBlanks rule continuation base stream position)
    (arrives : Arrives matcher rule (matcher.LeadsTo (matcher.PartsApply [continuation] base))
      stream position memo)
    {later : Memo}
    (abreast : Abreast (matcher.LeadsTo (matcher.PartsApply [continuation] base)) stream later
      later rightMemo)
    (knows : memo.AnsweredBy later)
    (answered : known.AnsweredBy later)
    (skips : known.Decides ((matcher.contextWithin (matcher.depthLimit stream) rule).skip stream
      (afterBlanks stream position)) (.matched (afterBlanks stream position)))
    {outcome : Outcome Step}
    (again : known.Decides (eval (matcher.contextWithin (matcher.depthLimit stream) rule) base
      stream (afterBlanks stream position) []) outcome) :
    (eval (matcher.contextWithin (matcher.depthLimit stream) rule) base stream position []
      later).ending = (outcome, later) :=
  (eval_of_starts faces.setting.closed (Nat.le_refl _) faces.inside (arrives.skipped.mono knows)
    (skips.mono answered) faces.starts faces.setting.base_named [] later rightMemo abreast).trans
    (again later answered)

/-- Behind the blanks the rule is an iteration of its base. -/
theorem applied_behind
    (faces : matcher.FacesBlanks rule continuation base stream position)
    (arrives : Arrives matcher rule (matcher.LeadsTo (matcher.PartsApply [continuation] base))
      stream position memo) :
    ∃ first : Report Step,
      first.outcome =
        (eval (matcher.contextWithin (matcher.depthLimit stream) rule) base stream
          (afterBlanks stream position) [] Memo.empty).outcome ∧
      Setting.Applied matcher rule (matcher.LeadsTo (matcher.PartsApply [continuation] base))
        [continuation] base stream (afterBlanks stream position)
        (matcher.contextWithin (matcher.depthLimit stream) rule) first
        (matcher.applyWithin (matcher.depthLimit stream) stream rule.name
          (afterBlanks stream position) memo) := by
  have unknown : memo.find? rule.name (afterBlanks stream position) = none :=
    arrives.ahead.unknown faces.free (Nat.le_refl _)
  obtain ⟨between, again, same⟩ := faces.opens arrives
  have applied := faces.setting.applied (List.cons_ne_nil _ _) arrives.ahead.bounded arrives.idle
    unknown (Report.outcome_of_ending again)
  rw [Report.memo_of_ending again] at applied
  obtain ⟨outcome, memo⟩ := matcher.applyWithin_deeper (Nat.le_refl _)
    (Nat.le_succ (matcher.depthLimit stream)) rule.name faces.inside arrives.ahead.bounded
  exact ⟨_, same, applied.of_same outcome memo⟩

/-- How the body of the rule goes in front of blanks, given how its base and the rule go
behind them. -/
inductive BodyGoes
    (rule : Rule)
    (position : Nat)
    (base : Outcome Step)
    (report : Report Step) : Outcome Hit → Prop
  /-- A fault ends both. -/
  | faulted {fault : Fault}
      (stops : report.outcome = .fault fault) :
      BodyGoes rule position base report (.fault fault)
  /-- Neither matches. -/
  | mismatch
      (ends : report.outcome = .mismatch) :
      BodyGoes rule position base report .mismatch
  /-- The match goes no further than the base, unless what follows stalls. -/
  | matched {hit : Hit} {first step : Step}
      (begins : base = .matched first)
      (ends : report.outcome = .matched step)
      (quiet : report.memo.find? rule.name position = some (.pending false))
      (stays : step = first ∨ step.position = hit.finish) :
      BodyGoes rule position base report (.matched hit)

/-- In front of blanks the rule is evaluated once. -/
theorem body_goes
    (faces : matcher.FacesBlanks rule continuation base stream position) :
    BodyGoes rule position
      (eval (matcher.contextWithin (matcher.depthLimit stream) rule) base stream
        (afterBlanks stream position) [] Memo.empty).outcome
      (eval (matcher.contextWithin (matcher.depthLimit stream) rule) rule.body stream position []
        (Memo.put rule.name (.pending false) position Memo.empty))
      (matcher.applyWithin (matcher.depthLimit stream) stream rule.name
        (afterBlanks stream position) Memo.empty).outcome := by
  obtain ⟨memo, skips, arrives⟩ := faces.arrives
  obtain ⟨first, same, applied⟩ := faces.applied_behind arrives
  have respected := matcher.applyWithin_respected (Nat.le_refl _) rule.name faces.inside
    arrives.ahead.bounded
  have behind := arrives.ahead.find?_behind faces.skips (Nat.le_refl _) rule.name faces.inside
  rw [← same, ← arrives.ahead.outcome_eq faces.skips (Nat.le_refl _) rule.name faces.inside,
    faces.shape, leftRecursion_single, eval_alt]
  generalize reports : matcher.applyWithin (matcher.depthLimit stream) stream rule.name
    (afterBlanks stream position) memo = report at applied respected behind ⊢
  have leads {outcome : Outcome Hit} (ends : report.outcome = outcome) :
      (matcher.applyWithin (matcher.depthLimit stream) stream rule.name
        (afterBlanks stream position) memo).ending = (outcome, report.memo) := by
    rw [reports]
    exact Report.ending_eq ends
  cases applied with
  | faulted ends stops =>
      have alternative := continuation.ending_of_fault skips (leads stops)
      rw [stops]
      exact .faulted (Report.outcome_of_ending (Run.ending_orElse_of_fault alternative _))
  | mismatch ends missed knows skipsAgain baseAgain =>
      have going := Outcome.ne_fault_of_mismatch missed
      have settled := respected.changed going
      have abreast := Abreast.self (respected.holds going).1 (arrives.idle.settled settled)
      have alternative := continuation.ending_of_mismatch skips (leads missed)
      have replayed := faces.base_replayed arrives abreast settled.answeredBy knows skipsAgain
        baseAgain
      rw [missed]
      exact .mismatch (Report.outcome_of_ending
        ((Run.ending_orElse_of_mismatch alternative _).trans replayed))
  | matched ends iterates skipsAgain baseAgain rests =>
      cases reached : report.outcome with
      | mismatch => exact absurd reached iterates.ne_mismatch
      | fault fault =>
          have alternative := continuation.ending_of_fault skips (leads reached)
          exact .faulted (Report.outcome_of_ending (Run.ending_orElse_of_fault alternative _))
      | matched hit =>
          have going := Outcome.ne_fault_of_matched reached
          obtain ⟨fits, rested⟩ := rests hit reached
          have follows : followFirst (matcher.contextWithin (matcher.depthLimit stream) rule)
              [continuation] stream hit =
              continuation.follow (matcher.contextWithin (matcher.depthLimit stream) rule) stream
                hit :=
            Run.orElse_mismatch _
          rw [follows] at rested
          have independent := faces.setting.follow_independent
            (faces.setting.tails_named continuation List.mem_cons_self) fits
          obtain ⟨still, rightMemo, abreast⟩ := rested.again independent (Nat.le_refl _)
          have alternative := continuation.ending_of_best skips (leads reached)
          have quiet := (abreast.find?_after independent still.ne_fault faces.apart).trans
            ((behind going faces.free faces.before).trans arrives.pending)
          rcases still with missed | ⟨step, stalled, stops⟩
          · -- Nothing follows the match, so the rule falls back on its base.
            have after := abreast.advance.after independent (Nat.le_refl _)
              (Outcome.ne_fault_of_mismatch missed)
            have knows := (respected.changed going).answeredBy.trans after.answered
            have replayed := faces.base_replayed arrives after.advance knows
              (abreast.answered.trans after.answered) skipsAgain baseAgain
            have body := (Run.ending_orElse_of_mismatch
              (alternative.trans (Report.ending_eq missed)) _).trans replayed
            refine .matched ends (Report.outcome_of_ending body) ?_ (.inl rfl)
            rw [Report.memo_of_ending body]
            exact quiet
          · have body := Run.ending_orElse_of_matched
              (alternative.trans (Report.ending_eq stalled)) (eval (matcher.contextWithin
                (matcher.depthLimit stream) rule) base stream position [])
            refine .matched ends (Report.outcome_of_ending body) ?_ (.inr stops)
            rw [Report.memo_of_ending body]
            exact quiet

/-- How a rule goes in front of blanks, given how its base and the rule go behind them. -/
inductive FallsBack
    (hitOf : Step → Hit)
    (base : Outcome Step) : Outcome Hit → Outcome Hit → Prop
  /-- A fault ends both. -/
  | faulted (fault : Fault) : FallsBack hitOf base (.fault fault) (.fault fault)
  /-- Neither matches. -/
  | mismatch : FallsBack hitOf base .mismatch .mismatch
  /-- The match is that of the base. -/
  | base {step : Step} (hit : Hit)
      (begins : base = .matched step) :
      FallsBack hitOf base (.matched hit) (.matched (hitOf step))
  /-- What follows the match consumes nothing. -/
  | stalled {hit other : Hit}
      (stops : other.finish = hit.finish) :
      FallsBack hitOf base (.matched hit) (.matched other)

/-- In front of blanks the rule is answered by the first evaluation of its body. -/
theorem falls_back
    (faces : matcher.FacesBlanks rule continuation base stream position) :
    FallsBack (matcher.hitOf rule)
      (eval (matcher.contextWithin (matcher.depthLimit stream) rule) base stream
        (afterBlanks stream position) [] Memo.empty).outcome
      (matcher.applyWithin (matcher.depthLimit stream) stream rule.name
        (afterBlanks stream position) Memo.empty).outcome
      (matcher.applyWithin (matcher.depthLimit stream) stream rule.name position
        Memo.empty).outcome := by
  have inside := Nat.le_trans (Nat.le_of_lt faces.before) faces.inside
  have nests := (matcher.applyWithin_deeper (Nat.le_refl _)
    (Nat.le_succ (matcher.depthLimit stream)) rule.name inside (.empty stream)).1
  have unknown : Memo.empty.find? rule.name position = none := Memo.find?_empty _ _
  rw [nests, applyWithin]
  have goes := faces.body_goes
  generalize (matcher.applyWithin (matcher.depthLimit stream) stream rule.name
    (afterBlanks stream position) Memo.empty).outcome = outcome at goes ⊢
  cases goes with
  | faulted stops =>
      have invoked := ending_invoke_of_fault (Report.ending_eq stops)
      rw [applyWith_of_first_fault rfl faces.found unknown (Report.outcome_of_ending invoked)]
      exact .faulted _
  | mismatch ends =>
      have invoked := ending_invoke_of_mismatch (Report.ending_eq ends)
      rw [Report.outcome_of_ending
        (ending_of_first_mismatch rfl faces.found unknown (Report.outcome_of_ending invoked))]
      exact .mismatch
  | @matched hit first step begins ends quiet stays =>
      have invoked := ending_invoke_of_matched (Report.ending_eq ends)
      rw [← Report.memo_of_ending invoked] at quiet
      have matched : (matcher.invoke (matcher.applyWithin (matcher.depthLimit stream)) rule stream
          position (Memo.put rule.name (.pending false) position Memo.empty)).outcome =
          .ofOption (some (matcher.hitOf rule step)) :=
        Report.outcome_of_ending invoked
      rw [applyWith_of_quiet rfl faces.found unknown matched quiet]
      rcases stays with rfl | stops
      · exact .base hit begins
      · exact .stalled stops

end FacesBlanks

/-- A left-recursive syntactic rule that is applied in front of blanks, where its caller
has not skipped them, does not grow: its match is that of its base behind the blanks,
unless what follows it there consumes nothing. Without a match, and with a fault, it goes
in front of the blanks as it does behind them. -/
theorem left_recursion_falls_back
    (matcher : Matcher)
    (skips : matcher.SkipsBlanks)
    {rule : Rule}
    {name : String}
    (found : matcher.grammar.rule? name = some rule)
    (syntactic : rule.isSyntactic = true)
    {continuation : Continuation}
    {base : Expr}
    (shape : rule.body = leftRecursion name [continuation] base)
    (apart : ¬ matcher.LeadsTo (matcher.PartsApply [continuation] base) name)
    (starts : StartsWithTerm base)
    (stream : List Value)
    {position : Nat}
    (inside : position ≤ stream.length)
    (before : position < afterBlanks stream position) :
    FacesBlanks.FallsBack (matcher.hitOf rule)
      (eval (matcher.contextWithin (matcher.depthLimit stream) rule) base stream
        (afterBlanks stream position) [] Memo.empty).outcome
      (matcher.applyWithin (matcher.depthLimit stream) stream name (afterBlanks stream position)
        Memo.empty).outcome
      (matcher.applyWithin (matcher.depthLimit stream) stream name position
        Memo.empty).outcome := by
  obtain rfl := Grammar.name_of_rule? found
  exact FacesBlanks.falls_back ⟨skips, found, syntactic, shape, apart, starts, before,
    afterBlanks_le_length inside⟩

/-- Digits with plus signs between them, where blanks may stand. -/
def spacedSumRule : Rule :=
  ⟨"Sum", leftRecursion "Sum" [⟨none, [.prim (.char '+'), .app "digit"]⟩] (.app "digit")⟩

/-- A matcher for sums with blanks. -/
def spacedSums : Matcher :=
  { grammar := ⟨1, "SpacedSums", [spacedSumRule], some baseGrammar⟩ }

/-- What follows the digits of a sum does not lead back to it. -/
theorem sum_apart :
    ¬ spacedSums.LeadsTo (spacedSums.PartsApply
      [⟨none, [.prim (.char '+'), .app "digit"]⟩] (.app "digit")) "Sum" := by
  have starts : ∀ name, spacedSums.PartsApply
      [⟨none, [.prim (.char '+'), .app "digit"]⟩] (.app "digit") name →
        name ∈ ["digit", skipRuleName, blankRuleName] := by
    rintro name (applied | ⟨continuation, member, applied⟩ | skipped)
    · simp [Expr.references] at applied
      simp [applied]
    · obtain rfl := List.mem_singleton.mp member
      simp [Expr.itemReferences, Expr.references] at applied
      simp [applied]
    · simp [← Option.some.inj skipped]
  intro reached
  exact absurd (reached.mem_of_closed starts (by decide +kernel)) (by decide +kernel)

/-- In front of a blank a sum is matched by its first digit. -/
theorem spaced_sum_falls_back :
    (spacedSums.SkipsBlanks ∧ spacedSums.grammar.rule? "Sum" = some spacedSumRule ∧
      spacedSumRule.isSyntactic = true ∧ 0 < afterBlanks (Value.chars " 1+2") 0) ∧
    FacesBlanks.FallsBack (spacedSums.hitOf spacedSumRule)
      (eval (spacedSums.contextWithin (spacedSums.depthLimit (Value.chars " 1+2")) spacedSumRule)
        (.app "digit") (Value.chars " 1+2") (afterBlanks (Value.chars " 1+2") 0) []
        Memo.empty).outcome
      (spacedSums.applyWithin (spacedSums.depthLimit (Value.chars " 1+2")) (Value.chars " 1+2")
        "Sum" (afterBlanks (Value.chars " 1+2") 0) Memo.empty).outcome
      (spacedSums.applyWithin (spacedSums.depthLimit (Value.chars " 1+2")) (Value.chars " 1+2")
        "Sum" 0 Memo.empty).outcome := by
  have skips : spacedSums.SkipsBlanks := ⟨rfl, by decide +kernel, by decide +kernel⟩
  have found : spacedSums.grammar.rule? "Sum" = some spacedSumRule := by decide +kernel
  have syntactic : spacedSumRule.isSyntactic = true := by decide +kernel
  have before : 0 < afterBlanks (Value.chars " 1+2") 0 := by decide +kernel
  exact ⟨⟨skips, found, syntactic, before⟩, spacedSums.left_recursion_falls_back skips found
    syntactic rfl sum_apart (.app "digit") (Value.chars " 1+2") (Nat.zero_le _) before⟩

/-- A sum ends elsewhere in front of a blank than behind it. -/
theorem spaced_sum_depends_on_blanks :
    (spacedSums.SkipsBlanks ∧ spacedSums.grammar.rule? "Sum" = some spacedSumRule ∧
      spacedSumRule.isSyntactic = true ∧
      spacedSumRule.body =
        leftRecursion "Sum" [⟨none, [.prim (.char '+'), .app "digit"]⟩] (.app "digit") ∧
      ¬ spacedSums.LeadsTo (spacedSums.PartsApply
        [⟨none, [.prim (.char '+'), .app "digit"]⟩] (.app "digit")) "Sum") ∧
    afterBlanks (Value.chars " 1+2") 0 = 1 ∧
    (spacedSums.applyWithin (spacedSums.depthLimit (Value.chars " 1+2")) (Value.chars " 1+2")
      "Sum" 0 Memo.empty).outcome = .matched ⟨.char '1', 2⟩ ∧
    (spacedSums.applyWithin (spacedSums.depthLimit (Value.chars " 1+2")) (Value.chars " 1+2")
      "Sum" 1 Memo.empty).outcome = .matched ⟨.char '2', 4⟩ := by
  refine ⟨⟨⟨rfl, ?_, ?_⟩, ?_, ?_, rfl, sum_apart⟩, ?_, ?_, ?_⟩ <;> decide +kernel

end Matcher
end Heirloom
