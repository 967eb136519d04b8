import Heirloom.Proofs.Matching.Replay
import Heirloom.Proofs.Matching.Sharing

/-!
# Runs that are independent of a rule

Runs that apply only rules of a closed set depend on no other rule. Beside a run
whose memory also knows of others, such a run does the same from a memory that
does not, and it can be replayed afterwards. Two memories that stay abreast in
this way are what a rule that applies itself is compared to an iteration by.
-/

namespace Heirloom
namespace Matching

/-- From every memory with certain answers, a run ends in one way and changes
nothing. -/
def Memo.Decides (known : Memo) (run : Run α) (outcome : Outcome α) : Prop :=
  ∀ later, known.AnsweredBy later → (run later).ending = (outcome, later)

/-- More answers decide the same. -/
theorem Memo.Decides.mono
    {known more : Memo}
    {run : Run α}
    {outcome : Outcome α}
    (decides : known.Decides run outcome)
    (answered : known.AnsweredBy more) :
    more.Decides run outcome :=
  fun later knows => decides later (answered.trans knows)

end Matching

open Matching

namespace Matcher

/-- A run that depends only on some rules, with results of a kind: it does the same
from memories that agree on these rules, and it is replayed. -/
structure Independent
    (matcher : Matcher)
    (names : String → Prop)
    (depth : Nat)
    (stream : List Value)
    (good : α → Prop)
    (run : Run α) : Prop where
  shares : (sharing names).simulation.Related stream 0
    (fun result other => result = other ∧ good result) run fun _ => run
  replays : (matcher.replaying names depth).Related stream 0
    (fun result other => result = other ∧ good result) run fun _ => run

/-- The context of a rule in which applications nest up to a depth. -/
abbrev contextWithin (matcher : Matcher) (depth : Nat) (rule : Rule) : Context :=
  matcher.contextFor (matcher.applyWithin depth) rule

section Evaluations

variable
  {matcher : Matcher}
  {names : String → Prop}
  {depth : Nat}
  {stream : List Value}
  {position : Nat}

/-- A run is independent if it is related to itself by every simulation that
relates the applications to themselves. -/
theorem Independent.of_simulations
    (closed : matcher.Closed names)
    (rule : Rule)
    {good : α → Prop}
    {run : Run α}
    (related : ∀ sim : Simulation Unit,
      (∀ {left right : Value}, sim.alike left right → left = right) →
      sim.Agree names (matcher.contextWithin depth rule)
        (fun _ => matcher.contextWithin depth rule) →
      sim.Related stream 0 (fun result other => result = other ∧ good result) run
        fun _ => run) :
    matcher.Independent names depth stream good run where
  shares := related _ id ((applyWithin_sharing closed depth).agree fun _ => closed.skipped)
  replays := related _ id ((applyWithin_replays closed depth).agree fun _ => closed.skipped)

/-- Skipping depends on the rules that the skip rule leads to. -/
theorem skip_independent
    (closed : matcher.Closed names)
    (depth : Nat)
    (rule : Rule)
    (inside : position ≤ stream.length) :
    matcher.Independent names depth stream (fun _ => True)
      ((matcher.contextWithin depth rule).skip stream position) := by
  refine .of_simulations closed rule fun sim _ agree => ?_
  exact sim.weaken (fun _ _ reaches => ⟨reaches.eq_add, trivial⟩) (agree.skip inside)

/-- An expression depends on the rules that it leads to. -/
theorem eval_independent
    (closed : matcher.Closed names)
    (depth : Nat)
    (rule : Rule)
    {expr : Expr}
    (applied : ∀ other ∈ expr.references, names other)
    (scope : Bindings)
    (inside : position ≤ stream.length) :
    matcher.Independent names depth stream
      (fun step => position ≤ step.position ∧ step.position ≤ stream.length)
      (eval (matcher.contextWithin depth rule) expr stream position scope) := by
  refine .of_simulations closed rule fun sim exact agree => ?_
  refine sim.weaken ?_ (Simulation.eval_related agree expr applied stream 0 position scope scope
    inside (.refl _ scope))
  intro step other steps
  exact ⟨steps.eq exact, steps.reaches.start_le, steps.reaches.le_length⟩

/-- Expressions one after the other depend on the rules that they lead to. -/
theorem evalItems_independent
    (closed : matcher.Closed names)
    (depth : Nat)
    (rule : Rule)
    {items : List Expr}
    (applied : ∀ other ∈ Expr.itemReferences items, names other)
    (scope : Bindings)
    (value : Value)
    (inside : position ≤ stream.length) :
    matcher.Independent names depth stream
      (fun step => position ≤ step.position ∧ step.position ≤ stream.length)
      (evalItems (matcher.contextWithin depth rule) items stream position scope value) := by
  refine .of_simulations closed rule fun sim exact agree => ?_
  refine sim.weaken ?_ (Simulation.evalItems_related agree items applied stream 0 position scope
    scope value value inside (.refl _ scope) (sim.alike_refl value))
  intro step other steps
  exact ⟨steps.eq exact, steps.reaches.start_le, steps.reaches.le_length⟩

end Evaluations

/-! ## Memories abreast -/

/-- A memory in which nothing of some rules is in progress and certain answers are
known, beside another one that agrees on these rules. -/
structure Abreast
    (names : String → Prop)
    (stream : List Value)
    (known memo rightMemo : Memo) : Prop where
  bounded : memo.Bounded stream
  idle : memo.Idle names
  answered : known.AnsweredBy memo
  shared : (sharing names).memories stream 0 memo rightMemo

namespace Abreast

variable
  {matcher : Matcher}
  {names : String → Prop}
  {depth : Nat}
  {stream : List Value}
  {known memo rightMemo : Memo}
  {rule : String}
  {position : Nat}

/-- A memory in which nothing of the rules is in progress is abreast of itself. -/
theorem self
    (bounded : memo.Bounded stream)
    (idle : memo.Idle names) :
    Abreast names stream memo memo memo :=
  ⟨bounded, idle, fun _ _ _ found => found, rfl, bounded, fun _ _ _ => rfl⟩

/-- So is a memory that another one is abreast of. -/
theorem right
    (abreast : Abreast names stream known memo rightMemo) :
    Abreast names stream rightMemo rightMemo rightMemo := by
  obtain ⟨-, bounded, agree⟩ := abreast.shared
  refine self bounded ?_
  intro name place reentered named
  rw [← agree name named]
  exact abreast.idle named

/-- What is known of another rule may change. -/
theorem put
    (abreast : Abreast names stream known memo rightMemo)
    (other : ¬ names rule)
    (unanswered : ∀ answer, known.find? rule position ≠ some (.done answer))
    {entry : Entry}
    (inside : ∀ hit, entry = .done (some hit) → hit.Bounded stream position) :
    Abreast names stream known (Memo.put rule entry position memo) rightMemo := by
  have apart : ∀ {name : String} {place : Nat}, names name →
      (Memo.put rule entry position memo).find? name place = memo.find? name place := by
    intro name place named
    refine Memo.find?_put_of_ne ?_ entry memo
    rintro ⟨rfl, -⟩
    exact other named
  refine ⟨abreast.bounded.put inside, ?_, ?_, rfl, abreast.shared.2.1, ?_⟩
  · intro name place reentered named
    rw [apart named]
    exact abreast.idle named
  · intro name place answer found
    have elsewhere : ¬ (name = rule ∧ place = position) := by
      rintro ⟨rfl, rfl⟩
      exact unanswered answer found
    rw [Memo.find?_put_of_ne elsewhere]
    exact abreast.answered found
  · intro name named place
    rw [apart named]
    exact abreast.shared.2.2 name named place

/-- Later answers are known as well. -/
theorem advance
    (abreast : Abreast names stream known memo rightMemo) :
    Abreast names stream memo memo rightMemo :=
  ⟨abreast.bounded, abreast.idle, fun _ _ _ found => found, abreast.shared⟩

/-- A bound on the nesting of applications that is deep enough is never reached. -/
theorem holds
    (abreast : Abreast names stream known memo rightMemo)
    (deep : matcher.depthLimit stream ≤ depth) :
    (matcher.budget names depth).holds stream memo :=
  ⟨abreast.bounded, Nat.lt_of_lt_of_le (matcher.demand_lt_depthLimit stream memo) deep⟩

variable
  {α : Type}
  {good : α → Prop}
  {run : Run α}

/-- An independent run goes in lockstep from both memories. -/
theorem reports
    (abreast : Abreast names stream known memo rightMemo)
    (independent : matcher.Independent names depth stream good run) :
    (sharing names).Reports stream 0 (fun result other => result = other ∧ good result)
      memo rightMemo (run memo) (run rightMemo) := by
  rcases independent.shares memo rightMemo abreast.shared with
    (⟨_, excused, _⟩ | ⟨_, excused, _⟩) | report
  · exact excused.elim
  · exact excused.elim
  · exact report

/-- An independent run ends alike from both memories. -/
theorem outcome_eq
    (abreast : Abreast names stream known memo rightMemo)
    (independent : matcher.Independent names depth stream good run) :
    (run memo).outcome = (run rightMemo).outcome :=
  ((abreast.reports independent).outcomes.imp fun results => results.1).eq

/-- The results of an independent run are as they should be. -/
theorem good_of_matched
    (abreast : Abreast names stream known memo rightMemo)
    (independent : matcher.Independent names depth stream good run)
    {result : α}
    (ends : (run memo).outcome = .matched result) :
    good result := by
  have outcomes := (abreast.reports independent).outcomes
  rw [ends] at outcomes
  obtain ⟨_, -, -, fits⟩ := outcomes.exists_of_matched
  exact fits

/-- An independent run leaves memories abreast, unless it ends with a fault. -/
theorem after
    (abreast : Abreast names stream known memo rightMemo)
    (independent : matcher.Independent names depth stream good run)
    (deep : matcher.depthLimit stream ≤ depth)
    (going : ∀ fault, (run memo).outcome ≠ .fault fault) :
    Abreast names stream known (run memo).memo (run rightMemo).memo := by
  have replayed := independent.replays rfl memo (abreast.holds deep) abreast.idle going
  exact ⟨replayed.holds.1, abreast.idle.settled replayed.settled,
    abreast.answered.trans replayed.settled.answeredBy,
    (abreast.reports independent).memories going⟩

/-- An independent run leaves other rules alone, unless it ends with a fault. -/
theorem find?_after
    (abreast : Abreast names stream known memo rightMemo)
    (independent : matcher.Independent names depth stream good run)
    (going : ∀ fault, (run memo).outcome ≠ .fault fault)
    (other : ¬ names rule) :
    (run memo).memo.find? rule position = memo.find? rule position :=
  (abreast.reports independent).changed going rule other position

/-- An independent run is decided by the answers it leaves. -/
theorem decides
    (abreast : Abreast names stream known memo rightMemo)
    (independent : matcher.Independent names depth stream good run)
    (deep : matcher.depthLimit stream ≤ depth)
    (going : ∀ fault, (run memo).outcome ≠ .fault fault) :
    (run memo).memo.Decides run (run memo).outcome := by
  intro later answered
  have replayed := independent.replays rfl memo (abreast.holds deep) abreast.idle going
  obtain ⟨outcomes, left⟩ := replayed.again later answered
  exact Prod.ext (outcomes.imp fun results => results.1).eq.symm left

end Abreast
end Matcher
end Heirloom
