import Heirloom.Proofs.Matching.Termination

/-!
# Runs that are replayed

A run that comes to an end without a fault can be replayed: from any memory that
has its answers it comes to the same and changes nothing. This holds as long as
nothing that it applies is in progress when it starts.
-/

namespace Heirloom
namespace Matching
namespace Memo

/-- What is answered in one memory is answered alike in another one. -/
def AnsweredBy (memo later : Memo) : Prop :=
  ∀ ⦃rule : String⦄ ⦃position : Nat⦄ ⦃answer : Option Hit⦄,
    memo.find? rule position = some (.done answer) →
      later.find? rule position = some (.done answer)

theorem AnsweredBy.trans
    {first second third : Memo}
    (before : first.AnsweredBy second)
    (after : second.AnsweredBy third) :
    first.AnsweredBy third :=
  fun _ _ _ known => after (before known)

theorem Settled.answeredBy
    {before after : Memo}
    (settled : Settled before after) :
    before.AnsweredBy after :=
  fun _ _ _ known => settled.answers known

/-- No application of some rules is in progress. -/
def Idle (names : String → Prop) (memo : Memo) : Prop :=
  ∀ ⦃rule : String⦄ ⦃position : Nat⦄ ⦃reentered : Bool⦄,
    names rule → memo.find? rule position ≠ some (.pending reentered)

theorem Idle.empty (names : String → Prop) : Idle names Memo.empty := by
  intro rule position reentered _ known
  rw [find?_empty] at known
  cases known

theorem Idle.settled
    {names : String → Prop}
    {before after : Memo}
    (idle : before.Idle names)
    (settled : Settled before after) :
    after.Idle names := by
  intro rule position reentered named known
  obtain ⟨earlier, found⟩ := settled.pending known
  exact idle named found

end Memo

/-- A report of a run that ended with an outcome like the given one and left the
given memory. -/
structure Report.EndsAlike
    (same : α → β → Prop)
    (outcome : Outcome α)
    (memo : Memo)
    (report : Report β) : Prop where
  outcomes : Outcome.Rel same outcome report.outcome
  memo : report.memo = memo

namespace Report.EndsAlike

variable
  {α β γ δ : Type}
  {same : α → β → Prop}
  {following : γ → δ → Prop}
  {run : Run β}
  {start after : Memo}

theorem bind_matched
    {result : α}
    {next : β → Run δ}
    {outcome : Outcome γ}
    {final : Memo}
    (ends : (run start).EndsAlike same (.matched result) after)
    (rest : ∀ other, same result other →
      (next other after).EndsAlike following outcome final) :
    ((run >>= next) start).EndsAlike following outcome final := by
  obtain ⟨outcomes, rfl⟩ := ends
  obtain ⟨other, rightEnds, results⟩ := outcomes.exists_of_matched
  obtain ⟨restOutcomes, restMemo⟩ := rest other results
  rw [Run.bind_of_matched rightEnds]
  exact ⟨restOutcomes, restMemo⟩

theorem bind_mismatch
    (ends : (run start).EndsAlike same .mismatch after)
    (next : β → Run δ) :
    ((run >>= next) start).EndsAlike following .mismatch after := by
  obtain ⟨outcomes, rfl⟩ := ends
  generalize rightEnds : (run start).outcome = rightOutcome at outcomes
  cases outcomes with
  | mismatch =>
      rw [Run.bind_of_mismatch rightEnds]
      exact ⟨.mismatch, rfl⟩

theorem attempt
    {answer : Option α}
    (ends : (run start).EndsAlike same (.ofOption answer) after) :
    (run.attempt start).EndsAlike (Option.Rel same) (.matched answer) after := by
  obtain ⟨outcomes, rfl⟩ := ends
  generalize rightEnds : (run start).outcome = rightOutcome at outcomes
  cases answer with
  | none =>
      cases outcomes with
      | mismatch =>
          rw [Run.attempt_of_mismatch rightEnds]
          exact ⟨.matched .none, rfl⟩
  | some result =>
      cases outcomes with
      | matched results =>
          rw [Run.attempt_of_matched rightEnds]
          exact ⟨.matched (.some results), rfl⟩

end Report.EndsAlike
end Matching

open Matching

namespace Matcher

/-- The report of a run beside another run, which ends alike from the same memory,
and again from any memory with the answers. -/
structure Replayed
    (matcher : Matcher)
    (names : String → Prop)
    (depth : Nat)
    (stream : List Value)
    (same : α → β → Prop)
    (memo : Memo)
    (report : Report α)
    (run : Run β) : Prop where
  holds : (matcher.budget names depth).holds stream report.memo
  settled : memo.Settled report.memo
  alongside : (run memo).EndsAlike same report.outcome report.memo
  again : ∀ later, report.memo.AnsweredBy later →
    (run later).EndsAlike same report.outcome later

/-- A run that another one replays, unless it ends with a fault. -/
def Replays
    (matcher : Matcher)
    (names : String → Prop)
    (depth : Nat)
    (stream : List Value)
    (same : α → β → Prop)
    (left : Run α)
    (right : Run β) : Prop :=
  ∀ memo, (matcher.budget names depth).holds stream memo → memo.Idle names →
    (∀ fault, (left memo).outcome ≠ .fault fault) →
      matcher.Replayed names depth stream same memo (left memo) right

namespace Replays

variable
  {matcher : Matcher}
  {names : String → Prop}
  {depth : Nat}
  {stream : List Value}
  {same : α → β → Prop}
  {left : Run α}
  {right : Run β}

theorem done
    {result : α}
    {other : β}
    (results : same result other) :
    matcher.Replays names depth stream same (pure result) (pure other) :=
  fun memo holds _ _ => ⟨holds, .refl memo, ⟨.matched results, rfl⟩,
    fun _ _ => ⟨.matched results, rfl⟩⟩

theorem mismatch :
    matcher.Replays names depth stream same Run.mismatch Run.mismatch :=
  fun memo holds _ _ => ⟨holds, .refl memo, ⟨.mismatch, rfl⟩, fun _ _ => ⟨.mismatch, rfl⟩⟩

theorem bind
    {following : γ → δ → Prop}
    {leftNext : α → Run γ}
    {rightNext : β → Run δ}
    (first : matcher.Replays names depth stream same left right)
    (next : ∀ result other, same result other →
      matcher.Replays names depth stream following (leftNext result) (rightNext other)) :
    matcher.Replays names depth stream following (left >>= leftNext) (right >>= rightNext) := by
  intro memo holds idle going
  cases ends : (left memo).outcome with
  | fault fault =>
      rw [Run.bind_of_fault ends] at going
      exact absurd rfl (going fault)
  | mismatch =>
      obtain ⟨stillHolds, settled, alongside, again⟩ :=
        first memo holds idle (Outcome.ne_fault_of_mismatch ends)
      rw [ends] at alongside again
      rw [Run.bind_of_mismatch ends]
      exact ⟨stillHolds, settled, alongside.bind_mismatch rightNext,
        fun later answered => (again later answered).bind_mismatch rightNext⟩
  | matched result =>
      obtain ⟨stillHolds, settled, alongside, again⟩ :=
        first memo holds idle (Outcome.ne_fault_of_matched ends)
      rw [ends] at alongside again
      rw [Run.bind_of_matched ends] at going ⊢
      have rest := fun other results => next result other results (left memo).memo stillHolds
        (idle.settled settled) going
      obtain ⟨other, -, results⟩ := alongside.outcomes.exists_of_matched
      have restSettled := (rest other results).settled
      refine ⟨(rest other results).holds, settled.trans restSettled,
        alongside.bind_matched fun other results => (rest other results).alongside, ?_⟩
      intro later answered
      have known := restSettled.answeredBy.trans answered
      exact (again later known).bind_matched fun other results =>
        (rest other results).again later answered

theorem attempt
    (replays : matcher.Replays names depth stream same left right) :
    matcher.Replays names depth stream (Option.Rel same) left.attempt right.attempt := by
  intro memo holds idle going
  rcases (left memo).outcome.fault_or_ofOption with ⟨fault, ends⟩ | ⟨answer, ends⟩
  · rw [Run.attempt_of_fault ends] at going
    exact absurd rfl (going fault)
  · obtain ⟨stillHolds, settled, alongside, again⟩ :=
      replays memo holds idle (by rw [ends]; exact Outcome.ofOption_ne_fault answer)
    rw [ends] at alongside again
    have attempted : left.attempt memo = ⟨.matched answer, (left memo).memo,
        (left memo).journal⟩ := by
      cases answer with
      | none => exact Run.attempt_of_mismatch ends
      | some result => exact Run.attempt_of_matched ends
    rw [attempted]
    exact ⟨stillHolds, settled, alongside.attempt, fun later answered =>
      (again later answered).attempt⟩

theorem within
    {inner : List Value}
    (inside : Inside stream inner)
    (replays : matcher.Replays names depth inner same left right) :
    matcher.Replays names depth stream same (Run.within left) (Run.within right) := by
  intro memo holds _ going
  have report := replays Memo.empty ((matcher.budget names depth).inner holds inside)
    (.empty names) going
  exact ⟨holds, .refl memo, ⟨report.alongside.outcomes, rfl⟩,
    fun later _ => ⟨report.alongside.outcomes, rfl⟩⟩

end Replays

/-- Runs that are replayed form a simulation. -/
def replaying (matcher : Matcher) (names : String → Prop) (depth : Nat) : Simulation Unit where
  alike := Eq
  Related stream offset same left right :=
    offset = 0 → matcher.Replays names depth stream same left (right ())
  alike_refl := @Eq.refl Value
  alike_list := @Value.list_eq_of_forall₂
  done results _ := .done results
  mismatch _ := .mismatch
  andThen first next start :=
    (first start).bind fun result other results => next result other results start
  attempt related start := (related start).attempt
  within inside related _ := (related rfl).within inside

section Applications

variable
  {matcher : Matcher}
  {names : String → Prop}
  {depth : Nat}
  {stream : List Value}
  {name : String}
  {position : Nat}
  {memo : Memo}

/-- An application that is not in progress is answered afterwards, unless it ends
with a fault. -/
theorem answered_of_applyWithin
    (closed : matcher.Closed names)
    (named : names name)
    (inside : position ≤ stream.length)
    (holds : (matcher.budget names depth).holds stream memo)
    (idle : memo.Idle names)
    (going : ∀ fault,
      (matcher.applyWithin depth stream name position memo).outcome ≠ .fault fault) :
    ∃ before rule answer, depth = before + 1 ∧ matcher.grammar.rule? name = some rule ∧
      (matcher.applyWithin depth stream name position memo).outcome = .ofOption answer ∧
      (matcher.applyWithin depth stream name position memo).memo.find? rule.name position =
        some (.done answer) := by
  cases depth with
  | zero => exact absurd holds.2 (Nat.not_lt_zero _)
  | succ depth =>
      change ∀ fault, (matcher.applyWith (matcher.applyWithin depth) stream name position
        memo).outcome ≠ .fault fault at going
      change ∃ before rule answer, depth + 1 = before + 1 ∧ matcher.grammar.rule? name = some rule ∧
        (matcher.applyWith (matcher.applyWithin depth) stream name position memo).outcome =
          .ofOption answer ∧
        (matcher.applyWith (matcher.applyWithin depth) stream name position memo).memo.find?
          rule.name position = some (.done answer)
      cases found : matcher.grammar.rule? name with
      | none =>
          rw [applyWith_of_undefined found] at going
          exact absurd rfl (going _)
      | some rule =>
          obtain rfl := Grammar.name_of_rule? found
          rcases known : memo.find? rule.name position with _ | (reentered | answer)
          · have report := explores_evaluate (matcher.applyWithin_respects closed depth) closed
              named found inside known holds
            cases ends : (matcher.evaluate (matcher.applyWithin depth) rule stream position
                memo).outcome with
            | fault fault =>
                rw [applyWith_of_fault found known ends] at going
                exact absurd rfl (going fault)
            | mismatch => exact absurd ends report.stays
            | matched answer =>
                obtain ⟨-, reached, -, noted⟩ := report.answered ends
                rw [applyWith_of_evaluated found known ends]
                refine ⟨depth, rule, answer, rfl, rfl, rfl, ?_⟩
                rw [noted, Memo.find?_put_self]
          · exact absurd known (idle named)
          · rw [applyWith_of_done found known]
            exact ⟨depth, rule, answer, rfl, rfl, rfl, known⟩

/-- Applications are replayed. -/
theorem applyWithin_replays
    (closed : matcher.Closed names)
    (depth : Nat) :
    (matcher.replaying names depth).AppliersAgree names (matcher.applyWithin depth)
      fun _ => matcher.applyWithin depth := by
  intro stream offset position name named inside start memo holds idle going
  subst start
  replace inside : position ≤ stream.length := inside
  have report := matcher.applyWithin_respects closed depth named inside holds
  obtain ⟨before, rule, answer, rfl, found, ends, known⟩ :=
    answered_of_applyWithin closed named inside holds idle going
  have alike : Outcome.Rel ((matcher.replaying names (before + 1)).HitsAlike stream 0 position)
      (.ofOption answer) (.ofOption answer) := by
    cases answer with
    | none => exact .mismatch
    | some hit =>
        obtain ⟨start, finish⟩ := report.matched hit ends
        exact .matched ⟨rfl, rfl, start, finish⟩
  have answered : ∀ later : Memo, later.find? rule.name position = some (.done answer) →
      (matcher.applyWithin (before + 1) stream name position later).EndsAlike
        ((matcher.replaying names (before + 1)).HitsAlike stream 0 position)
        (.ofOption answer) later := by
    intro later again
    change (matcher.applyWith (matcher.applyWithin before) stream name position later).EndsAlike
      _ _ _
    rw [applyWith_of_done found again]
    exact ⟨alike, rfl⟩
  change matcher.Replayed names (before + 1) stream
    ((matcher.replaying names (before + 1)).HitsAlike stream 0 position) memo
    (matcher.applyWithin (before + 1) stream name position memo)
    (matcher.applyWithin (before + 1) stream name position)
  refine ⟨report.holds going, report.changed going, ⟨?_, rfl⟩, ?_⟩
  · rw [ends]
    exact alike
  · intro later knows
    rw [ends]
    exact answered later (knows known)

end Applications

end Matcher
end Heirloom
