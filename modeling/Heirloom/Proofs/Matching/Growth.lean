import Heirloom.Proofs.Matching.Invariant

/-!
# Evaluation of rules

While a rule is evaluated its body is evaluated in rounds, each from the memory
that the last one left. What every round keeps and what stays true when a match
is noted is kept by the whole evaluation, which then notes its answer.
-/

namespace Heirloom

open Matching

namespace Matcher

/-- A report that keeps a property of the memory, unless it is one of a fault, and
has matches and faults of a kind. -/
structure Kept
    (during : Memo → Prop)
    (good : Hit → Prop)
    (allowed : Fault → Prop)
    (report : Report Hit) : Prop where
  going : (∀ fault, report.outcome ≠ .fault fault) → during report.memo
  matched : ∀ {hit : Hit}, report.outcome = .matched hit → good hit
  faulted : ∀ {fault : Fault}, report.outcome = .fault fault → allowed fault

/-- What is kept in every round of an evaluation, and when a match is noted. -/
structure Rounds
    (matcher : Matcher)
    (apply : Applier)
    (rule : Rule)
    (stream : List Value)
    (position : Nat)
    (during : Memo → Prop)
    (good : Hit → Prop)
    (allowed : Fault → Prop) : Prop where
  kept : ∀ {memo : Memo}, during memo →
    Kept during good allowed (matcher.invoke apply rule stream position memo)
  noted : ∀ {memo : Memo} {hit : Hit}, during memo → good hit →
    during (Memo.put rule.name (.done (some hit)) position memo)
  bounded : ∀ {hit : Hit}, good hit → hit.Bounded stream position

/-- How the evaluation of a rule ends: with an answer that is noted at last, or
with a fault. -/
structure Evaluates
    (rule : Rule)
    (position : Nat)
    (during : Memo → Prop)
    (good : Hit → Prop)
    (allowed : Fault → Prop)
    (report : Report (Option Hit)) : Prop where
  stays : report.outcome ≠ .mismatch
  answered : ∀ {answer : Option Hit}, report.outcome = .matched answer →
    (∀ hit, answer = some hit → good hit) ∧
      ∃ memo, during memo ∧ report.memo = Memo.put rule.name (.done answer) position memo
  faulted : ∀ {fault : Fault}, report.outcome = .fault fault → allowed fault

namespace Rounds

variable
  {matcher : Matcher}
  {apply : Applier}
  {rule : Rule}
  {stream : List Value}
  {position : Nat}
  {during : Memo → Prop}
  {good : Hit → Prop}
  {allowed : Fault → Prop}
  {memo : Memo}

/-- A match gets longer in every round but the last one, so it is grown within
the bound on rounds. -/
theorem grow
    (each : matcher.Rounds apply rule stream position during good allowed)
    (rounds : Nat) :
    ∀ (best : Hit) (memo : Memo), during memo → good best →
      stream.length < rounds + best.finish →
        Kept during good allowed (matcher.grow apply rule stream position rounds best memo) := by
  induction rounds with
  | zero =>
      intro best memo _ fits enough
      have finish := (each.bounded fits).2
      omega
  | succ rounds inductionHypothesis =>
      intro best memo reached fits enough
      have kept := each.kept (each.noted reached fits)
      generalize again : matcher.invoke apply rule stream position
        (Memo.put rule.name (.done (some best)) position memo) = report at kept
      cases ends : report.outcome with
      | fault fault =>
          rw [grow_of_fault again ends]
          exact ⟨fun going => absurd rfl (going fault), nofun,
            by rintro _ ⟨⟩; exact kept.faulted ends⟩
      | mismatch =>
          rw [grow_of_mismatch again ends]
          exact ⟨fun _ => kept.going (Outcome.ne_fault_of_mismatch ends),
            by rintro _ ⟨⟩; exact fits, nofun⟩
      | matched hit =>
          have going := kept.going (Outcome.ne_fault_of_matched ends)
          by_cases longer : best.finish < hit.finish
          · rw [grow_of_longer again ends longer rfl]
            have rest := inductionHypothesis hit report.memo going (kept.matched ends) (by omega)
            exact ⟨rest.going, rest.matched, rest.faulted⟩
          · rw [grow_of_not_longer again ends (Nat.not_lt.mp longer)]
            exact ⟨fun _ => going, by rintro _ ⟨⟩; exact fits, nofun⟩

/-- What every round keeps is kept by the whole evaluation. -/
theorem evaluate
    (each : matcher.Rounds apply rule stream position during good allowed)
    (start : during (Memo.put rule.name (.pending false) position memo)) :
    Evaluates rule position during good allowed
      (matcher.evaluate apply rule stream position memo) := by
  have kept := each.kept start
  generalize first : matcher.invoke apply rule stream position
    (Memo.put rule.name (.pending false) position memo) = report at kept
  cases ends : report.outcome with
  | fault fault =>
      rw [evaluate_of_fault first ends]
      exact ⟨nofun, nofun, by rintro _ ⟨⟩; exact kept.faulted ends⟩
  | mismatch =>
      rw [evaluate_of_mismatch first ends]
      refine ⟨nofun, ?_, nofun⟩
      rintro _ ⟨⟩
      exact ⟨nofun, report.memo, kept.going (Outcome.ne_fault_of_mismatch ends), rfl⟩
  | matched hit =>
      have going := kept.going (Outcome.ne_fault_of_matched ends)
      have fits := kept.matched ends
      by_cases met : report.memo.find? rule.name position = some (.pending true)
      · have growth := each.grow (roundLimit stream position) hit report.memo going
          fits (by have := (each.bounded fits).1; unfold roundLimit; omega)
        have stays : (matcher.grow apply rule stream position (roundLimit stream position)
          hit report.memo).outcome ≠ .mismatch := grow_ne_mismatch _ _ _
        generalize grows : matcher.grow apply rule stream position (roundLimit stream position)
          hit report.memo = grown at growth stays
        cases grownEnds : grown.outcome with
        | fault fault =>
            rw [evaluate_of_grow_fault first ends met grows grownEnds]
            exact ⟨nofun, nofun, by rintro _ ⟨⟩; exact growth.faulted grownEnds⟩
        | mismatch => exact absurd grownEnds stays
        | matched best =>
            rw [evaluate_of_grown first ends met grows grownEnds]
            refine ⟨nofun, ?_, nofun⟩
            rintro _ ⟨⟩
            exact ⟨by rintro _ ⟨⟩; exact growth.matched grownEnds, grown.memo,
              growth.going (Outcome.ne_fault_of_matched grownEnds), rfl⟩
      · rw [evaluate_of_settled first ends met]
        refine ⟨nofun, ?_, nofun⟩
        rintro _ ⟨⟩
        exact ⟨by rintro _ ⟨⟩; exact fits, report.memo, going, rfl⟩

end Rounds

/-- An evaluation that does not end with a fault has an answer and notes it. -/
theorem evaluate_answers
    (matcher : Matcher)
    (apply : Applier)
    (rule : Rule)
    (stream : List Value)
    (position : Nat)
    (memo : Memo) :
    (∃ fault, (matcher.evaluate apply rule stream position memo).outcome = .fault fault) ∨
      ∃ answer, (matcher.evaluate apply rule stream position memo).outcome = .matched answer ∧
        (matcher.evaluate apply rule stream position memo).memo.find? rule.name position =
          some (.done answer) := by
  generalize first : matcher.invoke apply rule stream position
    (Memo.put rule.name (.pending false) position memo) = report
  cases ends : report.outcome with
  | fault fault =>
      rw [evaluate_of_fault first ends]
      exact .inl ⟨fault, rfl⟩
  | mismatch =>
      rw [evaluate_of_mismatch first ends]
      exact .inr ⟨none, rfl, Memo.find?_put_self _ _ _ _⟩
  | matched hit =>
      by_cases met : report.memo.find? rule.name position = some (.pending true)
      · generalize grows : matcher.grow apply rule stream position (roundLimit stream position)
          hit report.memo = grown
        cases grownEnds : grown.outcome with
        | fault fault =>
            rw [evaluate_of_grow_fault first ends met grows grownEnds]
            exact .inl ⟨fault, rfl⟩
        | mismatch => exact absurd (grows ▸ grownEnds) (grow_ne_mismatch _ _ _)
        | matched best =>
            rw [evaluate_of_grown first ends met grows grownEnds]
            exact .inr ⟨some best, rfl, Memo.find?_put_self _ _ _ _⟩
      · rw [evaluate_of_settled first ends met]
        exact .inr ⟨some hit, rfl, Memo.find?_put_self _ _ _ _⟩

/-- An application respects an invariant if the evaluation of its rule does. -/
theorem applyWith_respects
    {matcher : Matcher}
    {invariant : Invariant}
    {apply : Applier}
    {stream : List Value}
    {name : String}
    {position : Nat}
    {memo : Memo}
    (holds : invariant.holds stream memo)
    (undefined : matcher.grammar.rule? name = none →
      invariant.allowed (.undefinedRule matcher.grammar.name name))
    (pending : ∀ reentered, memo.find? name position = some (.pending reentered) →
      invariant.holds stream (Memo.put name (.pending true) position memo) ∧
        invariant.changed memo (Memo.put name (.pending true) position memo))
    (known : ∀ hit, memo.find? name position = some (.done (some hit)) →
      hit.Bounded stream position)
    (evaluated : ∀ rule, matcher.grammar.rule? name = some rule → rule.name = name →
      memo.find? name position = none →
        (matcher.evaluate apply rule stream position memo).outcome ≠ .mismatch ∧
          invariant.Respects stream (fun answer => ∀ hit, answer = some hit →
            hit.Bounded stream position) memo
            (matcher.evaluate apply rule stream position memo)) :
    invariant.Respects stream (Hit.Bounded stream position) memo
      (matcher.applyWith apply stream name position memo) := by
  cases found : matcher.grammar.rule? name with
  | none =>
      rw [applyWith_of_undefined found]
      exact .of_fault rfl (undefined found)
  | some rule =>
      obtain rfl := Grammar.name_of_rule? found
      rcases entry : memo.find? rule.name position with _ | (reentered | answer)
      · obtain ⟨stays, report⟩ := evaluated rule found rfl entry
        cases ends : (matcher.evaluate apply rule stream position memo).outcome with
        | matched answer =>
            have going := Outcome.ne_fault_of_matched ends
            rw [applyWith_of_evaluated found entry ends]
            refine ⟨fun _ => report.holds going, fun _ => report.changed going, ?_,
              fun fault faulted => absurd faulted (Outcome.ofOption_ne_fault answer fault)⟩
            intro hit matched
            cases answer with
            | none => cases matched
            | some best =>
                cases matched
                exact report.matched _ ends _ rfl
        | mismatch => exact absurd ends stays
        | fault fault =>
            rw [applyWith_of_fault found entry ends]
            exact .of_fault rfl (report.faulted fault ends)
      · rw [applyWith_of_pending found entry]
        obtain ⟨held, changed⟩ := pending reentered entry
        exact ⟨fun _ => held, fun _ => changed, nofun, nofun⟩
      · rw [applyWith_of_done found entry]
        refine .still holds ?_ (Outcome.ofOption_ne_fault answer)
        intro hit matched
        cases answer with
        | none => cases matched
        | some best =>
            cases matched
            exact known hit entry

end Matcher
end Heirloom
