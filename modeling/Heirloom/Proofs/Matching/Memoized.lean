import Heirloom.Proofs.Matching.Invariant

/-!
# Simulations of memoized applications

Two matchers that memoize can be compared step by step: they look up entries
alike, note entries alike and grow their matches in the same rounds. So a
simulation that respects the operations on the memory relates the applications
of both, as soon as it relates the applications inside.
-/

namespace Heirloom
namespace Matching

/-! ## Runs on one stream -/

/-- A relation between runs on one stream that results, sequences and attempts
respect. -/
structure Sequencing (ι : Type) where
  Related {α β : Type} : (α → β → Prop) → Run α → (ι → Run β) → Prop
  done : ∀ {α β : Type} {same : α → β → Prop} {left : α} {right : β}, same left right →
    Related same (pure left) fun _ => pure right
  andThen : ∀ {α β γ δ : Type} {same : α → β → Prop} {following : γ → δ → Prop}
    {left : Run α} {right : ι → Run β} {leftNext : α → Run γ} {rightNext : ι → β → Run δ},
    Related same left right →
      (∀ leftResult rightResult, same leftResult rightResult →
        Related following (leftNext leftResult) fun index => rightNext index rightResult) →
      Related following (left >>= leftNext) fun index => right index >>= rightNext index
  attempt : ∀ {α β : Type} {same : α → β → Prop} {left : Run α} {right : ι → Run β},
    Related same left right →
      Related (Option.Rel same) left.attempt fun index => (right index).attempt

/-- A relation between runs that respects the operations on what is known of one
application on each side, for matches that get longer on both sides or on neither. -/
structure Sequencing.RespectsPlace
    {ι : Type}
    (seq : Sequencing ι)
    (same : Hit → Hit → Prop)
    (rule rightRule : String)
    (position rightPosition : Nat) : Prop where
  noted : ∀ {answer rightAnswer : Option Hit}, Option.Rel same answer rightAnswer →
    seq.Related (fun _ _ => True) (Run.remember rule position (.done answer))
      fun _ => Run.remember rightRule rightPosition (.done rightAnswer)
  met : seq.Related
    (fun entry rightEntry => entry = some (.pending true) ↔ rightEntry = some (.pending true))
    (Run.consult rule position) fun _ => Run.consult rightRule rightPosition
  failed : ∀ {α β : Type} {results : α → β → Prop},
    seq.Related results (Run.fail .exhausted) fun _ => Run.fail .exhausted
  longer : ∀ {best rightBest hit rightHit : Hit}, same best rightBest → same hit rightHit →
    (best.finish < hit.finish ↔ rightBest.finish < rightHit.finish)

/-! ## Simulations that respect the memory -/

namespace Simulation

variable {ι : Type}

/-- Entries for the same state of an application, with answers alike. -/
inductive EntriesAlike
    (sim : Simulation ι)
    (stream : List Value)
    (offset position : Nat) : Entry → Entry → Prop
  | pending (reentered : Bool) :
      EntriesAlike sim stream offset position (.pending reentered) (.pending reentered)
  | done {answer rightAnswer : Option Hit} :
      Option.Rel (sim.HitsAlike stream offset (position + offset)) answer rightAnswer →
        EntriesAlike sim stream offset position (.done answer) (.done rightAnswer)

/-- If only equal values are alike, then so are only equal entries of a stream. -/
theorem EntriesAlike.eq
    {sim : Simulation ι}
    (exact : ∀ {left right : Value}, sim.alike left right → left = right)
    {stream : List Value}
    {position : Nat}
    {entry rightEntry : Entry}
    (entries : sim.EntriesAlike stream 0 position entry rightEntry) :
    entry = rightEntry := by
  cases entries with
  | pending reentered => rfl
  | done answers => rw [answers_eq exact answers]

/-- An answer is alike itself, as long as its match lies in the stream. -/
theorem answers_refl
    (sim : Simulation ι)
    {stream : List Value}
    {position : Nat}
    {answer : Option Hit}
    (bounded : ∀ {hit : Hit}, answer = some hit → hit.Bounded stream position) :
    Option.Rel (sim.HitsAlike stream 0 position) answer answer := by
  cases answer with
  | none => exact .none
  | some hit =>
      obtain ⟨starts, ends⟩ := bounded rfl
      exact .some ⟨sim.alike_refl _, rfl, starts, ends⟩

/-- What is known at a place is alike itself, as long as matches lie in the stream. -/
theorem entriesAlike_find?
    (sim : Simulation ι)
    {stream : List Value}
    {memo : Memo}
    (bounded : memo.Bounded stream)
    (rule : String)
    (position : Nat) :
    Option.Rel (sim.EntriesAlike stream 0 position) (memo.find? rule position)
      (memo.find? rule position) := by
  rcases known : memo.find? rule position with _ | (reentered | answer)
  · exact .none
  · exact .some (.pending reentered)
  · exact .some (.done (sim.answers_refl fun matched => bounded (matched ▸ known)))

/-- An entry alike another one may be noted, as its match lies in the stream. -/
theorem EntriesAlike.bounded_put
    {sim : Simulation ι}
    {stream : List Value}
    {position : Nat}
    {entry rightEntry : Entry}
    (entries : sim.EntriesAlike stream 0 position entry rightEntry)
    {memo : Memo}
    (bounded : memo.Bounded stream)
    (rule : String) :
    (Memo.put rule entry position memo).Bounded stream := by
  refine bounded.put ?_
  rintro hit rfl
  cases entries with
  | done answers =>
      cases answers with
      | some hits => exact ⟨hits.reaches.start_le, hits.reaches.le_length⟩

/-- A simulation that respects the operations on the memory of some rules, what is
told and how runs fail. -/
structure RespectsMemory (sim : Simulation ι) (names : String → Prop) : Prop where
  consult : ∀ {stream : List Value} {offset position : Nat} {rule : String}, names rule →
    sim.Related stream offset (Option.Rel (sim.EntriesAlike stream offset position))
      (Run.consult rule (position + offset)) fun _ => Run.consult rule position
  remember : ∀ {stream : List Value} {offset position : Nat} {rule : String}
    {entry rightEntry : Entry}, names rule →
      sim.EntriesAlike stream offset position entry rightEntry →
      sim.Related stream offset (fun _ _ => True)
        (Run.remember rule (position + offset) entry)
        fun _ => Run.remember rule position rightEntry
  entered : ∀ {stream : List Value} {offset position : Nat} (rule : String),
    sim.Related stream offset (fun _ _ => True)
      (Run.tell (.entered rule (position + offset))) fun _ => Run.tell (.entered rule position)
  left : ∀ {stream : List Value} {offset position : Nat} (rule : String)
    (result rightResult : Option Completion),
      Option.Rel (sim.CompletionsAlike stream offset (position + offset)) result rightResult →
      sim.Related stream offset (fun _ _ => True)
        (Run.tell (.left rule (position + offset) result))
        fun _ => Run.tell (.left rule position rightResult)
  reentered : ∀ {stream : List Value} {offset position : Nat} (rule : String),
    sim.Related stream offset (fun _ _ => True)
      (Run.tell (.reentered rule (position + offset)))
      fun _ => Run.tell (.reentered rule position)
  answered : ∀ {stream : List Value} {offset position : Nat} (rule : String)
    {answer rightAnswer : Option Hit},
      Option.Rel (sim.HitsAlike stream offset (position + offset)) answer rightAnswer →
      sim.Related stream offset (fun _ _ => True)
        (Run.tell (.answered rule (position + offset) answer))
        fun _ => Run.tell (.answered rule position rightAnswer)
  failed : ∀ {α β : Type} {stream : List Value} {offset : Nat} {same : α → β → Prop}
    (fault : Fault), sim.Related stream offset same (Run.fail fault) fun _ => Run.fail fault

/-- Answers alike are given in related ways. -/
theorem ofOption_related
    {α β : Type}
    (sim : Simulation ι)
    {stream : List Value}
    {offset : Nat}
    {same : α → β → Prop}
    {answer : Option α}
    {rightAnswer : Option β}
    (answers : Option.Rel same answer rightAnswer) :
    sim.Related stream offset same (Run.ofOption answer) fun _ => Run.ofOption rightAnswer := by
  cases answers with
  | some results => exact sim.done results
  | none => exact sim.mismatch

/-- What is related on a stream. -/
def sequencing (sim : Simulation ι) (stream : List Value) (offset : Nat) : Sequencing ι where
  Related same left right := sim.Related stream offset same left right
  done := sim.done
  andThen := sim.andThen
  attempt := sim.attempt

/-- Where the operations on the memory are respected, they are at each place. -/
theorem RespectsMemory.respectsPlace
    {sim : Simulation ι}
    {names : String → Prop}
    (memory : sim.RespectsMemory names)
    {rule : String}
    (named : names rule)
    (stream : List Value)
    (offset position : Nat) :
    (sim.sequencing stream offset).RespectsPlace
      (sim.HitsAlike stream offset (position + offset)) rule rule (position + offset)
      position where
  noted answers := memory.remember named (.done answers)
  met := by
    refine sim.weaken ?_ (memory.consult named)
    rintro _ _ (entries | _)
    · cases entries with
      | pending reentered => exact Iff.rfl
      | done answers => exact ⟨nofun, nofun⟩
    · exact Iff.rfl
  failed := memory.failed .exhausted
  longer bests hits := by
    have finishes := bests.reaches.eq_add
    have hitFinishes := hits.reaches.eq_add
    omega

end Simulation
end Matching

open Matching Simulation

namespace Matcher

variable
  {ι : Type}
  {sim : Simulation ι}
  {names : String → Prop}
  {matcher rightMatcher : Matcher}
  {apply : Applier}
  {rightApply : ι → Applier}
  {rule : Rule}
  {stream : List Value}
  {offset position : Nat}

/-! ## Evaluations in related rounds -/

section Rounds

variable
  {seq : Sequencing ι}
  {same : Hit → Hit → Prop}
  {rightRule : Rule}
  {rightStream : List Value}
  {rightPosition : Nat}

/-- Matches grow in the same rounds if the rules are invoked in related ways. -/
theorem grow_related
    (place : seq.RespectsPlace same rule.name rightRule.name position rightPosition)
    (invoked : seq.Related same (matcher.invoke apply rule stream position)
      fun index => rightMatcher.invoke (rightApply index) rightRule rightStream rightPosition)
    (rounds : Nat) :
    ∀ best rightBest, same best rightBest →
      seq.Related same (matcher.grow apply rule stream position rounds best)
        fun index =>
          rightMatcher.grow (rightApply index) rightRule rightStream rightPosition rounds
            rightBest := by
  induction rounds with
  | zero =>
      intro best rightBest _
      exact place.failed
  | succ rounds inductionHypothesis =>
      intro best rightBest bests
      simp only [grow]
      refine seq.andThen (place.noted (.some bests)) ?_
      rintro _ _ -
      refine seq.andThen (seq.attempt invoked) ?_
      rintro _ _ (hits | _)
      · next hit rightHit =>
          simp only [place.longer bests hits]
          split
          · exact inductionHypothesis hit rightHit hits
          · exact seq.done bests
      · exact seq.done bests

/-- Evaluate a rule that has been noted as in progress. -/
def complete
    (matcher : Matcher)
    (apply : Applier)
    (rule : Rule)
    (stream : List Value)
    (position : Nat) : Run (Option Hit) := do
  let first ← (matcher.invoke apply rule stream position).attempt
  let result ← match first, ← Run.consult rule.name position with
    | some hit, some (.pending true) => do
        let best ← matcher.grow apply rule stream position (roundLimit stream position) hit
        pure (some best)
    | _, _ => pure first
  Run.remember rule.name position (.done result)
  return result

/-- A rule is evaluated once it has been noted as in progress. -/
theorem evaluate_eq :
    matcher.evaluate apply rule stream position =
      Run.remember rule.name position (.pending false) >>= fun _ =>
        matcher.complete apply rule stream position := rfl

/-- What is left of an evaluation goes on from a memory that notes the rule as in progress. -/
theorem evaluate_apply (memo : Memo) :
    matcher.evaluate apply rule stream position memo =
      matcher.complete apply rule stream position
        (Memo.put rule.name (.pending false) position memo) := by
  rw [evaluate_eq, Run.remember_bind]

/-- Rules are evaluated in related ways if they are invoked in related ways. -/
theorem complete_related
    (place : seq.RespectsPlace same rule.name rightRule.name position rightPosition)
    (limits : roundLimit stream position = roundLimit rightStream rightPosition)
    (invoked : seq.Related same (matcher.invoke apply rule stream position)
      fun index => rightMatcher.invoke (rightApply index) rightRule rightStream rightPosition) :
    seq.Related (Option.Rel same) (matcher.complete apply rule stream position)
      fun index =>
        rightMatcher.complete (rightApply index) rightRule rightStream rightPosition := by
  simp only [complete]
  refine seq.andThen (seq.attempt invoked) ?_
  intro first rightFirst firsts
  refine seq.andThen place.met ?_
  intro entry rightEntry entries
  have notes : ∀ answer rightAnswer, Option.Rel same answer rightAnswer →
      seq.Related (Option.Rel same)
        (Run.remember rule.name position (.done answer) >>= fun _ => pure answer)
        fun _ => Run.remember rightRule.name rightPosition (.done rightAnswer) >>= fun _ =>
          pure rightAnswer := by
    intro answer rightAnswer answers
    refine seq.andThen (place.noted answers) ?_
    rintro _ _ -
    exact seq.done answers
  cases firsts with
  | none => simpa only [pure_bind] using notes none none .none
  | some hits =>
      by_cases met : entry = some (.pending true)
      · obtain rfl := met
        obtain rfl := entries.mp rfl
        simp only [limits, pure_bind]
        refine seq.andThen (grow_related place invoked _ _ _ hits) ?_
        intro best rightBest bests
        exact notes _ _ (.some bests)
      · have rightMet := mt entries.mpr met
        split
        · exact absurd rfl met
        · split
          · exact absurd rfl rightMet
          · simpa only [pure_bind] using notes _ _ (.some hits)

end Rounds

/-- Applications of a rule that both matchers find are related if those inside are,
and if the actions keep values alike. The memory of the rule itself is respected;
what its body applies may be more. -/
theorem applyWith_related_of_found
    {name : String}
    {reached : String → Prop}
    (memory : sim.RespectsMemory names)
    (named : names name)
    (found : matcher.grammar.rule? name = some rule)
    (rightFound : rightMatcher.grammar.rule? name = some rule)
    (applied : ∀ other ∈ rule.body.references, reached other)
    (acts : ∀ (scope rightScope : Bindings) (value rightValue : Value),
      sim.ScopesAlike scope rightScope → sim.alike value rightValue →
        sim.alike (matcher.actions.apply name scope value)
          (rightMatcher.actions.apply name rightScope rightValue))
    (contexts : sim.Agree reached (matcher.contextFor apply rule)
      fun index => rightMatcher.contextFor (rightApply index) rule)
    (inside : position + offset ≤ stream.length) :
    sim.Related stream offset (sim.HitsAlike stream offset (position + offset))
      (matcher.applyWith apply stream name (position + offset))
      fun index => rightMatcher.applyWith (rightApply index) (stream.drop offset) name
        position := by
  obtain rfl := Grammar.name_of_rule? found
  simp only [applyWith, found, rightFound]
  refine sim.andThen (memory.consult named) ?_
  rintro _ _ (entries | _)
  · cases entries with
    | pending reentered =>
        refine sim.andThen (memory.remember named (.pending true)) ?_
        rintro _ _ -
        refine sim.andThen (memory.reentered rule.name) ?_
        rintro _ _ -
        exact sim.mismatch
    | done answers =>
        refine sim.andThen (memory.answered rule.name answers) ?_
        rintro _ _ -
        exact sim.ofOption_related answers
  · have invoked := invoke_related contexts applied acts
      inside (memory.entered rule.name) (memory.left rule.name)
    have evaluated : sim.Related stream offset
        (Option.Rel (sim.HitsAlike stream offset (position + offset)))
        (matcher.evaluate apply rule stream (position + offset))
        fun index =>
          rightMatcher.evaluate (rightApply index) rule (stream.drop offset) position := by
      simp only [evaluate_eq]
      refine sim.andThen (memory.remember named (.pending false)) ?_
      rintro _ _ -
      exact complete_related (memory.respectsPlace named stream offset position)
        (roundLimit_drop stream offset position).symm invoked
    refine sim.andThen evaluated ?_
    intro answer rightAnswer answers
    refine sim.andThen (memory.answered rule.name answers) ?_
    rintro _ _ -
    exact sim.ofOption_related answers

/-- Applications are related if those inside are, and if both matchers find the
same rules and run actions that keep values alike. -/
theorem applyWith_related
    (memory : sim.RespectsMemory names)
    (sameRules : ∀ {name : String}, names name →
      matcher.grammar.rule? name = rightMatcher.grammar.rule? name)
    (sameFaults : ∀ {name : String}, names name → matcher.grammar.rule? name = none →
      matcher.grammar.name = rightMatcher.grammar.name)
    (applied : ∀ {name : String} {rule : Rule}, names name →
      matcher.grammar.rule? name = some rule → ∀ other ∈ rule.body.references, names other)
    (acts : ∀ (name : String) (scope rightScope : Bindings) (value rightValue : Value),
      sim.ScopesAlike scope rightScope → sim.alike value rightValue →
        sim.alike (matcher.actions.apply name scope value)
          (rightMatcher.actions.apply name rightScope rightValue))
    (contexts : ∀ rule : Rule, sim.Agree names (matcher.contextFor apply rule)
      fun index => rightMatcher.contextFor (rightApply index) rule) :
    sim.AppliersAgree names (matcher.applyWith apply)
      fun index => rightMatcher.applyWith (rightApply index) := by
  intro stream offset position name named inside
  cases found : matcher.grammar.rule? name with
  | none =>
      have rightMissing := (sameRules named).symm.trans found
      simp only [applyWith_of_undefined found, applyWith_of_undefined rightMissing,
        sameFaults named found]
      exact memory.failed _
  | some rule =>
      have rightFound := (sameRules named).symm.trans found
      exact applyWith_related_of_found memory named found rightFound (applied named found)
        (acts name) (contexts rule) inside

end Matcher
end Heirloom
