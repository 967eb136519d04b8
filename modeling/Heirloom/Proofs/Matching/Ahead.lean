import Heirloom.Proofs.Matching.LeadingBlanks

/-!
# What is ahead

A match depends only on what is ahead of it: a rule that is applied at a position comes to
what it comes to at the start of the rest of the stream. So blanks at the start of a stream
are as good as absent for a syntactic rule, which skips them.
-/

namespace Heirloom
namespace Matching

/-- No rule has a fixed answer. -/
def FixedAnswers.nothing : FixedAnswers := fun _ => none

/-- What a syntactic rule comes to on a whole stream, from what it comes to at its start:
only blanks may be behind the match. -/
def Outcome.onWhole (stream : List Value) : Outcome Hit → Outcome Value
  | .matched hit =>
      if stream.length ≤ afterBlanks stream hit.finish then .matched hit.value else .mismatch
  | .mismatch => .mismatch
  | .fault stops => .fault stops

/-- What follows a match decides how both end. -/
theorem Run.outcome_bind_of_matched
    {first : Run α}
    {memo after : Memo}
    {result : α}
    (ends : (first memo).ending = (.matched result, after))
    (next : α → Run β) :
    ((first >>= next) memo).outcome = (next result after).outcome :=
  congrArg Prod.fst (Run.ending_bind_of_matched ends)

/-- Further along a stream blanks are skipped as they are on the rest of it. -/
theorem afterBlanks_add
    (stream : List Value)
    (offset position : Nat) :
    afterBlanks stream (position + offset) =
      afterBlanks (stream.drop offset) position + offset := by
  unfold afterBlanks
  rw [List.drop_drop, Nat.add_comm offset position]
  omega

/-- What is left of a stream behind the blanks at its start. -/
theorem drop_afterBlanks (stream : List Value) :
    stream.drop (afterBlanks stream 0) = stream.dropWhile isBlank := by
  have parts : stream = leadingBlanks stream ++ stream.dropWhile isBlank :=
    List.takeWhile_append_dropWhile.symm
  rw [afterBlanks, List.drop_zero, Nat.zero_add]
  conv_lhs => rw [parts]
  exact List.drop_left' (congrArg List.length (congrArg leadingBlanks parts))

end Matching

open Matching

namespace Matcher

variable
  {matcher : Matcher}
  {stream : List Value}
  {name : String}
  {rule : Rule}
  {position depth restDepth : Nat}

/-- Whatever a rule comes to at a position, it comes to at the start of the rest of the
stream: the same fault, no match, or the same value with an end that is as far ahead. That
its bound on depth is reached is none of these. -/
theorem applied_to_what_is_ahead
    (matcher : Matcher)
    (stream : List Value)
    (name : String)
    (inside : position ≤ stream.length)
    (deep : matcher.depthLimit stream ≤ depth)
    (restDeep : matcher.depthLimit (stream.drop position) ≤ restDepth) :
    Outcome.Rel (fun hit restHit => hit = restHit.shift position)
        (matcher.applyWithin depth stream name position Memo.empty).outcome
        (matcher.applyWithin restDepth (stream.drop position) name 0 Memo.empty).outcome ∧
      (matcher.applyWithin depth stream name position Memo.empty).outcome ≠
        .fault .exhausted := by
  have goes := matcher.applyWithin_goes deep name inside (.empty stream)
  have restGoes := matcher.applyWithin_goes restDeep name (Nat.zero_le _) (.empty _)
  have lies : FixedAnswers.nothing.Inside := by
    rintro _ _ ⟨⟩
  have gives (depth : Nat) : (matcher.applyWithin depth).Gives .nothing := by
    rintro _ _ ⟨⟩
  have agree := applyWithin_shifting lies gives Memo.empty.find? depth restDepth
  have related := @agree stream position 0 name trivial (by omega)
  rw [Nat.zero_add] at related
  have start := Shifted.start inside (.empty .nothing stream) fun _ _ _ => Memo.find?_empty _ _
  refine ⟨?_, goes⟩
  rcases related Memo.empty Memo.empty start with (⟨_, rfl, stops⟩ | ⟨_, rfl, stops⟩) | report
  · exact absurd stops goes
  · exact absurd stops restGoes
  · exact report.outcomes.imp fun hits =>
      (Hit.mk.injEq ..).mpr ⟨hits.value, hits.reaches.eq_add⟩

/-- The second digit of a sum is matched as it is on what is left behind the sign. -/
theorem second_digit_is_ahead :
    let stream := Value.chars "1+2"
    (2 ≤ stream.length ∧ spacedSums.depthLimit stream ≤ spacedSums.depthLimit stream ∧
      spacedSums.depthLimit (stream.drop 2) ≤ spacedSums.depthLimit stream) ∧
    (spacedSums.applyWithin (spacedSums.depthLimit stream) stream "Sum" 2 Memo.empty).outcome =
      .matched ⟨.char '2', 3⟩ ∧
    Outcome.Rel (fun hit restHit => hit = restHit.shift 2)
      (spacedSums.applyWithin (spacedSums.depthLimit stream) stream "Sum" 2 Memo.empty).outcome
      (spacedSums.applyWithin (spacedSums.depthLimit stream) (stream.drop 2) "Sum" 0
        Memo.empty).outcome := by
  intro stream
  have inside : 2 ≤ stream.length := by decide +kernel
  have restDeep : spacedSums.depthLimit (stream.drop 2) ≤ spacedSums.depthLimit stream := by
    decide +kernel
  exact ⟨⟨inside, Nat.le_refl _, restDeep⟩, by decide +kernel,
    (applied_to_what_is_ahead spacedSums stream "Sum" inside (Nat.le_refl _) restDeep).1⟩

/-! ## Blanks at the start -/

/-- Where the first blanks have been skipped, nothing but blanks is known. -/
theorem SkipsBlanks.openAhead
    (skips : matcher.SkipsBlanks)
    (syntactic : rule.isSyntactic = true)
    (deep : matcher.depthLimit stream ≤ depth) :
    ∃ after,
      ((matcher.contextWithin depth rule).skip stream 0 Memo.empty).ending =
        (.matched (afterBlanks stream 0), after) ∧
      matcher.OpenAhead stream (afterBlanks stream 0) after := by
  obtain ⟨after, ends, truthful, same⟩ := skips.ending_skip syntactic deep (Nat.zero_le _)
    (.empty stream) (.empty _ stream)
  refine ⟨after, ends, ?_, truthful, fun free _ _ => ?_⟩
  · have agree : boundedness.simulation.Agree (fun _ => True) (matcher.contextWithin depth rule)
        fun index : Empty => matcher.contextFor index.elim rule :=
      (matcher.applyWithin_bounded depth).agree.agree fun _ _ => trivial
    have start : 0 + 0 ≤ stream.length := Nat.zero_le _
    have skipped := agree.skip start Memo.empty (.empty stream)
    have kept := skipped.holds (Outcome.ne_fault_of_matched (Report.outcome_of_ending ends))
    rwa [Report.memo_of_ending ends] at kept
  · rw [same (by simp [free]), Memo.find?_empty]

/-- A syntactic rule is matched against what is left of the stream behind the blanks at its
start. -/
theorem SkipsBlanks.matchAll_eq
    (skips : matcher.SkipsBlanks)
    (found : matcher.grammar.rule? name = some rule)
    (syntactic : rule.isSyntactic = true)
    (stream : List Value) :
    matcher.matchAll stream name = Outcome.onWhole (stream.dropWhile isBlank)
      (matcher.applyWithin (matcher.depthLimit (stream.dropWhile isBlank))
        (stream.dropWhile isBlank) name 0 Memo.empty).outcome := by
  have inside : afterBlanks stream 0 ≤ stream.length := afterBlanks_le_length (Nat.zero_le _)
  obtain ⟨after, skipped, ahead⟩ :=
    skips.openAhead syntactic (Nat.le_refl (matcher.depthLimit stream))
  have report := ahead.reports skips (Nat.le_refl _) name inside
  have outcomes := report.outcomes
  rw [← drop_afterBlanks, matchAll, run, runWith]
  simp only [found]
  generalize ends : (matcher.applyWithin (matcher.depthLimit stream) stream name
    (afterBlanks stream 0) after).outcome = outcome at outcomes
  generalize restEnds : (matcher.applyWithin
    (matcher.depthLimit (stream.drop (afterBlanks stream 0)))
    (stream.drop (afterBlanks stream 0)) name 0 Memo.empty).outcome = restOutcome at outcomes ⊢
  rw [Run.outcome_bind_of_matched skipped]
  cases outcomes with
  | fault fault => exact Report.outcome_of_ending (Run.ending_bind_of_fault (Report.ending_eq ends))
  | mismatch => exact Report.outcome_of_ending (Run.ending_bind_of_mismatch (Report.ending_eq ends))
  | @matched hit restHit hits =>
      have going := Outcome.ne_fault_of_matched ends
      have bounded := (applyWithin_bounded matcher _ trivial inside ahead.bounded).holds going
      obtain ⟨last, skippedLast, -⟩ := skips.ending_skip syntactic (Nat.le_refl _)
        hits.reaches.le_length bounded (report.memories going).truthful
      have whole : stream.length ≤ afterBlanks stream hit.finish ↔
          (stream.drop (afterBlanks stream 0)).length ≤
            afterBlanks (stream.drop (afterBlanks stream 0)) restHit.finish := by
        rw [hits.reaches.eq_add, afterBlanks_add, List.length_drop]
        omega
      rw [Run.outcome_bind_of_matched (Report.ending_eq ends),
        Run.outcome_bind_of_matched skippedLast, Outcome.onWhole, ← hits.value]
      by_cases all : stream.length ≤ afterBlanks stream hit.finish
      · rw [if_pos all, if_pos (whole.mp all)]
        rfl
      · rw [if_neg all, if_neg (mt whole.mpr all)]
        rfl

/-- Blanks in front of a text make no difference to a syntactic rule. -/
theorem leading_blanks_are_irrelevant
    (skips : matcher.SkipsBlanks)
    (found : matcher.grammar.rule? name = some rule)
    (syntactic : rule.isSyntactic = true)
    {blanks : String}
    (blank : ∀ c ∈ blanks.toList, isBlank (.char c) = true)
    (text : String) :
    matcher.matchText (blanks ++ text) name = matcher.matchText text name := by
  have skipped : ∀ value ∈ Value.chars blanks, isBlank value = true := by
    simpa [Value.chars] using blank
  have split : Value.chars (blanks ++ text) = Value.chars blanks ++ Value.chars text := by
    simp [Value.chars]
  rw [matchText, matchText, skips.matchAll_eq found syntactic,
    skips.matchAll_eq found syntactic, split, List.dropWhile_append_of_pos skipped]

/-- A sum is matched behind a line break and a tab. -/
theorem sum_behind_blanks :
    (spacedSums.SkipsBlanks ∧ spacedSums.grammar.rule? "Sum" = some spacedSumRule ∧
      spacedSumRule.isSyntactic = true ∧
      ∀ c ∈ "\n\t".toList, isBlank (.char c) = true) ∧
    spacedSums.matchText ("\n\t" ++ "1+ 2") "Sum" = spacedSums.matchText "1+ 2" "Sum" ∧
    spacedSums.matchText "1+ 2" "Sum" = .matched (.char '2') := by
  have skips : spacedSums.SkipsBlanks := ⟨rfl, by decide +kernel, by decide +kernel⟩
  have found : spacedSums.grammar.rule? "Sum" = some spacedSumRule := by decide +kernel
  have syntactic : spacedSumRule.isSyntactic = true := by decide +kernel
  have blank : ∀ c ∈ "\n\t".toList, isBlank (.char c) = true :=
    List.all_eq_true.mp (by decide +kernel)
  exact ⟨⟨skips, found, syntactic, blank⟩,
    leading_blanks_are_irrelevant skips found syntactic blank "1+ 2", by decide +kernel⟩

end Matcher
end Heirloom
