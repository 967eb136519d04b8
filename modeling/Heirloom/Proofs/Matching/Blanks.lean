import Heirloom.Grammar.Base
import Heirloom.Proofs.Matching.Choice
import Heirloom.Proofs.Matching.Shifting

/-!
# Skipping blanks

The skip rule of the base grammar matches all blanks ahead, and nothing else that
is known makes a difference to it. So it has a fixed answer at every position of a
stream, and so has the rule for one blank that it applies.
-/

namespace Heirloom
namespace Matching

/-- The name of the rule for one blank. -/
def blankRuleName : String := "space"

/-- Whether a value is a blank: a space, a tab, a line break or a page break. -/
def isBlank : Value → Bool
  | .char c => c == ' ' || CharRange.contains ⟨'\t', '\r'⟩ c
  | _ => false

/-- The blanks at the start of a stream. -/
def leadingBlanks (stream : List Value) : List Value :=
  stream.takeWhile isBlank

/-- The first position from a position on where there is no blank. -/
def afterBlanks (stream : List Value) (position : Nat) : Nat :=
  position + (leadingBlanks (stream.drop position)).length

/-- The match of one blank. -/
def blankAnswer (actions : Actions) (rest : List Value) : Option Hit :=
  (rest.head?.filter isBlank).map fun value =>
    ⟨actions.apply blankRuleName [] value, 1⟩

/-- The match of all blanks. -/
def blanksAnswer (actions : Actions) (rest : List Value) : Option Hit :=
  some ⟨actions.apply skipRuleName []
    (.list ((leadingBlanks rest).map (actions.apply blankRuleName []))),
    (leadingBlanks rest).length⟩

/-- The rules for blanks have fixed answers. -/
def blanksFixed (actions : Actions) : FixedAnswers := fun name =>
  if name = blankRuleName then some (blankAnswer actions)
  else if name = skipRuleName then some (blanksAnswer actions)
  else none

/-- The rules with fixed answers are the two for blanks. -/
theorem eq_of_blanksFixed
    {actions : Actions}
    {rule : String}
    {answer : List Value → Option Hit}
    (given : blanksFixed actions rule = some answer) :
    rule = blankRuleName ∧ answer = blankAnswer actions ∨
      rule = skipRuleName ∧ answer = blanksAnswer actions := by
  unfold blanksFixed at given
  split at given
  · next same => exact .inl ⟨same, (Option.some.inj given).symm⟩
  · split at given
    · next same => exact .inr ⟨same, (Option.some.inj given).symm⟩
    · cases given

/-- Blanks lie in the stream. -/
theorem blanksFixed_inside (actions : Actions) : (blanksFixed actions).Inside := by
  intro rule answer given rest hit found
  rcases eq_of_blanksFixed given with ⟨-, rfl⟩ | ⟨-, rfl⟩
  · cases rest with
    | nil => simp [blankAnswer] at found
    | cons value rest =>
        obtain ⟨value, -, rfl⟩ := Option.map_eq_some_iff.mp found
        simp
  · cases found
    exact (List.takeWhile_prefix isBlank).length_le

/-- A blank at a position is the first of the blanks there. -/
theorem leadingBlanks_of_blank
    {stream : List Value}
    {position : Nat}
    {value : Value}
    (present : stream[position]? = some value)
    (blank : isBlank value = true) :
    leadingBlanks (stream.drop position) = value :: leadingBlanks (stream.drop (position + 1)) := by
  obtain ⟨inside, rfl⟩ := List.getElem?_eq_some_iff.mp present
  rw [List.drop_eq_getElem_cons inside, leadingBlanks, List.takeWhile_cons_of_pos blank]
  rfl

/-- Where there is no blank there are none to skip. -/
theorem leadingBlanks_of_not_blank
    {stream : List Value}
    {position : Nat}
    (other : (stream[position]?.filter isBlank) = none) :
    leadingBlanks (stream.drop position) = [] := by
  rw [getElem?_eq_drop] at other
  cases rest : stream.drop position with
  | nil => rfl
  | cons value values =>
      rw [rest] at other
      have visible : ¬ isBlank value = true := by simpa using other
      exact List.takeWhile_cons_of_neg visible

/-- No blanks are left after the blanks. -/
theorem leadingBlanks_after (rest : List Value) :
    leadingBlanks (rest.drop (leadingBlanks rest).length) = [] := by
  induction rest with
  | nil => rfl
  | cons value rest inductionHypothesis =>
      cases blank : isBlank value <;> simp_all [leadingBlanks]

/-- Blanks are skipped in the stream. -/
theorem afterBlanks_le_length
    {stream : List Value}
    {position : Nat}
    (inside : position ≤ stream.length) :
    afterBlanks stream position ≤ stream.length := by
  have blanks := (List.takeWhile_prefix (l := stream.drop position) isBlank).length_le
  rw [List.length_drop] at blanks
  unfold afterBlanks leadingBlanks
  omega

/-- After the blanks there is nothing to skip. -/
theorem afterBlanks_afterBlanks
    (stream : List Value)
    (position : Nat) :
    afterBlanks stream (afterBlanks stream position) = afterBlanks stream position := by
  have nothing := leadingBlanks_after (stream.drop position)
  rw [List.drop_drop] at nothing
  unfold afterBlanks
  rw [nothing]
  rfl

end Matching

open Matching

namespace Matcher

/-- Blanks are skipped with the rules of the base grammar. -/
structure SkipsBlanks (matcher : Matcher) : Prop where
  skips : matcher.skipRule = some skipRuleName
  blank : matcher.grammar.rule? blankRuleName = baseGrammar.rule? blankRuleName
  blanks : matcher.grammar.rule? skipRuleName = baseGrammar.rule? skipRuleName

/-- The rules for blanks are those of the base grammar, whether they are skipped or not. -/
structure KnowsBlanks (matcher : Matcher) : Prop where
  blank : matcher.grammar.rule? blankRuleName = baseGrammar.rule? blankRuleName
  blanks : matcher.grammar.rule? skipRuleName = baseGrammar.rule? skipRuleName

theorem SkipsBlanks.knows
    {matcher : Matcher}
    (skips : matcher.SkipsBlanks) :
    matcher.KnowsBlanks :=
  ⟨skips.blank, skips.blanks⟩

/-- The rule for one blank. -/
def blankRule : Rule :=
  ⟨blankRuleName, .alt (.prim (.char ' ')) (.range ⟨'\t', '\r'⟩)⟩

/-- The rule for all blanks. -/
def blanksRule : Rule :=
  ⟨skipRuleName, .many (.app blankRuleName) 0⟩

section Blanks

variable
  {matcher : Matcher}
  {stream : List Value}
  {position : Nat}
  {memo : Memo}

theorem KnowsBlanks.found_blank (knows : matcher.KnowsBlanks) :
    matcher.grammar.rule? blankRuleName = some blankRule :=
  knows.blank.trans (by decide)

theorem KnowsBlanks.found_blanks (knows : matcher.KnowsBlanks) :
    matcher.grammar.rule? skipRuleName = some blanksRule :=
  knows.blanks.trans (by decide)

/-- One blank is matched by looking at it. -/
theorem eval_blank
    (apply : Applier)
    (stream : List Value)
    (position : Nat)
    (memo : Memo) :
    (eval ⟨apply, none⟩ blankRule.body stream position [] memo).ending =
      (.ofOption ((stream[position]?.filter isBlank).map fun value => ⟨value, position + 1, []⟩),
        memo) := by
  have space := ending_leaf_unskipped apply (matchPrim (.char ' ')) stream position [] memo
  have range := ending_leaf_unskipped apply (matchRange ⟨'\t', '\r'⟩) stream position [] memo
  rw [blankRule, eval_alt]
  by_cases present : stream[position]? = some (.char ' ')
  · have matched : matchPrim (.char ' ') stream position = some ⟨.char ' ', position + 1⟩ :=
      if_pos present
    rw [matched] at space
    rw [present]
    exact Run.ending_orElse_of_matched space _
  · have missed : matchPrim (.char ' ') stream position = none := if_neg present
    rw [missed] at space
    refine (Run.ending_orElse_of_mismatch space _).trans (range.trans ?_)
    congr 2
    unfold matchRange
    cases current : stream[position]? with
    | none => rfl
    | some value =>
        cases value with
        | char c =>
            have other : c ≠ ' ' := fun space => present (by rw [current, space])
            cases inside : CharRange.contains ⟨'\t', '\r'⟩ c <;>
              simp [Option.filter, isBlank, other, inside]
        | _ => rfl

/-- Whatever is known apart from it, one blank is matched. -/
theorem KnowsBlanks.gives_blank
    (knows : matcher.KnowsBlanks)
    (apply : Applier)
    (truthful : memo.TruthfulFor blankRuleName (blankAnswer matcher.actions) stream) :
    (matcher.applyWith apply stream blankRuleName position memo).Gives
      (answerAt (blankAnswer matcher.actions) stream position)
      (Memo.TruthfulFor blankRuleName (blankAnswer matcher.actions) stream)
      (fun rule => rule = blankRuleName) memo := by
  cases known : memo.find? blankRuleName position with
  | some entry =>
      obtain rfl := truthful known
      rw [applyWith_of_done knows.found_blank known]
      exact ⟨rfl, truthful, fun _ _ _ => rfl⟩
  | none =>
      have context : matcher.contextFor apply blankRule = ⟨apply, none⟩ := by
        have lexical : blankRule.isSyntactic = false := by decide +kernel
        rw [contextFor, skipRuleFor, lexical]
        rfl
      have evaluated := eval_blank apply stream position
        (Memo.put blankRuleName (.pending false) position memo)
      rw [← context] at evaluated
      have applied := ending_applyWith_of_body knows.found_blank known evaluated
        (Memo.find?_put_self _ _ _ _)
      have answer : ((stream[position]?.filter isBlank).map
          fun value => ⟨value, position + 1, []⟩).map (matcher.hitOf blankRule) =
          answerAt (blankAnswer matcher.actions) stream position := by
        rw [answerAt, blankAnswer, List.head?_drop, Option.map_map, Option.map_map]
        congr 1
        funext value
        simp only [Function.comp_apply, hitOf, Hit.shift, Hit.mk.injEq]
        exact ⟨rfl, Nat.add_comm _ _⟩
      rw [answer] at applied
      refine ⟨Report.outcome_of_ending applied, ?_, ?_⟩ <;>
        rw [Report.memo_of_ending applied]
      · refine truthful.answered fun place elsewhere => ?_
        exact Memo.find?_put_of_ne (fun there => elsewhere there.2) _ _
      · exact ((Memo.SameBut.refl (· = blankRuleName) memo).put rfl _ _).put rfl _ _

section Rounds

variable
  {body : Nat → Bindings → Run Step}
  {rounds : Nat}
  {scope : Bindings}
  {values : List Value}
  {after : Memo}

/-- A loop ends where its body does not match. -/
theorem ending_repeatedly_of_mismatch
    (ends : (body position scope memo).ending = (.mismatch, after)) :
    (repeatedly body (rounds + 1) position scope values memo).ending =
      (.matched (values, position, scope), after) := by
  have attempted : ((body position scope).attempt memo).ending = (.matched none, after) :=
    Run.ending_attempt_of_answer ends
  rw [repeatedly, Run.ending_bind_of_matched attempted]
  rfl

/-- A loop goes on where its body has consumed something. -/
theorem ending_repeatedly_of_moved
    {step : Step}
    (ends : (body position scope memo).ending = (.matched step, after))
    (moved : step.position ≠ position) :
    (repeatedly body (rounds + 1) position scope values memo).ending =
      (repeatedly body rounds step.position step.scope (values ++ [step.value]) after).ending := by
  have attempted : ((body position scope).attempt memo).ending = (.matched (some step), after) :=
    Run.ending_attempt_of_answer ends
  have goes : (step.position == position) = false := by simpa using moved
  rw [repeatedly, Run.ending_bind_of_matched attempted]
  simp only [goes, Bool.false_eq_true, if_false]

/-- A fault of its body ends a loop. -/
theorem ending_repeatedly_of_fault
    {fault : Fault}
    (ends : (body position scope memo).ending = (.fault fault, after)) :
    (repeatedly body (rounds + 1) position scope values memo).ending = (.fault fault, after) := by
  rw [repeatedly, Run.ending_bind_of_fault (Run.ending_attempt_of_fault ends)]

end Rounds

/-- Ways to apply rules that match one blank, unless they reach a bound. -/
def MatchesBlank
    (actions : Actions)
    (apply : Applier)
    (stream : List Value) : Prop :=
  ∀ ⦃position : Nat⦄, position ≤ stream.length → ∀ memo : Memo,
    memo.TruthfulFor blankRuleName (blankAnswer actions) stream →
      (apply stream blankRuleName position memo).outcome = .fault .exhausted ∨
        (apply stream blankRuleName position memo).Gives
          (answerAt (blankAnswer actions) stream position)
          (Memo.TruthfulFor blankRuleName (blankAnswer actions) stream)
          (fun rule => rule = blankRuleName) memo

/-- Where nothing is skipped, a rule is applied in place. -/
theorem ending_eval_app
    {apply : Applier}
    {rule : String}
    {answer : Option Hit}
    {after : Memo}
    (applied : (apply stream rule position memo).ending = (.ofOption answer, after))
    (scope : Bindings) :
    (eval ⟨apply, none⟩ (.app rule) stream position scope memo).ending =
      (.ofOption (answer.map fun hit => ⟨hit.value, hit.finish, scope⟩), after) := by
  rw [eval, Run.ending_bind_of_matched rfl]
  cases answer with
  | none => exact Run.ending_bind_of_mismatch applied
  | some hit => exact Run.ending_bind_of_matched applied

/-- One blank after the other is matched until there is none. -/
theorem MatchesBlank.repeatedly
    {actions : Actions}
    {apply : Applier}
    (matches_ : MatchesBlank actions apply stream)
    (rounds : Nat) :
    ∀ position values memo, position ≤ stream.length → stream.length < rounds + position →
      memo.TruthfulFor blankRuleName (blankAnswer actions) stream →
        (repeatedly (eval ⟨apply, none⟩ (.app blankRuleName) stream) rounds position [] values
          memo).outcome = .fault .exhausted ∨
        ∃ after,
          (repeatedly (eval ⟨apply, none⟩ (.app blankRuleName) stream) rounds position [] values
            memo).ending =
              (.matched (values ++ (leadingBlanks (stream.drop position)).map
                (actions.apply blankRuleName []), afterBlanks stream position, []), after) ∧
          after.TruthfulFor blankRuleName (blankAnswer actions) stream ∧
          memo.SameBut (fun rule => rule = blankRuleName) after := by
  induction rounds with
  | zero =>
      intro position values memo inside enough
      omega
  | succ rounds inductionHypothesis =>
      intro position values memo inside enough truthful
      rcases matches_ inside memo truthful with stops | gave
      · have app : (eval ⟨apply, none⟩ (.app blankRuleName) stream position [] memo).ending =
            (.fault .exhausted, (apply stream blankRuleName position memo).memo) := by
          rw [eval, Run.ending_bind_of_matched rfl]
          exact Run.ending_bind_of_fault (Report.ending_eq stops)
        exact .inl (Report.outcome_of_ending (ending_repeatedly_of_fault app))
      have step := ending_eval_app (Report.ending_eq gave.outcome) []
      cases blank : stream[position]?.filter isBlank with
      | none =>
          have missed : answerAt (blankAnswer actions) stream position = none := by
            rw [answerAt, blankAnswer, List.head?_drop, blank]
            rfl
          rw [missed] at step
          refine .inr ⟨_, ?_, gave.truthful, gave.same⟩
          rw [ending_repeatedly_of_mismatch step, afterBlanks, leadingBlanks_of_not_blank blank,
            List.map_nil, List.append_nil]
          rfl
      | some value =>
          obtain ⟨present, visible⟩ := Option.filter_eq_some_iff.mp blank
          have before := lt_length_of_getElem? present
          have matched : answerAt (blankAnswer actions) stream position =
              some ⟨actions.apply blankRuleName [] value, 1 + position⟩ := by
            rw [answerAt, blankAnswer, List.head?_drop, blank]
            rfl
          rw [matched] at step
          have blanks := leadingBlanks_of_blank present visible
          rw [Nat.add_comm position 1] at blanks
          have place : afterBlanks stream position = afterBlanks stream (1 + position) := by
            rw [afterBlanks, afterBlanks, blanks, List.length_cons]
            omega
          have moved : 1 + position ≠ position := by omega
          rcases inductionHypothesis (1 + position)
            (values ++ [actions.apply blankRuleName [] value]) _ (by omega) (by omega)
            gave.truthful with stops | ⟨after, ends, still, same⟩
          · exact .inl (Report.outcome_of_ending
              ((ending_repeatedly_of_moved step moved).trans (Report.ending_eq stops)))
          · refine .inr ⟨after, ?_, still, fun rule other place => ?_⟩
            · rw [place, blanks, List.map_cons, List.append_cons]
              exact (ending_repeatedly_of_moved step moved).trans ends
            · rw [same other, gave.same other]

/-- The body of the rule for all blanks matches them. -/
theorem MatchesBlank.eval_blanks
    {actions : Actions}
    {apply : Applier}
    (one : MatchesBlank actions apply stream)
    (inside : position ≤ stream.length)
    (truthful : memo.TruthfulFor blankRuleName (blankAnswer actions) stream) :
    (eval ⟨apply, none⟩ blanksRule.body stream position [] memo).outcome = .fault .exhausted ∨
      ∃ after,
        (eval ⟨apply, none⟩ blanksRule.body stream position [] memo).ending =
          (.ofOption (some ⟨.list ((leadingBlanks (stream.drop position)).map
            (actions.apply blankRuleName [])), afterBlanks stream position, []⟩), after) ∧
        after.TruthfulFor blankRuleName (blankAnswer actions) stream ∧
        memo.SameBut (fun rule => rule = blankRuleName) after := by
  have enough : stream.length < roundLimit stream position + position := by
    unfold roundLimit
    omega
  rw [blanksRule, eval]
  rcases one.repeatedly (roundLimit stream position) position [] _ inside enough truthful with
    stops | ⟨after, ends, still, same⟩
  · exact .inl (Report.outcome_of_ending (Run.ending_bind_of_fault (Report.ending_eq stops)))
  · refine .inr ⟨after, ?_, still, same⟩
    rw [Run.ending_bind_of_matched ends]
    rfl

/-- Whatever is known apart from them, all blanks are matched, unless a bound is reached
on the way. -/
theorem KnowsBlanks.gives_blanks
    (knows : matcher.KnowsBlanks)
    {apply : Applier}
    (one : MatchesBlank matcher.actions apply stream)
    (inside : position ≤ stream.length)
    (truthful : memo.Truthful (blanksFixed matcher.actions) stream) :
    (matcher.applyWith apply stream skipRuleName position memo).outcome = .fault .exhausted ∨
      (matcher.applyWith apply stream skipRuleName position memo).Gives
        (answerAt (blanksAnswer matcher.actions) stream position)
        (Memo.Truthful (blanksFixed matcher.actions) stream)
        (fun rule => (blanksFixed matcher.actions rule).isSome) memo := by
  have forBlank : memo.TruthfulFor blankRuleName (blankAnswer matcher.actions) stream :=
    truthful rfl
  have forBlanks : memo.TruthfulFor skipRuleName (blanksAnswer matcher.actions) stream :=
    truthful rfl
  cases known : memo.find? skipRuleName position with
  | some entry =>
      obtain rfl := forBlanks known
      rw [applyWith_of_done knows.found_blanks known]
      exact .inr ⟨rfl, truthful, fun _ _ _ => rfl⟩
  | none =>
      have context : matcher.contextFor apply blanksRule = ⟨apply, none⟩ := by
        have lexical : blanksRule.isSyntactic = false := by decide +kernel
        rw [contextFor, skipRuleFor, lexical]
        rfl
      have different : ¬ skipRuleName = blankRuleName := by decide
      have noted : (Memo.put skipRuleName (.pending false) position memo).TruthfulFor
          blankRuleName (blankAnswer matcher.actions) stream := by
        intro place entry found
        rw [Memo.find?_put_of_ne fun there => different there.1.symm] at found
        exact forBlank found
      rcases one.eval_blanks inside noted with stops | ⟨after, evaluated, still, same⟩
      · left
        rw [← context] at stops
        rw [applyWith_of_first_fault rfl knows.found_blanks known
          (Report.outcome_of_ending (ending_invoke_of_fault (Report.ending_eq stops)))]
      · right
        rw [← context] at evaluated
        have quiet : after.find? skipRuleName position = some (.pending false) :=
          (same different position).trans (Memo.find?_put_self _ _ _ _)
        have applied : (matcher.applyWith apply stream skipRuleName position memo).ending =
            (.ofOption (answerAt (blanksAnswer matcher.actions) stream position),
              Memo.put skipRuleName (.done (answerAt (blanksAnswer matcher.actions) stream
                position)) position after) := by
          have answer : some (matcher.hitOf blanksRule ⟨.list
              ((leadingBlanks (stream.drop position)).map (matcher.actions.apply blankRuleName [])),
                afterBlanks stream position, []⟩) =
              answerAt (blanksAnswer matcher.actions) stream position := by
            rw [answerAt, blanksAnswer, Option.map_some, hitOf, Hit.shift, afterBlanks,
              Nat.add_comm]
            rfl
          rw [← answer]
          exact ending_applyWith_of_body knows.found_blanks known evaluated quiet
        refine ⟨Report.outcome_of_ending applied, ?_, ?_⟩ <;>
          rw [Report.memo_of_ending applied]
        · intro rule other given
          rcases eq_of_blanksFixed given with ⟨rfl, rfl⟩ | ⟨rfl, rfl⟩
          · intro place entry found
            rw [Memo.find?_put_of_ne fun there => different there.1.symm] at found
            exact still found
          · refine forBlanks.answered fun place elsewhere => ?_
            rw [same different, Memo.find?_put_of_ne fun there => elsewhere there.2]
        · have changes : (blanksFixed matcher.actions skipRuleName).isSome = true := rfl
          refine Memo.SameBut.put ?_ changes _ _
          intro rule free place
          have notBlank : rule ≠ blankRuleName := by
            rintro rfl
            exact free rfl
          have notBlanks : rule ≠ skipRuleName := by
            rintro rfl
            exact free rfl
          rw [same notBlank, Memo.find?_put_of_ne fun there => notBlanks there.1]

/-- Applications of the rules for blanks give their answers at every depth, unless they
reach the bound. -/
theorem KnowsBlanks.gives
    (knows : matcher.KnowsBlanks)
    (depth : Nat) :
    (matcher.applyWithin depth).Gives (blanksFixed matcher.actions) := by
  cases depth with
  | zero => exact fun _ _ _ _ _ _ _ _ => .inl rfl
  | succ depth =>
      intro rule answer given stream position inside memo truthful
      rcases eq_of_blanksFixed given with ⟨rfl, rfl⟩ | ⟨rfl, rfl⟩
      · have forBlank : memo.TruthfulFor blankRuleName (blankAnswer matcher.actions) stream :=
          truthful rfl
        have gave : (matcher.applyWithin (depth + 1) stream blankRuleName position memo).Gives
            (answerAt (blankAnswer matcher.actions) stream position)
            (Memo.TruthfulFor blankRuleName (blankAnswer matcher.actions) stream)
            (fun rule => rule = blankRuleName) memo :=
          knows.gives_blank (matcher.applyWithin depth) forBlank
        obtain ⟨outcome, still, same⟩ := gave
        refine .inr ⟨outcome, ?_, ?_⟩
        · intro other otherAnswer otherGiven
          rcases eq_of_blanksFixed otherGiven with ⟨rfl, rfl⟩ | ⟨rfl, rfl⟩
          · exact still
          · intro place entry found
            have different : ¬ skipRuleName = blankRuleName := by decide
            rw [same different] at found
            exact truthful rfl found
        · intro other free place
          refine same ?_ place
          rintro rfl
          exact free rfl
      · refine knows.gives_blanks ?_ inside truthful
        intro place placeInside memo truthful
        cases depth with
        | zero => exact .inl rfl
        | succ depth => exact .inr (knows.gives_blank (matcher.applyWithin depth) truthful)

/-- Where the rule for all blanks gives its answer, all blanks are skipped. -/
theorem ending_skip_of_gives
    {actions : Actions}
    {apply : Applier}
    {truthful : Memo → Prop}
    {changed : String → Prop}
    (gave : (apply stream skipRuleName position memo).Gives
      (answerAt (blanksAnswer actions) stream position) truthful changed memo) :
    (Context.skip ⟨apply, some skipRuleName⟩ stream position memo).ending =
      (.matched (afterBlanks stream position), (apply stream skipRuleName position memo).memo) := by
  have answered : (apply stream skipRuleName position memo).ending =
      (.ofOption (answerAt (blanksAnswer actions) stream position),
        (apply stream skipRuleName position memo).memo) :=
    Report.ending_eq gave.outcome
  refine (Run.ending_bind_of_matched (Run.ending_attempt_of_answer answered)).trans ?_
  rw [answerAt, blanksAnswer, Option.map_some, afterBlanks, Nat.add_comm]
  rfl

end Blanks

end Matcher
end Heirloom
