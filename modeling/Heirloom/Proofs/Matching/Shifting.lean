import Heirloom.Proofs.Matching.Memoized

/-!
# Runs on the rest of a stream

What is matched at a position depends on what is ahead of it. A run from there
does the same as a run at the start of the rest of the stream, with every
position moved. Some rules may have answers that follow from what is ahead of
them alone. What is known of these makes no difference then.
-/

namespace Heirloom
namespace Matching

/-- What is known of an application further along the stream. -/
def Entry.shift (offset : Nat) : Entry → Entry
  | .pending reentered => .pending reentered
  | .done answer => .done (answer.map (Hit.shift offset))

/-- For some rules an answer for each stream they may be applied at the start of. -/
abbrev FixedAnswers := String → Option (List Value → Option Hit)

/-- The matches lie in the stream. -/
def FixedAnswers.Inside (fixed : FixedAnswers) : Prop :=
  ∀ ⦃rule : String⦄ ⦃answer : List Value → Option Hit⦄, fixed rule = some answer →
    ∀ ⦃rest : List Value⦄ ⦃hit : Hit⦄, answer rest = some hit → hit.finish ≤ rest.length

/-- The answer at a position of a stream. -/
def answerAt
    (answer : List Value → Option Hit)
    (stream : List Value)
    (position : Nat) : Option Hit :=
  (answer (stream.drop position)).map (Hit.shift position)

namespace Memo

/-- Whatever is known of a rule is its answer. -/
def TruthfulFor
    (rule : String)
    (answer : List Value → Option Hit)
    (stream : List Value)
    (memo : Memo) : Prop :=
  ∀ ⦃position : Nat⦄ ⦃entry : Entry⦄, memo.find? rule position = some entry →
    entry = .done (answerAt answer stream position)

/-- Whatever is known of rules with fixed answers is their answer. -/
def Truthful (fixed : FixedAnswers) (stream : List Value) (memo : Memo) : Prop :=
  ∀ ⦃rule : String⦄ ⦃answer : List Value → Option Hit⦄, fixed rule = some answer →
    memo.TruthfulFor rule answer stream

/-- Nothing has changed but what is known of some rules. -/
def SameBut (changed : String → Prop) (before after : Memo) : Prop :=
  ∀ ⦃rule : String⦄, ¬ changed rule → ∀ position,
    after.find? rule position = before.find? rule position

theorem Truthful.empty
    (fixed : FixedAnswers)
    (stream : List Value) :
    Truthful fixed stream Memo.empty := by
  intro rule answer _ position entry known
  rw [find?_empty] at known
  cases known

/-- What is known of another rule does not matter. -/
theorem Truthful.put
    {fixed : FixedAnswers}
    {stream : List Value}
    {memo : Memo}
    {rule : String}
    (truthful : memo.Truthful fixed stream)
    (free : fixed rule = none)
    (entry : Entry)
    (position : Nat) :
    (Memo.put rule entry position memo).Truthful fixed stream := by
  intro other answer given place found known
  rw [find?_put_of_ne] at known
  · exact truthful given known
  · rintro ⟨rfl, -⟩
    cases free.symm.trans given

/-- A rule that has been answered truthfully elsewhere is so after its answer. -/
theorem TruthfulFor.answered
    {rule : String}
    {answer : List Value → Option Hit}
    {stream : List Value}
    {position : Nat}
    {memo after : Memo}
    (truthful : memo.TruthfulFor rule answer stream)
    (elsewhere : ∀ place, place ≠ position → after.find? rule place = memo.find? rule place) :
    (Memo.put rule (.done (answerAt answer stream position)) position after).TruthfulFor rule
      answer stream := by
  intro place entry known
  rw [find?_put] at known
  split at known
  · next there => rw [there.2, ← Option.some.inj known]
  · next elsewhere' =>
      rw [elsewhere place fun there => elsewhere' ⟨rfl, there⟩] at known
      exact truthful known

theorem SameBut.refl
    (changed : String → Prop)
    (memo : Memo) :
    SameBut changed memo memo :=
  fun _ _ _ => rfl

/-- What is known of a rule that may change is noted. -/
theorem SameBut.put
    {changed : String → Prop}
    {before after : Memo}
    (same : before.SameBut changed after)
    {rule : String}
    (changes : changed rule)
    (entry : Entry)
    (position : Nat) :
    before.SameBut changed (Memo.put rule entry position after) := by
  intro other unchanged place
  rw [find?_put_of_ne, same unchanged]
  rintro ⟨rfl, -⟩
  exact unchanged changes

end Memo

/-- A report that gives an answer and leaves a truthful memory, in which nothing has
changed but what is known of some rules. -/
structure Report.Gives
    (answer : Option Hit)
    (truthful : Memo → Prop)
    (changed : String → Prop)
    (before : Memo)
    (report : Report Hit) : Prop where
  outcome : report.outcome = .ofOption answer
  truthful : truthful report.memo
  same : before.SameBut changed report.memo

/-- Applications of rules with fixed answers give these, unless they reach a bound. -/
def Applier.Gives (apply : Applier) (fixed : FixedAnswers) : Prop :=
  ∀ ⦃rule : String⦄ ⦃answer : List Value → Option Hit⦄, fixed rule = some answer →
    ∀ ⦃stream : List Value⦄ ⦃position : Nat⦄, position ≤ stream.length →
      ∀ memo : Memo, memo.Truthful fixed stream →
        (apply stream rule position memo).outcome = .fault .exhausted ∨
          (apply stream rule position memo).Gives (answerAt answer stream position)
            (Memo.Truthful fixed stream) (fun other => (fixed other).isSome) memo

/-! ## Runs further along the stream -/

/-- A memory of a stream beside one of the rest of it. The same is known of what is
ahead, apart from rules with fixed answers, of which both know only these. What is
known of places that are behind is given. -/
structure Shifted
    (fixed : FixedAnswers)
    (behind : String → Nat → Option Entry)
    (stream : List Value)
    (offset : Nat)
    (memo rightMemo : Memo) : Prop where
  inside : offset ≤ stream.length
  kept : ∀ {rule : String}, fixed rule = none → ∀ {position : Nat}, position < offset →
    memo.find? rule position = behind rule position
  truthful : memo.Truthful fixed stream
  rightTruthful : rightMemo.Truthful fixed (stream.drop offset)
  same : ∀ {rule : String}, fixed rule = none → ∀ position,
    memo.find? rule (position + offset) =
      (rightMemo.find? rule position).map (Entry.shift offset)
  bounded : ∀ {rule : String}, fixed rule = none → ∀ {position : Nat} {hit : Hit},
    rightMemo.find? rule position = some (.done (some hit)) →
      hit.Bounded (stream.drop offset) position

/-- On the right nothing is known at the start. On the left nothing is known of what is
ahead, apart from rules with fixed answers. -/
theorem Shifted.start
    {fixed : FixedAnswers}
    {stream : List Value}
    {offset : Nat}
    {memo : Memo}
    (inside : offset ≤ stream.length)
    (truthful : memo.Truthful fixed stream)
    (unknown : ∀ {rule : String}, fixed rule = none → ∀ {position : Nat}, offset ≤ position →
      memo.find? rule position = none) :
    Shifted fixed memo.find? stream offset memo Memo.empty where
  inside := inside
  kept _ _ _ := rfl
  truthful := truthful
  rightTruthful := .empty fixed _
  same free position := by
    rw [unknown free (Nat.le_add_left offset position), Memo.find?_empty, Option.map_none]
  bounded _ _ _ known := by
    rw [Memo.find?_empty] at known
    cases known

/-- At the start of a whole stream nothing is known, and nothing is behind. -/
theorem Shifted.empty
    (fixed : FixedAnswers)
    (behind : String → Nat → Option Entry)
    (stream : List Value) :
    Shifted fixed behind stream 0 Memo.empty Memo.empty where
  inside := Nat.zero_le _
  kept _ _ before := absurd before (Nat.not_lt_zero _)
  truthful := .empty fixed stream
  rightTruthful := .empty fixed _
  same _ _ := by simp only [Memo.find?_empty, Option.map_none]
  bounded _ _ _ known := by
    rw [Memo.find?_empty] at known
    cases known

/-- A run on a stream from some offset on beside a run on the rest of the stream. -/
def shifting (fixed : FixedAnswers) (behind : String → Nat → Option Entry) : Lockstep where
  alike := Eq
  memories := Shifted fixed behind
  changed _ _ _ _ := True
  events _ _ := True
  excused fault := fault = .exhausted
  rightExcused fault := fault = .exhausted
  laws.alike_refl := Eq.refl
  laws.alike_list := Value.list_eq_of_forall₂
  laws.changed_refl _ _ := trivial
  laws.changed_trans _ _ := trivial
  laws.events_nil := trivial
  laws.events_append _ _ := trivial
  laws.events_nested _ := trivial
  laws.inner _ _ := .empty fixed behind _

variable
  {fixed : FixedAnswers}
  {behind : String → Nat → Option Entry}

/-- Nothing is told that the other side would not tell. -/
theorem shifting_tell
    {stream : List Value}
    {offset : Nat}
    (event rightEvent : Event) :
    (shifting fixed behind).simulation.Related stream offset (fun _ _ => True)
      (Run.tell event) fun _ => Run.tell rightEvent :=
  Lockstep.Goes.tell fun _ => trivial

/-- An entry alike another one is the same further along the stream, where its match
lies in the rest. -/
theorem entry_shift_of_entriesAlike
    {stream : List Value}
    {offset position : Nat}
    {entry rightEntry : Entry}
    (inside : offset ≤ stream.length)
    (entries :
      (shifting fixed behind).simulation.EntriesAlike stream offset position entry rightEntry) :
    entry = rightEntry.shift offset ∧
      ∀ hit, rightEntry = .done (some hit) → hit.Bounded (stream.drop offset) position := by
  cases entries with
  | pending reentered => exact ⟨rfl, nofun⟩
  | done answers =>
      cases answers with
      | none => exact ⟨rfl, nofun⟩
      | @some hit rightHit hits =>
          obtain ⟨value, equal, before, finish⟩ := hits
          have moved : hit = rightHit.shift offset := (Hit.mk.injEq ..).mpr ⟨value, equal⟩
          refine ⟨congrArg (fun hit => Entry.done (some hit)) moved, ?_⟩
          rintro _ ⟨⟩
          rw [Hit.Bounded, List.length_drop]
          omega

/-- On both sides the same is known and noted of rules without fixed answers. -/
theorem shifting_respectsMemory :
    (shifting fixed behind).simulation.RespectsMemory fun rule => fixed rule = none where
  consult := by
    intro stream offset position rule free memo rightMemo shifted
    refine .inr ⟨.matched ?_, trivial, fun _ => shifted, fun _ => trivial⟩
    rw [shifted.same free]
    rcases known : rightMemo.find? rule position with _ | (reentered | (_ | hit))
    · exact .none
    · exact .some (.pending reentered)
    · exact .some (.done .none)
    · obtain ⟨before, finish⟩ := shifted.bounded free known
      rw [List.length_drop] at finish
      exact .some (.done (.some ⟨rfl, rfl, Nat.add_le_add_right before offset,
        Nat.add_le_of_le_sub shifted.inside finish⟩))
  remember := by
    intro stream offset position rule entry rightEntry free entries memo rightMemo shifted
    obtain ⟨moved, lies⟩ := entry_shift_of_entriesAlike shifted.inside entries
    refine .inr ⟨.matched trivial, trivial, fun _ => ?_, fun _ => trivial⟩
    refine ⟨shifted.inside, ?_, shifted.truthful.put free _ _,
      shifted.rightTruthful.put free _ _, ?_, ?_⟩
    · intro other otherFree place before
      change (Memo.put _ _ _ _).find? _ _ = _
      rw [Memo.find?_put_of_ne (by omega), shifted.kept otherFree before]
    · intro other otherFree place
      change (Memo.put _ _ _ _).find? _ _ = ((Memo.put _ _ _ _).find? _ _).map _
      rw [Memo.find?_put, Memo.find?_put, shifted.same otherFree, moved]
      by_cases there : other = rule ∧ place = position
      · rw [if_pos there, if_pos ⟨there.1, congrArg (· + offset) there.2⟩]
        rfl
      · rw [if_neg there, if_neg fun moved => there ⟨moved.1, Nat.add_right_cancel moved.2⟩]
    · intro other otherFree place hit known
      change (Memo.put _ _ _ _).find? _ _ = _ at known
      rw [Memo.find?_put] at known
      split at known
      · next there =>
          obtain ⟨rfl, rfl⟩ := there
          exact lies hit (Option.some.inj known)
      · exact shifted.bounded otherFree known
  entered _ := shifting_tell _ _
  left _ _ _ _ := shifting_tell _ _
  reentered _ := shifting_tell _ _
  answered _ _ _ _ := shifting_tell _ _
  failed fault := Lockstep.Goes.fail fault

/-- Rules with fixed answers give the same further along the stream. -/
theorem Applier.Gives.related
    {apply rightApply : Applier}
    (lies : fixed.Inside)
    (gives : apply.Gives fixed)
    (rightGives : rightApply.Gives fixed)
    {rule : String}
    {answer : List Value → Option Hit}
    (given : fixed rule = some answer)
    {stream : List Value}
    {offset position : Nat}
    (inside : position + offset ≤ stream.length) :
    (shifting fixed behind).simulation.Related stream offset
      ((shifting fixed behind).simulation.HitsAlike stream offset (position + offset))
      (apply stream rule (position + offset))
      fun _ => rightApply (stream.drop offset) rule position := by
  intro memo rightMemo shifted
  have rightInside : position ≤ (stream.drop offset).length := by
    rw [List.length_drop]
    omega
  rcases gives given inside memo shifted.truthful with stops | gave
  · exact .inl (.inl ⟨.exhausted, rfl, stops⟩)
  rcases rightGives given rightInside rightMemo shifted.rightTruthful with stops | rightGave
  · exact .inl (.inr ⟨.exhausted, rfl, stops⟩)
  have kept {other : String} (free : fixed other = none) : ¬ (fixed other).isSome = true := by
    simp [free]
  refine .inr ⟨?_, trivial, fun _ => ?_, fun _ => trivial⟩
  · rw [gave.outcome, rightGave.outcome]
    refine .ofOption ?_
    unfold answerAt
    rw [List.drop_drop, Nat.add_comm offset position]
    cases found : answer (stream.drop (position + offset)) with
    | none => exact .none
    | some hit =>
        have finish := lies given found
        rw [List.length_drop] at finish
        refine .some ⟨rfl, ?_, ?_, ?_⟩ <;> simp only [Hit.shift] <;> omega
  · refine ⟨shifted.inside, ?_, gave.truthful, rightGave.truthful, ?_, ?_⟩
    · intro other free place before
      rw [gave.same (kept free), shifted.kept free before]
    · intro other free place
      rw [gave.same (kept free), rightGave.same (kept free), shifted.same free]
    · intro other free place hit known
      rw [rightGave.same (kept free)] at known
      exact shifted.bounded free known

end Matching

open Matching

namespace Matcher

/-- Applications on a stream from some offset on do the same as applications on the
rest of the stream, unless a bound is reached. -/
theorem applyWithin_shifting
    {matcher : Matcher}
    {fixed : FixedAnswers}
    (lies : fixed.Inside)
    (gives : ∀ depth, (matcher.applyWithin depth).Gives fixed)
    (behind : String → Nat → Option Entry)
    (depth : Nat) :
    ∀ rightDepth, (shifting fixed behind).simulation.AppliersAgree (fun _ => True)
      (matcher.applyWithin depth) fun _ => matcher.applyWithin rightDepth := by
  induction depth with
  | zero =>
      intro rightDepth stream offset position rule _ _ memo rightMemo _
      exact .inl (.inl ⟨.exhausted, rfl, rfl⟩)
  | succ depth inductionHypothesis =>
      intro rightDepth stream offset position name _ inside
      cases rightDepth with
      | zero => exact fun memo rightMemo _ => .inl (.inr ⟨.exhausted, rfl, rfl⟩)
      | succ rightDepth =>
          cases given : fixed name with
          | some answer =>
              exact (gives (depth + 1)).related lies (gives (rightDepth + 1)) given inside
          | none =>
              change (shifting fixed behind).simulation.Related stream offset _
                (matcher.applyWith (matcher.applyWithin depth) stream name (position + offset))
                fun _ => matcher.applyWith (matcher.applyWithin rightDepth) (stream.drop offset)
                  name position
              cases found : matcher.grammar.rule? name with
              | none =>
                  simp only [applyWith_of_undefined found]
                  exact shifting_respectsMemory.failed _
              | some rule =>
                  exact applyWith_related_of_found shifting_respectsMemory given found found
                    (fun _ _ => trivial) (actions_alike id matcher.actions name)
                    ((inductionHypothesis rightDepth).agree fun _ _ => trivial) inside

end Matcher
end Heirloom
