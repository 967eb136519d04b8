import Heirloom.Proofs.Matching.Termination

/-!
# Applications that start afresh

An application can be made as if nothing had happened before it: from a memory in
which nothing is known but the application whose body it stands in. Only then does
what is known come from that body alone, so its outcome depends on the rule and the
position and on nothing that was matched earlier.

Applications that start afresh do not come to an end if one leads to itself by way of
another one. Where they do come to an end, a run that remembers everything comes to
the same: what it has in progress is what does not come to an end within fewer nested
applications, so it is never met.
-/

namespace Heirloom

open Matching

namespace Matcher

/-- Apply a rule from an empty memory, unless something is known of the application. -/
def applyAfresh (matcher : Matcher) (apply : Applier) : Applier :=
  fun stream name position => do
    match ← Run.consult name position with
    | some _ => matcher.applyWith apply stream name position
    | none => Run.within (matcher.applyWith apply stream name position)

/-- Apply a rule afresh, and so every rule that it applies, with a bound on how deep
applications nest. -/
def afreshWithin (matcher : Matcher) : Nat → Applier
  | 0 => fun _ _ _ => Run.fail .exhausted
  | depth + 1 => matcher.applyAfresh (matcher.afreshWithin depth)

/-- The outcome of applying a rule afresh, with a bound on how deep applications nest. -/
def afresh
    (matcher : Matcher)
    (depth : Nat)
    (stream : List Value)
    (name : String)
    (position : Nat) : Outcome Hit :=
  (matcher.afreshWithin depth stream name position Memo.empty).outcome

/-- Applied afresh a rule answers, at some depth. -/
structure AfreshAnswers
    (matcher : Matcher)
    (stream : List Value)
    (name : String)
    (position : Nat)
    (answer : Option Hit) : Prop where
  inside : position ≤ stream.length
  answered : ∃ depth, matcher.afresh depth stream name position = .ofOption answer

section Afresh

variable
  {matcher : Matcher}
  {depth deeper : Nat}
  {stream : List Value}
  {name : String}
  {position : Nat}
  {memo : Memo}

/-- An application of which something is known is made as usual. -/
theorem afreshWithin_of_known
    {entry : Entry}
    (known : memo.find? name position = some entry) :
    matcher.afreshWithin (depth + 1) stream name position memo =
      matcher.applyWith (matcher.afreshWithin depth) stream name position memo := by
  rw [afreshWithin, applyAfresh, Run.consult_bind, known]

/-- An application of which nothing is known leaves the memory alone, and its outcome
does not depend on it. -/
theorem afreshWithin_of_unknown
    (unknown : memo.find? name position = none) :
    (matcher.afreshWithin depth stream name position memo).ending =
      (matcher.afresh depth stream name position, memo) := by
  cases depth with
  | zero => rfl
  | succ depth =>
      rw [afresh, afreshWithin, applyAfresh, Run.consult_bind, Run.consult_bind, unknown,
        Memo.find?_empty]
      rfl

/-- Afresh a rule is applied to an empty memory. -/
theorem afresh_succ :
    matcher.afresh (depth + 1) stream name position =
      (matcher.applyWith (matcher.afreshWithin depth) stream name position
        Memo.empty).outcome := by
  rw [afresh, afreshWithin, applyAfresh, Run.consult_bind, Memo.find?_empty]
  rfl

/-- A rule that is not defined cannot be applied afresh either. -/
theorem outcome_of_afresh_undefined
    (missing : matcher.grammar.rule? name = none) :
    (matcher.afreshWithin (depth + 1) stream name position memo).outcome =
      .fault (.undefinedRule matcher.grammar.name name) := by
  cases known : memo.find? name position with
  | some entry =>
      rw [afreshWithin_of_known known, applyWith_of_undefined missing]
      rfl
  | none =>
      have ends : (matcher.afreshWithin (depth + 1) stream name position memo).ending =
          (matcher.afresh (depth + 1) stream name position, memo) :=
        afreshWithin_of_unknown known
      rw [Report.outcome_of_ending ends, afresh_succ, applyWith_of_undefined missing]
      rfl

/-- Applications that start afresh and may nest deeper do the same, unless a bound is
reached. -/
theorem afreshWithin_deepening
    (matcher : Matcher)
    (depth : Nat) :
    ∀ deeper, depth ≤ deeper →
      deepening.simulation.AppliersAgree (fun _ => True) (matcher.afreshWithin depth)
        fun _ => matcher.afreshWithin deeper := by
  induction depth with
  | zero =>
      intro deeper _ stream offset position name _ _ memo rightMemo _
      exact .inl (.inl ⟨.exhausted, rfl, rfl⟩)
  | succ depth inductionHypothesis =>
      intro deeper below stream offset position name _ inside
      obtain ⟨deeper, rfl⟩ := Nat.exists_eq_succ_of_ne_zero (Nat.ne_zero_of_lt below)
      have contexts := inductionHypothesis deeper (Nat.le_of_succ_le_succ below)
      have applied : deepening.simulation.AppliersAgree (fun _ => True)
          (matcher.applyWith (matcher.afreshWithin depth))
          fun _ => matcher.applyWith (matcher.afreshWithin deeper) :=
        applyWith_related deepening_respectsMemory (fun _ => rfl) (fun _ _ => rfl)
          (fun _ _ _ _ => trivial) (fun _ => actions_alike id _ _)
          fun rule => contexts.agree fun _ _ => trivial
      refine deepening.simulation.andThen (deepening_respectsMemory.consult trivial) ?_
      rintro _ _ (entries | _)
      · exact applied trivial inside
      · intro memo rightMemo memories
        obtain ⟨rfl, same, bounded⟩ := memories
        have related : deepening.Goes stream 0 (deepening.simulation.HitsAlike stream 0 position)
            (matcher.applyWith (matcher.afreshWithin depth) stream name position)
            (matcher.applyWith (matcher.afreshWithin deeper) stream name position) :=
          applied trivial inside
        have start : deepening.memories stream 0 Memo.empty Memo.empty :=
          ⟨rfl, rfl, .empty stream⟩
        exact related.apart (fun _ => start) memo rightMemo ⟨rfl, same, bounded⟩

/-- Afresh a rule ends alike with a higher bound, unless its bound is reached. A match
lies in the stream. -/
theorem afresh_related
    (below : depth ≤ deeper)
    (inside : position ≤ stream.length)
    (ends : matcher.afresh depth stream name position ≠ .fault .exhausted) :
    Outcome.Rel (deepening.simulation.HitsAlike stream 0 position)
      (matcher.afresh depth stream name position)
      (matcher.afresh deeper stream name position) := by
  rcases matcher.afreshWithin_deepening depth deeper below trivial inside
    Memo.empty Memo.empty ⟨rfl, rfl, .empty stream⟩ with
    (⟨_, rfl, exhausted⟩ | ⟨_, excused, _⟩) | report
  · exact absurd exhausted ends
  · exact excused.elim
  · exact report.outcomes

theorem afresh_eq
    (below : depth ≤ deeper)
    (inside : position ≤ stream.length)
    (ends : matcher.afresh depth stream name position ≠ .fault .exhausted) :
    matcher.afresh deeper stream name position = matcher.afresh depth stream name position :=
  ((afresh_related below inside ends).imp fun hits => hits.eq id).eq.symm

/-- An application that reaches a bound afresh reaches every lower one. -/
theorem afresh_exhausted
    (below : depth ≤ deeper)
    (inside : position ≤ stream.length)
    (ends : matcher.afresh deeper stream name position = .fault .exhausted) :
    matcher.afresh depth stream name position = .fault .exhausted := by
  by_contra goes
  exact goes (afresh_eq below inside goes ▸ ends)

/-- The least depth at which an application is not stopped afresh. -/
theorem exists_least_afresh
    (inside : position ≤ stream.length)
    (goes : matcher.afresh depth stream name position ≠ .fault .exhausted) :
    ∃ before < depth, matcher.afresh before stream name position = .fault .exhausted ∧
      matcher.afresh (before + 1) stream name position =
        matcher.afresh depth stream name position := by
  induction depth with
  | zero => exact absurd rfl goes
  | succ depth inductionHypothesis =>
      by_cases stops : matcher.afresh depth stream name position = .fault .exhausted
      · exact ⟨depth, Nat.lt_succ_self depth, stops, rfl⟩
      · obtain ⟨before, below, least, same⟩ := inductionHypothesis stops
        exact ⟨before, Nat.lt_succ_of_lt below, least,
          same.trans (afresh_eq (Nat.le_succ depth) inside stops).symm⟩

namespace AfreshAnswers

variable {answer : Option Hit}

theorem goes
    (answered : matcher.afresh depth stream name position = .ofOption answer) :
    matcher.afresh depth stream name position ≠ .fault .exhausted := by
  rw [answered]
  exact Outcome.ofOption_ne_fault answer .exhausted

/-- If a rule answers afresh, then it does so whenever it is not stopped by its bound. -/
theorem outcome_eq
    (answers : matcher.AfreshAnswers stream name position answer)
    (ends : matcher.afresh depth stream name position ≠ .fault .exhausted) :
    matcher.afresh depth stream name position = .ofOption answer := by
  obtain ⟨inside, enough, answered⟩ := answers
  rcases Nat.le_total enough depth with below | below
  · exact (afresh_eq below inside (goes answered)).trans answered
  · exact (afresh_eq below inside ends).symm.trans answered

/-- A match that a rule answers with afresh lies in the stream. -/
theorem bounded
    (answers : matcher.AfreshAnswers stream name position answer)
    {hit : Hit}
    (matched : answer = some hit) :
    hit.Bounded stream position := by
  subst matched
  obtain ⟨inside, enough, answered⟩ := answers
  have related := afresh_related (Nat.le_refl enough) inside (goes answered)
  rw [answered] at related
  cases related with
  | matched hits => exact ⟨hits.reaches.start_le, hits.reaches.le_length⟩

end AfreshAnswers

end Afresh

/-! ## Runs beside applications that start afresh -/

/-- What is known of an application is the answer that it gives afresh. -/
def IsAfresh
    (matcher : Matcher)
    (stream : List Value)
    (name : String)
    (position : Nat)
    (entry : Entry) : Prop :=
  ∃ answer, entry = .done answer ∧ matcher.AfreshAnswers stream name position answer

/-- A run beside one in which applications start afresh, while some applications are
in progress. Whatever the second one knows, the first one knows as well. It may
also know what is in progress and what is answered afresh, and the former stays as it
is. -/
def beside (matcher : Matcher) (inProgress : List Value → String → Nat → Prop) : Lockstep where
  alike := Eq
  memories stream offset memo rightMemo :=
    offset = 0 ∧ memo.Bounded stream ∧
      (∀ name position entry, rightMemo.find? name position = some entry →
        memo.find? name position = some entry) ∧
      ∀ name position entry, memo.find? name position = some entry →
        inProgress stream name position ∨ matcher.IsAfresh stream name position entry
  changed memo rightMemo after rightAfter :=
    ∀ name position,
      (rightAfter.find? name position).isSome = (rightMemo.find? name position).isSome ∧
        (rightMemo.find? name position = none → (memo.find? name position).isSome →
          after.find? name position = memo.find? name position)
  events _ _ := True
  excused fault := fault = .exhausted
  rightExcused fault := fault = .exhausted
  laws.alike_refl := Eq.refl
  laws.alike_list := Value.list_eq_of_forall₂
  laws.changed_refl _ _ _ _ := ⟨rfl, fun _ _ => rfl⟩
  laws.changed_trans := by
    intro first rightFirst second rightSecond third rightThird before after name position
    obtain ⟨same, kept⟩ := before name position
    obtain ⟨sameAfter, keptAfter⟩ := after name position
    refine ⟨sameAfter.trans same, fun unknown known => ?_⟩
    have still := kept unknown known
    rw [← still] at known ⊢
    refine keptAfter ?_ known
    rwa [unknown, Option.isSome_none, Option.isSome_eq_false_iff, Option.isNone_iff_eq_none]
      at same
  laws.events_nil := trivial
  laws.events_append _ _ := trivial
  laws.events_nested _ := trivial
  laws.inner := by
    intro stream inside offset memo rightMemo _ _
    refine ⟨rfl, .empty inside, ?_, ?_⟩ <;>
      · intro name position entry known
        rw [Memo.find?_empty] at known
        cases known

/-! ### The application that is being evaluated -/

/-- A run beside one that starts afresh, in the evaluation of a rule that both of them
have noted as in progress. -/
def besideWithin
    (matcher : Matcher)
    (inProgress : List Value → String → Nat → Prop)
    (whole : List Value)
    (name : String)
    (position : Nat) : Lockstep :=
  { matcher.beside inProgress with
    memories := fun stream offset memo rightMemo =>
      (matcher.beside inProgress).memories stream offset memo rightMemo ∧
        (positionCount stream < positionCount whole ∨
          stream = whole ∧ (rightMemo.find? name position).isSome)
    laws :=
      { (matcher.beside inProgress).laws with
        inner := by
          rintro stream inside offset memo rightMemo ⟨memories, focus⟩ present
          have smaller := positionCount_lt_of_inside present
          refine ⟨(matcher.beside inProgress).laws.inner memories present, .inl ?_⟩
          rcases focus with before | ⟨rfl, -⟩
          · exact smaller.trans before
          · exact smaller } }

variable
  {matcher : Matcher}
  {inProgress : List Value → String → Nat → Prop}
  {stream : List Value}
  {name : String}
  {position : Nat}

/-- Runs beside each other are so in the evaluation of a rule as well. -/
theorem besideWithin_goes
    {same : α → β → Prop}
    {left : Run α}
    {right : Run β}
    (goes : (matcher.beside inProgress).Goes stream 0 same left right) :
    (matcher.besideWithin inProgress stream name position).Goes stream 0 same left right := by
  rintro memo rightMemo ⟨memories, before | ⟨-, known⟩⟩
  · exact absurd before (Nat.lt_irrefl _)
  rcases goes memo rightMemo memories with excuses | report
  · exact .inl excuses
  · refine .inr ⟨report.outcomes, trivial, fun going => ?_, report.changed⟩
    refine ⟨report.memories going, .inr ⟨rfl, ?_⟩⟩
    rw [(report.changed going name position).1]
    exact known

/-- In the evaluation of a rule both sides know the same of its application and note
the same matches. -/
theorem besideWithin_respectsPlace
    (matcher : Matcher)
    (progresses : inProgress stream name position) :
    ((matcher.besideWithin inProgress stream name position).simulation.sequencing
        stream 0).RespectsPlace
      ((matcher.beside inProgress).simulation.HitsAlike stream 0 position) name name
      position position where
  noted := by
    rintro answer rightAnswer answers memo rightMemo
      ⟨⟨-, bounded, contained, accounted⟩, before | ⟨-, known⟩⟩
    · exact absurd before (Nat.lt_irrefl _)
    obtain rfl := Simulation.answers_eq id answers
    have fits : ∀ hit, answer = some hit → hit.Bounded stream position := by
      rintro hit rfl
      cases answers with
      | some hits => exact ⟨hits.reaches.start_le, hits.reaches.le_length⟩
    refine .inr ⟨.matched trivial, trivial, fun _ => ⟨⟨rfl, bounded.put_done fits, ?_, ?_⟩, ?_⟩,
      fun _ => ?_⟩
    · intro other place entry
      change (Memo.put _ _ _ _).find? _ _ = _ → (Memo.put _ _ _ _).find? _ _ = _
      rw [Memo.find?_put, Memo.find?_put]
      split
      · exact id
      · exact contained other place entry
    · intro other place entry
      change (Memo.put _ _ _ _).find? _ _ = _ → _
      rw [Memo.find?_put]
      split
      · next here =>
          obtain ⟨rfl, rfl⟩ := here
          exact fun _ => .inl progresses
      · exact accounted other place entry
    · exact .inr ⟨rfl, Memo.isSome_find?_put _ _ _ known⟩
    · intro other place
      change ((Memo.put _ _ _ _).find? _ _).isSome = _ ∧
        (_ → _ → (Memo.put _ _ _ _).find? _ _ = _)
      rw [Memo.find?_put, Memo.find?_put]
      split
      · next here =>
          obtain ⟨rfl, rfl⟩ := here
          refine ⟨known.symm, fun unknown => ?_⟩
          rw [unknown] at known
          cases known
      · exact ⟨rfl, fun _ _ => rfl⟩
  met := by
    rintro memo rightMemo ⟨⟨start, bounded, contained, accounted⟩, before | ⟨-, known⟩⟩
    · exact absurd before (Nat.lt_irrefl _)
    refine .inr ⟨.matched ?_, trivial,
      fun _ => ⟨⟨start, bounded, contained, accounted⟩, .inr ⟨rfl, known⟩⟩,
      fun _ => (matcher.beside inProgress).laws.changed_refl memo rightMemo⟩
    obtain ⟨entry, found⟩ := Option.isSome_iff_exists.mp known
    rw [found, contained name position entry found]
  failed := Lockstep.Goes.fail .exhausted
  longer bests hits := by
    have finishes := bests.reaches.eq_add
    have hitFinishes := hits.reaches.eq_add
    omega

/-- The evaluation of a rule that is in progress on both sides goes beside the one that
starts afresh, if the applications inside do. -/
theorem complete_beside
    {apply rightApply : Applier}
    {rule : Rule}
    (applied : (matcher.beside inProgress).simulation.AppliersAgree (fun _ => True) apply
      fun _ => rightApply)
    (progresses : inProgress stream rule.name position)
    (inside : position ≤ stream.length) :
    (matcher.besideWithin inProgress stream rule.name position).Goes stream 0
      (Option.Rel ((matcher.beside inProgress).simulation.HitsAlike stream 0 position))
      (matcher.complete apply rule stream position)
      (matcher.complete rightApply rule stream position) := by
  have contexts : (matcher.beside inProgress).simulation.Agree (fun _ => True)
      (matcher.contextFor apply rule) fun _ => matcher.contextFor rightApply rule :=
    applied.agree fun _ _ => trivial
  have invoked : (matcher.beside inProgress).Goes stream 0
      ((matcher.beside inProgress).simulation.HitsAlike stream 0 position)
      (matcher.invoke apply rule stream position)
      (matcher.invoke rightApply rule stream position) :=
    invoke_related contexts (fun _ _ => trivial) (actions_alike id matcher.actions rule.name)
      inside (Lockstep.Goes.tell fun _ => trivial) fun _ _ _ => Lockstep.Goes.tell fun _ => trivial
  have related : ((matcher.besideWithin inProgress stream rule.name position).simulation
      |>.sequencing stream 0).Related
      ((matcher.beside inProgress).simulation.HitsAlike stream 0 position)
      (matcher.invoke apply rule stream position)
      fun _ => matcher.invoke rightApply rule stream position := besideWithin_goes invoked
  have completed := complete_related (matcher.besideWithin_respectsPlace progresses) rfl related
  exact completed

/-- What is in progress while a rule is evaluated at a position as well. -/
def Evaluating
    (inProgress : List Value → String → Nat → Prop)
    (stream : List Value)
    (name : String)
    (position : Nat) : List Value → String → Nat → Prop :=
  fun other rule place =>
    inProgress other rule place ∨ other = stream ∧ rule = name ∧ place = position

/-- A rule of which nothing is known may be noted as in progress on both sides. -/
theorem memories_evaluating
    {memo rightMemo : Memo}
    (memories : (matcher.beside inProgress).memories stream 0 memo rightMemo) :
    (matcher.besideWithin (Evaluating inProgress stream name position) stream name
      position).memories stream 0 (Memo.put name (.pending false) position memo)
      (Memo.put name (.pending false) position Memo.empty) := by
  obtain ⟨-, bounded, -, accounted⟩ := memories
  refine ⟨⟨rfl, bounded.put_pending _ _ _, ?_, ?_⟩, .inr ⟨rfl, ?_⟩⟩
  · intro other place entry
    rw [Memo.find?_put, Memo.find?_put]
    split
    · exact id
    · rw [Memo.find?_empty]
      exact nofun
  · intro other place entry
    rw [Memo.find?_put]
    split
    · next here => exact fun _ => .inl (.inr ⟨rfl, here⟩)
    · exact fun known => (accounted other place entry known).imp_left .inl
  · rw [Memo.find?_put_self]
    rfl

/-- A rule that has been evaluated beside the same rule afresh is not in progress any
more, if its answer is the one it gives afresh. -/
theorem memories_evaluated
    {memo rightMemo after rightAfter : Memo}
    (memories : (matcher.beside inProgress).memories stream 0 memo rightMemo)
    (unknown : memo.find? name position = none)
    (rightUnknown : rightMemo.find? name position = none)
    (during : (matcher.beside (Evaluating inProgress stream name position)).memories stream 0
      after rightAfter)
    (changed : (matcher.beside (Evaluating inProgress stream name position)).changed
      (Memo.put name (.pending false) position memo)
      (Memo.put name (.pending false) position Memo.empty) after rightAfter)
    {entry : Entry}
    (noted : after.find? name position = some entry)
    (answered : matcher.IsAfresh stream name position entry) :
    (matcher.beside inProgress).memories stream 0 after rightMemo ∧
      (matcher.beside inProgress).changed memo rightMemo after rightMemo := by
  obtain ⟨-, -, contained, accounted⟩ := memories
  obtain ⟨-, bounded, -, accountedDuring⟩ := during
  have kept : ∀ other place, (memo.find? other place).isSome →
      after.find? other place = memo.find? other place := by
    intro other place known
    have elsewhere : ¬ (other = name ∧ place = position) := by
      rintro ⟨rfl, rfl⟩
      rw [unknown] at known
      cases known
    have still := (changed other place).2
    rw [Memo.find?_put_of_ne elsewhere, Memo.find?_put_of_ne elsewhere] at still
    exact still (Memo.find?_empty other place) known
  refine ⟨⟨rfl, bounded, ?_, ?_⟩, fun other place => ⟨rfl, fun _ => kept other place⟩⟩
  · intro other place known rightKnown
    have found := contained other place known rightKnown
    rw [kept other place (found ▸ rfl), found]
  · intro other place known found
    rcases accountedDuring other place known found with (progresses | ⟨-, rfl, rfl⟩) | isAfresh
    · exact .inl progresses
    · rw [noted] at found
      cases found
      exact .inr answered
    · exact .inr isAfresh

/-- What is in progress does not come to an end afresh at a depth. -/
def Unending
    (matcher : Matcher)
    (depth : Nat)
    (inProgress : List Value → String → Nat → Prop) : Prop :=
  ∀ ⦃stream : List Value⦄ ⦃name : String⦄ ⦃position : Nat⦄, inProgress stream name position →
    position ≤ stream.length ∧ matcher.afresh depth stream name position = .fault .exhausted

/-- One more application that does not come to an end may be in progress. -/
theorem Unending.evaluating
    {depth deeper : Nat}
    (unending : matcher.Unending deeper inProgress)
    (below : depth ≤ deeper)
    (inside : position ≤ stream.length)
    (stops : matcher.afresh depth stream name position = .fault .exhausted) :
    matcher.Unending depth (Evaluating inProgress stream name position) := by
  rintro other rule place (progresses | ⟨rfl, rfl, rfl⟩)
  · obtain ⟨within, reaches⟩ := unending progresses
    exact ⟨within, afresh_exhausted below within reaches⟩
  · exact ⟨inside, stops⟩

/-- An application of which nothing is known goes beside one that starts afresh, if those
inside do at lower depths. -/
theorem applyWith_beside
    {apply : Applier}
    {depth : Nat}
    {rule : Rule}
    {memo rightMemo : Memo}
    (lower : ∀ before < depth, ∀ inProgress, matcher.Unending before inProgress →
      (matcher.beside inProgress).simulation.AppliersAgree (fun _ => True) apply
        fun _ => matcher.afreshWithin before)
    (unending : matcher.Unending depth inProgress)
    (inside : position ≤ stream.length)
    (memories : (matcher.beside inProgress).memories stream 0 memo rightMemo)
    (found : matcher.grammar.rule? name = some rule)
    (unknown : memo.find? rule.name position = none)
    (rightUnknown : rightMemo.find? rule.name position = none)
    (goes : matcher.afresh depth stream name position ≠ .fault .exhausted) :
    (matcher.beside inProgress).Excuses
        (matcher.applyWith apply stream name position memo).outcome
        (matcher.afreshWithin depth stream name position rightMemo).outcome ∨
      (matcher.beside inProgress).Reports stream 0
        ((matcher.beside inProgress).simulation.HitsAlike stream 0 position) memo rightMemo
        (matcher.applyWith apply stream name position memo)
        (matcher.afreshWithin depth stream name position rightMemo) := by
  obtain rfl := Grammar.name_of_rule? found
  obtain ⟨before, below, least, same⟩ := exists_least_afresh inside goes
  have right : (matcher.afreshWithin depth stream rule.name position rightMemo).ending =
      ((matcher.applyWith (matcher.afreshWithin before) stream rule.name position
        Memo.empty).outcome, rightMemo) := by
    rw [← afresh_succ, same]
    exact afreshWithin_of_unknown rightUnknown
  rw [← same, afresh_succ] at goes
  have started := unending.evaluating (Nat.le_of_lt below) inside least
  have completed := complete_beside (lower before below _ started) (.inr ⟨rfl, rfl, rfl⟩) inside
    _ _ (memories_evaluating memories)
  rw [← evaluate_apply, ← evaluate_apply] at completed
  rcases completed with (⟨_, rfl, ends⟩ | ⟨_, rfl, ends⟩) | report
  · rw [applyWith_of_fault found unknown ends]
    exact .inl (.inl ⟨_, rfl, rfl⟩)
  · refine absurd ?_ goes
    rw [applyWith_of_fault found (Memo.find?_empty _ _) ends]
  have outcomes := report.outcomes
  have rightOutcome := Report.outcome_of_ending right
  have rightAfter := Report.memo_of_ending right
  rcases matcher.evaluate_answers apply rule stream position memo with
    ⟨fault, ends⟩ | ⟨answer, ends, noted⟩
  · rw [ends] at outcomes
    generalize rightEnds : (matcher.evaluate (matcher.afreshWithin before) rule stream position
      Memo.empty).outcome = other at outcomes
    cases outcomes
    rw [applyWith_of_fault found (Memo.find?_empty _ _) rightEnds] at rightOutcome
    rw [applyWith_of_fault found unknown ends]
    refine .inr ⟨?_, trivial, fun going => absurd rfl (going fault),
      fun going => absurd rfl (going fault)⟩
    rw [rightOutcome]
    exact .fault fault
  · have going := Outcome.ne_fault_of_matched ends
    rw [ends] at outcomes
    obtain ⟨other, rightEnds, answers⟩ := outcomes.exists_of_matched
    rw [applyWith_of_evaluated found (Memo.find?_empty _ _) rightEnds] at rightOutcome goes
    have same : answer = other := Simulation.answers_eq id answers
    have answered : matcher.AfreshAnswers stream rule.name position answer := by
      refine ⟨inside, before + 1, ?_⟩
      rw [afresh_succ, applyWith_of_evaluated found (Memo.find?_empty _ _) rightEnds, same]
    have after := memories_evaluated memories unknown rightUnknown (report.memories going).1
      (report.changed going) noted ⟨answer, rfl, answered⟩
    rw [applyWith_of_evaluated found unknown ends]
    refine .inr ⟨?_, trivial, fun _ => ?_, fun _ => ?_⟩
    · rw [rightOutcome]
      refine .ofOption ?_
      cases answers with
      | none => exact .none
      | some hits => exact .some ⟨hits.value, hits.reaches⟩
    · rw [rightAfter]
      exact after.1
    · rw [rightAfter]
      exact after.2

/-- An application of which the side that starts afresh knows nothing goes beside it: it is
not met in progress unless that side does not come to an end, and it is answered
afresh. -/
theorem applyWith_beside_of_unknown
    {apply : Applier}
    {depth : Nat}
    {rule : Rule}
    {memo rightMemo : Memo}
    (lower : ∀ before < depth, ∀ inProgress, matcher.Unending before inProgress →
      (matcher.beside inProgress).simulation.AppliersAgree (fun _ => True) apply
        fun _ => matcher.afreshWithin before)
    (unending : matcher.Unending depth inProgress)
    (inside : position ≤ stream.length)
    (memories : (matcher.beside inProgress).memories stream 0 memo rightMemo)
    (found : matcher.grammar.rule? name = some rule)
    (rightUnknown : rightMemo.find? rule.name position = none) :
    (matcher.beside inProgress).Excuses
        (matcher.applyWith apply stream name position memo).outcome
        (matcher.afreshWithin depth stream name position rightMemo).outcome ∨
      (matcher.beside inProgress).Reports stream 0
        ((matcher.beside inProgress).simulation.HitsAlike stream 0 position) memo rightMemo
        (matcher.applyWith apply stream name position memo)
        (matcher.afreshWithin depth stream name position rightMemo) := by
  obtain rfl := Grammar.name_of_rule? found
  have right : (matcher.afreshWithin depth stream rule.name position rightMemo).ending =
      (matcher.afresh depth stream rule.name position, rightMemo) :=
    afreshWithin_of_unknown rightUnknown
  by_cases stops : matcher.afresh depth stream rule.name position = .fault .exhausted
  · exact .inl (.inr ⟨_, rfl, (Report.outcome_of_ending right).trans stops⟩)
  cases known : memo.find? rule.name position with
  | none =>
      exact applyWith_beside lower unending inside memories found known rightUnknown stops
  | some entry =>
      rcases memories.2.2.2 _ _ _ known with progresses | ⟨answer, rfl, answers⟩
      · exact absurd (unending progresses).2 stops
      · rw [applyWith_of_done found known]
        refine .inr ⟨?_, trivial, fun _ => ?_, fun _ => ?_⟩
        · rw [Report.outcome_of_ending right, answers.outcome_eq stops]
          exact .ofOption (Simulation.answers_refl _ answers.bounded)
        · rw [Report.memo_of_ending right]
          exact memories
        · rw [Report.memo_of_ending right]
          exact (matcher.beside inProgress).laws.changed_refl memo rightMemo

/-- An application that both sides know goes beside one that starts afresh: they meet it
in progress, or they answer it alike. -/
theorem applyWith_beside_of_known
    {apply rightApply : Applier}
    {rule : Rule}
    {memo rightMemo : Memo}
    (inside : position ≤ stream.length)
    (memories : (matcher.beside inProgress).memories stream 0 memo rightMemo)
    (found : matcher.grammar.rule? name = some rule)
    {entry : Entry}
    (rightKnown : rightMemo.find? rule.name position = some entry) :
    (matcher.beside inProgress).Reports stream 0
      ((matcher.beside inProgress).simulation.HitsAlike stream 0 position) memo rightMemo
      (matcher.applyWith apply stream name position memo)
      (matcher.applyWith rightApply stream name position rightMemo) := by
  obtain ⟨start, bounded, contained, accounted⟩ := id memories
  have known := contained _ _ _ rightKnown
  cases entry with
  | done answer =>
      rw [applyWith_of_done found known, applyWith_of_done found rightKnown]
      refine ⟨.ofOption ?_, trivial, fun _ => memories,
        fun _ => (matcher.beside inProgress).laws.changed_refl memo rightMemo⟩
      exact Simulation.answers_refl _ fun matched => bounded (matched ▸ known)
  | pending reentered =>
      have progresses : inProgress stream rule.name position := by
        rcases accounted _ _ _ known with progresses | ⟨_, answered, -⟩
        · exact progresses
        · cases answered
      rw [applyWith_of_pending found known, applyWith_of_pending found rightKnown]
      refine ⟨.mismatch, trivial, fun _ => ⟨rfl, bounded.put_pending _ _ _, ?_, ?_⟩,
        fun _ other place => ?_⟩
      · intro other place other
        rw [Memo.find?_put, Memo.find?_put]
        split
        · exact id
        · exact contained _ _ _
      · intro other place other
        rw [Memo.find?_put]
        split
        · next here =>
            obtain ⟨rfl, rfl⟩ := here
            exact fun _ => .inl progresses
        · exact accounted _ _ _
      · dsimp only
        rw [Memo.find?_put, Memo.find?_put]
        split
        · next here =>
            obtain ⟨rfl, rfl⟩ := here
            rw [rightKnown]
            exact ⟨rfl, nofun⟩
        · exact ⟨rfl, fun _ _ => rfl⟩

/-- Every run goes beside one that starts afresh at every depth, as long as what is in
progress does not come to an end afresh at that depth. -/
theorem applyWithin_beside
    (matcher : Matcher)
    (depth : Nat) :
    ∀ nesting inProgress, matcher.Unending depth inProgress →
      (matcher.beside inProgress).simulation.AppliersAgree (fun _ => True)
        (matcher.applyWithin nesting) fun _ => matcher.afreshWithin depth := by
  induction depth using Nat.strong_induction_on with
  | _ depth lower =>
  intro nesting inProgress unending stream offset position name _ inside memo rightMemo memories
  obtain ⟨rfl, bounded, contained, accounted⟩ := id memories
  replace inside : position ≤ stream.length := inside
  cases nesting with
  | zero => exact .inl (.inl ⟨.exhausted, rfl, rfl⟩)
  | succ nesting =>
      change (matcher.beside inProgress).Excuses
          (matcher.applyWith (matcher.applyWithin nesting) stream name position memo).outcome
          (matcher.afreshWithin depth stream name position rightMemo).outcome ∨
        (matcher.beside inProgress).Reports stream 0
          ((matcher.beside inProgress).simulation.HitsAlike stream 0 position) memo rightMemo
          (matcher.applyWith (matcher.applyWithin nesting) stream name position memo)
          (matcher.afreshWithin depth stream name position rightMemo)
      cases found : matcher.grammar.rule? name with
      | none =>
          cases depth with
          | zero => exact .inl (.inr ⟨.exhausted, rfl, rfl⟩)
          | succ depth =>
              rw [applyWith_of_undefined found]
              refine .inr ⟨?_, trivial, fun going => absurd rfl (going _),
                fun going => absurd rfl (going _)⟩
              rw [outcome_of_afresh_undefined found]
              exact .fault _
      | some rule =>
          obtain rfl := Grammar.name_of_rule? found
          cases rightKnown : rightMemo.find? rule.name position with
          | some entry =>
              cases depth with
              | zero => exact .inl (.inr ⟨.exhausted, rfl, rfl⟩)
              | succ depth =>
                  rw [afreshWithin_of_known rightKnown]
                  exact .inr (applyWith_beside_of_known inside memories found rightKnown)
          | none =>
              exact applyWith_beside_of_unknown
                (fun before below progress => lower before below nesting progress) unending
                inside memories found rightKnown

/-- Applied to an empty memory a rule does not reach the bound for its stream. -/
theorem applyWithin_ne_exhausted
    (matcher : Matcher)
    (name : String)
    (inside : position ≤ stream.length) :
    (matcher.applyWithin (matcher.depthLimit stream) stream name position
      Memo.empty).outcome ≠ .fault .exhausted := by
  intro ends
  have start : (matcher.budget (fun _ => True) (matcher.depthLimit stream)).holds stream
      Memo.empty := ⟨.empty stream, matcher.demand_lt_depthLimit stream Memo.empty⟩
  have respects : (matcher.budget (fun _ => True) (matcher.depthLimit stream)).AppliersRespect
      (fun _ => True) (matcher.applyWithin (matcher.depthLimit stream)) :=
    applyWithin_respects (Closed.all matcher) _
  obtain ⟨_, -, -, undefined⟩ := (respects trivial inside start).faulted _ ends
  cases undefined

/-- An answer that a rule gives afresh is its answer when everything is remembered. -/
theorem AfreshAnswers.outcome_of_applyWithin
    {answer : Option Hit}
    (answers : matcher.AfreshAnswers stream name position answer) :
    (matcher.applyWithin (matcher.depthLimit stream) stream name position
      Memo.empty).outcome = .ofOption answer := by
  obtain ⟨inside, depth, answered⟩ := answers
  have nothing : matcher.Unending depth fun _ _ _ => False := fun _ _ _ => False.elim
  have start : (matcher.beside fun _ _ _ => False).memories stream 0 Memo.empty Memo.empty := by
    refine ⟨rfl, .empty stream, fun _ _ _ => id, ?_⟩
    intro other place entry known
    rw [Memo.find?_empty] at known
    cases known
  rcases matcher.applyWithin_beside depth (matcher.depthLimit stream) _ nothing trivial inside
    Memo.empty Memo.empty start with (⟨_, rfl, ends⟩ | ⟨_, rfl, ends⟩) | report
  · exact absurd ends (matcher.applyWithin_ne_exhausted name inside)
  · exact absurd ends (goes answered)
  · exact ((report.outcomes.imp fun hits => hits.eq id).eq).trans answered

end Matcher
end Heirloom
