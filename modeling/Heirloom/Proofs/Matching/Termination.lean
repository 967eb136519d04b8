import Heirloom.Proofs.Matching.Growth
import Heirloom.Proofs.Matching.Memoized
import Heirloom.Proofs.Validation
import Mathlib.Data.Finset.Prod

/-!
# Termination

Applications that are not answered from memory note a rule and a position that
were not known before. There are only so many of them in a stream and in the
streams inside it, and this bounds how deep applications nest. Loops move on in
each round but the last one, so their bounds are not reached either. So every
match comes to an end, whatever the grammar, and a higher bound would have
changed nothing.
-/

namespace Heirloom

namespace Matching

/-! ## Positions of inner streams -/

/-- The positions inside an element are among those inside its stream. -/
theorem innerPositions_le
    {stream : List Value}
    {value : Value}
    (present : value ∈ stream) :
    innerPositions value ≤ innerPositionsOf stream := by
  induction stream with
  | nil => cases present
  | cons head stream inductionHypothesis =>
      rw [innerPositionsOf]
      rcases List.mem_cons.mp present with rfl | present
      · exact Nat.le_add_right _ _
      · exact Nat.le_add_left_of_le (inductionHypothesis present)

/-- The positions of a field are among those of its object. -/
theorem innerPositions_field_le
    {fields : List (String × Value)}
    {field : String × Value}
    (present : field ∈ fields) :
    2 + innerPositions field.2 ≤ fieldPositions fields := by
  induction fields with
  | nil => cases present
  | cons head fields inductionHypothesis =>
      rw [fieldPositions]
      rcases List.mem_cons.mp present with rfl | present
      · exact Nat.le_add_right _ _
      · exact Nat.le_add_left_of_le (inductionHypothesis present)

/-- Characters have nothing inside. -/
theorem innerPositionsOf_chars (chars : List Char) :
    innerPositionsOf (chars.map Value.char) = 0 := by
  induction chars with
  | nil => rfl
  | cons c chars inductionHypothesis =>
      simp only [List.map_cons, innerPositionsOf, inductionHypothesis, innerPositions]

/-- The positions of a stream inside another one are counted there. -/
theorem positionCount_le_of_inside
    {stream inner : List Value}
    (inside : Inside stream inner) :
    positionCount inner ≤ innerPositionsOf stream := by
  cases inside with
  | @chars text present =>
      have counted := innerPositions_le present
      rw [innerPositions] at counted
      rw [positionCount, Value.chars, innerPositionsOf_chars, List.length_map,
        String.length_toList]
      exact counted
  | items present =>
      have counted := innerPositions_le present
      rwa [innerPositions] at counted
  | @field fields field present named =>
      have counted := innerPositions_le present
      have counted' := innerPositions_field_le named
      rw [innerPositions] at counted
      simp only [positionCount, innerPositionsOf, List.length_singleton]
      omega

/-- A stream inside another one has fewer positions. -/
theorem positionCount_lt_of_inside
    {stream inner : List Value}
    (inside : Inside stream inner) :
    positionCount inner < positionCount stream := by
  have counted := positionCount_le_of_inside inside
  rw [positionCount] at counted ⊢
  rw [positionCount]
  omega

end Matching

open Matching

namespace Matcher

/-! ## What is left to explore -/

/-- The rules and positions of a stream of which nothing is known. -/
def unexplored (matcher : Matcher) (stream : List Value) (memo : Memo) : Finset (String × Nat) :=
  (matcher.grammar.visibleNames.toFinset ×ˢ Finset.range (stream.length + 1)).filter
    fun place => memo.find? place.1 place.2 = none

theorem card_unexplored_le (matcher : Matcher) (stream : List Value) (memo : Memo) :
    (matcher.unexplored stream memo).card ≤
      matcher.grammar.visibleCount * (stream.length + 1) := by
  unfold unexplored
  refine Nat.le_trans (Finset.card_filter_le _ _) ?_
  rw [Finset.card_product, Finset.card_range, ← Grammar.length_visibleNames]
  exact Nat.mul_le_mul_right _ (List.toFinset_card_le _)

/-- The more is known, the less is left to explore. -/
theorem unexplored_subset
    {matcher : Matcher}
    {stream : List Value}
    {before after : Memo}
    (known : ∀ {rule : String} {position : Nat},
      (before.find? rule position).isSome → (after.find? rule position).isSome) :
    matcher.unexplored stream after ⊆ matcher.unexplored stream before := by
  intro place member
  rw [unexplored, Finset.mem_filter] at member ⊢
  refine ⟨member.1, ?_⟩
  by_contra present
  have found := known (Option.isSome_iff_ne_none.mpr present)
  rw [member.2] at found
  cases found

/-- An application that was not known explores something. -/
theorem card_unexplored_put_lt
    {matcher : Matcher}
    {stream : List Value}
    {name : String}
    {rule : Rule}
    {position : Nat}
    {memo : Memo}
    (found : matcher.grammar.rule? name = some rule)
    (inside : position ≤ stream.length)
    (unknown : memo.find? rule.name position = none)
    (entry : Entry) :
    (matcher.unexplored stream (Memo.put rule.name entry position memo)).card <
      (matcher.unexplored stream memo).card := by
  have extended : memo.Extends (Memo.put rule.name entry position memo) :=
    (Memo.Extends.refl memo).put (fun answer => by rw [unknown]; exact nofun) entry
  refine Finset.card_lt_card ⟨unexplored_subset extended.known, ?_⟩
  intro subset
  have here : (rule.name, position) ∈ matcher.unexplored stream memo := by
    rw [unexplored, Finset.mem_filter, Finset.mem_product, List.mem_toFinset,
      Finset.mem_range]
    exact ⟨⟨Grammar.mem_visibleNames found, Nat.lt_succ_of_le inside⟩, unknown⟩
  have there := subset here
  rw [unexplored, Finset.mem_filter, Memo.find?_put_self] at there
  cases there.2

/-- How deep applications may still nest: once for each rule and position that
is left to explore, in the stream and inside it. -/
def demand (matcher : Matcher) (stream : List Value) (memo : Memo) : Nat :=
  (matcher.unexplored stream memo).card +
    matcher.grammar.visibleCount * innerPositionsOf stream

theorem demand_le
    {matcher : Matcher}
    {stream : List Value}
    {before after : Memo}
    (known : ∀ {rule : String} {position : Nat},
      (before.find? rule position).isSome → (after.find? rule position).isSome) :
    matcher.demand stream after ≤ matcher.demand stream before :=
  Nat.add_le_add_right (Finset.card_le_card (unexplored_subset known)) _

/-- There is no more to explore than rules and positions. -/
theorem demand_le_count (matcher : Matcher) (stream : List Value) (memo : Memo) :
    matcher.demand stream memo ≤ matcher.grammar.visibleCount * positionCount stream := by
  unfold demand positionCount
  rw [Nat.mul_add]
  exact Nat.add_le_add_right (matcher.card_unexplored_le stream memo) _

theorem demand_lt_depthLimit (matcher : Matcher) (stream : List Value) (memo : Memo) :
    matcher.demand stream memo < matcher.depthLimit stream := by
  have limited := matcher.demand_le_count stream memo
  unfold depthLimit
  omega

/-- Applications nest within a bound, matches lie in the stream, nothing is left
in progress, and the only faults are names of rules that are not defined. -/
def budget (matcher : Matcher) (names : String → Prop) (depth : Nat) : Invariant where
  holds stream memo := memo.Bounded stream ∧ matcher.demand stream memo < depth
  changed := Memo.Settled
  changed_refl := .refl
  changed_trans before after := before.trans after
  allowed fault := ∃ name, names name ∧ matcher.grammar.rule? name = none ∧
    fault = .undefinedRule matcher.grammar.name name
  inner := by
    intro stream inner memo holds inside
    refine ⟨Memo.Bounded.empty inner, ?_⟩
    have counted := Nat.mul_le_mul_left matcher.grammar.visibleCount
      (positionCount_le_of_inside inside)
    have start := matcher.demand_le_count inner Memo.empty
    have enough := holds.2
    unfold demand at enough
    omega

/-! ## Applications within a bound -/

section Applications

variable
  {matcher : Matcher}
  {names : String → Prop}
  {depth : Nat}
  {apply : Applier}
  {stream : List Value}
  {name : String}
  {rule : Rule}
  {position : Nat}
  {memo : Memo}

/-- The bound is not exceeded by a memory that has only grown. -/
theorem budget_holds_of_extends
    {after : Memo}
    (holds : (matcher.budget names depth).holds stream memo)
    (extended : memo.Extends after)
    (bounded : after.Bounded stream) :
    (matcher.budget names depth).holds stream after :=
  ⟨bounded, Nat.lt_of_le_of_lt (demand_le extended.known) holds.2⟩

/-- What holds while a rule is evaluated at a place that was not known: from then
on the place is known, so the bound is smaller by one inside. -/
def Explores
    (matcher : Matcher)
    (depth : Nat)
    (stream : List Value)
    (name : String)
    (position : Nat)
    (memo after : Memo) : Prop :=
  after.Bounded stream ∧ matcher.demand stream after < depth ∧
    memo.SettledBut name position after ∧ (after.find? name position).isSome

/-- Every round of an evaluation stays within the bound. -/
theorem explores_rounds
    (respect : (matcher.budget names depth).AppliersRespect names apply)
    (closed : matcher.Closed names)
    (named : names name)
    (found : matcher.grammar.rule? name = some rule)
    (inside : position ≤ stream.length)
    (unknown : memo.find? rule.name position = none) :
    matcher.Rounds apply rule stream position
      (matcher.Explores depth stream rule.name position memo) (Hit.Bounded stream position)
      (matcher.budget names depth).allowed where
  kept := by
    rintro memo ⟨bounded, enough, settled, known⟩
    have report := invoke_respects respect closed named found inside ⟨bounded, enough⟩
    refine ⟨fun going => ?_, report.matched _, report.faulted _⟩
    obtain ⟨stillBounded, stillEnough⟩ := report.holds going
    have changed := report.changed going
    exact ⟨stillBounded, stillEnough, settled.trans changed, changed.known known⟩
  noted := by
    rintro memo hit ⟨bounded, enough, settled, known⟩ fits
    refine ⟨bounded.put_done ?_, Nat.lt_of_le_of_lt (demand_le ?_) enough,
      settled.put unknown _, ?_⟩
    · rintro _ ⟨⟩
      exact fits
    · exact Memo.isSome_find?_put _ _ _
    · rw [Memo.find?_put_self]
      rfl
  bounded fits := fits

/-- The evaluation of a rule at a place that was not known explores it. -/
theorem explores_evaluate
    (respect : (matcher.budget names depth).AppliersRespect names apply)
    (closed : matcher.Closed names)
    (named : names name)
    (found : matcher.grammar.rule? name = some rule)
    (inside : position ≤ stream.length)
    (unknown : memo.find? rule.name position = none)
    (holds : (matcher.budget names (depth + 1)).holds stream memo) :
    Evaluates rule position (matcher.Explores depth stream rule.name position memo)
      (Hit.Bounded stream position) (matcher.budget names depth).allowed
      (matcher.evaluate apply rule stream position memo) := by
  refine (explores_rounds respect closed named found inside unknown).evaluate ?_
  refine ⟨holds.1.put_pending _ _ _, ?_, ?_, ?_⟩
  · have explored := card_unexplored_put_lt found inside unknown (.pending false)
    have enough := holds.2
    unfold demand at enough ⊢
    omega
  · exact ((Memo.Settled.refl memo).but rule.name position).put unknown _
  · rw [Memo.find?_put_self]
    rfl

/-- The evaluation of a rule at a place that was not known respects a bound that
is greater by one than the bound inside. -/
theorem evaluate_respects
    (respect : (matcher.budget names depth).AppliersRespect names apply)
    (closed : matcher.Closed names)
    (named : names name)
    (found : matcher.grammar.rule? name = some rule)
    (inside : position ≤ stream.length)
    (unknown : memo.find? rule.name position = none)
    (holds : (matcher.budget names (depth + 1)).holds stream memo) :
    (matcher.evaluate apply rule stream position memo).outcome ≠ .mismatch ∧
    (matcher.budget names (depth + 1)).Respects stream
      (fun answer => ∀ hit, answer = some hit → hit.Bounded stream position) memo
      (matcher.evaluate apply rule stream position memo) := by
  have report := explores_evaluate respect closed named found inside unknown holds
  refine ⟨report.stays, ?_⟩
  cases ends : (matcher.evaluate apply rule stream position memo).outcome with
  | mismatch => exact absurd ends report.stays
  | fault fault => exact .of_fault ends (report.faulted ends)
  | matched answer =>
      obtain ⟨fits, reached, ⟨bounded, -, settled, -⟩, noted⟩ := report.answered ends
      have changed := settled.answer unknown answer
      rw [← noted] at changed
      refine .of_matched ends (budget_holds_of_extends holds changed.toExtends ?_) changed fits
      rw [noted]
      exact bounded.put_done fits

/-- Applications respect the bound on how deep they nest. -/
theorem applyWithin_respects
    (closed : matcher.Closed names)
    (depth : Nat) :
    (matcher.budget names depth).AppliersRespect names (matcher.applyWithin depth) := by
  induction depth with
  | zero =>
      intro stream position name memo _ _ holds
      exact absurd holds.2 (Nat.not_lt_zero _)
  | succ depth respect =>
      intro stream position name memo named inside holds
      refine applyWith_respects holds (fun missing => ⟨name, named, missing, rfl⟩) ?_
        (fun hit known => holds.1 known) ?_
      · intro reentered known
        have settled := Memo.Settled.put_pending known
        exact ⟨budget_holds_of_extends holds settled.toExtends (holds.1.put_pending _ _ _), settled⟩
      · rintro rule found rfl unknown
        exact evaluate_respects respect closed named found inside unknown holds

end Applications

/-- A match ends without a bound being reached, and its only fault is that a rule
is not defined. -/
theorem run_respects
    {matcher : Matcher}
    {names : String → Prop}
    (closed : matcher.Closed names)
    {name : String}
    (named : names name)
    (stream : List Value)
    {fault : Fault}
    (ends : matcher.matchAll stream name = .fault fault) :
    (matcher.budget names (matcher.depthLimit stream)).allowed fault := by
  cases found : matcher.grammar.rule? name with
  | none =>
      simp only [matchAll, run, runWith, found, Run.fail, Outcome.fault.injEq] at ends
      exact ⟨name, named, found, ends.symm⟩
  | some rule =>
      have start : (matcher.budget names (matcher.depthLimit stream)).holds stream
          Memo.empty := by
        exact ⟨Memo.Bounded.empty stream, matcher.demand_lt_depthLimit stream Memo.empty⟩
      have report := runWith_respects (applyWithin_respects closed _) closed named found start
      exact report.faulted fault ends

end Matcher

namespace Matching

/-! ## Bounds that are not reached -/

/-- Runs on the same memory that do the same, unless the first one ends with a fault
of some kind. -/
def coinciding (excused : Fault → Prop) : Lockstep where
  alike := Eq
  memories stream offset memo rightMemo :=
    offset = 0 ∧ memo = rightMemo ∧ memo.Bounded stream
  changed _ _ _ _ := True
  events := Eq
  excused := excused
  rightExcused _ := False
  laws.alike_refl := Eq.refl
  laws.alike_list := Value.list_eq_of_forall₂
  laws.changed_refl _ _ := trivial
  laws.changed_trans _ _ := trivial
  laws.events_nil := rfl
  laws.events_append first second := first ▸ second ▸ rfl
  laws.events_nested inner := inner ▸ rfl
  laws.inner _ _ := ⟨rfl, rfl, .empty _⟩

section Coinciding

variable {excused : Fault → Prop}

/-- What is told on both sides is the same. -/
theorem coinciding_tell
    {stream : List Value}
    {offset : Nat}
    {event rightEvent : Event}
    (same : offset = 0 → event = rightEvent) :
    (coinciding excused).simulation.Related stream offset (fun _ _ => True)
      (Run.tell event) fun _ => Run.tell rightEvent := by
  refine Lockstep.Goes.tell ?_
  rintro _ _ ⟨start, -⟩
  exact congrArg (fun event => [event]) (same start)

/-- On both sides the same is known and noted. -/
theorem coinciding_respectsMemory :
    (coinciding excused).simulation.RespectsMemory fun _ => True where
  consult := by
    rintro stream offset position rule _ memo _ ⟨rfl, rfl, bounded⟩
    have entries := (coinciding excused).simulation.entriesAlike_find? bounded rule position
    exact .inr ⟨.matched entries, rfl, fun _ => ⟨rfl, rfl, bounded⟩, fun _ => trivial⟩
  remember := by
    rintro stream offset position rule entry rightEntry _ entries memo _ ⟨rfl, rfl, bounded⟩
    obtain rfl := entries.eq id
    exact .inr ⟨.matched trivial, rfl, fun _ => ⟨rfl, rfl, entries.bounded_put bounded rule⟩,
      fun _ => trivial⟩
  entered rule := coinciding_tell (by rintro rfl; rfl)
  left := by
    intro stream offset position rule result rightResult completions
    refine coinciding_tell ?_
    rintro rfl
    cases completions with
    | some alike => rw [alike.eq id]; rfl
    | none => rfl
  reentered rule := coinciding_tell (by rintro rfl; rfl)
  answered := by
    intro stream offset position rule answer rightAnswer answers
    refine coinciding_tell ?_
    rintro rfl
    cases answers with
    | some hits => rw [hits.eq id]; rfl
    | none => rfl
  failed fault := Lockstep.Goes.fail fault

end Coinciding

/-- Runs on the same memory that do the same, unless the first one reaches a
bound. -/
def deepening : Lockstep := coinciding fun fault => fault = .exhausted

/-- On both sides the same is known and noted. -/
theorem deepening_respectsMemory : deepening.simulation.RespectsMemory fun _ => True :=
  coinciding_respectsMemory

end Matching

open Matching

namespace Matcher

/-- Applications that may nest deeper do the same, unless a bound is reached. -/
theorem applyWithin_deepening
    (matcher : Matcher)
    (depth : Nat) :
    ∀ deeper, depth ≤ deeper →
      deepening.simulation.AppliersAgree (fun _ => True) (matcher.applyWithin depth)
        fun _ => matcher.applyWithin deeper := by
  induction depth with
  | zero =>
      intro deeper _ stream offset position rule _ _ memo rightMemo _
      exact .inl (.inl ⟨.exhausted, rfl, rfl⟩)
  | succ depth inductionHypothesis =>
      intro deeper below
      obtain ⟨deeper, rfl⟩ := Nat.exists_eq_succ_of_ne_zero (Nat.ne_zero_of_lt below)
      refine applyWith_related deepening_respectsMemory (fun _ => rfl) (fun _ _ => rfl)
        (fun _ _ _ _ => trivial) (fun _ => actions_alike id _ _) ?_
      intro rule
      exact (inductionHypothesis deeper (Nat.le_of_succ_le_succ below)).agree
        fun _ _ => trivial

/-- The outcome of a match that reaches no bound does not depend on the bound. -/
theorem runWith_deeper
    {matcher : Matcher}
    {depth deeper : Nat}
    (below : depth ≤ deeper)
    {stream : List Value}
    {name : String}
    (ends : (matcher.runWith (matcher.applyWithin depth) stream name Memo.empty).outcome ≠
      .fault .exhausted) :
    (matcher.runWith (matcher.applyWithin deeper) stream name Memo.empty).outcome =
      (matcher.runWith (matcher.applyWithin depth) stream name Memo.empty).outcome := by
  refine runWith_outcome_eq id (matcher.applyWithin_deepening depth deeper below)
    ⟨rfl, rfl, .empty stream⟩ ?_
  rintro (⟨_, rfl, exhausted⟩ | ⟨_, excused, _⟩)
  · exact ends exhausted
  · exact excused

end Matcher

namespace Matching

/-- A loop that reaches no bound comes to the same with a higher one. -/
theorem repeatedly_more
    {body : Nat → Bindings → Run Step}
    (more rounds : Nat) :
    ∀ (position : Nat) (scope : Bindings) (values : List Value) (memo : Memo),
      (repeatedly body rounds position scope values memo).outcome ≠ .fault .exhausted →
        repeatedly body (rounds + more) position scope values memo =
          repeatedly body rounds position scope values memo := by
  induction rounds with
  | zero =>
      intro position scope values memo ends
      exact absurd rfl ends
  | succ rounds inductionHypothesis =>
      intro position scope values memo ends
      rw [Nat.succ_add]
      simp only [repeatedly] at ends ⊢
      cases tried : ((body position scope).attempt memo).outcome with
      | mismatch => rw [Run.bind_of_mismatch tried, Run.bind_of_mismatch tried]
      | fault fault => rw [Run.bind_of_fault tried, Run.bind_of_fault tried]
      | matched result =>
          rw [Run.bind_of_matched tried] at ends
          rw [Run.bind_of_matched tried, Run.bind_of_matched tried]
          cases result with
          | none => rfl
          | some step =>
              by_cases still : step.position == position
              · simp only [still, if_true]
              · simp only [still, Bool.false_eq_true, if_false] at ends ⊢
                rw [inductionHypothesis _ _ _ _ ends]

end Matching

open Matching

namespace Matcher

/-- A match that is grown within a bound comes to the same with a higher one. -/
theorem grow_more
    {matcher : Matcher}
    {apply : Applier}
    {rule : Rule}
    {stream : List Value}
    {position : Nat}
    (more rounds : Nat) :
    ∀ (best : Hit) (memo : Memo),
      (matcher.grow apply rule stream position rounds best memo).outcome ≠ .fault .exhausted →
        matcher.grow apply rule stream position (rounds + more) best memo =
          matcher.grow apply rule stream position rounds best memo := by
  induction rounds with
  | zero =>
      intro best memo ends
      exact absurd rfl ends
  | succ rounds inductionHypothesis =>
      intro best memo ends
      rw [Nat.succ_add]
      generalize again : matcher.invoke apply rule stream position
        (Memo.put rule.name (.done (some best)) position memo) = report
      cases invoked : report.outcome with
      | mismatch => rw [grow_of_mismatch again invoked, grow_of_mismatch again invoked]
      | fault fault => rw [grow_of_fault again invoked, grow_of_fault again invoked]
      | matched hit =>
          by_cases longer : best.finish < hit.finish
          · rw [grow_of_longer again invoked longer rfl] at ends
            rw [grow_of_longer again invoked longer rfl,
              grow_of_longer again invoked longer rfl, inductionHypothesis _ _ ends]
          · have stays := Nat.not_lt.mp longer
            rw [grow_of_not_longer again invoked stays, grow_of_not_longer again invoked stays]

/-- No match reaches a bound. -/
theorem matchAll_ne_exhausted
    (matcher : Matcher)
    (stream : List Value)
    (name : String) :
    matcher.matchAll stream name ≠ .fault .exhausted := by
  intro exhausted
  obtain ⟨_, -, -, undefined⟩ := run_respects (Closed.all matcher) trivial stream exhausted
  cases undefined

/-- Every match comes to an end: no bound on nested applications, on the rounds of
a repetition or on those in which a match grows is ever reached. Higher bounds
would have made no difference. -/
theorem matching_terminates (matcher : Matcher) (name : String) :
    (∀ stream, matcher.matchAll stream name ≠ .fault .exhausted) ∧
    (∀ value, matcher.matchValue value name ≠ .fault .exhausted) ∧
    (∀ text, matcher.matchText text name ≠ .fault .exhausted) ∧
    (∀ stream depth, matcher.depthLimit stream ≤ depth →
      (matcher.runWith (matcher.applyWithin depth) stream name Memo.empty).outcome =
        matcher.matchAll stream name) ∧
    (∀ body rounds more position scope values memo,
      (repeatedly body rounds position scope values memo).outcome ≠ .fault .exhausted →
        repeatedly body (rounds + more) position scope values memo =
          repeatedly body rounds position scope values memo) ∧
    (∀ apply rule stream position rounds more best memo,
      (matcher.grow apply rule stream position rounds best memo).outcome ≠ .fault .exhausted →
        matcher.grow apply rule stream position (rounds + more) best memo =
          matcher.grow apply rule stream position rounds best memo) := by
  have ends := fun stream => matcher.matchAll_ne_exhausted stream name
  refine ⟨ends, fun value => ends [value], fun text => ends (Value.chars text), ?_, ?_, ?_⟩
  · intro stream depth below
    exact runWith_deeper below (ends stream)
  · intro body rounds more position scope values memo
    exact repeatedly_more more rounds position scope values memo
  · intro apply rule stream position rounds more best memo
    exact grow_more more rounds best memo

end Matcher
end Heirloom
