import Heirloom.Proofs.Matching.Report
import Heirloom.Proofs.Matching.Simulation

/-!
# Runs in lockstep

Two runs go in lockstep when they start from memories that correspond, end with
outcomes of the same kind and leave memories that correspond again. A fault on
one side may excuse the other from going on, and nothing is said of the memory
after a fault. Runs in lockstep form a simulation.
-/

namespace Heirloom
namespace Matching

/-- What runs in lockstep rely on. -/
structure Lockstep.Laws
    (alike : Value → Value → Prop)
    (memories : List Value → Nat → Memo → Memo → Prop)
    (changed : Memo → Memo → Memo → Memo → Prop)
    (events : List Event → List Event → Prop) : Prop where
  alike_refl : ∀ value, alike value value
  alike_list : ∀ {lefts rights : List Value},
    List.Forall₂ alike lefts rights → alike (.list lefts) (.list rights)
  changed_refl : ∀ memo rightMemo, changed memo rightMemo memo rightMemo
  changed_trans : ∀ {first rightFirst second rightSecond third rightThird : Memo},
    changed first rightFirst second rightSecond →
      changed second rightSecond third rightThird → changed first rightFirst third rightThird
  events_nil : events [] []
  events_append : ∀ {first rightFirst second rightSecond : List Event},
    events first rightFirst → events second rightSecond →
      events (first ++ second) (rightFirst ++ rightSecond)
  events_nested : ∀ {inner rightInner : List Event},
    events inner rightInner → events [.nested inner] [.nested rightInner]
  inner : ∀ {stream inside : List Value} {offset : Nat} {memo rightMemo : Memo},
    memories stream offset memo rightMemo → Inside stream inside →
      memories inside 0 Memo.empty Memo.empty

/-- What two runs in lockstep have to do with each other. -/
structure Lockstep where
  /-- The values that count as the same. -/
  alike : Value → Value → Prop
  /-- Memories of a stream and of the rest of it that correspond. -/
  memories : List Value → Nat → Memo → Memo → Prop
  /-- How the memories may have changed, from one pair to another. -/
  changed : Memo → Memo → Memo → Memo → Prop
  /-- What may have happened on both sides. -/
  events : List Event → List Event → Prop
  /-- Faults on the left that excuse the right. -/
  excused : Fault → Prop
  /-- Faults on the right that excuse the left. -/
  rightExcused : Fault → Prop
  laws : Lockstep.Laws alike memories changed events

namespace Lockstep

variable (lockstep : Lockstep)

/-- Reports of runs that have gone in lockstep from two memories. -/
structure Reports
    (stream : List Value)
    (offset : Nat)
    (same : α → β → Prop)
    (memo rightMemo : Memo)
    (left : Report α)
    (right : Report β) : Prop where
  outcomes : Outcome.Rel same left.outcome right.outcome
  events : lockstep.events left.events right.events
  memories : (∀ fault, left.outcome ≠ .fault fault) →
    lockstep.memories stream offset left.memo right.memo
  changed : (∀ fault, left.outcome ≠ .fault fault) →
    lockstep.changed memo rightMemo left.memo right.memo

/-- Whether one of two reports excuses the other. -/
def Excuses (left : Outcome α) (right : Outcome β) : Prop :=
  (∃ fault, lockstep.excused fault ∧ left = .fault fault) ∨
    ∃ fault, lockstep.rightExcused fault ∧ right = .fault fault

/-- Runs that go in lockstep unless one excuses the other. -/
def Goes
    (stream : List Value)
    (offset : Nat)
    (same : α → β → Prop)
    (left : Run α)
    (right : Run β) : Prop :=
  ∀ memo rightMemo, lockstep.memories stream offset memo rightMemo →
    lockstep.Excuses (left memo).outcome (right rightMemo).outcome ∨
      lockstep.Reports stream offset same memo rightMemo (left memo) (right rightMemo)

variable
  {lockstep}
  {α β γ δ : Type}
  {stream : List Value}
  {offset : Nat}
  {same : α → β → Prop}
  {left : Run α}
  {right : Run β}

/-- A fault that excuses is still there after what would have followed. -/
theorem Excuses.bind
    {memo rightMemo : Memo}
    (excuses : lockstep.Excuses (left memo).outcome (right rightMemo).outcome)
    (leftNext : α → Run γ)
    (rightNext : β → Run δ) :
    lockstep.Excuses ((left >>= leftNext) memo).outcome
      ((right >>= rightNext) rightMemo).outcome := by
  rcases excuses with ⟨fault, excused, ends⟩ | ⟨fault, excused, ends⟩
  · rw [Run.bind_of_fault ends]
    exact .inl ⟨fault, excused, rfl⟩
  · rw [Run.bind_of_fault ends]
    exact .inr ⟨fault, excused, rfl⟩

/-- A fault that excuses is not caught by an attempt. -/
theorem Excuses.attempt
    {memo rightMemo : Memo}
    (excuses : lockstep.Excuses (left memo).outcome (right rightMemo).outcome) :
    lockstep.Excuses (left.attempt memo).outcome (right.attempt rightMemo).outcome := by
  rcases excuses with ⟨fault, excused, ends⟩ | ⟨fault, excused, ends⟩
  · rw [Run.attempt_of_fault ends]
    exact .inl ⟨fault, excused, rfl⟩
  · rw [Run.attempt_of_fault ends]
    exact .inr ⟨fault, excused, rfl⟩

/-- Runs in lockstep may be followed by runs in lockstep. -/
theorem Goes.bind
    {following : γ → δ → Prop}
    {leftNext : α → Run γ}
    {rightNext : β → Run δ}
    (first : lockstep.Goes stream offset same left right)
    (next : ∀ result other, same result other →
      lockstep.Goes stream offset following (leftNext result) (rightNext other)) :
    lockstep.Goes stream offset following (left >>= leftNext) (right >>= rightNext) := by
  intro memo rightMemo memories
  rcases first memo rightMemo memories with excuses | before
  · exact .inl (excuses.bind leftNext rightNext)
  have outcomes := before.outcomes
  generalize ends : (left memo).outcome = outcome at outcomes
  generalize rightEnds : (right rightMemo).outcome = rightOutcome at outcomes
  cases outcomes with
  | @matched result other results =>
      have going := Outcome.ne_fault_of_matched ends
      rw [Run.bind_of_matched ends, Run.bind_of_matched rightEnds]
      rcases next result other results _ _ (before.memories going) with excuses | after
      · exact .inl excuses
      · refine .inr ⟨after.outcomes, ?_, after.memories, fun goes =>
          lockstep.laws.changed_trans (before.changed going) (after.changed goes)⟩
        simp only [Report.events, Journal.entries_append]
        exact lockstep.laws.events_append before.events after.events
  | mismatch =>
      have going := Outcome.ne_fault_of_mismatch ends
      rw [Run.bind_of_mismatch ends, Run.bind_of_mismatch rightEnds]
      exact .inr ⟨.mismatch, before.events, fun _ => before.memories going,
        fun _ => before.changed going⟩
  | fault fault =>
      rw [Run.bind_of_fault ends, Run.bind_of_fault rightEnds]
      exact .inr ⟨.fault fault, before.events, fun goes => absurd rfl (goes fault),
        fun goes => absurd rfl (goes fault)⟩

/-- Attempts at runs in lockstep go in lockstep. -/
theorem Goes.attempt
    (related : lockstep.Goes stream offset same left right) :
    lockstep.Goes stream offset (Option.Rel same) left.attempt right.attempt := by
  intro memo rightMemo memories
  rcases related memo rightMemo memories with excuses | report
  · exact .inl excuses.attempt
  have outcomes := report.outcomes
  generalize ends : (left memo).outcome = outcome at outcomes
  generalize rightEnds : (right rightMemo).outcome = rightOutcome at outcomes
  cases outcomes with
  | matched results =>
      have going := Outcome.ne_fault_of_matched ends
      rw [Run.attempt_of_matched ends, Run.attempt_of_matched rightEnds]
      exact .inr ⟨.matched (.some results), report.events, fun _ => report.memories going,
        fun _ => report.changed going⟩
  | mismatch =>
      have going := Outcome.ne_fault_of_mismatch ends
      rw [Run.attempt_of_mismatch ends, Run.attempt_of_mismatch rightEnds]
      exact .inr ⟨.matched .none, report.events, fun _ => report.memories going,
        fun _ => report.changed going⟩
  | fault fault =>
      rw [Run.attempt_of_fault ends, Run.attempt_of_fault rightEnds]
      exact .inr ⟨.fault fault, report.events, fun goes => absurd rfl (goes fault),
        fun goes => absurd rfl (goes fault)⟩

/-- Runs from empty memories in lockstep leave the memories outside alone. -/
theorem Goes.apart
    {inner : List Value}
    (start : ∀ {memo rightMemo : Memo}, lockstep.memories stream offset memo rightMemo →
      lockstep.memories inner 0 Memo.empty Memo.empty)
    (related : lockstep.Goes inner 0 same left right) :
    lockstep.Goes stream offset same (Run.within left) (Run.within right) := by
  intro memo rightMemo memories
  rcases related _ _ (start memories) with excuses | report
  · exact .inl excuses
  · exact .inr ⟨report.outcomes, lockstep.laws.events_nested report.events, fun _ => memories,
      fun _ => lockstep.laws.changed_refl memo rightMemo⟩

/-- Runs on an inner stream in lockstep leave the memories outside alone. -/
theorem Goes.within
    {inner : List Value}
    (inside : Inside stream inner)
    (related : lockstep.Goes inner 0 same left right) :
    lockstep.Goes stream offset same (Run.within left) (Run.within right) :=
  related.apart fun memories => lockstep.laws.inner memories inside

/-- What may be told on both sides is told in lockstep. -/
theorem Goes.tell
    {event rightEvent : Event}
    (told : ∀ {memo rightMemo : Memo}, lockstep.memories stream offset memo rightMemo →
      lockstep.events [event] [rightEvent]) :
    lockstep.Goes stream offset (fun _ _ => True) (Run.tell event) (Run.tell rightEvent) :=
  fun memo rightMemo memories => .inr ⟨.matched trivial, told memories, fun _ => memories,
    fun _ => lockstep.laws.changed_refl memo rightMemo⟩

/-- Runs that fail alike go in lockstep. -/
theorem Goes.fail (fault : Fault) :
    lockstep.Goes stream offset same (Run.fail fault) (Run.fail fault) :=
  fun memo rightMemo memories => .inr ⟨.fault fault, lockstep.laws.events_nil, fun _ => memories,
    fun _ => lockstep.laws.changed_refl memo rightMemo⟩

variable (lockstep) in
/-- Runs in lockstep form a simulation. -/
def simulation : Simulation Unit where
  alike := lockstep.alike
  Related stream offset same left right := lockstep.Goes stream offset same left (right ())
  alike_refl := lockstep.laws.alike_refl
  alike_list := lockstep.laws.alike_list
  done := by
    intro α β stream offset same left right results memo rightMemo memories
    exact .inr ⟨.matched results, lockstep.laws.events_nil, fun _ => memories,
      fun _ => lockstep.laws.changed_refl memo rightMemo⟩
  mismatch := by
    intro α β stream offset same memo rightMemo memories
    exact .inr ⟨.mismatch, lockstep.laws.events_nil, fun _ => memories,
      fun _ => lockstep.laws.changed_refl memo rightMemo⟩
  andThen first next := Goes.bind first next
  attempt related := Goes.attempt related
  within inside related := Goes.within inside related

end Lockstep
end Matching
end Heirloom
