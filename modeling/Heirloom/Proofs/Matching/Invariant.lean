import Heirloom.Proofs.Matching.Application

/-!
# Invariants of runs

An invariant says what holds of the memory of a stream, how the memory may
change and which faults may end a run. Nothing is said of the memory after a
fault. Runs that respect an invariant form a simulation, so an invariant that
applications respect is respected by every evaluation.

The memory of a run only grows: what is known stays known, answers are final,
and nothing is left in progress that was not so before.
-/

namespace Heirloom
namespace Matching

/-- The match ends between its start and the end of the stream. -/
def Hit.Bounded (stream : List Value) (start : Nat) (hit : Hit) : Prop :=
  start ≤ hit.finish ∧ hit.finish ≤ stream.length

/-! ## Memory -/

namespace Memo

/-- Nothing is known in an empty memory. -/
theorem find?_empty
    (rule : String)
    (position : Nat) :
    empty.find? rule position = none := by
  simp [find?, row, empty]

/-- The entry that was put last is found. -/
theorem find?_put_self
    (rule : String)
    (entry : Entry)
    (position : Nat)
    (memo : Memo) :
    (put rule entry position memo).find? rule position = some entry := by
  rw [find?_put, if_pos ⟨rfl, rfl⟩]

/-- Another entry than the one that was put is found as before. -/
theorem find?_put_of_ne
    {rule other : String}
    {position place : Nat}
    (different : ¬ (other = rule ∧ place = position))
    (entry : Entry)
    (memo : Memo) :
    (put rule entry position memo).find? other place = memo.find? other place := by
  rw [find?_put, if_neg different]

/-- What is known stays known when something else is noted. -/
theorem isSome_find?_put
    {memo : Memo}
    (rule : String)
    (entry : Entry)
    (position : Nat)
    {other : String}
    {place : Nat}
    (known : (memo.find? other place).isSome) :
    ((put rule entry position memo).find? other place).isSome := by
  rw [find?_put]
  split
  · rfl
  · exact known

/-- What is known stays known, and answers are final. -/
structure Extends (before after : Memo) : Prop where
  known : ∀ {rule : String} {position : Nat},
    (before.find? rule position).isSome → (after.find? rule position).isSome
  answers : ∀ {rule : String} {position : Nat} {answer : Option Hit},
    before.find? rule position = some (.done answer) →
      after.find? rule position = some (.done answer)

namespace Extends

theorem refl (memo : Memo) : Extends memo memo := ⟨id, id⟩

theorem trans
    {first second third : Memo}
    (before : Extends first second)
    (after : Extends second third) :
    Extends first third :=
  ⟨after.known ∘ before.known, after.answers ∘ before.answers⟩

/-- An entry may be put where there was no answer to begin with. -/
theorem put
    {before after : Memo}
    (extended : Extends before after)
    {rule : String}
    {position : Nat}
    (unanswered : ∀ answer, before.find? rule position ≠ some (.done answer))
    (entry : Entry) :
    Extends before (Memo.put rule entry position after) where
  known known := isSome_find?_put rule entry position (extended.known known)
  answers := by
    intro other place answer known
    rw [find?_put]
    split
    · next same =>
        obtain ⟨rfl, rfl⟩ := same
        exact absurd known (unanswered answer)
    · exact extended.answers known

end Extends

/-- More is known, and nothing is in progress that was not so before. -/
structure Settled (before after : Memo) : Prop extends Extends before after where
  pending : ∀ {rule : String} {position : Nat} {reentered : Bool},
    after.find? rule position = some (.pending reentered) →
      ∃ earlier, before.find? rule position = some (.pending earlier)

namespace Settled

theorem refl (memo : Memo) : Settled memo memo := ⟨.refl memo, fun known => ⟨_, known⟩⟩

theorem trans
    {first second third : Memo}
    (before : Settled first second)
    (after : Settled second third) :
    Settled first third := by
  refine ⟨before.toExtends.trans after.toExtends, ?_⟩
  intro rule position reentered known
  obtain ⟨earlier, between⟩ := after.pending known
  exact before.pending between

/-- An application in progress may be met again. -/
theorem put_pending
    {memo : Memo}
    {rule : String}
    {position : Nat}
    {reentered : Bool}
    (known : memo.find? rule position = some (.pending reentered)) :
    Settled memo (put rule (.pending true) position memo) := by
  refine ⟨(Extends.refl memo).put (fun answer => by rw [known]; exact nofun) _, ?_⟩
  intro other place again found
  rw [find?_put] at found
  split at found
  · next same =>
      obtain ⟨rfl, rfl⟩ := same
      exact ⟨reentered, known⟩
  · exact ⟨again, found⟩

end Settled

/-- More is known, and nothing is in progress that was not so before, but for one
application. -/
structure SettledBut (rule : String) (position : Nat) (before after : Memo) : Prop
    extends Extends before after where
  pending : ∀ {other : String} {place : Nat} {reentered : Bool},
    ¬ (other = rule ∧ place = position) →
    after.find? other place = some (.pending reentered) →
      ∃ earlier, before.find? other place = some (.pending earlier)

theorem Settled.but
    {before after : Memo}
    (settled : Settled before after)
    (rule : String)
    (position : Nat) :
    SettledBut rule position before after :=
  ⟨settled.toExtends, fun _ known => settled.pending known⟩

namespace SettledBut

variable
  {rule : String}
  {position : Nat}
  {memo after : Memo}

/-- An entry may be put for that application if it was not known. -/
theorem put
    (settled : SettledBut rule position memo after)
    (unknown : memo.find? rule position = none)
    (entry : Entry) :
    SettledBut rule position memo (Memo.put rule entry position after) := by
  refine ⟨settled.toExtends.put (fun answer => by rw [unknown]; exact nofun) entry, ?_⟩
  intro other place reentered elsewhere known
  rw [find?_put_of_ne elsewhere] at known
  exact settled.pending elsewhere known

theorem trans
    {later : Memo}
    (settled : SettledBut rule position memo after)
    (further : Settled after later) :
    SettledBut rule position memo later := by
  refine ⟨settled.toExtends.trans further.toExtends, ?_⟩
  intro other place reentered elsewhere known
  obtain ⟨earlier, between⟩ := further.pending known
  exact settled.pending elsewhere between

/-- Once it is answered, nothing is left in progress. -/
theorem answer
    (settled : SettledBut rule position memo after)
    (unknown : memo.find? rule position = none)
    (result : Option Hit) :
    Settled memo (Memo.put rule (.done result) position after) := by
  have noted := settled.put unknown (.done result)
  refine ⟨noted.toExtends, ?_⟩
  intro other place reentered known
  by_cases here : other = rule ∧ place = position
  · obtain ⟨rfl, rfl⟩ := here
    rw [find?_put_self] at known
    cases known
  · exact noted.pending here known

end SettledBut

/-- Every match in the memory ends between its start and the end of the stream. -/
def Bounded (stream : List Value) (memo : Memo) : Prop :=
  ∀ ⦃rule : String⦄ ⦃position : Nat⦄ ⦃hit : Hit⦄,
    memo.find? rule position = some (.done (some hit)) → hit.Bounded stream position

namespace Bounded

theorem empty (stream : List Value) : Bounded stream Memo.empty := by
  intro rule position hit known
  rw [find?_empty] at known
  cases known

/-- An entry may be noted if its match lies in the stream. -/
theorem put
    {stream : List Value}
    {memo : Memo}
    (bounded : Bounded stream memo)
    {rule : String}
    {position : Nat}
    {entry : Entry}
    (inside : ∀ hit, entry = .done (some hit) → hit.Bounded stream position) :
    Bounded stream (Memo.put rule entry position memo) := by
  intro other place hit known
  rw [find?_put] at known
  split at known
  · next same =>
      obtain ⟨rfl, rfl⟩ := same
      exact inside hit (Option.some.inj known)
  · exact bounded known

/-- An application in progress may be noted. -/
theorem put_pending
    {stream : List Value}
    {memo : Memo}
    (bounded : Bounded stream memo)
    (rule : String)
    (position : Nat)
    (reentered : Bool) :
    Bounded stream (Memo.put rule (.pending reentered) position memo) :=
  bounded.put nofun

/-- An answer may be noted if it lies in the stream. -/
theorem put_done
    {stream : List Value}
    {memo : Memo}
    (bounded : Bounded stream memo)
    {rule : String}
    {position : Nat}
    {answer : Option Hit}
    (inside : ∀ hit, answer = some hit → hit.Bounded stream position) :
    Bounded stream (Memo.put rule (.done answer) position memo) :=
  bounded.put fun hit same => inside hit (Entry.done.inj same)

end Bounded
end Memo

/-! ## Invariants -/

/-- What holds of the memory of a stream throughout a run. -/
structure Invariant where
  /-- What holds of the memory of a stream. -/
  holds : List Value → Memo → Prop
  /-- How the memory may have changed. -/
  changed : Memo → Memo → Prop
  /-- The faults that may end a run. -/
  allowed : Fault → Prop
  changed_refl : ∀ memo, changed memo memo
  changed_trans : ∀ {first second third : Memo},
    changed first second → changed second third → changed first third
  /-- It holds of the empty memory that a stream inside another one starts from. -/
  inner : ∀ {stream inside : List Value} {memo : Memo},
    holds stream memo → Inside stream inside → holds inside Memo.empty

namespace Invariant

/-- The report of a run that respects an invariant: unless it ends with a fault,
the memory and the results are as they should be. -/
structure Respects
    (invariant : Invariant)
    (stream : List Value)
    (good : α → Prop)
    (memo : Memo)
    (report : Report α) : Prop where
  holds : (∀ fault, report.outcome ≠ .fault fault) → invariant.holds stream report.memo
  changed : (∀ fault, report.outcome ≠ .fault fault) → invariant.changed memo report.memo
  matched : ∀ result, report.outcome = .matched result → good result
  faulted : ∀ fault, report.outcome = .fault fault → invariant.allowed fault

namespace Respects

variable
  {invariant : Invariant}
  {stream : List Value}
  {good : α → Prop}
  {memo : Memo}

/-- A run that leaves the memory as it is. -/
theorem still
    {outcome : Outcome α}
    {journal : Journal Event}
    (holds : invariant.holds stream memo)
    (matched : ∀ result, outcome = .matched result → good result)
    (goes : ∀ fault, outcome ≠ .fault fault) :
    invariant.Respects stream good memo ⟨outcome, memo, journal⟩ :=
  ⟨fun _ => holds, fun _ => invariant.changed_refl memo, matched,
    fun fault ends => absurd ends (goes fault)⟩

/-- A run that ends with a fault. -/
theorem of_fault
    {report : Report α}
    {fault : Fault}
    (ends : report.outcome = .fault fault)
    (allowed : invariant.allowed fault) :
    invariant.Respects stream good memo report := by
  refine ⟨fun going => absurd ends (going fault), fun going => absurd ends (going fault), ?_, ?_⟩
  · intro result matched
    rw [ends] at matched
    cases matched
  · intro other faulted
    rw [ends] at faulted
    cases faulted
    exact allowed

/-- A run that ends with a match. -/
theorem of_matched
    {report : Report α}
    {result : α}
    (ends : report.outcome = .matched result)
    (holds : invariant.holds stream report.memo)
    (changed : invariant.changed memo report.memo)
    (fits : good result) :
    invariant.Respects stream good memo report := by
  refine ⟨fun _ => holds, fun _ => changed, ?_, ?_⟩
  · intro other matched
    rw [ends] at matched
    cases matched
    exact fits
  · intro fault faulted
    rw [ends] at faulted
    cases faulted

end Respects

/-- Runs that respect an invariant form a simulation, with nothing on the right
to compare them to. -/
def simulation (invariant : Invariant) : Simulation Empty where
  alike := Eq
  Related stream _ same run _ :=
    ∀ memo, invariant.holds stream memo →
      invariant.Respects stream (fun result => ∃ other, same result other) memo (run memo)
  alike_refl := @Eq.refl Value
  alike_list := @Value.list_eq_of_forall₂
  done := by
    intro α β stream offset same left right results memo holds
    exact .still holds (by rintro _ ⟨⟩; exact ⟨right, results⟩) nofun
  mismatch := by
    intro α β stream offset same memo holds
    exact .still holds nofun nofun
  andThen := by
    intro α β γ δ stream offset same following left right leftNext rightNext first next memo
      holds
    have before := first memo holds
    generalize ends : (left memo).outcome = outcome at before
    cases outcome with
    | matched result =>
        have going := Outcome.ne_fault_of_matched ends
        obtain ⟨other, results⟩ := before.matched result ends
        have after := next result other results (left memo).memo (before.holds going)
        rw [Run.bind_of_matched ends]
        exact ⟨after.holds, fun goes => invariant.changed_trans (before.changed going)
          (after.changed goes), after.matched, after.faulted⟩
    | mismatch =>
        have going := Outcome.ne_fault_of_mismatch ends
        rw [Run.bind_of_mismatch ends]
        exact ⟨fun _ => before.holds going, fun _ => before.changed going, nofun, nofun⟩
    | fault fault =>
        rw [Run.bind_of_fault ends]
        exact .of_fault rfl (before.faulted fault ends)
  attempt := by
    intro α β stream offset same left right related memo holds
    have report := related memo holds
    generalize ends : (left memo).outcome = outcome at report
    cases outcome with
    | matched result =>
        have going := Outcome.ne_fault_of_matched ends
        obtain ⟨other, results⟩ := report.matched result ends
        rw [Run.attempt_of_matched ends]
        exact ⟨fun _ => report.holds going, fun _ => report.changed going,
          by rintro _ ⟨⟩; exact ⟨some other, .some results⟩, nofun⟩
    | mismatch =>
        have going := Outcome.ne_fault_of_mismatch ends
        rw [Run.attempt_of_mismatch ends]
        exact ⟨fun _ => report.holds going, fun _ => report.changed going,
          by rintro _ ⟨⟩; exact ⟨none, .none⟩, nofun⟩
    | fault fault =>
        rw [Run.attempt_of_fault ends]
        exact .of_fault rfl (report.faulted fault ends)
  within := by
    intro α β stream inside offset same left right nested related memo holds
    have report := related Memo.empty (invariant.inner holds nested)
    exact ⟨fun _ => holds, fun _ => invariant.changed_refl memo, report.matched, report.faulted⟩

variable
  {invariant : Invariant}
  {names : String → Prop}
  {apply : Applier}

/-- A way to apply some rules that respects an invariant. -/
def AppliersRespect
    (invariant : Invariant)
    (names : String → Prop)
    (apply : Applier) : Prop :=
  ∀ ⦃stream : List Value⦄ ⦃position : Nat⦄ ⦃rule : String⦄ ⦃memo : Memo⦄,
    names rule → position ≤ stream.length → invariant.holds stream memo →
      invariant.Respects stream (Hit.Bounded stream position) memo
        (apply stream rule position memo)

/-- To respect an invariant is to agree in its simulation. -/
theorem AppliersRespect.agree
    (respect : invariant.AppliersRespect names apply) :
    invariant.simulation.AppliersAgree names apply Empty.elim := by
  intro stream offset position rule named inside memo holds
  have report := respect named inside holds
  refine ⟨report.holds, report.changed, ?_, report.faulted⟩
  intro hit ends
  obtain ⟨start, finish⟩ := report.matched hit ends
  refine ⟨⟨hit.value, hit.finish - offset⟩, rfl, ?_, start, finish⟩
  dsimp only
  omega

/-- What is told changes no memory. -/
theorem tell_respects
    {stream : List Value}
    {offset : Nat}
    (event : Event)
    (right : Empty → Run Unit) :
    invariant.simulation.Related stream offset (fun _ _ => True) (Run.tell event) right := by
  intro memo holds
  exact .still holds (fun _ _ => ⟨(), trivial⟩) nofun

end Invariant
end Matching

open Matching

namespace Matcher

/-- What is skipped with is the skip rule, where it is found. -/
theorem skipRule_of_skipRuleFor
    {matcher : Matcher}
    {syntactic : Bool}
    {rule : String}
    (skips : matcher.skipRuleFor syntactic = some rule) :
    matcher.skipRule = some rule ∧ (matcher.grammar.rule? rule).isSome := by
  cases syntactic with
  | false => cases skips
  | true =>
      unfold skipRuleFor at skips
      rwa [if_pos rfl, Option.filter_eq_some_iff] at skips

/-- Names of rules that are closed under what their rules apply and skip with. -/
structure Closed (matcher : Matcher) (names : String → Prop) : Prop where
  applied : ∀ {name : String} {rule : Rule},
    names name → matcher.grammar.rule? name = some rule →
      ∀ other ∈ rule.body.references, names other
  skipped : ∀ {syntactic : Bool} {rule : String},
    matcher.skipRuleFor syntactic = some rule → names rule

/-- All names are closed. -/
theorem Closed.all (matcher : Matcher) : matcher.Closed fun _ => True :=
  ⟨fun _ _ _ _ => trivial, fun _ => trivial⟩

variable
  {matcher : Matcher}
  {invariant : Invariant}
  {names : String → Prop}
  {apply : Applier}
  {stream : List Value}
  {name : String}
  {rule : Rule}
  {position : Nat}
  {memo : Memo}

/-- The evaluation of a rule respects what the applications in it respect. -/
theorem invoke_respects
    (respect : invariant.AppliersRespect names apply)
    (closed : matcher.Closed names)
    (named : names name)
    (found : matcher.grammar.rule? name = some rule)
    (inside : position ≤ stream.length)
    (holds : invariant.holds stream memo) :
    invariant.Respects stream (Hit.Bounded stream position) memo
      (matcher.invoke apply rule stream position memo) := by
  have agree : invariant.simulation.Agree names (matcher.contextFor apply rule)
      fun index : Empty => matcher.contextFor index.elim rule :=
    respect.agree.agree fun _ => closed.skipped
  have related : invariant.simulation.Related stream 0
      (invariant.simulation.HitsAlike stream 0 position)
      (matcher.invoke apply rule stream position)
      fun index : Empty => matcher.invoke index.elim rule stream position :=
    invoke_related agree (closed.applied named found)
      (actions_alike id matcher.actions rule.name) inside
      (Invariant.tell_respects _ _) (fun _ _ _ => Invariant.tell_respects _ _)
  have report := related memo holds
  refine ⟨report.holds, report.changed, ?_, report.faulted⟩
  intro hit ends
  obtain ⟨other, -, -, start, finish⟩ := report.matched hit ends
  exact ⟨start, finish⟩

/-- A match of a whole stream respects what the applications in it respect. -/
theorem runWith_respects
    (respect : invariant.AppliersRespect names apply)
    (closed : matcher.Closed names)
    (named : names name)
    (found : matcher.grammar.rule? name = some rule)
    (holds : invariant.holds stream memo) :
    invariant.Respects stream (fun _ => True) memo
      (matcher.runWith apply stream name memo) := by
  have agree : invariant.simulation.Agree names (matcher.contextFor apply rule)
      fun index : Empty => matcher.contextFor index.elim rule :=
    respect.agree.agree fun _ => closed.skipped
  have report := runWith_related found found agree named memo holds
  exact ⟨report.holds, report.changed, fun _ _ => trivial, report.faulted⟩

end Matcher
end Heirloom
