import Heirloom.Proofs.Matching.Descent
import Heirloom.Proofs.Matching.Termination

/-!
# Memory against plain descent

A run with a memory agrees with plain descent unless an application meets itself
in progress. Throughout a run that does not, every answer in the memory is the
answer of plain descent, and what is in progress stays in progress until it is
answered. An application that meets itself descends forever without a memory.
So plain descent comes to an end exactly when no application meets itself, and
then both come to the same.
-/

namespace Heirloom
namespace Matching

mutual

/-- Whether an application finds itself in progress, in the stream or inside it. -/
def Event.reenters : Event → Bool
  | .reentered _ _ => true
  | .nested events => anyReenters events
  | _ => false

/-- Whether one of several events is an application that finds itself in
progress. -/
def anyReenters : List Event → Bool
  | [] => false
  | event :: events => event.reenters || anyReenters events

end

@[simp] theorem anyReenters_append (first second : List Event) :
    anyReenters (first ++ second) = (anyReenters first || anyReenters second) := by
  induction first with
  | nil => rfl
  | cons event events inductionHypothesis =>
      rw [List.cons_append, anyReenters, anyReenters, inductionHypothesis, Bool.or_assoc]

/-- An application that has found itself in progress stays on record. -/
theorem anyReenters_of_extends
    {first whole : List Event}
    (extended : first <+: whole)
    (reenters : anyReenters first = true) :
    anyReenters whole = true := by
  obtain ⟨rest, rfl⟩ := extended
  rw [anyReenters_append, reenters, Bool.true_or]

/-- The same applications are in progress, met again or not as before. -/
def Memo.SamePending (before after : Memo) : Prop :=
  ∀ name position reentered,
    before.find? name position = some (.pending reentered) ↔
      after.find? name position = some (.pending reentered)

namespace Memo.SamePending

theorem refl (memo : Memo) : SamePending memo memo := fun _ _ _ => .rfl

theorem trans
    {first second third : Memo}
    (before : SamePending first second)
    (after : SamePending second third) :
    SamePending first third :=
  fun name position reentered => (before name position reentered).trans (after _ _ _)

/-- An application that was not known is answered after it has been in progress. -/
theorem answer
    {memo after : Memo}
    {name : String}
    {position : Nat}
    (unknown : memo.find? name position = none)
    (same : SamePending (put name (.pending false) position memo) after)
    (result : Option Hit) :
    SamePending memo (put name (.done result) position after) := by
  intro other place reentered
  have kept := same other place reentered
  rw [find?_put] at kept
  rw [find?_put]
  split at kept
  · next here =>
      obtain ⟨rfl, rfl⟩ := here
      rw [if_pos ⟨rfl, rfl⟩, unknown]
      exact ⟨nofun, nofun⟩
  · next elsewhere =>
      rw [if_neg elsewhere]
      exact kept

end Memo.SamePending
end Matching

open Matching

namespace Matcher

/-- Every answer in the memory is the answer of plain descent. -/
def Faithful (matcher : Matcher) (stream : List Value) (memo : Memo) : Prop :=
  ∀ ⦃name : String⦄ ⦃position : Nat⦄ ⦃answer : Option Hit⦄,
    memo.find? name position = some (.done answer) →
      matcher.DescentAnswers stream name position answer

namespace Faithful

variable
  {matcher : Matcher}
  {stream : List Value}
  {memo : Memo}

theorem empty (matcher : Matcher) (stream : List Value) :
    matcher.Faithful stream Memo.empty := by
  intro name position answer known
  rw [Memo.find?_empty] at known
  cases known

theorem put_pending
    (faithful : matcher.Faithful stream memo)
    (name : String)
    (position : Nat)
    (reentered : Bool) :
    matcher.Faithful stream (Memo.put name (.pending reentered) position memo) := by
  intro other place answer known
  rw [Memo.find?_put] at known
  split at known
  · cases known
  · exact faithful known

theorem put_done
    (faithful : matcher.Faithful stream memo)
    {name : String}
    {position : Nat}
    {answer : Option Hit}
    (answers : matcher.DescentAnswers stream name position answer) :
    matcher.Faithful stream (Memo.put name (.done answer) position memo) := by
  intro other place result known
  rw [Memo.find?_put] at known
  split at known
  · next same =>
      obtain ⟨rfl, rfl⟩ := same
      cases known
      exact answers
  · exact faithful known

end Faithful

/-! ## Plain descent that comes to an end -/

/-- Whatever is in progress is beyond plain descent of a depth. -/
def Stuck (matcher : Matcher) (depth : Nat) (stream : List Value) (memo : Memo) : Prop :=
  ∀ ⦃name : String⦄ ⦃position : Nat⦄ ⦃reentered : Bool⦄,
    memo.find? name position = some (.pending reentered) →
      position ≤ stream.length ∧
        matcher.descent depth stream name position = .fault .exhausted

/-- A run beside plain descent of a depth: unless one of them reaches a bound,
they end alike, no application meets itself, and the answers are faithful. -/
def quiet (matcher : Matcher) (depth : Nat) : Lockstep where
  alike := Eq
  memories stream offset memo _ :=
    offset = 0 ∧ matcher.Faithful stream memo ∧ matcher.Stuck depth stream memo
  changed memo _ after _ := memo.SamePending after
  events events _ := anyReenters events = false
  excused fault := fault = .exhausted
  rightExcused fault := fault = .exhausted
  laws.alike_refl := Eq.refl
  laws.alike_list := Value.list_eq_of_forall₂
  laws.changed_refl memo _ := .refl memo
  laws.changed_trans before after := before.trans after
  laws.events_nil := rfl
  laws.events_append before after := by rw [anyReenters_append, before, after]; rfl
  laws.events_nested inner := by rw [anyReenters, Event.reenters, inner]; rfl
  laws.inner := by
    intro stream inner offset memo rightMemo _ _
    refine ⟨rfl, .empty matcher inner, ?_⟩
    intro name position reentered known
    rw [Memo.find?_empty] at known
    cases known

variable
  {matcher : Matcher}
  {apply : Applier}
  {depth : Nat}
  {stream : List Value}
  {name : String}
  {rule : Rule}
  {position : Nat}
  {memo rightMemo : Memo}

/-- What is told may be anything but an application in progress. -/
theorem quiet_tell
    {offset : Nat}
    {event : Event}
    (goes : event.reenters = false)
    (rightEvent : Event) :
    (matcher.quiet depth).simulation.Related stream offset (fun _ _ => True)
      (Run.tell event) fun _ => Run.tell rightEvent := by
  refine Lockstep.Goes.tell fun _ => ?_
  change anyReenters [event] = false
  rw [anyReenters, goes]
  rfl

/-- An evaluation that is beyond plain descent may be noted as in progress. -/
theorem Stuck.put_pending
    {deeper : Nat}
    (stuck : matcher.Stuck deeper stream memo)
    (below : depth ≤ deeper)
    (inside : position ≤ stream.length)
    (exhausted : matcher.descent depth stream name position = .fault .exhausted) :
    matcher.Stuck depth stream (Memo.put name (.pending false) position memo) := by
  intro other place reentered known
  rw [Memo.find?_put] at known
  split at known
  · next same =>
      obtain ⟨rfl, rfl⟩ := same
      exact ⟨inside, exhausted⟩
  · obtain ⟨within, stops⟩ := stuck known
    exact ⟨within, descendWithin_exhausted below within stops Memo.empty⟩

/-- The least depth at which plain descent is not stopped. -/
theorem exists_least_descent
    (goes : matcher.descent depth stream name position ≠ .fault .exhausted) :
    ∃ before < depth, matcher.descent before stream name position = .fault .exhausted ∧
      matcher.descent (before + 1) stream name position ≠ .fault .exhausted := by
  induction depth with
  | zero => exact absurd rfl goes
  | succ depth inductionHypothesis =>
      by_cases stops : matcher.descent depth stream name position = .fault .exhausted
      · exact ⟨depth, Nat.lt_succ_self depth, stops, goes⟩
      · obtain ⟨before, below, least⟩ := inductionHypothesis stops
        exact ⟨before, Nat.lt_succ_of_lt below, least⟩

/-- An application that is not known goes beside plain descent if those inside do
at lower depths. -/
theorem applyWith_quiet
    (lower : ∀ before < depth,
      (matcher.quiet before).simulation.AppliersAgree (fun _ => True) apply
        fun _ => matcher.descendWithin before)
    (inside : position ≤ stream.length)
    (faithful : matcher.Faithful stream memo)
    (stuck : matcher.Stuck depth stream memo)
    (found : matcher.grammar.rule? name = some rule)
    (unknown : memo.find? rule.name position = none)
    (goes : matcher.descent depth stream name position ≠ .fault .exhausted) :
    (matcher.quiet depth).Excuses
        (matcher.applyWith apply stream name position memo).outcome
        (matcher.descendWithin depth stream name position rightMemo).outcome ∨
      (matcher.quiet depth).Reports stream 0
        ((matcher.quiet depth).simulation.HitsAlike stream 0 position) memo rightMemo
        (matcher.applyWith apply stream name position memo)
        (matcher.descendWithin depth stream name position rightMemo) := by
  obtain rfl := Grammar.name_of_rule? found
  obtain ⟨before, below, stops, least⟩ := exists_least_descent goes
  have same : (matcher.descendWithin depth stream rule.name position rightMemo).outcome =
      (matcher.invoke (matcher.descendWithin before) rule stream position rightMemo).outcome := by
    rw [descendWithin_eq below inside least rightMemo, ← descendWithin_of_found found]
    exact (descendWithin_eq (Nat.le_refl _) inside least rightMemo).symm
  have related : (matcher.quiet before).simulation.Related stream 0
      ((matcher.quiet before).simulation.HitsAlike stream 0 position)
      (matcher.invoke apply rule stream position)
      fun _ => matcher.invoke (matcher.descendWithin before) rule stream position :=
    invoke_related ((lower before below).agree fun _ _ => trivial) (fun _ _ => trivial)
      (actions_alike id matcher.actions rule.name) inside (quiet_tell rfl _)
      fun _ _ _ => quiet_tell rfl _
  rcases related _ rightMemo ⟨rfl, faithful.put_pending rule.name position false,
    stuck.put_pending (Nat.le_of_lt below) inside stops⟩ with
    (⟨_, rfl, ends⟩ | ⟨_, rfl, ends⟩) | ⟨outcomes, happened, memories, changed⟩
  · rw [applyWith_of_first_fault rfl found unknown ends]
    exact .inl (.inl ⟨_, rfl, rfl⟩)
  · exact absurd (same.trans ends) (descendWithin_eq below inside least rightMemo ▸ least)
  · rw [← same] at outcomes
    generalize first : matcher.invoke apply rule stream position
      (Memo.put rule.name (.pending false) position memo) = report at *
    rcases report.outcome.fault_or_ofOption with ⟨fault, ends⟩ | ⟨answer, ends⟩
    · rw [applyWith_of_first_fault first found unknown ends]
      rw [ends] at outcomes
      refine .inr ⟨outcomes.imp fun hits => ⟨hits.value, hits.reaches⟩, happened,
        fun going => absurd rfl (going fault), fun going => absurd rfl (going fault)⟩
    · have going : ∀ fault, report.outcome ≠ .fault fault := by
        rw [ends]
        exact Outcome.ofOption_ne_fault answer
      obtain ⟨-, stillFaithful, -⟩ := memories going
      have samePending := changed going
      have quiet := (samePending rule.name position false).mp (Memo.find?_put_self _ _ _ _)
      rw [applyWith_of_quiet first found unknown ends quiet]
      rw [ends] at outcomes
      have answered := samePending.answer unknown answer
      refine .inr ⟨outcomes.imp fun hits => ⟨hits.value, hits.reaches⟩, ?_, fun _ => ⟨rfl, ?_, ?_⟩,
        fun _ => answered⟩
      · change anyReenters (report.journal ++ _).entries = false
        rw [Journal.entries_append, anyReenters_append]
        exact Bool.or_eq_false_iff.mpr ⟨happened, rfl⟩
      · have ends := (outcomes.imp fun hits => hits.eq id).eq
        rw [descendWithin_eq (Nat.le_refl depth) inside goes rightMemo] at ends
        exact stillFaithful.put_done ⟨depth, ends.symm⟩
      · intro other place reentered known
        exact stuck ((answered other place reentered).mpr known)

/-- Every run goes beside plain descent of every depth. -/
theorem applyWithin_quiet
    (matcher : Matcher)
    (depth : Nat) :
    ∀ nesting, (matcher.quiet depth).simulation.AppliersAgree (fun _ => True)
      (matcher.applyWithin nesting) fun _ => matcher.descendWithin depth := by
  induction depth using Nat.strong_induction_on with
  | _ depth inductionHypothesis =>
  intro nesting stream offset position name _ inside memo rightMemo memories
  obtain ⟨rfl, faithful, stuck⟩ := memories
  replace inside : position ≤ stream.length := inside
  by_cases stops : matcher.descent depth stream name position = .fault .exhausted
  · exact .inl (.inr ⟨.exhausted, rfl,
      descendWithin_exhausted (Nat.le_refl depth) inside stops rightMemo⟩)
  have goes : (matcher.descendWithin depth stream name position rightMemo).outcome ≠
      .fault .exhausted := by
    rwa [descendWithin_eq (Nat.le_refl depth) inside stops rightMemo]
  cases nesting with
  | zero => exact .inl (.inl ⟨.exhausted, rfl, rfl⟩)
  | succ nesting =>
      change (matcher.quiet depth).Excuses
          (matcher.applyWith (matcher.applyWithin nesting) stream name position memo).outcome
          (matcher.descendWithin depth stream name position rightMemo).outcome ∨
        (matcher.quiet depth).Reports stream 0
          ((matcher.quiet depth).simulation.HitsAlike stream 0 position) memo rightMemo
          (matcher.applyWith (matcher.applyWithin nesting) stream name position memo)
          (matcher.descendWithin depth stream name position rightMemo)
      cases found : matcher.grammar.rule? name with
      | none =>
          have positive : depth ≠ 0 := by
            rintro rfl
            exact stops rfl
          obtain ⟨depth, rfl⟩ := Nat.exists_eq_succ_of_ne_zero positive
          rw [applyWith_of_undefined found, descendWithin_of_undefined found]
          exact .inr ⟨.fault _, rfl, fun going => absurd rfl (going _),
            fun going => absurd rfl (going _)⟩
      | some rule =>
          obtain rfl := Grammar.name_of_rule? found
          rcases known : memo.find? rule.name position with _ | (reentered | answer)
          · exact applyWith_quiet (fun before below => inductionHypothesis before below nesting)
              inside faithful stuck found known stops
          · exact absurd (stuck known).2 stops
          · rw [applyWith_of_done found known]
            refine .inr ⟨((faithful known).related inside goes).imp
              fun hits => ⟨hits.value, hits.reaches⟩, rfl, fun _ => ⟨rfl, faithful, stuck⟩,
              fun _ => .refl memo⟩

end Matcher

/-! ## Plain descent that follows a run -/

namespace Matching

/-- Runs with growing bounds settle on an outcome, whatever is remembered. -/
def Settles (runs : Nat → Run α) (outcome : Outcome α) : Prop :=
  ∃ enough, ∀ depth, enough ≤ depth → ∀ memo, (runs depth memo).outcome = outcome

namespace Settles

variable
  {runs : Nat → Run α}
  {next : Nat → α → Run β}

theorem bind_matched
    {result : α}
    {outcome : Outcome β}
    (first : Settles runs (.matched result))
    (rest : Settles (fun depth => next depth result) outcome) :
    Settles (fun depth => runs depth >>= next depth) outcome := by
  obtain ⟨enough, settled⟩ := first
  obtain ⟨more, restSettled⟩ := rest
  refine ⟨max enough more, fun depth below memo => ?_⟩
  have ends := settled depth (Nat.le_trans (Nat.le_max_left _ _) below) memo
  have bound := congrArg Report.outcome (Run.bind_of_matched ends (next depth))
  exact bound.trans (restSettled depth (Nat.le_trans (Nat.le_max_right _ _) below) _)

theorem bind_mismatch
    (first : Settles runs .mismatch) :
    Settles (fun depth => runs depth >>= next depth) .mismatch := by
  obtain ⟨enough, settled⟩ := first
  exact ⟨enough, fun depth below memo =>
    congrArg Report.outcome (Run.bind_of_mismatch (settled depth below memo) (next depth))⟩

theorem bind_fault
    {fault : Fault}
    (first : Settles runs (.fault fault)) :
    Settles (fun depth => runs depth >>= next depth) (.fault fault) := by
  obtain ⟨enough, settled⟩ := first
  exact ⟨enough, fun depth below memo =>
    congrArg Report.outcome (Run.bind_of_fault (settled depth below memo) (next depth))⟩

theorem attempt_ofOption
    {answer : Option α}
    (settles : Settles runs (.ofOption answer)) :
    Settles (fun depth => (runs depth).attempt) (.matched answer) := by
  obtain ⟨enough, settled⟩ := settles
  refine ⟨enough, fun depth below memo => ?_⟩
  have ends := settled depth below memo
  cases answer with
  | some result => exact congrArg Report.outcome (Run.attempt_of_matched ends)
  | none => exact congrArg Report.outcome (Run.attempt_of_mismatch ends)

theorem attempt_fault
    {fault : Fault}
    (settles : Settles runs (.fault fault)) :
    Settles (fun depth => (runs depth).attempt) (.fault fault) := by
  obtain ⟨enough, settled⟩ := settles
  exact ⟨enough, fun depth below memo =>
    congrArg Report.outcome (Run.attempt_of_fault (settled depth below memo))⟩

theorem within
    {outcome : Outcome α}
    (settles : Settles runs outcome) :
    Settles (fun depth => Run.within (runs depth)) outcome := by
  obtain ⟨enough, settled⟩ := settles
  exact ⟨enough, fun depth below _ => settled depth below Memo.empty⟩

end Settles
end Matching

namespace Matcher

/-- The report of a run with faithful answers that plain descent follows. -/
structure Followed
    (matcher : Matcher)
    (stream : List Value)
    (same : α → β → Prop)
    (memo : Memo)
    (report : Report α)
    (runs : Nat → Run β) : Prop where
  settles : ∃ outcome, Outcome.Rel same report.outcome outcome ∧ Settles runs outcome
  faithful : (∀ fault, report.outcome ≠ .fault fault) → matcher.Faithful stream report.memo
  samePending : (∀ fault, report.outcome ≠ .fault fault) → memo.SamePending report.memo

/-- Plain descent follows a run from a memory with faithful answers, unless the
run reaches a bound or an application meets itself. -/
def Follows
    (matcher : Matcher)
    (stream : List Value)
    (same : α → β → Prop)
    (left : Run α)
    (right : Nat → Run β) : Prop :=
  ∀ memo, matcher.Faithful stream memo →
    (left memo).outcome = .fault .exhausted ∨ anyReenters (left memo).events = true ∨
      matcher.Followed stream same memo (left memo) right

namespace Follows

variable
  {matcher : Matcher}
  {stream : List Value}
  {same : α → β → Prop}
  {left : Run α}
  {right : Nat → Run β}

theorem done
    {result : α}
    {other : β}
    (results : same result other) :
    matcher.Follows stream same (pure result) fun _ => pure other := by
  intro memo faithful
  exact .inr (.inr ⟨⟨_, .matched results, 0, fun _ _ _ => rfl⟩, fun _ => faithful,
    fun _ => .refl memo⟩)

theorem mismatch :
    matcher.Follows stream same Run.mismatch fun _ => Run.mismatch := by
  intro memo faithful
  exact .inr (.inr ⟨⟨_, .mismatch, 0, fun _ _ _ => rfl⟩, fun _ => faithful,
    fun _ => .refl memo⟩)

theorem bind
    {following : γ → δ → Prop}
    {leftNext : α → Run γ}
    {rightNext : Nat → β → Run δ}
    (first : matcher.Follows stream same left right)
    (next : ∀ result other, same result other →
      matcher.Follows stream following (leftNext result) fun depth => rightNext depth other) :
    matcher.Follows stream following (left >>= leftNext)
      fun depth => right depth >>= rightNext depth := by
  intro memo faithful
  rcases first memo faithful with exhausted | reenters | ⟨⟨outcome, outcomes, settles⟩, kept, same⟩
  · rw [Run.bind_of_fault exhausted]
    exact .inl rfl
  · exact .inr (.inl (anyReenters_of_extends (Run.events_bind left leftNext memo) reenters))
  generalize ends : (left memo).outcome = leftOutcome at outcomes kept same
  cases outcomes with
  | @matched result other results =>
      have going : ∀ fault, Outcome.matched result ≠ .fault fault :=
        Outcome.ne_fault_of_matched rfl
      rcases next result other results (left memo).memo (kept going) with
        exhausted | reenters | ⟨⟨outcome, outcomes, restSettles⟩, restKept, restSame⟩
      · rw [Run.bind_of_matched ends]
        exact .inl exhausted
      · rw [Run.bind_of_matched ends, Report.events, Journal.entries_append, anyReenters_append]
        exact .inr (.inl (Bool.or_eq_true_iff.mpr (.inr reenters)))
      · rw [Run.bind_of_matched ends]
        exact .inr (.inr ⟨⟨outcome, outcomes, settles.bind_matched restSettles⟩, restKept,
          fun goes => (same going).trans (restSame goes)⟩)
  | mismatch =>
      have going : ∀ fault, (.mismatch : Outcome α) ≠ .fault fault :=
        Outcome.ne_fault_of_mismatch rfl
      rw [Run.bind_of_mismatch ends]
      exact .inr (.inr ⟨⟨_, .mismatch, settles.bind_mismatch⟩, fun _ => kept going,
        fun _ => same going⟩)
  | fault fault =>
      rw [Run.bind_of_fault ends]
      exact .inr (.inr ⟨⟨_, .fault fault, settles.bind_fault⟩,
        fun going => absurd rfl (going fault), fun going => absurd rfl (going fault)⟩)

theorem attempt
    (follows : matcher.Follows stream same left right) :
    matcher.Follows stream (Option.Rel same) left.attempt fun depth => (right depth).attempt := by
  intro memo faithful
  rw [Run.events_attempt]
  rcases follows memo faithful with
    exhausted | reenters | ⟨⟨outcome, outcomes, settles⟩, kept, same⟩
  · rw [Run.attempt_of_fault exhausted]
    exact .inl rfl
  · exact .inr (.inl reenters)
  generalize ends : (left memo).outcome = leftOutcome at outcomes kept same
  cases outcomes with
  | @matched result other results =>
      have going : ∀ fault, Outcome.matched result ≠ .fault fault :=
        Outcome.ne_fault_of_matched rfl
      rw [Run.attempt_of_matched ends]
      have settled : Settles right (.ofOption (some other)) := settles
      exact .inr (.inr ⟨⟨_, .matched (.some results), settled.attempt_ofOption⟩,
        fun _ => kept going, fun _ => same going⟩)
  | mismatch =>
      have going : ∀ fault, (.mismatch : Outcome α) ≠ .fault fault :=
        Outcome.ne_fault_of_mismatch rfl
      rw [Run.attempt_of_mismatch ends]
      have settled : Settles right (.ofOption none) := settles
      exact .inr (.inr ⟨⟨_, .matched .none, settled.attempt_ofOption⟩,
        fun _ => kept going, fun _ => same going⟩)
  | fault fault =>
      rw [Run.attempt_of_fault ends]
      exact .inr (.inr ⟨⟨_, .fault fault, settles.attempt_fault⟩,
        fun going => absurd rfl (going fault), fun going => absurd rfl (going fault)⟩)

theorem within
    {inner : List Value}
    (follows : matcher.Follows inner same left right) :
    matcher.Follows stream same (Run.within left) fun depth => Run.within (right depth) := by
  intro memo faithful
  rcases follows Memo.empty (.empty matcher inner) with
    exhausted | reenters | ⟨⟨outcome, outcomes, settles⟩, -, -⟩
  · exact .inl exhausted
  · refine .inr (.inl ?_)
    change anyReenters [.nested (left Memo.empty).events] = true
    rw [anyReenters, Event.reenters, reenters, Bool.true_or]
  · exact .inr (.inr ⟨⟨outcome, outcomes, settles.within⟩, fun _ => faithful,
      fun _ => .refl memo⟩)

end Follows

/-- Runs that plain descent follows form a simulation. -/
def following (matcher : Matcher) : Simulation Nat where
  alike := Eq
  Related stream offset same left right := offset = 0 → matcher.Follows stream same left right
  alike_refl := @Eq.refl Value
  alike_list := @Value.list_eq_of_forall₂
  done results _ := .done results
  mismatch _ := .mismatch
  andThen first next start :=
    (first start).bind fun result other results => next result other results start
  attempt related start := (related start).attempt
  within _ related _ := (related rfl).within

section Following

variable
  {matcher : Matcher}
  {stream : List Value}
  {name : String}
  {rule : Rule}
  {position : Nat}

/-- Plain descent does not depend on what is told. -/
theorem following_tell
    {offset : Nat}
    (event rightEvent : Event) :
    matcher.following.Related stream offset (fun _ _ => True)
      (Run.tell event) fun _ => Run.tell rightEvent := by
  intro _ memo faithful
  exact .inr (.inr ⟨⟨_, .matched trivial, 0, fun _ _ _ => rfl⟩, fun _ => faithful,
    fun _ => .refl memo⟩)

/-- Plain descent of a rule settles where its evaluation does. -/
theorem descendWithin_settles
    (found : matcher.grammar.rule? name = some rule)
    {outcome : Outcome Hit}
    (settles : Settles
      (fun depth => matcher.invoke (matcher.descendWithin depth) rule stream position) outcome) :
    Settles (fun depth => matcher.descendWithin depth stream name position) outcome := by
  obtain ⟨enough, settled⟩ := settles
  refine ⟨enough + 1, fun depth below memo => ?_⟩
  obtain ⟨depth, rfl⟩ := Nat.exists_eq_succ_of_ne_zero (Nat.ne_zero_of_lt below)
  change (matcher.descendWithin (depth + 1) stream name position memo).outcome = outcome
  rw [descendWithin_of_found found]
  exact settled depth (Nat.le_of_succ_le_succ below) memo

/-- Where plain descent answers, it settles on its answer. -/
theorem DescentAnswers.settles
    {answer : Option Hit}
    (answers : matcher.DescentAnswers stream name position answer)
    (inside : position ≤ stream.length) :
    ∃ outcome, Outcome.Rel (matcher.following.HitsAlike stream 0 position)
        (.ofOption answer) outcome ∧
      Settles (fun depth => matcher.descendWithin depth stream name position) outcome := by
  obtain ⟨known, answered⟩ := id answers
  have goes : matcher.descent known stream name position ≠ .fault .exhausted := by
    rw [answered]
    exact Outcome.ofOption_ne_fault _ _
  exact ⟨_, (answers.related inside goes).imp fun hits => ⟨hits.value, hits.reaches⟩, known,
    fun depth below memo => descendWithin_eq below inside goes memo⟩

/-- Plain descent follows an application that is not known if it follows those
inside. -/
theorem applyWith_follows
    {apply : Applier}
    (follows : matcher.following.AppliersAgree (fun _ => True) apply matcher.descendWithin)
    (inside : position ≤ stream.length)
    {memo : Memo}
    (faithful : matcher.Faithful stream memo)
    (found : matcher.grammar.rule? name = some rule)
    (unknown : memo.find? rule.name position = none) :
    (matcher.applyWith apply stream name position memo).outcome = .fault .exhausted ∨
      anyReenters (matcher.applyWith apply stream name position memo).events = true ∨
      matcher.Followed stream (matcher.following.HitsAlike stream 0 position) memo
        (matcher.applyWith apply stream name position memo)
        fun depth => matcher.descendWithin depth stream name position := by
  obtain rfl := Grammar.name_of_rule? found
  have related : matcher.following.Related stream 0
      (matcher.following.HitsAlike stream 0 position)
      (matcher.invoke apply rule stream position)
      fun depth => matcher.invoke (matcher.descendWithin depth) rule stream position :=
    invoke_related (follows.agree fun _ _ => trivial) (fun _ _ => trivial)
      (actions_alike id matcher.actions rule.name) inside (following_tell _ _)
      fun _ _ _ => following_tell _ _
  rcases related rfl _ (faithful.put_pending rule.name position false) with
    ends | reenters | ⟨⟨outcome, outcomes, settles⟩, kept, same⟩
  · rw [applyWith_of_first_fault rfl found unknown ends]
    exact .inl rfl
  · exact .inr (.inl (anyReenters_of_extends (events_of_first rfl found unknown) reenters))
  · generalize first : matcher.invoke apply rule stream position
      (Memo.put rule.name (.pending false) position memo) = report at *
    have descends := descendWithin_settles found settles
    refine .inr (.inr ?_)
    rcases report.outcome.fault_or_ofOption with ⟨fault, ends⟩ | ⟨answer, ends⟩
    · rw [applyWith_of_first_fault first found unknown ends]
      rw [ends] at outcomes
      exact ⟨⟨outcome, outcomes, descends⟩, fun going => absurd rfl (going fault),
        fun going => absurd rfl (going fault)⟩
    · have going : ∀ fault, report.outcome ≠ .fault fault := by
        rw [ends]
        exact Outcome.ofOption_ne_fault answer
      have quiet := (same going rule.name position false).mp (Memo.find?_put_self _ _ _ _)
      rw [applyWith_of_quiet first found unknown ends quiet]
      rw [ends] at outcomes
      refine ⟨⟨outcome, outcomes, descends⟩, fun _ => ?_,
        fun _ => (same going).answer unknown answer⟩
      obtain ⟨enough, settled⟩ := descends
      have answered := (outcomes.imp fun hits => hits.eq id).eq
      exact (kept going).put_done
        ⟨enough, (settled enough (Nat.le_refl enough) Memo.empty).trans answered.symm⟩

/-- Plain descent follows every run. -/
theorem applyWithin_follows
    (matcher : Matcher)
    (nesting : Nat) :
    matcher.following.AppliersAgree (fun _ => True)
      (matcher.applyWithin nesting) matcher.descendWithin := by
  induction nesting with
  | zero =>
      intro stream offset position name _ _ _ memo _
      exact .inl rfl
  | succ nesting follows =>
      intro stream offset position name _ inside start memo faithful
      subst start
      replace inside : position ≤ stream.length := inside
      change (matcher.applyWith (matcher.applyWithin nesting) stream name position memo).outcome =
          .fault .exhausted ∨
        anyReenters (matcher.applyWith (matcher.applyWithin nesting) stream name position
          memo).events = true ∨
        matcher.Followed stream (matcher.following.HitsAlike stream 0 position) memo
          (matcher.applyWith (matcher.applyWithin nesting) stream name position memo)
          fun depth => matcher.descendWithin depth stream name position
      cases found : matcher.grammar.rule? name with
      | none =>
          rw [applyWith_of_undefined found]
          refine .inr (.inr ⟨⟨_, .fault _, 1, fun depth below memo => ?_⟩,
            fun going => absurd rfl (going _), fun going => absurd rfl (going _)⟩)
          obtain ⟨depth, rfl⟩ := Nat.exists_eq_succ_of_ne_zero (Nat.ne_zero_of_lt below)
          exact congrArg (fun run => (run memo).outcome) (descendWithin_of_undefined found)
      | some rule =>
          obtain rfl := Grammar.name_of_rule? found
          rcases known : memo.find? rule.name position with _ | (reentered | answer)
          · exact applyWith_follows follows inside faithful found known
          · rw [applyWith_of_pending found known]
            exact .inr (.inl rfl)
          · rw [applyWith_of_done found known]
            exact .inr (.inr ⟨(faithful known).settles inside, fun _ => faithful,
              fun _ => .refl memo⟩)

end Following

/-- Where plain descent comes to an end, the run with a memory comes to the same
and no application finds itself in progress. -/
theorem Descends.agrees
    {matcher : Matcher}
    {stream : List Value}
    {name : String}
    {outcome : Outcome Value}
    (descends : matcher.Descends stream name outcome) :
    matcher.matchAll stream name = outcome ∧
      anyReenters (matcher.run stream name).events = false := by
  obtain ⟨goes, depth, ends⟩ := descends
  cases found : matcher.grammar.rule? name with
  | none =>
      simp only [runWith, found] at ends
      simp only [matchAll, run, runWith, found]
      exact ⟨ends, rfl⟩
  | some rule =>
      have agree : (matcher.quiet depth).simulation.Agree (fun _ => True)
          (matcher.contextFor (matcher.applyWithin (matcher.depthLimit stream)) rule)
          fun _ => matcher.contextFor (matcher.descendWithin depth) rule :=
        (matcher.applyWithin_quiet depth _).agree fun _ _ => trivial
      have start : (matcher.quiet depth).memories stream 0 Memo.empty Memo.empty := by
        refine ⟨rfl, .empty matcher stream, ?_⟩
        intro other place reentered known
        rw [Memo.find?_empty] at known
        cases known
      rcases runWith_related found found agree trivial Memo.empty Memo.empty start with
        (⟨_, rfl, exhausted⟩ | ⟨_, rfl, exhausted⟩) | report
      · exact absurd exhausted (matcher.matchAll_ne_exhausted stream name)
      · exact absurd (ends.symm.trans exhausted) goes
      · exact ⟨report.outcomes.eq.trans ends, report.events⟩

/-- Where no application finds itself in progress, plain descent comes to an end
with the outcome of the run. -/
theorem descends_of_quiet
    {matcher : Matcher}
    {stream : List Value}
    {name : String}
    (quiet : anyReenters (matcher.run stream name).events = false) :
    matcher.Descends stream name (matcher.matchAll stream name) := by
  refine ⟨matcher.matchAll_ne_exhausted stream name, ?_⟩
  cases found : matcher.grammar.rule? name with
  | none =>
      refine ⟨0, ?_⟩
      simp only [matchAll, run, runWith, found]
  | some rule =>
      have agree : matcher.following.Agree (fun _ => True)
          (matcher.contextFor (matcher.applyWithin (matcher.depthLimit stream)) rule)
          fun depth => matcher.contextFor (matcher.descendWithin depth) rule :=
        (matcher.applyWithin_follows _).agree fun _ _ => trivial
      rcases runWith_related found found agree trivial rfl Memo.empty (.empty matcher stream) with
        exhausted | reenters | ⟨⟨outcome, outcomes, enough, settled⟩, -, -⟩
      · exact absurd exhausted (matcher.matchAll_ne_exhausted stream name)
      · exact absurd (quiet.symm.trans reenters) Bool.false_ne_true
      · exact ⟨enough, (settled enough (Nat.le_refl enough) Memo.empty).trans outcomes.eq.symm⟩

/-- Plain descent comes to an end if and only if no application of the run with a
memory finds itself in progress, and then both have the same outcome. -/
theorem memory_agrees_with_descent
    (matcher : Matcher)
    (stream : List Value)
    (name : String) :
    ((∃ outcome, matcher.Descends stream name outcome) ↔
      anyReenters (matcher.run stream name).events = false) ∧
    ∀ outcome, matcher.Descends stream name outcome →
      matcher.matchAll stream name = outcome := by
  refine ⟨⟨?_, fun quiet => ⟨_, descends_of_quiet quiet⟩⟩, fun outcome descends =>
    descends.agrees.1⟩
  rintro ⟨outcome, descends⟩
  exact descends.agrees.2

end Matcher
end Heirloom
