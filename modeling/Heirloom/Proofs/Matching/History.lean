import Heirloom.Proofs.Matching.Afresh
import Heirloom.Proofs.Matching.Progress

/-!
# Memory and history

What a run remembers of an application may depend on what happened before it. The
answer may have been given while an application further out was in progress, from its
pending mismatch or from a match that was then still being grown.

It does not depend on it in a run that is direct: one in which an application that is
made while it is in progress already stands in the body of its own rule, with no other
application between the two. There every application that is completed answers as it
does from an empty memory. The run is tracked by one in which applications start
afresh, and that one agrees with the memory.
-/

namespace Heirloom
namespace Matching

/-! ## Direct runs and what they complete -/

/-- Whether applications that are in progress are only made as the innermost ones, in
the stream and inside it. An application that is answered by a match that is still being
grown counts if seeds count. -/
def areDirect (seeds : Bool) : List Place → List Event → Bool :=
  allPass (fun stack place => stack.head? == some place)
    fun stack place => !seeds || !stack.contains place || stack.head? == some place

/-- The application that is completed by an event, unless it is in progress. -/
def Event.completed (stack : List Place) : Event → Option (Place × Option Hit)
  | .answered rule position answer =>
      if (rule, position) ∈ stack then none else some ((rule, position), answer)
  | _ => none

/-- The applications on a stream that are completed by events and not in progress then,
with their answers. -/
def completed (stack : List Place) : List Event → List (Place × Option Hit)
  | [] => []
  | event :: events =>
      (event.completed stack).toList ++ completed (event.inProgress stack) events

theorem completed_append (stack : List Place) (first second : List Event) :
    completed stack (first ++ second) =
      completed stack first ++ completed (inProgressAfter stack first) second := by
  induction first generalizing stack with
  | nil => rfl
  | cons event first inductionHypothesis =>
      simp only [List.cons_append, completed, inProgressAfter, inductionHypothesis,
        List.append_assoc]

theorem completed_bracket
    (stack : List Place)
    (rule : String)
    (position : Nat)
    (events : List Event)
    (result : Option Completion) :
    completed stack (.entered rule position :: (events ++ [Event.left rule position result])) =
      completed ((rule, position) :: stack) events := by
  rw [completed, completed_append]
  simp only [Event.completed, Event.inProgress, completed, Option.toList_none,
    List.nil_append, List.append_nil]

/-! ## Memories that mirror each other -/

/-- A memory that knows of one application only, and of that what another memory
knows. -/
def Mirrors (own : Option Place) (memo fresh : Memo) : Prop :=
  ∀ name position, fresh.find? name position =
    if own = some (name, position) then memo.find? name position else none

/-- What is noted of the application is mirrored. -/
theorem Mirrors.put
    {memo fresh : Memo}
    {name : String}
    {position : Nat}
    (mirrors : Mirrors (some (name, position)) memo fresh)
    (entry : Entry) :
    Mirrors (some (name, position)) (Memo.put name entry position memo)
      (Memo.put name entry position fresh) := by
  intro other place
  rw [Memo.find?_put, Memo.find?_put, mirrors other place]
  by_cases here : other = name ∧ place = position
  · obtain ⟨rfl, rfl⟩ := here
    simp only [and_self, if_true]
  · simp only [if_neg here]

/-- Runs with growing bounds come to an outcome and a memory, from a memory that mirrors
another one to one that mirrors what becomes of it. -/
def Comes
    (own : Option Place)
    (memo after : Memo)
    (runs : Nat → Run α)
    (outcome : Outcome α) : Prop :=
  ∃ enough, ∀ depth, enough ≤ depth → ∀ fresh, Mirrors own memo fresh →
    (runs depth fresh).outcome = outcome ∧ Mirrors own after (runs depth fresh).memo

namespace Comes

variable
  {own : Option Place}
  {memo between after : Memo}
  {runs : Nat → Run α}
  {next : Nat → α → Run β}

theorem bind_matched
    {result : α}
    {outcome : Outcome β}
    (first : Comes own memo between runs (.matched result))
    (rest : Comes own between after (fun depth => next depth result) outcome) :
    Comes own memo after (fun depth => runs depth >>= next depth) outcome := by
  obtain ⟨enough, comes⟩ := first
  obtain ⟨more, restComes⟩ := rest
  refine ⟨max enough more, fun depth below fresh mirrors => ?_⟩
  obtain ⟨ends, mirrored⟩ := comes depth (Nat.le_trans (Nat.le_max_left _ _) below) fresh mirrors
  change ((runs depth >>= next depth) fresh).outcome = outcome ∧
    Mirrors own after ((runs depth >>= next depth) fresh).memo
  rw [Run.bind_of_matched ends]
  exact restComes depth (Nat.le_trans (Nat.le_max_right _ _) below) _ mirrored

/-- Runs that end as others let them end come to an outcome where those do. -/
theorem ending
    {outer : Nat → Run β}
    {outcome : Outcome α}
    {other : Outcome β}
    (first : Comes own memo after runs outcome)
    (ends : ∀ depth fresh later, (runs depth fresh).ending = (outcome, later) →
      (outer depth fresh).ending = (other, later)) :
    Comes own memo after outer other := by
  obtain ⟨enough, comes⟩ := first
  refine ⟨enough, fun depth below fresh mirrors => ?_⟩
  obtain ⟨outcome, mirrored⟩ := comes depth below fresh mirrors
  have outerEnds := ends depth fresh _ (Report.ending_eq outcome)
  rw [Report.outcome_of_ending outerEnds, Report.memo_of_ending outerEnds]
  exact ⟨rfl, mirrored⟩

theorem bind_mismatch
    (first : Comes own memo after runs .mismatch) :
    Comes own memo after (fun depth => runs depth >>= next depth) .mismatch :=
  first.ending fun _ _ _ => Run.ending_bind_of_mismatch

theorem attempt
    {answer : Option α}
    (first : Comes own memo after runs (.ofOption answer)) :
    Comes own memo after (fun depth => (runs depth).attempt) (.matched answer) :=
  first.ending fun _ _ _ => Run.ending_attempt_of_answer

theorem within
    {innerAfter : Memo}
    {outcome : Outcome α}
    (inner : Comes none Memo.empty innerAfter runs outcome) :
    Comes own memo memo (fun depth => Run.within (runs depth)) outcome := by
  obtain ⟨enough, comes⟩ := inner
  refine ⟨enough, fun depth below fresh mirrors => ⟨?_, mirrors⟩⟩
  refine (comes depth below Memo.empty fun name position => ?_).1
  rw [Memo.find?_empty]
  rfl

end Comes
end Matching

open Matching

namespace Matcher

/-! ## Direct runs -/

/-- A memory while some applications are in progress, of which one is mirrored by a
memory that starts afresh. Whatever else is known is answered as it is afresh. -/
structure Trusted
    (matcher : Matcher)
    (stream : List Value)
    (stack : List Place)
    (own : Option Place)
    (memo : Memo) : Prop where
  bounded : memo.Bounded stream
  known : ∀ {name : String} {position : Nat},
    (name, position) ∈ stack ∨ own = some (name, position) →
      (memo.find? name position).isSome
  trusted : ∀ {name : String} {position : Nat} {entry : Entry},
    memo.find? name position = some entry →
      ((name, position) ∈ stack ∨ own = some (name, position)) ∨
        matcher.IsAfresh stream name position entry

/-- Nothing is known before anything has happened. -/
theorem Trusted.empty (matcher : Matcher) (stream : List Value) :
    matcher.Trusted stream [] none Memo.empty where
  bounded := .empty stream
  known := by simp
  trusted known := by
    rw [Memo.find?_empty] at known
    cases known

/-- What is mirrored may be noted to be in progress as well. -/
theorem Trusted.push_iff
    {matcher : Matcher}
    {stream : List Value}
    {stack : List Place}
    {place : Place}
    {memo : Memo} :
    matcher.Trusted stream (place :: stack) (some place) memo ↔
      matcher.Trusted stream stack (some place) memo := by
  have same : ∀ name position,
      ((name, position) ∈ place :: stack ∨ some place = some (name, position)) ↔
        ((name, position) ∈ stack ∨ some place = some (name, position)) := by
    intro name position
    rw [List.mem_cons, Option.some.injEq, eq_comm]
    tauto
  constructor
  · rintro ⟨bounded, known, trusted⟩
    exact ⟨bounded, fun present => known ((same _ _).mpr present),
      fun found => (trusted found).imp_left (same _ _).mp⟩
  · rintro ⟨bounded, known, trusted⟩
    exact ⟨bounded, fun present => known ((same _ _).mp present),
      fun found => (trusted found).imp_left (same _ _).mpr⟩

/-- How a direct run goes on: it leaves in progress what was in progress, and a run that
starts afresh has tracked it. -/
structure GoesOn
    (matcher : Matcher)
    (stream : List Value)
    (stack : List Place)
    (own : Option Place)
    (same : α → β → Prop)
    (memo : Memo)
    (report : Report α)
    (runs : Nat → Run β) : Prop where
  balanced : inProgressAfter stack report.events = stack
  trusted : matcher.Trusted stream stack own report.memo
  kept : ∀ {name : String} {position : Nat}, (name, position) ∈ stack →
    own ≠ some (name, position) →
      report.memo.find? name position = memo.find? name position
  comes : ∃ outcome, Outcome.Rel same report.outcome outcome ∧
    Comes own memo report.memo runs outcome

/-- A direct run: what it completes answers afresh, and unless it ends with a fault it
goes on. -/
structure Tracked
    (matcher : Matcher)
    (stream : List Value)
    (stack : List Place)
    (own : Option Place)
    (same : α → β → Prop)
    (memo : Memo)
    (report : Report α)
    (runs : Nat → Run β) : Prop where
  completes : ∀ {name : String} {position : Nat} {answer : Option Hit},
    ((name, position), answer) ∈ completed stack report.events →
      matcher.AfreshAnswers stream name position answer
  goes : (∀ fault, report.outcome ≠ .fault fault) →
    matcher.GoesOn stream stack own same memo report runs

theorem completes_of_nothing
    {matcher : Matcher}
    {stream : List Value}
    {completions : List (Place × Option Hit)}
    (nothing : completions = []) :
    ∀ {name : String} {position : Nat} {answer : Option Hit},
      ((name, position), answer) ∈ completions →
        matcher.AfreshAnswers stream name position answer := by
  intro name position answer mem
  rw [nothing] at mem
  cases mem

/-- Runs that start afresh track a run wherever it is direct. -/
def Tracks
    (matcher : Matcher)
    (stream : List Value)
    (stack : List Place)
    (own : Option Place)
    (same : α → β → Prop)
    (left : Run α)
    (right : Nat → Run β) : Prop :=
  ∀ memo, matcher.Trusted stream stack own memo →
    areDirect true stack (left memo).events = true →
      matcher.Tracked stream stack own same memo (left memo) right

namespace Tracks

variable
  {matcher : Matcher}
  {stream : List Value}
  {stack : List Place}
  {own : Option Place}
  {same : α → β → Prop}
  {left : Run α}
  {right : Nat → Run β}

/-- A run in which nothing happens is tracked by one that ends alike. -/
theorem still
    {outcome : Outcome α}
    {other : Outcome β}
    (outcomes : Outcome.Rel same outcome other)
    (ends : ∀ memo, left memo = ⟨outcome, memo, .empty⟩)
    (rightEnds : ∀ depth fresh, right depth fresh = ⟨other, fresh, .empty⟩) :
    matcher.Tracks stream stack own same left right := by
  intro memo trusted _
  rw [ends]
  refine ⟨completes_of_nothing rfl, fun _ => ⟨rfl, trusted, fun _ _ => rfl, other, outcomes, 0, ?_⟩⟩
  intro depth _ fresh mirrors
  rw [rightEnds]
  exact ⟨rfl, mirrors⟩

theorem done
    {result : α}
    {other : β}
    (results : same result other) :
    matcher.Tracks stream stack own same (pure result) fun _ => pure other :=
  still (.matched results) (fun _ => rfl) fun _ _ => rfl

theorem mismatch :
    matcher.Tracks stream stack own same Run.mismatch fun _ => Run.mismatch :=
  still .mismatch (fun _ => rfl) fun _ _ => rfl

/-- A run that fails need not be tracked any further. -/
theorem fail (fault : Fault) :
    matcher.Tracks stream stack own same (Run.fail fault) right := by
  intro memo _ _
  exact ⟨completes_of_nothing rfl, fun going => absurd rfl (going fault)⟩

theorem bind
    {following : γ → δ → Prop}
    {leftNext : α → Run γ}
    {rightNext : Nat → β → Run δ}
    (first : matcher.Tracks stream stack own same left right)
    (next : ∀ result other, same result other →
      matcher.Tracks stream stack own following (leftNext result)
        fun depth => rightNext depth other) :
    matcher.Tracks stream stack own following (left >>= leftNext)
      fun depth => right depth >>= rightNext depth := by
  intro memo trusted direct
  have before := first memo trusted
    (allPass_of_extended (Run.events_bind left leftNext memo) direct)
  cases ends : (left memo).outcome with
  | matched result =>
      obtain ⟨balanced, stillTrusted, kept, outcome, outcomes, comes⟩ :=
        before.goes (Outcome.ne_fault_of_matched ends)
      rw [ends] at outcomes
      obtain ⟨other, rfl, results⟩ := outcomes.exists_of_matched
      rw [Run.bind_of_matched ends] at direct ⊢
      simp only [areDirect, Report.events, Journal.entries_append, allPass_append,
        Bool.and_eq_true] at direct
      rw [← Report.events, balanced] at direct
      have after := next result other results _ stillTrusted direct.2
      constructor
      · intro name position answer
        simp only [Report.events, Journal.entries_append, completed_append, List.mem_append]
        rintro (present | present)
        · exact before.completes present
        · rw [← Report.events, balanced] at present
          exact after.completes present
      · intro going
        obtain ⟨restBalanced, restTrusted, restKept, rest, restOutcomes, restComes⟩ :=
          after.goes going
        refine ⟨?_, restTrusted, fun present apart => ?_, rest, restOutcomes,
          comes.bind_matched restComes⟩
        · simp only [Report.events, Journal.entries_append, inProgressAfter_append]
          rw [← Report.events, balanced]
          exact restBalanced
        · exact (restKept present apart).trans (kept present apart)
  | mismatch =>
      obtain ⟨balanced, stillTrusted, kept, outcome, outcomes, comes⟩ :=
        before.goes (Outcome.ne_fault_of_mismatch ends)
      rw [ends] at outcomes
      cases outcomes
      rw [Run.bind_of_mismatch ends]
      exact ⟨before.completes, fun _ => ⟨balanced, stillTrusted, kept, .mismatch, .mismatch,
        comes.bind_mismatch⟩⟩
  | fault fault =>
      rw [Run.bind_of_fault ends]
      exact ⟨before.completes, fun going => absurd rfl (going fault)⟩

theorem attempt
    (tracks : matcher.Tracks stream stack own same left right) :
    matcher.Tracks stream stack own (Option.Rel same) left.attempt
      fun depth => (right depth).attempt := by
  intro memo trusted direct
  rw [Run.events_attempt] at direct
  have report := tracks memo trusted direct
  cases ends : (left memo).outcome with
  | matched result =>
      obtain ⟨balanced, stillTrusted, kept, outcome, outcomes, comes⟩ :=
        report.goes (Outcome.ne_fault_of_matched ends)
      rw [ends] at outcomes
      obtain ⟨other, rfl, results⟩ := outcomes.exists_of_matched
      have answered : Comes own memo (left memo).memo right (.ofOption (some other)) := comes
      rw [Run.attempt_of_matched ends]
      exact ⟨report.completes, fun _ => ⟨balanced, stillTrusted, kept, _,
        .matched (.some results), answered.attempt⟩⟩
  | mismatch =>
      obtain ⟨balanced, stillTrusted, kept, outcome, outcomes, comes⟩ :=
        report.goes (Outcome.ne_fault_of_mismatch ends)
      rw [ends] at outcomes
      cases outcomes
      have answered : Comes own memo (left memo).memo right (.ofOption none) := comes
      rw [Run.attempt_of_mismatch ends]
      exact ⟨report.completes, fun _ => ⟨balanced, stillTrusted, kept, _,
        .matched .none, answered.attempt⟩⟩
  | fault fault =>
      rw [Run.attempt_of_fault ends]
      exact ⟨report.completes, fun going => absurd rfl (going fault)⟩

theorem within
    {inner : List Value}
    (tracks : matcher.Tracks inner [] none same left right) :
    matcher.Tracks stream stack own same (Run.within left)
      fun depth => Run.within (right depth) := by
  intro memo trusted direct
  have events : (Run.within left memo).events = [.nested (left Memo.empty).events] := rfl
  rw [events, areDirect, allPass, Event.passes, allPass, Bool.and_true] at direct
  have report := tracks Memo.empty (.empty matcher inner) direct
  refine ⟨completes_of_nothing rfl, fun going => ?_⟩
  obtain ⟨-, -, -, outcome, outcomes, comes⟩ := report.goes going
  exact ⟨rfl, trusted, fun _ _ => rfl, outcome, outcomes, comes.within⟩

end Tracks

/-- Runs that are tracked where they are direct can be put together. -/
def tracking
    (matcher : Matcher)
    (stream : List Value)
    (stack : List Place)
    (own : Option Place) : Sequencing Nat where
  Related := matcher.Tracks stream stack own
  done := Tracks.done
  andThen := Tracks.bind
  attempt := Tracks.attempt

/-- Runs that are tracked wherever they are made form a simulation. What is mirrored is
the innermost application in progress. -/
def historic (matcher : Matcher) : Simulation Nat where
  alike := Eq
  Related stream offset same left right :=
    offset = 0 → ∀ stack, matcher.Tracks stream stack stack.head? same left right
  alike_refl := @Eq.refl Value
  alike_list := @Value.list_eq_of_forall₂
  done results _ _ := .done results
  mismatch _ _ := .mismatch
  andThen first next start stack :=
    (first start stack).bind fun result other results => next result other results start stack
  attempt related start stack := (related start stack).attempt
  within _ related _ _ := (related rfl []).within

section Tracking

variable
  {matcher : Matcher}
  {stream : List Value}
  {stack : List Place}
  {name : String}
  {rule : Rule}
  {position : Nat}
  {memo : Memo}

/-- The evaluation of a rule notes its matches on both sides. -/
theorem tracking_respectsPlace
    (matcher : Matcher)
    (stream : List Value)
    (stack : List Place)
    (name : String)
    (position : Nat) :
    (matcher.tracking stream stack (some (name, position))).RespectsPlace
      (matcher.historic.HitsAlike stream 0 position) name name position position where
  noted := by
    intro answer rightAnswer answers memo trusted _
    have same : answer = rightAnswer := Simulation.answers_eq id answers
    have fits : ∀ hit, answer = some hit → hit.Bounded stream position := by
      rintro hit rfl
      cases answers with
      | some hits => exact ⟨hits.reaches.start_le, hits.reaches.le_length⟩
    obtain ⟨bounded, known, others⟩ := trusted
    subst same
    refine ⟨completes_of_nothing rfl, fun _ => ⟨rfl, ⟨bounded.put_done fits, ?_, ?_⟩, ?_, _,
      .matched trivial, 0, fun _ _ _ mirrors => ⟨rfl, mirrors.put _⟩⟩⟩
    · exact fun present => Memo.isSome_find?_put _ _ _ (known present)
    · intro other place entry found
      change (Memo.put _ _ _ _).find? _ _ = _ at found
      rw [Memo.find?_put] at found
      split at found
      · next here =>
          obtain ⟨rfl, rfl⟩ := here
          exact .inl (.inr rfl)
      · exact others found
    · intro other place present apart
      refine Memo.find?_put_of_ne ?_ _ _
      rintro ⟨rfl, rfl⟩
      exact apart rfl
  met := by
    intro memo trusted _
    refine ⟨completes_of_nothing rfl, fun _ => ⟨rfl, trusted, fun _ _ => rfl,
      .matched (memo.find? name position), .matched Iff.rfl, 0, fun _ _ fresh mirrors =>
        ⟨?_, mirrors⟩⟩⟩
    change Outcome.matched (fresh.find? name position) = _
    rw [mirrors, if_pos rfl]
  failed := Tracks.fail .exhausted
  longer bests hits := by
    have finishes := bests.reaches.eq_add
    have hitFinishes := hits.reaches.eq_add
    omega

/-- What encloses a body that has been tracked is tracked, if it ends as the body lets
it end on both sides. -/
theorem Tracked.bracket
    {rule : String}
    {same : α → β → Prop}
    {weaker : γ → δ → Prop}
    {report : Report α}
    {runs : Nat → Run β}
    (tracked : matcher.Tracked stream ((rule, position) :: stack) (some (rule, position)) same
      memo report runs)
    (going : ∀ fault, report.outcome ≠ .fault fault)
    {outer : Report γ}
    {outerRuns : Nat → Run δ}
    {result : Option Completion}
    (events : outer.events =
      .entered rule position :: (report.events ++ [Event.left rule position result]))
    (after : outer.memo = report.memo)
    (comes : ∀ {outcome : Outcome β}, Outcome.Rel same report.outcome outcome →
      Comes (some (rule, position)) memo report.memo runs outcome →
        ∃ other, Outcome.Rel weaker outer.outcome other ∧
          Comes (some (rule, position)) memo report.memo outerRuns other) :
    matcher.Tracked stream stack (some (rule, position)) weaker memo outer outerRuns := by
  obtain ⟨balanced, trusted, kept, outcome, outcomes, comesInside⟩ := tracked.goes going
  constructor
  · intro name place answer
    rw [events, completed_bracket]
    exact tracked.completes
  · intro _
    refine ⟨?_, ?_, fun present apart => ?_, ?_⟩
    · rw [events, inProgressAfter_bracket, balanced, List.tail_cons]
    · rw [after]
      exact Trusted.push_iff.mp trusted
    · rw [after]
      exact kept (List.mem_cons_of_mem _ present) apart
    · rw [after]
      exact comes outcomes comesInside

/-- An invocation is tracked if the applications in its body are. -/
theorem invoke_tracks
    {apply : Applier}
    {rightApply : Nat → Applier}
    (applied : matcher.historic.AppliersAgree (fun _ => True) apply rightApply)
    (inside : position ≤ stream.length) :
    matcher.Tracks stream stack (some (rule.name, position))
      (matcher.historic.HitsAlike stream 0 position)
      (matcher.invoke apply rule stream position)
      fun depth => matcher.invoke (rightApply depth) rule stream position := by
  have contexts : matcher.historic.Agree (fun _ => True) (matcher.contextFor apply rule)
      fun depth => matcher.contextFor (rightApply depth) rule :=
    applied.agree fun _ _ => trivial
  have body : matcher.Tracks stream ((rule.name, position) :: stack)
      (some (rule.name, position)) (matcher.historic.StepsAlike stream 0 position [])
      (eval (matcher.contextFor apply rule) rule.body stream position [])
      fun depth =>
        eval (matcher.contextFor (rightApply depth) rule) rule.body stream position [] :=
    Simulation.eval_related contexts rule.body (fun _ _ => trivial) stream 0 position [] []
      inside .nil rfl ((rule.name, position) :: stack)
  intro memo trusted direct
  have report := body memo (Trusted.push_iff.mpr trusted)
  generalize evaluated : eval (matcher.contextFor apply rule) rule.body stream position []
    memo = first at report
  have events : ∀ (outcome : Outcome Hit) (result : Option Completion),
      (⟨outcome, first.memo, .single (.entered rule.name position) ++
        (first.journal ++ .single (.left rule.name position result))⟩ : Report Hit).events =
        .entered rule.name position :: (first.events ++ [.left rule.name position result]) := by
    simp [Report.events]
  cases ends : first.outcome with
  | fault fault =>
      rw [invoke_of_fault evaluated ends] at direct ⊢
      exact ⟨(report direct).completes, fun going => absurd rfl (going fault)⟩
  | mismatch =>
      rw [invoke_of_mismatch evaluated ends] at direct ⊢
      rw [events, areDirect, allPass_bracket] at direct
      refine (report direct).bracket (Outcome.ne_fault_of_mismatch ends) (events _ _) rfl ?_
      intro outcome outcomes comes
      rw [ends] at outcomes
      cases outcomes
      exact ⟨.mismatch, .mismatch, comes.ending fun _ _ _ => ending_invoke_of_mismatch⟩
  | matched step =>
      rw [invoke_of_matched evaluated ends] at direct ⊢
      rw [events, areDirect, allPass_bracket] at direct
      refine (report direct).bracket (Outcome.ne_fault_of_matched ends) (events _ _) rfl ?_
      intro outcome outcomes comes
      rw [ends] at outcomes
      obtain ⟨other, rfl, steps⟩ := outcomes.exists_of_matched
      have values := actions_alike id matcher.actions rule.name _ _ _ _ steps.scopes steps.value
      exact ⟨.matched (matcher.hitOf rule other), .matched ⟨values, steps.reaches⟩,
        comes.ending fun _ _ _ => ending_invoke_of_matched⟩

/-- The evaluation of a rule that is in progress on both sides is tracked if the
applications in its body are. -/
theorem complete_tracks
    {apply : Applier}
    {rightApply : Nat → Applier}
    (applied : matcher.historic.AppliersAgree (fun _ => True) apply rightApply)
    (inside : position ≤ stream.length) :
    matcher.Tracks stream stack (some (rule.name, position))
      (Option.Rel (matcher.historic.HitsAlike stream 0 position))
      (matcher.complete apply rule stream position)
      fun depth => matcher.complete (rightApply depth) rule stream position := by
  have related : (matcher.tracking stream stack (some (rule.name, position))).Related
      (matcher.historic.HitsAlike stream 0 position)
      (matcher.invoke apply rule stream position)
      fun depth => matcher.invoke (rightApply depth) rule stream position :=
    invoke_tracks applied inside
  have completed := complete_related
    (matcher.tracking_respectsPlace stream stack rule.name position) rfl related
  exact completed

/-- What is in progress is known. -/
theorem Trusted.not_mem
    {own : Option Place}
    (trusted : matcher.Trusted stream stack own memo)
    (unknown : memo.find? name position = none) :
    (name, position) ∉ stack := by
  intro present
  have known := trusted.known (.inl present)
  rw [unknown] at known
  cases known

/-- A rule may be noted as in progress where only the innermost application was mirrored
before. -/
theorem Trusted.begin
    (trusted : matcher.Trusted stream stack stack.head? memo)
    (name : String)
    (position : Nat)
    (reentered : Bool) :
    matcher.Trusted stream stack (some (name, position))
      (Memo.put name (.pending reentered) position memo) where
  bounded := trusted.bounded.put_pending _ _ _
  known := by
    rintro other place (present | same)
    · exact Memo.isSome_find?_put _ _ _ (trusted.known (.inl present))
    · cases same
      rw [Memo.find?_put_self]
      rfl
  trusted := by
    intro other place entry found
    rw [Memo.find?_put] at found
    split at found
    · next here => exact .inl (.inr (by rw [here.1, here.2]))
    · rcases trusted.trusted found with (present | innermost) | isAfresh
      · exact .inl (.inl present)
      · exact .inl (.inl (List.mem_of_mem_head? innermost))
      · exact .inr isAfresh

/-- A rule that answers afresh is not in progress any more. -/
theorem Trusted.finish
    (trusted : matcher.Trusted stream stack (some (name, position)) memo)
    {entry : Entry}
    (noted : memo.find? name position = some entry)
    (answered : matcher.IsAfresh stream name position entry) :
    matcher.Trusted stream stack stack.head? memo where
  bounded := trusted.bounded
  known := by
    rintro other place (present | innermost)
    · exact trusted.known (.inl present)
    · exact trusted.known (.inl (List.mem_of_mem_head? innermost))
  trusted := by
    intro other place found known
    rcases trusted.trusted known with (present | same) | isAfresh
    · exact .inl (.inl present)
    · cases same
      rw [noted] at known
      cases known
      exact .inr answered
    · exact .inr isAfresh

/-- An application that finds itself in progress is tracked. -/
theorem applyWith_tracks_of_pending
    {apply : Applier}
    (trusted : matcher.Trusted stream stack stack.head? memo)
    (found : matcher.grammar.rule? name = some rule)
    {reentered : Bool}
    (known : memo.find? rule.name position = some (.pending reentered))
    (direct : areDirect true stack
      (matcher.applyWith apply stream name position memo).events = true) :
    matcher.Tracked stream stack stack.head? (matcher.historic.HitsAlike stream 0 position)
      memo (matcher.applyWith apply stream name position memo)
      fun depth => matcher.afreshWithin depth stream name position := by
  rw [applyWith_of_pending found known] at direct ⊢
  have innermost : stack.head? = some (rule.name, position) := by
    simpa [Report.events, areDirect, allPass, Event.passes] using direct
  refine ⟨completes_of_nothing rfl, fun _ => ⟨rfl, ?_, ?_, .mismatch, .mismatch, 1, ?_⟩⟩
  · rw [innermost]
    exact trusted.begin rule.name position true
  · intro other place _ apart
    refine Memo.find?_put_of_ne ?_ _ _
    rintro ⟨rfl, rfl⟩
    exact apart innermost
  · intro depth below fresh mirrors
    obtain ⟨depth, rfl⟩ := Nat.exists_eq_succ_of_ne_zero (Nat.ne_zero_of_lt below)
    rw [innermost] at mirrors ⊢
    have freshKnown := mirrors rule.name position
    rw [if_pos rfl, known] at freshKnown
    obtain rfl := Grammar.name_of_rule? found
    dsimp only
    rw [Nat.succ_eq_add_one, afreshWithin_of_known freshKnown,
      applyWith_of_pending found freshKnown]
    exact ⟨rfl, mirrors.put _⟩

/-- Where nothing is mirrored of an application that answers afresh, the run that starts
afresh comes to the answer and leaves its memory as it was. -/
theorem AfreshAnswers.comes
    {own : Option Place}
    {after : Memo}
    {answer : Option Hit}
    (answers : matcher.AfreshAnswers stream name position answer)
    (unmirrored : own = some (name, position) → memo.find? name position = none)
    (kept : ∀ other place, own = some (other, place) →
      after.find? other place = memo.find? other place) :
    Comes own memo after (fun depth => matcher.afreshWithin depth stream name position)
      (.ofOption answer) := by
  obtain ⟨enough, answered⟩ := answers.answered
  refine ⟨enough, fun depth below fresh mirrors => ?_⟩
  have unknown : fresh.find? name position = none := by
    rw [mirrors]
    split
    · next same => exact unmirrored same
    · rfl
  have ends : (matcher.afreshWithin depth stream name position fresh).ending =
      (matcher.afresh depth stream name position, fresh) :=
    afreshWithin_of_unknown unknown
  have settled := (afresh_eq below answers.inside (AfreshAnswers.goes answered)).trans answered
  refine ⟨(Report.outcome_of_ending ends).trans settled, ?_⟩
  dsimp only
  rw [Report.memo_of_ending ends]
  intro other place
  rw [mirrors]
  split
  · next same => exact (kept other place same).symm
  · rfl

/-- An application that is answered from memory is tracked. -/
theorem applyWith_tracks_of_done
    {apply : Applier}
    (trusted : matcher.Trusted stream stack stack.head? memo)
    (found : matcher.grammar.rule? name = some rule)
    {answer : Option Hit}
    (known : memo.find? rule.name position = some (.done answer))
    (direct : areDirect true stack
      (matcher.applyWith apply stream name position memo).events = true) :
    matcher.Tracked stream stack stack.head? (matcher.historic.HitsAlike stream 0 position)
      memo (matcher.applyWith apply stream name position memo)
      fun depth => matcher.afreshWithin depth stream name position := by
  obtain rfl := Grammar.name_of_rule? found
  rw [applyWith_of_done found known] at direct ⊢
  have event : (⟨.ofOption answer, memo,
      .single (.answered rule.name position answer)⟩ : Report Hit).events =
      [.answered rule.name position answer] := rfl
  by_cases present : (rule.name, position) ∈ stack
  · have innermost : stack.head? = some (rule.name, position) := by
      simpa [event, areDirect, allPass, Event.passes, present] using direct
    constructor
    · simp [event, completed, Event.completed, present]
    · intro _
      refine ⟨rfl, trusted, fun _ _ => rfl, .ofOption answer, .ofOption ?_, 1, ?_⟩
      · exact Simulation.answers_refl _ fun matched => trusted.bounded (matched ▸ known)
      · intro depth below fresh mirrors
        obtain ⟨depth, rfl⟩ := Nat.exists_eq_succ_of_ne_zero (Nat.ne_zero_of_lt below)
        have freshKnown := mirrors rule.name position
        rw [if_pos innermost, known] at freshKnown
        dsimp only
        rw [Nat.succ_eq_add_one, afreshWithin_of_known freshKnown,
          applyWith_of_done found freshKnown]
        exact ⟨rfl, mirrors⟩
  · have apart : stack.head? ≠ some (rule.name, position) :=
      fun innermost => present (List.mem_of_mem_head? innermost)
    have answers : matcher.AfreshAnswers stream rule.name position answer := by
      rcases trusted.trusted known with (inside | innermost) | ⟨_, same, answers⟩
      · exact absurd inside present
      · exact absurd innermost apart
      · cases same
        exact answers
    constructor
    · intro other place result
      simp only [event, completed, Event.completed, if_neg present, Option.toList_some,
        List.append_nil, List.mem_singleton, Prod.mk.injEq]
      rintro ⟨⟨rfl, rfl⟩, rfl⟩
      exact answers
    · intro _
      exact ⟨rfl, trusted, fun _ _ => rfl, .ofOption answer,
        .ofOption (Simulation.answers_refl _ answers.bounded),
        answers.comes (fun same => absurd same apart) fun _ _ _ => rfl⟩

/-- What is noted of an application that was not known is mirrored by an empty memory in
which the same is noted. -/
theorem mirrors_begin
    (name : String)
    (position : Nat)
    (entry : Entry)
    (memo : Memo) :
    Mirrors (some (name, position)) (Memo.put name entry position memo)
      (Memo.put name entry position Memo.empty) := by
  intro other place
  rw [Memo.find?_put, Memo.find?_put, Memo.find?_empty]
  by_cases here : other = name ∧ place = position
  · obtain ⟨rfl, rfl⟩ := here
    simp only [and_self, if_true]
  · have apart : ¬ some (name, position) = some (other, place) := by
      rintro ⟨⟩
      exact here ⟨rfl, rfl⟩
    rw [if_neg here, if_neg apart]

/-- Applications at growing depths that come to an answer from an empty memory answer
afresh. -/
theorem afreshAnswers_of_comes
    (inside : position ≤ stream.length)
    (found : matcher.grammar.rule? rule.name = some rule)
    {after : Memo}
    {answer : Option Hit}
    (comes : Comes (some (rule.name, position))
      (Memo.put rule.name (.pending false) position memo) after
      (fun depth => matcher.complete (matcher.afreshWithin depth) rule stream position)
      (.matched answer)) :
    matcher.AfreshAnswers stream rule.name position answer := by
  obtain ⟨enough, comes⟩ := comes
  have ends := (comes enough (Nat.le_refl _) _ (mirrors_begin rule.name position _ memo)).1
  have evaluated : (matcher.evaluate (matcher.afreshWithin enough) rule stream position
      Memo.empty).outcome = .matched answer := by
    rw [evaluate_apply]
    exact ends
  refine ⟨inside, enough + 1, ?_⟩
  rw [afresh_succ, applyWith_of_evaluated found (Memo.find?_empty _ _) evaluated]

/-- An application of which nothing is known is tracked, if those in its body are. -/
theorem applyWith_tracks_of_unknown
    {apply : Applier}
    (applied : matcher.historic.AppliersAgree (fun _ => True) apply matcher.afreshWithin)
    (inside : position ≤ stream.length)
    (trusted : matcher.Trusted stream stack stack.head? memo)
    (found : matcher.grammar.rule? name = some rule)
    (unknown : memo.find? rule.name position = none)
    (direct : areDirect true stack
      (matcher.applyWith apply stream name position memo).events = true) :
    matcher.Tracked stream stack stack.head? (matcher.historic.HitsAlike stream 0 position)
      memo (matcher.applyWith apply stream name position memo)
      fun depth => matcher.afreshWithin depth stream name position := by
  obtain rfl := Grammar.name_of_rule? found
  have absent := trusted.not_mem unknown
  have completed := complete_tracks applied inside _ (trusted.begin rule.name position false)
  rw [← evaluate_apply] at completed
  rcases matcher.evaluate_answers apply rule stream position memo with
    ⟨fault, ends⟩ | ⟨answer, ends, noted⟩
  · rw [applyWith_of_fault found unknown ends] at direct ⊢
    exact ⟨(completed direct).completes, fun going => absurd rfl (going fault)⟩
  rw [applyWith_of_evaluated found unknown ends] at direct ⊢
  have events : (⟨.ofOption answer, (matcher.evaluate apply rule stream position memo).memo,
      (matcher.evaluate apply rule stream position memo).journal ++
        .single (.answered rule.name position answer)⟩ : Report Hit).events =
      (matcher.evaluate apply rule stream position memo).events ++
        [.answered rule.name position answer] := by
    simp [Report.events]
  rw [events, areDirect, allPass_append, Bool.and_eq_true] at direct
  have report := completed direct.1
  obtain ⟨balanced, during, kept, outcome, outcomes, comes⟩ :=
    report.goes (Outcome.ne_fault_of_matched ends)
  rw [ends] at outcomes
  obtain ⟨other, rfl, answers⟩ := outcomes.exists_of_matched
  obtain rfl := Simulation.answers_eq id answers
  have answered := afreshAnswers_of_comes inside found comes
  have keptAll : ∀ {name : String} {place : Nat}, (name, place) ∈ stack →
      (matcher.evaluate apply rule stream position memo).memo.find? name place =
        memo.find? name place := by
    intro name place present
    have apart : (rule.name, position) ≠ (name, place) := by
      rintro ⟨⟩
      exact absent present
    rw [kept present (fun equal => apart (Option.some.inj equal))]
    refine Memo.find?_put_of_ne ?_ _ _
    rintro ⟨rfl, rfl⟩
    exact apart rfl
  constructor
  · intro name place result
    rw [events, completed_append, balanced, List.mem_append]
    rintro (present | present)
    · exact report.completes present
    · simp only [Matching.completed, Event.completed, if_neg absent, Option.toList_some,
        List.append_nil, List.mem_singleton, Prod.mk.injEq] at present
      obtain ⟨⟨rfl, rfl⟩, rfl⟩ := present
      exact answered
  · intro _
    refine ⟨?_, during.finish noted ⟨_, rfl, answered⟩, fun present _ => keptAll present,
      .ofOption answer, .ofOption (Simulation.answers_refl _ answered.bounded),
      answered.comes (fun _ => unknown) fun _ _ innermost =>
        keptAll (List.mem_of_mem_head? innermost)⟩
    rw [events, inProgressAfter_append, balanced]
    rfl

/-- Runs that start afresh track every run wherever it is direct. -/
theorem applyWithin_tracks_directly
    (matcher : Matcher)
    (nesting : Nat) :
    matcher.historic.AppliersAgree (fun _ => True) (matcher.applyWithin nesting)
      matcher.afreshWithin := by
  induction nesting with
  | zero =>
      intro stream offset position name _ _ _ stack
      exact .fail .exhausted
  | succ nesting applied =>
      rintro stream offset position name _ inside rfl stack
      replace inside : position ≤ stream.length := inside
      intro memo trusted direct
      cases found : matcher.grammar.rule? name with
      | none =>
          have fails : matcher.applyWithin (nesting + 1) stream name (position + 0) =
              Run.fail (.undefinedRule matcher.grammar.name name) :=
            applyWith_of_undefined found
          rw [fails] at direct ⊢
          exact Tracks.fail _ memo trusted direct
      | some rule =>
          rcases known : memo.find? rule.name position with _ | (reentered | answer)
          · exact applyWith_tracks_of_unknown applied inside trusted found known direct
          · exact applyWith_tracks_of_pending trusted found known direct
          · exact applyWith_tracks_of_done trusted found known direct

end Tracking

/-! ## What direct runs remember -/

/-- The events of the runs that a matcher makes on a stream: of a rule that is matched
against it, and of a part of a rule body on the whole of it inside an element. -/
inductive Makes (matcher : Matcher) (stream : List Value) : List Event → Prop
  /-- A rule is matched against the stream. -/
  | rule (name : String) : Makes matcher stream (matcher.run stream name).events
  /-- A part of a rule body is matched inside an element. -/
  | inside (nesting : Nat) (rule : Rule) (part : Expr) (scope : Bindings) :
      Makes matcher stream
        ((matcher.contextFor (matcher.applyWithin nesting) rule).whole
          (eval (matcher.contextFor (matcher.applyWithin nesting) rule) part)
          stream scope Memo.empty).events

/-- Runs on a stream of their own are runs that a matcher makes. -/
theorem makes_onWhole
    (matcher : Matcher)
    (nesting : Nat)
    (rule : Rule)
    (part : Expr)
    (stream : List Value)
    (scope : Bindings)
    (memo : Memo) :
    ∃ inner, matcher.Makes stream inner ∧
      ((matcher.contextFor (matcher.applyWithin nesting) rule).onWhole
        (eval (matcher.contextFor (matcher.applyWithin nesting) rule) part)
        stream scope memo).events = [.nested inner] :=
  ⟨_, .inside nesting rule part scope, rfl⟩

/-- What a direct run on a stream completes answers afresh. -/
theorem Makes.completes
    {matcher : Matcher}
    {stream : List Value}
    {events : List Event}
    (made : matcher.Makes stream events)
    (direct : areDirect true [] events = true)
    {name : String}
    {position : Nat}
    {answer : Option Hit}
    (present : ((name, position), answer) ∈ completed [] events) :
    matcher.AfreshAnswers stream name position answer := by
  cases made with
  | rule start =>
      unfold run at direct present
      cases found : matcher.grammar.rule? start with
      | none =>
          have nothing : (matcher.runWith (matcher.applyWithin (matcher.depthLimit stream))
              stream start Memo.empty).events = [] := by
            simp only [runWith, found]
            rfl
          rw [nothing] at present
          cases present
      | some rule =>
          have contexts : matcher.historic.Agree (fun _ => True)
              (matcher.contextFor (matcher.applyWithin (matcher.depthLimit stream)) rule)
              fun depth => matcher.contextFor (matcher.afreshWithin depth) rule :=
            (matcher.applyWithin_tracks_directly _).agree fun _ _ => trivial
          exact (runWith_related found found contexts trivial rfl [] Memo.empty
            (.empty matcher stream) direct).completes present
  | inside nesting rule part scope =>
      have contexts : matcher.historic.Agree (fun _ => True)
          (matcher.contextFor (matcher.applyWithin nesting) rule)
          fun depth => matcher.contextFor (matcher.afreshWithin depth) rule :=
        (matcher.applyWithin_tracks_directly _).agree fun _ _ => trivial
      have evaluated := Simulation.eval_related contexts part (fun _ _ => trivial) stream 0 0
        scope scope (Nat.zero_le _) (.refl matcher.historic scope)
      exact (contexts.whole evaluated rfl [] Memo.empty (.empty matcher stream) direct).completes
        present

/-- In a direct run every application that is completed, and not in progress then, comes
to the outcome it has on the same stream with an empty memory. -/
theorem direct_memory_ignores_history
    {matcher : Matcher}
    {stream : List Value}
    {events : List Event}
    (made : matcher.Makes stream events)
    (direct : areDirect true [] events = true)
    {name : String}
    {position : Nat}
    {answer : Option Hit}
    (present : ((name, position), answer) ∈ completed [] events) :
    (matcher.applyWithin (matcher.depthLimit stream) stream name position
      Memo.empty).outcome = .ofOption answer :=
  (made.completes direct present).outcome_of_applyWithin

/-- Sums of marked letters, both left-recursive. -/
def marked : Matcher where
  grammar :=
    ⟨1, "Marked",
      [⟨"sum", .alt (.seq [.app "sum", .prim (.char '+'), .app "term"]) (.app "term")⟩,
        ⟨"term", .alt (.seq [.app "term", .prim (.char '!')]) (.prim (.char 'n'))⟩],
      none⟩

/-- The first term is completed while the sum is in progress at the same position. -/
theorem term_ignores_the_sum :
    areDirect true [] (marked.run (Value.chars "n!+n") "sum").events = true ∧
      (("term", 0), some ⟨.char '!', 2⟩) ∈
        completed [] (marked.run (Value.chars "n!+n") "sum").events ∧
      (marked.applyWithin (marked.depthLimit (Value.chars "n!+n")) (Value.chars "n!+n") "term" 0
        Memo.empty).outcome = .ofOption (some ⟨.char '!', 2⟩) := by
  have direct : areDirect true [] (marked.run (Value.chars "n!+n") "sum").events = true := by
    decide +kernel
  have present : (("term", 0), some ⟨.char '!', 2⟩) ∈
      completed [] (marked.run (Value.chars "n!+n") "sum").events := by
    decide +kernel
  exact ⟨direct, present, direct_memory_ignores_history (.rule "sum") direct present⟩

/-- A rule that recurs directly, and through another rule once it has a match to grow. -/
def seeded : Matcher where
  grammar :=
    ⟨1, "Seeded",
      [⟨"r", .alt
          (.alt (.seq [.peek (.app "r"), .app "t"]) (.seq [.app "r", .prim (.str "c")]))
          (.prim (.str "a"))⟩,
        ⟨"t", .seq [.app "r", .prim (.str "b")]⟩,
        ⟨"s", .seq [.peek (.app "r"), .app "t"]⟩],
      none⟩

/-- What is remembered may depend on history where an application is answered by a match
that is still being grown. -/
theorem history_shows_through_seeds :
    areDirect false [] (seeded.run (Value.chars "acb") "s").events = true ∧
      (("t", 0), none) ∈ completed [] (seeded.run (Value.chars "acb") "s").events ∧
      (seeded.applyWithin (seeded.depthLimit (Value.chars "acb")) (Value.chars "acb") "t" 0
        Memo.empty).outcome = .matched ⟨.str "b", 3⟩ := by
  decide +kernel

end Matcher
end Heirloom
