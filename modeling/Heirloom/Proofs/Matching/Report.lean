import Heirloom.Matching.Run

/-!
# What runs report

The report of a run that goes on after another one, of an attempt and of the
operations on the memory. Each depends on the outcome of what comes first.
-/

namespace Heirloom
namespace Matching

/-- The outcome that an answer stands for: a match, or a mismatch. -/
def Outcome.ofOption : Option α → Outcome α
  | some result => .matched result
  | none => .mismatch

/-- No answer is a fault. -/
theorem Outcome.ofOption_ne_fault
    (answer : Option α)
    (fault : Fault) :
    Outcome.ofOption answer ≠ .fault fault := by
  cases answer <;> exact nofun

/-- A match is not a fault. -/
theorem Outcome.ne_fault_of_matched
    {outcome : Outcome α}
    {result : α}
    (ends : outcome = .matched result)
    (fault : Fault) :
    outcome ≠ .fault fault := by
  rw [ends]
  exact nofun

/-- A mismatch is not a fault. -/
theorem Outcome.ne_fault_of_mismatch
    {outcome : Outcome α}
    (ends : outcome = .mismatch)
    (fault : Fault) :
    outcome ≠ .fault fault := by
  rw [ends]
  exact nofun

/-- Every outcome is a fault or stands for an answer. -/
theorem Outcome.fault_or_ofOption (outcome : Outcome α) :
    (∃ fault, outcome = .fault fault) ∨ ∃ answer, outcome = .ofOption answer := by
  cases outcome with
  | matched result => exact .inr ⟨some result, rfl⟩
  | mismatch => exact .inr ⟨none, rfl⟩
  | fault fault => exact .inl ⟨fault, rfl⟩

/-- Outcomes of the same kind, with results that are related. -/
inductive Outcome.Rel (same : α → β → Prop) : Outcome α → Outcome β → Prop
  | matched {result : α} {other : β} :
      same result other → Outcome.Rel same (.matched result) (.matched other)
  | mismatch : Outcome.Rel same .mismatch .mismatch
  | fault (fault : Fault) : Outcome.Rel same (.fault fault) (.fault fault)

/-- Less may be asked of the results. -/
theorem Outcome.Rel.imp
    {same weaker : α → β → Prop}
    (implies : ∀ {result other}, same result other → weaker result other)
    {left : Outcome α}
    {right : Outcome β}
    (outcomes : Outcome.Rel same left right) :
    Outcome.Rel weaker left right := by
  cases outcomes with
  | matched results => exact .matched (implies results)
  | mismatch => exact .mismatch
  | fault fault => exact .fault fault

theorem Outcome.Rel.exists_of_matched
    {same : α → β → Prop}
    {result : α}
    {right : Outcome β}
    (outcomes : Outcome.Rel same (.matched result) right) :
    ∃ other, right = .matched other ∧ same result other := by
  cases outcomes with
  | matched results => exact ⟨_, rfl, results⟩

/-- Answers that are related stand for related outcomes. -/
theorem Outcome.Rel.ofOption
    {same : α → β → Prop}
    {answer : Option α}
    {other : Option β}
    (answers : Option.Rel same answer other) :
    Outcome.Rel same (.ofOption answer) (.ofOption other) := by
  cases answers with
  | some results => exact .matched results
  | none => exact .mismatch

/-- Outcomes with equal results are equal. -/
theorem Outcome.Rel.eq
    {left right : Outcome α}
    (outcomes : Outcome.Rel Eq left right) :
    left = right := by
  cases outcomes with
  | matched results => rw [results]
  | mismatch => rfl
  | fault fault => rfl

/-- Outcomes related to the same one are equal if results related to the same one are. -/
theorem Outcome.Rel.eq_of_common
    {same other : α → β → Prop}
    (determined : ∀ {left right : α} {common : β}, same left common → other right common →
      left = right)
    {left right : Outcome α}
    {common : Outcome β}
    (outcomes : Outcome.Rel same left common)
    (others : Outcome.Rel other right common) :
    left = right := by
  cases outcomes with
  | matched results =>
      cases others with
      | matched rightResults => rw [determined results rightResults]
  | mismatch =>
      cases others
      rfl
  | fault =>
      cases others
      rfl

namespace Run

variable {α β : Type}

/-- After a match the run goes on. -/
theorem bind_of_matched
    {first : Run α}
    {memo : Memo}
    {result : α}
    (ends : (first memo).outcome = .matched result)
    (next : α → Run β) :
    (first >>= next) memo =
      ⟨(next result (first memo).memo).outcome, (next result (first memo).memo).memo,
        (first memo).journal ++ (next result (first memo).memo).journal⟩ := by
  change andThen first next memo = _
  simp only [andThen, ends]

/-- After a mismatch nothing follows. -/
theorem bind_of_mismatch
    {first : Run α}
    {memo : Memo}
    (ends : (first memo).outcome = .mismatch)
    (next : α → Run β) :
    (first >>= next) memo = ⟨.mismatch, (first memo).memo, (first memo).journal⟩ := by
  change andThen first next memo = _
  simp only [andThen, ends]

/-- After a fault nothing follows. -/
theorem bind_of_fault
    {first : Run α}
    {memo : Memo}
    {fault : Fault}
    (ends : (first memo).outcome = .fault fault)
    (next : α → Run β) :
    (first >>= next) memo = ⟨.fault fault, (first memo).memo, (first memo).journal⟩ := by
  change andThen first next memo = _
  simp only [andThen, ends]

/-- What has happened stays on record whatever follows. -/
theorem events_bind
    (first : Run α)
    (next : α → Run β)
    (memo : Memo) :
    (first memo).events <+: ((first >>= next) memo).events := by
  cases ends : (first memo).outcome with
  | matched result =>
      rw [bind_of_matched ends, Report.events, Report.events, Journal.entries_append]
      exact List.prefix_append _ _
  | mismatch =>
      rw [bind_of_mismatch ends]
      exact List.prefix_refl _
  | fault fault =>
      rw [bind_of_fault ends]
      exact List.prefix_refl _

/-- An attempt at a match has its result. -/
theorem attempt_of_matched
    {run : Run α}
    {memo : Memo}
    {result : α}
    (ends : (run memo).outcome = .matched result) :
    run.attempt memo = ⟨.matched (some result), (run memo).memo, (run memo).journal⟩ := by
  simp only [attempt, ends]

/-- An attempt at a mismatch has no result. -/
theorem attempt_of_mismatch
    {run : Run α}
    {memo : Memo}
    (ends : (run memo).outcome = .mismatch) :
    run.attempt memo = ⟨.matched none, (run memo).memo, (run memo).journal⟩ := by
  simp only [attempt, ends]

/-- An attempt does not catch a fault. -/
theorem attempt_of_fault
    {run : Run α}
    {memo : Memo}
    {fault : Fault}
    (ends : (run memo).outcome = .fault fault) :
    run.attempt memo = ⟨.fault fault, (run memo).memo, (run memo).journal⟩ := by
  simp only [attempt, ends]

/-- An attempt does nothing on its own. -/
theorem events_attempt
    (run : Run α)
    (memo : Memo) :
    (run.attempt memo).events = (run memo).events := by
  cases ends : (run memo).outcome with
  | matched result => rw [attempt_of_matched ends, Report.events, Report.events]
  | mismatch => rw [attempt_of_mismatch ends, Report.events, Report.events]
  | fault fault => rw [attempt_of_fault ends, Report.events, Report.events]

/-- A run after a look at the memory. -/
theorem consult_bind
    (rule : String)
    (position : Nat)
    (next : Option Entry → Run β)
    (memo : Memo) :
    (consult rule position >>= next) memo = next (memo.find? rule position) memo := by
  rw [bind_of_matched rfl]
  change (⟨_, _, .empty ++ _⟩ : Report β) = _
  rw [Journal.empty_append]
  rfl

/-- A run after a note in the memory. -/
theorem remember_bind
    (rule : String)
    (position : Nat)
    (entry : Entry)
    (next : Unit → Run β)
    (memo : Memo) :
    (remember rule position entry >>= next) memo =
      next () (Memo.put rule entry position memo) := by
  rw [bind_of_matched rfl]
  change (⟨_, _, .empty ++ _⟩ : Report β) = _
  rw [Journal.empty_append]
  rfl

/-- A run after something that happened. -/
theorem tell_bind
    (event : Event)
    (next : Unit → Run β)
    (memo : Memo) :
    (tell event >>= next) memo =
      ⟨(next () memo).outcome, (next () memo).memo,
        .single event ++ (next () memo).journal⟩ :=
  bind_of_matched rfl next

/-- A result is given without doing anything. -/
theorem pure_apply
    (result : α)
    (memo : Memo) :
    (pure result : Run α) memo = ⟨.matched result, memo, .empty⟩ := rfl

/-- An answer is given without doing anything. -/
theorem ofOption_apply
    (answer : Option α)
    (memo : Memo) :
    ofOption answer memo = ⟨.ofOption answer, memo, .empty⟩ := by
  cases answer <;> rfl

end Run

/-! ## Endings -/

/-- How a run ended and the memory it left, whatever happened on the way. -/
def Report.ending (report : Report α) : Outcome α × Memo :=
  (report.outcome, report.memo)

theorem Report.ending_eq
    {report : Report α}
    {outcome : Outcome α}
    (ends : report.outcome = outcome) :
    report.ending = (outcome, report.memo) := by
  rw [ending, ends]

theorem Report.outcome_of_ending
    {report : Report α}
    {outcome : Outcome α}
    {after : Memo}
    (ends : report.ending = (outcome, after)) :
    report.outcome = outcome :=
  congrArg Prod.fst ends

theorem Report.memo_of_ending
    {report : Report α}
    {outcome : Outcome α}
    {after : Memo}
    (ends : report.ending = (outcome, after)) :
    report.memo = after :=
  congrArg Prod.snd ends

namespace Run

variable
  {α β : Type}
  {run : Run α}
  {next : α → Run β}
  {memo after : Memo}

theorem ending_bind_of_matched
    {result : α}
    (ends : (run memo).ending = (.matched result, after)) :
    ((run >>= next) memo).ending = (next result after).ending := by
  rw [bind_of_matched (Report.outcome_of_ending ends), Report.memo_of_ending ends]
  rfl

theorem ending_bind_of_mismatch
    (ends : (run memo).ending = (.mismatch, after)) :
    ((run >>= next) memo).ending = (.mismatch, after) := by
  rw [bind_of_mismatch (Report.outcome_of_ending ends), Report.memo_of_ending ends]
  rfl

theorem ending_bind_of_fault
    {fault : Fault}
    (ends : (run memo).ending = (.fault fault, after)) :
    ((run >>= next) memo).ending = (.fault fault, after) := by
  rw [bind_of_fault (Report.outcome_of_ending ends), Report.memo_of_ending ends]
  rfl

theorem ending_attempt_of_answer
    {answer : Option α}
    (ends : (run memo).ending = (.ofOption answer, after)) :
    (run.attempt memo).ending = (.matched answer, after) := by
  have outcome := Report.outcome_of_ending ends
  have left := Report.memo_of_ending ends
  cases answer with
  | none =>
      rw [attempt_of_mismatch outcome, left]
      rfl
  | some result =>
      rw [attempt_of_matched outcome, left]
      rfl

theorem ending_attempt_of_fault
    {fault : Fault}
    (ends : (run memo).ending = (.fault fault, after)) :
    (run.attempt memo).ending = (.fault fault, after) := by
  rw [attempt_of_fault (Report.outcome_of_ending ends), Report.memo_of_ending ends]
  rfl

end Run
end Matching
end Heirloom
