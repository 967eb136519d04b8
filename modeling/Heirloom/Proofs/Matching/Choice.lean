import Heirloom.Loading
import Heirloom.Matching.Eval
import Heirloom.Proofs.Matching.Report

/-!
# Ordered choice

A left-nested choice tries its alternatives in order, each from the memory that
the ones before it left, and takes the first that matches.
-/

namespace Heirloom
namespace Matching

/-- Where nothing is skipped, a leaf does nothing but match. -/
theorem ending_leaf_unskipped
    (apply : Applier)
    (leaf : List Value → Nat → Option Hit)
    (stream : List Value)
    (position : Nat)
    (scope : Bindings)
    (memo : Memo) :
    (Context.leaf ⟨apply, none⟩ leaf stream position scope memo).ending =
      (.ofOption ((leaf stream position).map fun hit => ⟨hit.value, hit.finish, scope⟩), memo) := by
  unfold Context.leaf
  rw [Run.ending_bind_of_matched rfl]
  cases found : leaf stream position with
  | none => exact Run.ending_bind_of_mismatch rfl
  | some hit => exact Run.ending_bind_of_matched rfl

/-- A run, or another one if it does not match. -/
def Run.orElse (first second : Run α) : Run α := do
  match ← first.attempt with
  | some result => return result
  | none => second

namespace Run

variable
  {α : Type}
  {first : Run α}
  {memo after : Memo}

theorem orElse_of_matched
    {result : α}
    (ends : (first memo).outcome = .matched result)
    (second : Run α) :
    first.orElse second memo = ⟨.matched result, (first memo).memo, (first memo).journal⟩ := by
  have attempted := attempt_of_matched ends
  rw [orElse, bind_of_matched (congrArg Report.outcome attempted), attempted]
  simp only [pure_apply, Journal.append_empty]

theorem orElse_of_mismatch
    (ends : (first memo).outcome = .mismatch)
    (second : Run α) :
    first.orElse second memo =
      ⟨(second (first memo).memo).outcome, (second (first memo).memo).memo,
        (first memo).journal ++ (second (first memo).memo).journal⟩ := by
  have attempted := attempt_of_mismatch ends
  rw [orElse, bind_of_matched (congrArg Report.outcome attempted), attempted]

theorem orElse_of_fault
    {fault : Fault}
    (ends : (first memo).outcome = .fault fault)
    (second : Run α) :
    first.orElse second memo = ⟨.fault fault, (first memo).memo, (first memo).journal⟩ := by
  have attempted := attempt_of_fault ends
  rw [orElse, bind_of_fault (congrArg Report.outcome attempted), attempted]

theorem ending_orElse_of_matched
    {result : α}
    (ends : (first memo).ending = (.matched result, after))
    (second : Run α) :
    (first.orElse second memo).ending = (.matched result, after) := by
  rw [orElse_of_matched (Report.outcome_of_ending ends), Report.memo_of_ending ends]
  rfl

theorem ending_orElse_of_mismatch
    (ends : (first memo).ending = (.mismatch, after))
    (second : Run α) :
    (first.orElse second memo).ending = (second after).ending := by
  rw [orElse_of_mismatch (Report.outcome_of_ending ends), Report.memo_of_ending ends]
  rfl

theorem ending_orElse_of_fault
    {fault : Fault}
    (ends : (first memo).ending = (.fault fault, after))
    (second : Run α) :
    (first.orElse second memo).ending = (.fault fault, after) := by
  rw [orElse_of_fault (Report.outcome_of_ending ends), Report.memo_of_ending ends]
  rfl

theorem orElse_mismatch (run : Run α) :
    run.orElse mismatch = run := by
  funext memo
  cases ends : (run memo).outcome with
  | matched result => rw [orElse_of_matched ends, ← ends]
  | mismatch =>
      rw [orElse_of_mismatch ends]
      simp only [mismatch, Journal.append_empty, ← ends]
  | fault fault => rw [orElse_of_fault ends, ← ends]

theorem orElse_assoc (first second third : Run α) :
    (first.orElse second).orElse third = first.orElse (second.orElse third) := by
  funext memo
  cases ends : (first memo).outcome with
  | matched result =>
      have both := orElse_of_matched ends second
      rw [orElse_of_matched ends, orElse_of_matched (congrArg Report.outcome both), both]
  | fault fault =>
      have both := orElse_of_fault ends second
      rw [orElse_of_fault ends, orElse_of_fault (congrArg Report.outcome both), both]
  | mismatch =>
      have both := orElse_of_mismatch ends second
      rw [orElse_of_mismatch ends]
      cases next : (second (first memo).memo).outcome with
      | matched result =>
          rw [orElse_of_matched next]
          rw [next] at both
          rw [orElse_of_matched (congrArg Report.outcome both), both]
      | fault fault =>
          rw [orElse_of_fault next]
          rw [next] at both
          rw [orElse_of_fault (congrArg Report.outcome both), both]
      | mismatch =>
          rw [orElse_of_mismatch next]
          rw [next] at both
          rw [orElse_of_mismatch (congrArg Report.outcome both), both]
          simp only [Journal.append_assoc]

end Run

/-- The choice between two expressions tries one and then the other. -/
theorem eval_alt
    (context : Context)
    (left right : Expr)
    (stream : List Value)
    (position : Nat)
    (scope : Bindings) :
    eval context (.alt left right) stream position scope =
      (eval context left stream position scope).orElse
        (eval context right stream position scope) := by
  rw [eval, Run.orElse]
  congr 1
  funext result
  cases result <;> rfl

/-- Try runs in order until one matches. -/
def firstOf (runs : List (Run α)) : Run α :=
  runs.foldr Run.orElse Run.mismatch

/-- A choice tries its alternatives in order. -/
theorem eval_choice
    (context : Context)
    {exprs : List Expr}
    (some : exprs ≠ [])
    (stream : List Value)
    (position : Nat)
    (scope : Bindings) :
    eval context (choice exprs) stream position scope =
      firstOf (exprs.map fun expr => eval context expr stream position scope) := by
  obtain ⟨first, others, rfl⟩ := List.exists_cons_of_ne_nil some
  simp only [choice]
  -- The first two alternatives are one choice, which the induction treats as the first.
  induction others generalizing first with
  | nil => exact (Run.orElse_mismatch _).symm
  | cons second others inductionHypothesis =>
      rw [List.foldl_cons, inductionHypothesis _ (List.cons_ne_nil _ _)]
      simp only [firstOf, List.map_cons, List.foldr_cons]
      rw [eval_alt, Run.orElse_assoc]

end Matching
end Heirloom
