import Heirloom.Proofs.Matching.Choice
import Heirloom.Proofs.Matching.Scopes

/-!
# Alternatives

A choice between alternatives may be nested in any way. All ways do the same:
the alternatives are tried in order at one position and in one scope, each from
the memory that those before it left, and the first that matches is taken with
what it bound.
-/

namespace Heirloom
namespace Matching

/-- Trying expressions in order, from a memory: how it ends and the memory it
leaves. -/
inductive Tries
    (context : Context)
    (stream : List Value)
    (position : Nat)
    (scope : Bindings) :
    List Expr → Memo → Outcome Step × Memo → Prop
  | none (memo : Memo) :
      Tries context stream position scope [] memo (.mismatch, memo)
  | matched {expr : Expr} {memo after : Memo} {step : Step}
      (others : List Expr)
      (ends : (eval context expr stream position scope memo).ending = (.matched step, after)) :
      Tries context stream position scope (expr :: others) memo (.matched step, after)
  | faulted {expr : Expr} {memo after : Memo} {fault : Fault}
      (others : List Expr)
      (ends : (eval context expr stream position scope memo).ending = (.fault fault, after)) :
      Tries context stream position scope (expr :: others) memo (.fault fault, after)
  | further {expr : Expr} {others : List Expr} {memo between : Memo}
      {ending : Outcome Step × Memo}
      (ends : (eval context expr stream position scope memo).ending = (.mismatch, between))
      (rest : Tries context stream position scope others between ending) :
      Tries context stream position scope (expr :: others) memo ending

variable
  {context : Context}
  {stream : List Value}
  {position : Nat}
  {scope : Bindings}

/-- Runs that are tried until one matches try their expressions. -/
theorem tries_firstOf (exprs : List Expr) (memo : Memo) :
    Tries context stream position scope exprs memo
      (firstOf (exprs.map fun expr => eval context expr stream position scope) memo).ending := by
  induction exprs generalizing memo with
  | nil => exact .none memo
  | cons expr others inductionHypothesis =>
      simp only [firstOf, List.map_cons, List.foldr_cons]
      cases ends : (eval context expr stream position scope memo).outcome with
      | matched step =>
          have ending := Report.ending_eq ends
          rw [Run.ending_orElse_of_matched ending]
          exact .matched others ending
      | fault fault =>
          have ending := Report.ending_eq ends
          rw [Run.ending_orElse_of_fault ending]
          exact .faulted others ending
      | mismatch =>
          have ending := Report.ending_eq ends
          rw [Run.ending_orElse_of_mismatch ending]
          exact .further ending (inductionHypothesis _)

/-- A match is that of one alternative, and adds what this alternative binds. -/
theorem Tries.exists_of_matched
    {exprs : List Expr}
    {memo after : Memo}
    {step : Step}
    (tries : Tries context stream position scope exprs memo (.matched step, after)) :
    ∃ alternative ∈ exprs, ∃ added, step.scope = scope ++ added ∧
      ∀ binding ∈ added, binding.1 ∈ alternative.bindings := by
  generalize same : (Outcome.matched step, after) = ending at tries
  induction tries with
  | none => cases same
  | faulted => cases same
  | matched others ends =>
      cases same
      obtain ⟨added, grown, binds⟩ := eval_binds (Report.outcome_of_ending ends)
      exact ⟨_, List.mem_cons_self, added, grown, fun binding bound =>
        binds.subset_bindings (List.mem_map_of_mem bound)⟩
  | further ends rest inductionHypothesis =>
      obtain ⟨alternative, listed, binds⟩ := inductionHypothesis same
      exact ⟨alternative, List.mem_cons_of_mem _ listed, binds⟩

/-! ## Nesting -/

/-- An expression is a choice between alternatives in order, nested in any way. -/
inductive Chooses : List Expr → Expr → Prop
  | only (expr : Expr) : Chooses [expr] expr
  | alt {lefts rights : List Expr} {left right : Expr}
      (first : Chooses lefts left)
      (second : Chooses rights right) :
      Chooses (lefts ++ rights) (.alt left right)

/-- A choice has an alternative. -/
theorem Chooses.ne_nil {exprs : List Expr} {expr : Expr} (chooses : Chooses exprs expr) :
    exprs ≠ [] := by
  induction chooses with
  | only expr => simp
  | alt first second leftHypothesis rightHypothesis => simp [leftHypothesis]

/-- The left-nested choice is one way. -/
theorem chooses_choice {exprs : List Expr} (some : exprs ≠ []) : Chooses exprs (choice exprs) := by
  have nested {lefts : List Expr} {left : Expr} (chooses : Chooses lefts left)
      (others : List Expr) : Chooses (lefts ++ others) (others.foldl .alt left) := by
    induction others generalizing lefts left with
    | nil => simpa using chooses
    | cons other others inductionHypothesis =>
        simpa using inductionHypothesis (chooses.alt (.only other))
  obtain ⟨first, others, rfl⟩ := List.exists_cons_of_ne_nil some
  exact nested (.only first) others

theorem Run.mismatch_orElse (run : Run α) : Run.mismatch.orElse run = run := by
  funext memo
  rw [Run.orElse_of_mismatch rfl]
  simp [Run.mismatch]

/-- Trying some runs and then others is trying all of them. -/
theorem firstOf_append (first second : List (Run α)) :
    firstOf (first ++ second) = (firstOf first).orElse (firstOf second) := by
  induction first with
  | nil => exact (Run.mismatch_orElse _).symm
  | cons run runs inductionHypothesis =>
      simp only [firstOf, List.cons_append, List.foldr_cons] at inductionHypothesis ⊢
      rw [inductionHypothesis, Run.orElse_assoc]

/-- However a choice is nested, its alternatives are tried in order. -/
theorem eval_of_chooses
    {exprs : List Expr}
    {expr : Expr}
    (chooses : Chooses exprs expr) :
    eval context expr stream position scope =
      firstOf (exprs.map fun expr => eval context expr stream position scope) := by
  induction chooses with
  | only expr => exact (Run.orElse_mismatch _).symm
  | alt first second leftHypothesis rightHypothesis =>
      rw [eval_alt, leftHypothesis, rightHypothesis, List.map_append, firstOf_append]

end Matching
end Heirloom
