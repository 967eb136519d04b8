import Heirloom.Proofs.Matching.Memoized

/-!
# Runs that share what they know

Rules that never lead to other rules neither see nor change what is known of
these. So runs that apply only such rules do the same from any two memories that
agree on them, and whatever else is known stays as it is.
-/

namespace Heirloom
namespace Matching

/-- Runs from memories that agree on some rules and leave all other rules alone. -/
def sharing (names : String → Prop) : Lockstep where
  alike := Eq
  memories stream offset memo rightMemo :=
    offset = 0 ∧ rightMemo.Bounded stream ∧
      ∀ rule, names rule → ∀ position, memo.find? rule position = rightMemo.find? rule position
  changed memo _ after _ :=
    ∀ rule, ¬ names rule → ∀ position, after.find? rule position = memo.find? rule position
  events _ _ := True
  excused _ := False
  rightExcused _ := False
  laws.alike_refl := Eq.refl
  laws.alike_list := Value.list_eq_of_forall₂
  laws.changed_refl _ _ _ _ _ := rfl
  laws.changed_trans before after rule other position :=
    (after rule other position).trans (before rule other position)
  laws.events_nil := trivial
  laws.events_append _ _ := trivial
  laws.events_nested _ := trivial
  laws.inner _ _ := ⟨rfl, .empty _, fun _ _ _ => rfl⟩

variable {names : String → Prop}

/-- On both sides the same is known and noted of the rules that are shared. -/
theorem sharing_respectsMemory : (sharing names).simulation.RespectsMemory names where
  consult := by
    rintro stream offset position rule named memo rightMemo ⟨rfl, bounded, agree⟩
    refine .inr ⟨.matched ?_, trivial, fun _ => ⟨rfl, bounded, agree⟩, fun _ _ _ _ => rfl⟩
    rw [agree rule named]
    exact (sharing names).simulation.entriesAlike_find? bounded rule position
  remember := by
    rintro stream offset position rule entry rightEntry named entries memo rightMemo
      ⟨rfl, bounded, agree⟩
    obtain rfl := entries.eq id
    refine .inr ⟨.matched trivial, trivial,
      fun _ => ⟨rfl, entries.bounded_put bounded rule, ?_⟩, fun _ => ?_⟩
    · intro other otherNamed place
      change (Memo.put _ _ _ _).find? _ _ = (Memo.put _ _ _ _).find? _ _
      rw [Memo.find?_put, Memo.find?_put, agree other otherNamed]
      rfl
    · intro other unnamed place
      refine Memo.find?_put_of_ne ?_ _ _
      rintro ⟨rfl, -⟩
      exact unnamed named
  entered _ := Lockstep.Goes.tell fun _ => trivial
  left _ _ _ _ := Lockstep.Goes.tell fun _ => trivial
  reentered _ := Lockstep.Goes.tell fun _ => trivial
  answered _ _ _ _ := Lockstep.Goes.tell fun _ => trivial
  failed fault := Lockstep.Goes.fail fault

end Matching

open Matching

namespace Matcher

/-- Applications of rules that lead only to each other do the same from memories
that agree on them. -/
theorem applyWithin_sharing
    {matcher : Matcher}
    {names : String → Prop}
    (closed : matcher.Closed names)
    (depth : Nat) :
    (sharing names).simulation.AppliersAgree names (matcher.applyWithin depth)
      fun _ => matcher.applyWithin depth := by
  induction depth with
  | zero =>
      intro stream offset position name _ _
      exact sharing_respectsMemory.failed .exhausted
  | succ depth inductionHypothesis =>
      exact applyWith_related sharing_respectsMemory (fun _ => rfl) (fun _ _ => rfl)
        closed.applied (fun _ => actions_alike id _ _)
        fun rule => inductionHypothesis.agree fun _ => closed.skipped

end Matcher
end Heirloom
