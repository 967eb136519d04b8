import Heirloom.Proofs.Calls
import Heirloom.Proofs.Matching.Wrapping

/-!
# Wrapped alternatives

One alternative of an expression is left to an inline rule. Nothing else changes, and
the expression makes the same calls as before. Compared with an expression that has
other names for its inline rules, the two are a renaming apart.
-/

namespace Heirloom
namespace Expr

/-- One alternative of the first expression is left to an inline rule in the second. -/
inductive Wraps (inner : String) (alternative : Expr) : Expr → Expr → Prop
  /-- The expression is the alternative. -/
  | here : Wraps inner alternative alternative (.inline inner alternative)
  /-- The alternative is among the first ones. -/
  | left {body wrapped other : Expr}
      (wraps : Wraps inner alternative body wrapped) :
      Wraps inner alternative (.alt body other) (.alt wrapped other)
  /-- The alternative is among the last ones. -/
  | right {body wrapped other : Expr}
      (wraps : Wraps inner alternative body wrapped) :
      Wraps inner alternative (.alt other body) (.alt other wrapped)

namespace Wraps

variable
  {inner : String}
  {alternative body wrapped : Expr}

theorem calls_eq
    (wraps : Wraps inner alternative body wrapped) :
    wrapped.calls = body.calls := by
  induction wraps with
  | here => rfl
  | left _ inductionHypothesis => exact congrArg (· ++ _) inductionHypothesis
  | right _ inductionHypothesis => exact congrArg (_ ++ ·) inductionHypothesis

/-- There is one more inline expression. -/
theorem inlines_perm
    (wraps : Wraps inner alternative body wrapped) :
    wrapped.inlines.Perm ((inner, alternative) :: body.inlines) := by
  induction wraps with
  | here => exact .refl _
  | left _ inductionHypothesis => exact inductionHypothesis.append_right _
  | right _ inductionHypothesis =>
      exact (inductionHypothesis.append_left _).trans List.perm_middle

theorem calls_subset
    (wraps : Wraps inner alternative body wrapped) :
    alternative.calls ⊆ body.calls := by
  have mem := wraps.inlines_perm.mem_iff.mpr (List.mem_cons_self ..)
  exact wraps.calls_eq ▸ (parts_of_mem_inlines mem).1

/-- A choice in which the first alternative is wrapped. -/
theorem foldl_alt
    (wraps : Wraps inner alternative body wrapped)
    (others : List Expr) :
    Wraps inner alternative (others.foldl .alt body) (others.foldl .alt wrapped) := by
  induction others generalizing body wrapped with
  | nil => exact wraps
  | cons other others inductionHypothesis => exact inductionHypothesis wraps.left

/-- Any alternative of a choice can be wrapped. -/
theorem choice (inner : String) (before : List Expr) (body : Expr) (after : List Expr) :
    Wraps inner body (choice (before ++ body :: after))
      (choice (before ++ .inline inner body :: after)) := by
  cases before with
  | nil => exact here.foldl_alt after
  | cons first before =>
      simp only [List.cons_append, Heirloom.choice, List.foldl_append, List.foldl_cons]
      exact (right here).foldl_alt after

/-- Without names, the second expression is wrapped as it is with them. -/
theorem exists_of_anonymous
    {drawn : Expr}
    (wraps : Wraps "" alternative body drawn)
    (same : wrapped.anonymous = drawn) :
    ∃ inner alternative unwrapped,
      Wraps inner alternative unwrapped wrapped ∧ unwrapped.anonymous = body := by
  induction wraps generalizing wrapped with
  | here =>
      cases wrapped with
      | inline inner unwrapped => exact ⟨inner, unwrapped, unwrapped, here, (inline.inj same).2⟩
      | _ => cases same
  | left _ inductionHypothesis =>
      cases wrapped with
      | alt first second =>
          obtain ⟨sameFirst, rfl⟩ := alt.inj same
          obtain ⟨inner, alternative, unwrapped, wraps, rfl⟩ := inductionHypothesis sameFirst
          exact ⟨inner, alternative, .alt unwrapped second, wraps.left, rfl⟩
      | _ => cases same
  | right _ inductionHypothesis =>
      cases wrapped with
      | alt first second =>
          obtain ⟨rfl, sameSecond⟩ := alt.inj same
          obtain ⟨inner, alternative, unwrapped, wraps, rfl⟩ := inductionHypothesis sameSecond
          exact ⟨inner, alternative, .alt first unwrapped, wraps.right, rfl⟩
      | _ => cases same

/-- What is wrapped after a renaming encloses what was renamed. -/
theorem encloses
    {names : String → String}
    {renamed : Expr}
    (wraps : Wraps inner alternative renamed wrapped)
    (same : body.rename names = renamed) :
    ∃ original, original.rename names = alternative ∧
      Encloses names inner original body wrapped := by
  induction wraps generalizing body with
  | here =>
      subst same
      exact ⟨body, rfl, .here⟩
  | left _ inductionHypothesis =>
      cases body with
      | alt first second =>
          obtain ⟨sameFirst, rfl⟩ := alt.inj same
          obtain ⟨original, isAlternative, encloses⟩ := inductionHypothesis sameFirst
          exact ⟨original, isAlternative, .left encloses⟩
      | _ => cases same
  | right _ inductionHypothesis =>
      cases body with
      | alt first second =>
          obtain ⟨rfl, sameSecond⟩ := alt.inj same
          obtain ⟨original, isAlternative, encloses⟩ := inductionHypothesis sameSecond
          exact ⟨original, isAlternative, .right encloses⟩
      | _ => cases same

end Wraps

/-- The second expression is the first, but for names, with one alternative left to the
inline rule. -/
def WrapsOne (inner : String) (body wrapped : Expr) : Prop :=
  ∃ alternative unwrapped,
    Wraps inner alternative unwrapped wrapped ∧ unwrapped.anonymous = body.anonymous

theorem WrapsOne.calls_eq
    {inner : String}
    {body wrapped : Expr}
    (wraps : body.WrapsOne inner wrapped) :
    wrapped.calls = body.calls := by
  obtain ⟨alternative, unwrapped, wraps, same⟩ := wraps
  rw [wraps.calls_eq, calls_eq_of_anonymous same]

end Expr
end Heirloom
