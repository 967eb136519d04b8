import Heirloom.Proofs.Calls
import Heirloom.Proofs.Matching.Simulation

/-!
# Evaluating renamed expressions

An expression whose inline expressions have got new names is evaluated like the
expression itself by an evaluation that applies rules under their new names. The rules
that are applied by name and the skip rule keep theirs.
-/

namespace Heirloom
namespace Matching

/-- Apply rules under their new names. -/
def Applier.renamed (apply : Applier) (names : String → String) : Applier :=
  fun stream rule position => apply stream (names rule) position

/-- The context that applies rules under their new names. -/
def Context.renamed (context : Context) (names : String → String) : Context :=
  { context with apply := Applier.renamed context.apply names }

section Names

variable
  {names : String → String}
  {context : Context}

theorem skip_renamed
    (skips : ∀ rule, context.skipRule = some rule → names rule = rule) :
    (context.renamed names).skip = context.skip := by
  funext stream position
  have same : (context.renamed names).skipRule = context.skipRule := rfl
  unfold Context.skip
  rw [same]
  cases known : context.skipRule with
  | none => rfl
  | some rule =>
      dsimp only [Context.renamed, Applier.renamed]
      rw [skips rule known]

theorem leaf_renamed
    (skips : ∀ rule, context.skipRule = some rule → names rule = rule) :
    (context.renamed names).leaf = context.leaf := by
  funext matcher stream position scope
  rw [Context.leaf, skip_renamed skips, Context.leaf]

theorem onWhole_renamed
    (skips : ∀ rule, context.skipRule = some rule → names rule = rule) :
    (context.renamed names).onWhole = context.onWhole := by
  funext body stream scope
  rw [Context.onWhole, skip_renamed skips, Context.onWhole]

theorem allNamed_renameProperties
    (names : String → String)
    (properties : List (String × Expr))
    (fields : List (String × Value)) :
    allNamed (Expr.renameProperties names properties) fields = allNamed properties fields := by
  unfold allNamed
  congr 1
  funext field
  induction properties with
  | nil => rfl
  | cons property properties inductionHypothesis =>
      rw [Expr.renameProperties, List.any_cons, List.any_cons, inductionHypothesis]

mutual

/-- A renamed expression is evaluated like the expression where rules have new names. -/
theorem eval_rename
    (skips : ∀ rule, context.skipRule = some rule → names rule = rule) :
    ∀ expr : Expr, (∀ rule ∈ expr.calls, names rule = rule) →
      eval context (expr.rename names) = eval (context.renamed names) expr
  | .any, _ | .prim _, _ | .range _, _ | .regex _, _ => by
      funext stream position scope
      simp only [Expr.rename, eval, leaf_renamed skips]
  | .app rule, fixed => by
      funext stream position scope
      have same : names rule = rule := fixed rule (List.mem_singleton_self rule)
      simp only [Expr.rename, eval, skip_renamed skips]
      dsimp only [Context.renamed, Applier.renamed]
      rw [same]
  | .inline rule body, _ => by
      funext stream position scope
      simp only [Expr.rename, eval]
      rfl
  | .alt left right, fixed => by
      funext stream position scope
      simp only [Expr.calls, List.forall_mem_append] at fixed
      simp only [Expr.rename, eval, eval_rename skips left fixed.1, eval_rename skips right fixed.2]
  | .seq items, fixed => by
      funext stream position scope
      simp only [Expr.rename, eval, evalItems_rename skips items fixed]
  | .bind body _, fixed | .many body _, fixed | .opt body, fixed | .not body, fixed
  | .peek body, fixed => by
      funext stream position scope
      simp only [Expr.rename, eval, eval_rename skips body fixed]
  | .str body, fixed | .lst body, fixed => by
      funext stream position scope
      simp only [Expr.rename, eval, skip_renamed skips, onWhole_renamed skips,
        eval_rename skips body fixed]
  | .obj properties _, fixed => by
      funext stream position scope
      simp only [Expr.rename, eval, skip_renamed skips, allNamed_renameProperties,
        evalProperties_rename skips properties fixed]

theorem evalItems_rename
    (skips : ∀ rule, context.skipRule = some rule → names rule = rule) :
    ∀ items : List Expr,
      (∀ rule ∈ Expr.itemCalls items, names rule = rule) →
        evalItems context (Expr.renameItems names items) = evalItems (context.renamed names) items
  | [], _ => by
      funext stream position scope value
      simp only [Expr.renameItems, evalItems]
  | item :: items, fixed => by
      funext stream position scope value
      simp only [Expr.itemCalls, List.forall_mem_append] at fixed
      simp only [Expr.renameItems, evalItems, eval_rename skips item fixed.1,
        evalItems_rename skips items fixed.2]

theorem evalProperties_rename
    (skips : ∀ rule, context.skipRule = some rule → names rule = rule) :
    ∀ properties : List (String × Expr),
      (∀ rule ∈ Expr.propertyCalls properties, names rule = rule) →
        evalProperties context (Expr.renameProperties names properties) =
          evalProperties (context.renamed names) properties
  | [], _ => by
      funext fields scope
      simp only [Expr.renameProperties, evalProperties]
  | (key, body) :: properties, fixed => by
      funext fields scope
      simp only [Expr.propertyCalls, List.forall_mem_append] at fixed
      simp only [Expr.renameProperties, evalProperties, onWhole_renamed skips,
        eval_rename skips body fixed.1, evalProperties_rename skips properties fixed.2]

end

end Names
end Matching
end Heirloom
