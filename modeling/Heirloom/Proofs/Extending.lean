import Heirloom.Proofs.Performing
import Heirloom.Proofs.Matching.Alternatives

/-!
# Extending

A rule may be extended many times, by the builder that defines it and by those
of grammars further down the lineage. As long as nothing replaces it, its body
grows on the right: it is the left-nested choice between the body it started
with and the bodies that were added, in the order of their declaration. Hence
the original is tried first, then each addition in turn.
-/

namespace Heirloom
namespace Builder

/-! ## What calls make of one rule -/

/-- The call gives a name a body that has nothing to do with the one before. -/
def Replaces (builder : Builder) (name : String) (call : Call) : Prop :=
  match call with
  | .define other _ | .override other _ => other = name ∧ builder.outcome call = .ok none
  | .inline body => builder.outcome call = .ok (some (.inline name body))
  | _ => False

/-- None of the calls replaces the body of a name. -/
def Spares (builder : Builder) (name : String) : List Call → Prop
  | [] => True
  | call :: calls => ¬ builder.Replaces name call ∧ (builder.perform call).Spares name calls

/-- The body that a call adds to a name, if it extends the name and succeeds. -/
def extension? (builder : Builder) (name : String) (call : Call) : Option Expr :=
  match call, builder.outcome call with
  | .extend other body, .ok _ => if other = name then some body else none
  | _, _ => none

/-- The bodies that calls add to a name, in order. -/
def extensions (builder : Builder) (name : String) : List Call → List Expr
  | [] => []
  | call :: calls =>
      (builder.extension? name call).toList ++ (builder.perform call).extensions name calls

section Rules

variable
  {builder : Builder}
  {call : Call}
  {calls : List Call}
  {name : String}
  {body : Expr}
  {parent : Grammar}

/-- A call that does not replace a body leaves it or adds to it. -/
theorem lookup?_perform
    (found : builder.lookup? name = some body)
    (spares : ¬ builder.Replaces name call) :
    (builder.perform call).lookup? name =
      some ((builder.extension? name call).toList.foldl .alt body) := by
  have performs := builder.performs call
  unfold Replaces at spares
  unfold extension?
  generalize builder.outcome call = outcome at performs spares ⊢
  generalize builder.perform call = after at performs ⊢
  cases performs with
  | refused => cases call <;> exact found
  | named | begun => exact found
  | linked unset rules set =>
      change after.lookup? name = some body
      unfold Builder.lookup? localRule? at found ⊢
      rw [rules]
      split at found
      · exact found
      · simp [unset] at found
  | @defined other added _ new installs =>
      have different : other ≠ name := fun same => spares ⟨same, rfl⟩
      rw [installs.lookup?, Function.update_of_ne different.symm, found]
      rfl
  | @overridden other added _ _ known installs =>
      have different : other ≠ name := fun same => spares ⟨same, rfl⟩
      rw [installs.lookup?, Function.update_of_ne different.symm, found]
      rfl
  | @extended other added existing _ known installs =>
      rw [installs.lookup?]
      by_cases same : other = name
      · subst same
        obtain rfl : existing = body := Option.some.inj (known.symm.trans found)
        simp
      · simp [same, Ne.symm same, found]
  | inlined installs =>
      have different : name ≠ builder.freshName := by
        rintro rfl
        simp [builder.lookup?_freshName] at found
      rw [installs.lookup?, Function.update_of_ne different, found]
      rfl

/-- Calls that do not replace a body add to it in order. -/
theorem lookup?_performAll
    (found : builder.lookup? name = some body)
    (spares : builder.Spares name calls) :
    (builder.performAll calls).lookup? name =
      some ((builder.extensions name calls).foldl .alt body) := by
  induction calls generalizing builder body with
  | nil => exact found
  | cons call calls inductionHypothesis =>
      rw [extensions, List.foldl_append]
      exact inductionHypothesis (lookup?_perform found spares.1) spares.2

/-- Before a super-grammar is linked, there is nothing to add to under a name that is not
replaced. -/
theorem absent_perform
    (absent : builder.localRule? name = none)
    (unset : builder.parent = none)
    (spares : ¬ builder.Replaces name call) :
    (builder.perform call).localRule? name = none ∧ builder.extension? name call = none := by
  have unknown : builder.lookup? name = none := by
    rw [Builder.lookup?, absent, unset]
    rfl
  have performs := builder.performs call
  unfold Replaces at spares
  unfold extension?
  generalize builder.outcome call = outcome at performs spares ⊢
  generalize builder.perform call = after at performs ⊢
  cases performs with
  | refused => cases call <;> exact ⟨absent, rfl⟩
  | named | begun => exact ⟨absent, rfl⟩
  | linked _ rules _ => exact ⟨by rw [localRule?, rules]; exact absent, rfl⟩
  | @defined other _ _ _ installs | @overridden other _ _ _ _ installs =>
      have different : other ≠ name := fun same => spares ⟨same, rfl⟩
      exact ⟨by rw [installs.localRule?, if_neg different, absent], rfl⟩
  | @extended other _ _ _ known installs =>
      have different : other ≠ name := by
        rintro rfl
        simp [unknown] at known
      exact ⟨by rw [installs.localRule?, if_neg different, absent], if_neg different⟩
  | inlined installs =>
      have different : builder.freshName ≠ name := by
        rintro rfl
        exact spares rfl
      exact ⟨by rw [installs.localRule?, if_neg different, absent], rfl⟩

/-- In a builder that starts with nothing, the body that is inherited grows. -/
theorem lookup?_performAll_inherited
    (absent : builder.localRule? name = none)
    (unset : builder.parent = none)
    (spares : builder.Spares name calls)
    (linked : (builder.performAll calls).parent = some parent)
    (found : parent.rule? name = some ⟨name, body⟩) :
    (builder.performAll calls).lookup? name =
      some ((builder.extensions name calls).foldl .alt body) := by
  induction calls generalizing builder with
  | nil => simp [performAll, unset] at linked
  | cons call calls inductionHypothesis =>
      obtain ⟨still, nothing⟩ := absent_perform absent unset spares.1
      rw [extensions, nothing, Option.toList_none, List.nil_append]
      cases now : (builder.perform call).parent with
      | none => exact inductionHypothesis still now spares.2 linked
      | some other =>
          obtain rfl : other = parent := by
            simpa using (performAll_parent now calls).symm.trans linked
          refine lookup?_performAll ?_ spares.2
          rw [Builder.lookup?, still, now, Option.bind_some, found, Option.map_some]

end Rules
end Builder

/-! ## Lineages -/

open Builder (Call)

/-- A grammar to which a rule comes down with the body that it has somewhere and the bodies
that are added to it from there on: in the builder where the body is found, and in those of
further grammars, each over the one before. -/
inductive Grammar.Accumulates (name : String) (body : Expr) : List Expr → Grammar → Prop
  | had {grammar : Grammar}
      (found : grammar.rule? name = some ⟨name, body⟩) :
      Accumulates name body [] grammar
  | built {before calls : List Call} {serial : Nat}
      (found : (Builder.empty.performAll before).lookup? name = some body)
      (spares : (Builder.empty.performAll before).Spares name calls) :
      Accumulates name body ((Builder.empty.performAll before).extensions name calls)
        (((Builder.empty.performAll before).performAll calls).build serial)
  | inherited {bodies : List Expr} {parent : Grammar} {calls : List Call} {serial : Nat}
      (above : Accumulates name body bodies parent)
      (linked : (Builder.empty.performAll calls).parent = some parent)
      (spares : Builder.empty.Spares name calls) :
      Accumulates name body (bodies ++ Builder.empty.extensions name calls)
        ((Builder.empty.performAll calls).build serial)

namespace Grammar

/-- What a builder finds under a name is a rule of the grammar it is finished to. -/
theorem rule?_build
    {builder : Builder}
    {name : String}
    {body : Expr}
    (found : builder.lookup? name = some body)
    (serial : Nat) :
    (builder.build serial).rule? name = some ⟨name, body⟩ := by
  rw [builder.lookup?_eq name serial] at found
  obtain ⟨rule, isRule, rfl⟩ := Option.map_eq_some_iff.mp found
  rw [isRule, ← name_of_rule? isRule]

/-- The body that has come down is the left-nested choice in the order of declaration. -/
theorem Accumulates.rule?
    {name : String}
    {body : Expr}
    {bodies : List Expr}
    {grammar : Grammar}
    (accumulates : Accumulates name body bodies grammar) :
    grammar.rule? name = some ⟨name, choice (body :: bodies)⟩ := by
  induction accumulates with
  | had found => exact found
  | built found spares => exact rule?_build (Builder.lookup?_performAll found spares) _
  | inherited above linked spares inductionHypothesis =>
      refine rule?_build ?_ _
      rw [Builder.lookup?_performAll_inherited rfl rfl spares linked inductionHypothesis]
      simp [choice, List.foldl_append]

end Grammar

/-! ## Choices in source -/

/-- A choice in source has an alternative for each of its patterns. -/
theorem length_of_lowerAll
    {patterns : List Source.Pattern}
    {exprs : List Expr}
    {builder after : Builder}
    (lowers : (lowerAll patterns).run.run builder = (.ok exprs, after)) :
    exprs.length = patterns.length := by
  induction patterns generalizing exprs builder with
  | nil =>
      cases lowers
      rfl
  | cons pattern patterns inductionHypothesis =>
      obtain ⟨expr, middle, -, lowers⟩ := run_bind_eq_ok_iff.mp lowers
      obtain ⟨others, last, lowers, ends⟩ := run_bind_eq_ok_iff.mp lowers
      cases ends
      simp [inductionHypothesis lowers]

/-- A choice in source stands for the left-nested choice between its alternatives. -/
theorem lower_alt
    {patterns : List Source.Pattern}
    {exprs : List Expr}
    {builder after : Builder}
    (lowers : (lowerAll patterns).run.run builder = (.ok exprs, after)) :
    (lower (.alt patterns)).run.run builder = (.ok (choice exprs), after) := by
  rw [lower, run_bind_task, lowers]
  rfl

open Matching

/-- Additions to a rule are tried in the order of their declaration, after the original.
-/
theorem extensions_are_tried_in_order :
    (∀ {name : String} {body : Expr} {bodies : List Expr} {grammar : Grammar},
      Grammar.Accumulates name body bodies grammar →
        grammar.rule? name = some ⟨name, choice (body :: bodies)⟩) ∧
    (∀ {patterns : List Source.Pattern} {exprs : List Expr} {builder after : Builder},
      (lowerAll patterns).run.run builder = (.ok exprs, after) →
        exprs.length = patterns.length ∧
        (lower (.alt patterns)).run.run builder = (.ok (choice exprs), after)) ∧
    (∀ {exprs : List Expr}, exprs ≠ [] → Chooses exprs (choice exprs)) ∧
    ∀ {exprs : List Expr} {expr : Expr}, Chooses exprs expr →
      ∀ (context : Context) (stream : List Value) (position : Nat) (scope : Bindings) (memo : Memo),
        let report := eval context expr stream position scope memo
        report = eval context (choice exprs) stream position scope memo ∧
        Tries context stream position scope exprs memo report.ending ∧
        ∀ step, report.outcome = .matched step →
          ∃ alternative ∈ exprs, ∃ added, step.scope = scope ++ added ∧
            ∀ binding ∈ added, binding.1 ∈ alternative.bindings := by
  refine ⟨Grammar.Accumulates.rule?, fun lowers => ⟨length_of_lowerAll lowers, lower_alt lowers⟩,
    chooses_choice, ?_⟩
  intro exprs expr chooses context stream position scope memo report
  have tries : Tries context stream position scope exprs memo report.ending := by
    rw [show report = _ from congrFun (eval_of_chooses chooses) memo]
    exact tries_firstOf exprs memo
  refine ⟨?_, tries, fun step matched => ?_⟩
  · have leftNested := chooses_choice chooses.ne_nil
    exact congrFun ((eval_of_chooses chooses).trans (eval_of_chooses leftNested).symm) memo
  · rw [Report.ending_eq matched] at tries
    exact tries.exists_of_matched

/-- The additions of a grammar to a rule of its super-grammar are tried after the original. -/
theorem child_extensions_are_tried_in_order :
    let original := Expr.prim (.str "B")
    let first := Expr.prim (.str "b1")
    let second := Expr.prim (.str "b2")
    let parent := (Builder.empty.performAll [.setName "P", .define "r" original]).build 1
    let child := (Builder.empty.performAll
      [.setName "C", .setParent parent, .extend "r" first, .extend "r" second]).build 2
    Grammar.Accumulates "r" original [first, second] child ∧
    child.rule? "r" = some ⟨"r", .alt (.alt original first) second⟩ ∧
    (lower (.alt [.any, .call "r", .null])).run.run Builder.empty =
      (.ok (.alt (.alt .any (.app "r")) (.prim .null)), Builder.empty) ∧
    Chooses [original, first, second] (.alt original (.alt first second)) ∧
    ∀ (context : Context) (stream : List Value) (position : Nat) (scope : Bindings) (memo : Memo),
      Tries context stream position scope [original, first, second] memo
        (eval context (.alt original (.alt first second)) stream position scope memo).ending := by
  intro original first second parent child
  let before : List Call := [.setName "P", .define "r" original]
  let calls : List Call := [.setName "C", .setParent parent, .extend "r" first, .extend "r" second]
  have accumulates : Grammar.Accumulates "r" original [first, second] child := by
    have found : (Builder.empty.performAll before).lookup? "r" = some original := rfl
    have unchanged : (Builder.empty.performAll before).Spares "r" [] := trivial
    have above : Grammar.Accumulates "r" original [] parent := .built found unchanged
    have linked : (Builder.empty.performAll calls).parent = some parent := rfl
    have extended : Builder.empty.Spares "r" calls := ⟨id, id, id, id, trivial⟩
    exact above.inherited linked extended
  have lowered : (lowerAll [.any, .call "r", .null]).run.run Builder.empty =
      (.ok [.any, .app "r", .prim .null], Builder.empty) := rfl
  have chooses : Chooses [original, first, second] (.alt original (.alt first second)) :=
    .alt (.only original) (.alt (.only first) (.only second))
  obtain ⟨finds, lowers, -, tried⟩ := extensions_are_tried_in_order
  exact ⟨accumulates, finds accumulates, (lowers lowered).2, chooses,
    fun context stream position scope memo =>
      (tried chooses context stream position scope memo).2.1⟩

end Heirloom
