import Heirloom.Proofs.Composition

/-!
# What calls do

One call to a builder either fails and changes nothing, or does one of a few
things: it sets a name, links the super-grammar, or installs one body under one
name. A super-grammar that is linked stays, and so does a name under which a
rule has been installed.
-/

namespace Heirloom
namespace Builder

/-- What a call may come to: what it returns and the builder after it. -/
inductive Performs (builder : Builder) :
    Call → Except Error (Option Expr) → Builder → Prop
  | refused {call : Call} (error : Error) :
      Performs builder call (.error error) builder
  | named (name : String) :
      Performs builder (.setName name) (.ok none) (builder.setName name)
  | begun (name : String) :
      Performs builder (.beginRule name) (.ok none) (builder.beginRule name)
  | linked {parent : Grammar} {after : Builder}
      (unset : builder.parent = none)
      (rules : after.rules = builder.rules)
      (set : after.parent = some parent) :
      Performs builder (.setParent parent) (.ok none) after
  | defined {name : String} {body : Expr} {after : Builder}
      (new : builder.localRule? name = none)
      (installs : builder.Installs name body after) :
      Performs builder (.define name body) (.ok none) after
  | overridden {name : String} {body existing : Expr} {after : Builder}
      (found : builder.lookup? name = some existing)
      (installs : builder.Installs name body after) :
      Performs builder (.override name body) (.ok none) after
  | extended {name : String} {body existing : Expr} {after : Builder}
      (found : builder.lookup? name = some existing)
      (installs : builder.Installs name (.alt existing body) after) :
      Performs builder (.extend name body) (.ok none) after
  | inlined {body : Expr} {after : Builder}
      (installs : builder.Installs builder.freshName body after) :
      Performs builder (.inline body) (.ok (some (.inline builder.freshName body))) after

section Calls

variable
  {builder after : Builder}
  {call : Call}
  {calls : List Call}
  {operation : Builder → Except Error Builder}
  {name : String}

/-- A call that changes the builder by an operation comes to what the operation does. -/
theorem performs_of_changing
    (changes : call.task = changing operation)
    (does : ∀ after, operation builder = .ok after → builder.Performs call (.ok none) after) :
    builder.Performs call (builder.outcome call) (builder.perform call) := by
  unfold outcome perform
  rw [changes, run_changing]
  cases ends : operation builder with
  | ok after => exact does after ends
  | error error => exact .refused error

/-- Every call comes to one of these. -/
theorem performs (builder : Builder) (call : Call) :
    builder.Performs call (builder.outcome call) (builder.perform call) := by
  cases call with
  | setName name => exact .named name
  | beginRule name => exact .begun name
  | setParent parent =>
      refine performs_of_changing rfl fun after links => ?_
      cases unset : builder.parent with
      | some other => simp [setParent, unset] at links
      | none =>
          obtain rfl : _ = after := by simpa [setParent, unset] using links
          exact .linked unset rfl rfl
  | define name body =>
      exact performs_of_changing rfl fun after defines =>
        .defined (absent_of_define defines) (installs_of_define defines)
  | override name body =>
      refine performs_of_changing rfl fun after overrides => ?_
      cases found : builder.lookup? name with
      | none => simp [override_of_absent found] at overrides
      | some existing => exact .overridden found (installs_of_override overrides)
  | extend name body =>
      refine performs_of_changing rfl fun after extends_ => ?_
      obtain ⟨existing, found, installs⟩ := installs_of_extend extends_
      exact .extended found installs
  | inline body =>
      obtain ⟨after, runs, installs⟩ := builder.run_inline body
      unfold outcome perform
      rw [runs]
      exact .inlined installs

/-- A super-grammar that is linked stays. -/
theorem Performs.parent
    {outcome : Except Error (Option Expr)}
    {parent : Grammar}
    (performs : builder.Performs call outcome after)
    (linked : builder.parent = some parent) :
    after.parent = some parent := by
  cases performs with
  | refused | named | begun => exact linked
  | linked unset => simp [unset] at linked
  | defined _ installs | overridden _ installs | extended _ installs | inlined installs =>
      rw [installs.parent, linked]

/-- Only the call for it links a super-grammar. -/
theorem Performs.eq_setParent
    {outcome : Except Error (Option Expr)}
    {parent : Grammar}
    (performs : builder.Performs call outcome after)
    (unset : builder.parent = none)
    (linked : after.parent = some parent) :
    call = .setParent parent := by
  cases performs with
  | refused => simp [unset] at linked
  | named | begun => simp [setName, beginRule, unset] at linked
  | linked _ _ set => rw [Option.some.inj (set.symm.trans linked)]
  | defined _ installs | overridden _ installs | extended _ installs | inlined installs =>
      simp [installs.parent, unset] at linked

/-- A name that is local stays local. -/
theorem Performs.isSome_localRule?
    {outcome : Except Error (Option Expr)}
    (performs : builder.Performs call outcome after)
    (known : (builder.localRule? name).isSome) :
    (after.localRule? name).isSome := by
  cases performs with
  | refused | named | begun => exact known
  | linked _ rules =>
      rw [Builder.localRule?, rules]
      exact known
  | defined _ installs | overridden _ installs | extended _ installs | inlined installs =>
      rw [installs.localRule?]
      split
      · rfl
      · exact known

theorem performAll_parent
    {parent : Grammar}
    (linked : builder.parent = some parent)
    (calls : List Call) :
    (builder.performAll calls).parent = some parent := by
  induction calls generalizing builder with
  | nil => exact linked
  | cons call calls inductionHypothesis =>
      exact inductionHypothesis ((builder.performs call).parent linked)

theorem isSome_localRule?_performAll
    (known : (builder.localRule? name).isSome)
    (calls : List Call) :
    ((builder.performAll calls).localRule? name).isSome := by
  induction calls generalizing builder with
  | nil => exact known
  | cons call calls inductionHypothesis =>
      exact inductionHypothesis ((builder.performs call).isSome_localRule? known)

/-- A super-grammar is linked by one of the calls unless it was before. -/
theorem mem_of_performAll_parent
    {parent : Grammar}
    (unset : builder.parent = none)
    (linked : (builder.performAll calls).parent = some parent) :
    .setParent parent ∈ calls := by
  induction calls generalizing builder with
  | nil => simp [performAll, unset] at linked
  | cons call calls inductionHypothesis =>
      cases now : (builder.perform call).parent with
      | none => exact List.mem_cons_of_mem _ (inductionHypothesis now linked)
      | some other =>
          have same : other = parent := by
            simpa using (performAll_parent now calls).symm.trans linked
          rw [← same, (builder.performs call).eq_setParent unset now]
          exact List.mem_cons_self

end Calls

/-! ## Inline rules -/

/-- No grammar of the super-grammar's lineage declares the name of the next inline rule. -/
theorem localRule?_freshName_of_inherited
    {builder : Builder}
    {parent ancestor : Grammar}
    (linked : builder.parent = some parent)
    (inherited : ancestor ∈ parent.lineage) :
    ancestor.localRule? builder.freshName = none := by
  have unknown := builder.lookup?_freshName
  have absent := localRule?_of_lookup? unknown
  simp only [lookup?, absent, linked, Option.bind_some, Option.map_eq_none_iff] at unknown
  by_contra declared
  have found := Grammar.isSome_rule?_iff.mpr
    ⟨ancestor, inherited, Option.isSome_iff_ne_none.mpr declared⟩
  rw [unknown] at found
  cases found

end Builder

open Builder

/-- Whatever is called before it and after it, an inline rule is made, and it is still local in
the grammar that is built. If this grammar has a super-grammar, then either it was linked before
the inline rule was made, and no grammar of its lineage declares a rule of that name, or one of
the calls afterwards has linked it. -/
theorem inline_rules_shadow_nothing_linked_before
    (before after : List Call)
    (body : Expr)
    (serial : Nat) :
    let builder := Builder.empty.performAll before
    let grammar := (builder.performAll (.inline body :: after)).build serial
    ∃ name, builder.outcome (.inline body) = .ok (some (.inline name body)) ∧
      (grammar.localRule? name).isSome ∧
      ∀ parent, grammar.parent = some parent →
        (builder.parent = some parent ∧
          ∀ ancestor ∈ parent.lineage, ancestor.localRule? name = none) ∨
        (builder.parent = none ∧ .setParent parent ∈ after) := by
  intro builder grammar
  obtain ⟨made, runs, installs⟩ := builder.run_inline body
  have next : builder.perform (.inline body) = made := by rw [perform, runs]
  have built : grammar = (made.performAll after).build serial := by
    rw [← next]
    rfl
  refine ⟨builder.freshName, by rw [outcome, runs], ?_, fun parent linked => ?_⟩
  · rw [built]
    have known : (made.localRule? builder.freshName).isSome := by
      rw [installs.localRule?, if_pos rfl]
      rfl
    exact isSome_localRule?_performAll known after
  · rw [built] at linked
    cases known : builder.parent with
    | some other =>
        have kept : (made.performAll after).parent = some other :=
          performAll_parent (installs.parent.trans known) after
        obtain rfl : other = parent := Option.some.inj (kept.symm.trans linked)
        exact .inl ⟨rfl, fun ancestor inherited =>
          localRule?_freshName_of_inherited known inherited⟩
    | none =>
        exact .inr ⟨rfl, mem_of_performAll_parent (installs.parent.trans known) linked⟩

/-- Linked first, a super-grammar keeps its inline rule. -/
theorem linked_first_is_not_shadowed :
    let letter (c : Char) := Expr.prim (.char c)
    let parent := (Builder.empty.performAll
      [.setName "Parent", .beginRule "Expr", .inline (letter 'a')]).build 0
    let builder := Builder.empty.performAll [.setParent parent, .beginRule "Expr"]
    let grammar := (builder.performAll [.inline (letter 'b')]).build 1
    grammar.rule? "Expr-1" = some ⟨"Expr-1", letter 'a'⟩ ∧
    grammar.localRule? "Expr-2" = some ⟨"Expr-2", letter 'b'⟩ ∧
    ∃ name, builder.outcome (.inline (letter 'b')) = .ok (some (.inline name (letter 'b'))) ∧
      (grammar.localRule? name).isSome ∧
      ∀ above, grammar.parent = some above →
        (builder.parent = some above ∧
          ∀ ancestor ∈ above.lineage, ancestor.localRule? name = none) ∨
        (builder.parent = none ∧ .setParent above ∈ ([] : List Call)) := by
  intro letter parent builder grammar
  exact ⟨by decide +kernel, by decide +kernel,
    inline_rules_shadow_nothing_linked_before [.setParent parent, .beginRule "Expr"] []
      (letter 'b') 1⟩

/-- Linked afterwards, a super-grammar has its inline rule shadowed: both have the name that is
free before the link. -/
theorem linked_afterwards_is_shadowed :
    let letter (c : Char) := Expr.prim (.char c)
    let parent := (Builder.empty.performAll
      [.setName "Parent", .beginRule "Expr", .inline (letter 'a')]).build 0
    let builder := Builder.empty.performAll [.beginRule "Expr"]
    let grammar := (builder.performAll [.inline (letter 'b'), .setParent parent]).build 1
    builder.outcome (.inline (letter 'b')) = .ok (some (.inline "Expr-1" (letter 'b'))) ∧
    grammar.parent = some parent ∧
    parent.rule? "Expr-1" = some ⟨"Expr-1", letter 'a'⟩ ∧
    grammar.rule? "Expr-1" = some ⟨"Expr-1", letter 'b'⟩ := by
  intro letter parent builder grammar
  have fresh : builder.freshName = "Expr-1" := by decide +kernel
  obtain ⟨made, runs, -⟩ := builder.run_inline (letter 'b')
  exact ⟨by rw [outcome, runs, fresh], rfl, by decide +kernel, by decide +kernel⟩

end Heirloom
