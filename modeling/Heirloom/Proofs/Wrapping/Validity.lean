import Heirloom.Proofs.Linking
import Heirloom.Proofs.Wrapping.Assembly

/-!
# Validation with a wrapped alternative

Wrapping an alternative adds an inline rule, which calls what the alternative calls. The
rule around it calls that too, unless it is overridden later in the same declaration.
So both grammars pass their validation or neither does.
-/

namespace Heirloom

open Source.Pattern (outline?)

/-! ## What is called -/

section Calls

variable
  {outer : String}
  {builder other : Builder}
  {drawn otherDrawn : List Expr}
  {extra : List String}

/-- The calls of the rule that has been installed under a declared name. -/
theorem Builder.Alike.localCalls
    (alike : builder.Alike outer other)
    {name : String}
    (plain : '-' ∉ name.toList) :
    (other.localRule? name).map (fun rule => rule.body.calls) =
      (builder.localRule? name).map fun rule => rule.body.calls := by
  have locals := alike.locals name plain
  have finds := alike.finds name plain
  unfold Builder.lookup? at finds
  cases known : builder.localRule? name <;> cases otherKnown : other.localRule? name <;>
    rw [known, otherKnown] at locals finds
  case some.some =>
    cases finds with
    | some corresponds => exact congrArg some corresponds.calls_eq
  all_goals cases locals

/-- What declared rules call is what is called under declared names. -/
theorem exists_declared_iff
    {find : String → Option Expr}
    {name : String}
    (settled : SettledRules find builder.rules) :
    (∃ rule ∈ declared builder.rules, name ∈ rule.body.calls) ↔
      ∃ key, '-' ∉ key.toList ∧ ∃ calls,
        (builder.localRule? key).map (fun rule => rule.body.calls) = some calls ∧
          name ∈ calls := by
  constructor
  · rintro ⟨rule, mem, called⟩
    have plain := (settled.names rule mem).no_hyphen
    have found := find?_of_mem settled.distinct mem
    rw [find?_declared plain] at found
    refine ⟨rule.name, plain, _, ?_, called⟩
    rw [Builder.localRule?, found]
    rfl
  · rintro ⟨key, plain, calls, found, called⟩
    obtain ⟨rule, known, rfl⟩ := Option.map_eq_some_iff.mp found
    rw [Builder.localRule?, ← find?_declared plain] at known
    exact ⟨rule, List.mem_of_find?_eq_some known, called⟩

/-- The second expressions call what the first ones call in inline rules, and more. -/
def CallMore (extra : List String) (drawn otherDrawn : List Expr) : Prop :=
  ∀ name, (∃ expr ∈ otherDrawn, name ∈ expr.inlineCalls) ↔
    name ∈ extra ∨ ∃ expr ∈ drawn, name ∈ expr.inlineCalls

theorem CallMore.refl (drawn : List Expr) : CallMore [] drawn drawn := by
  simp [CallMore]

theorem CallMore.cons
    (more : CallMore extra drawn otherDrawn)
    (expr : Expr) :
    CallMore extra (expr :: drawn) (expr :: otherDrawn) := by
  intro name
  simp only [List.exists_mem_cons_iff, more name]
  exact or_left_comm

/-- Wrapping an alternative adds what it calls. -/
theorem CallMore.wraps
    {alternative expr wrapped : Expr}
    (wraps : Expr.Wraps "" alternative expr wrapped)
    (drawn : List Expr) :
    CallMore alternative.calls (expr :: drawn) (wrapped :: drawn) := by
  intro name
  have here : name ∈ wrapped.inlineCalls ↔ name ∈ alternative.calls ∨ name ∈ expr.inlineCalls := by
    simp only [Expr.inlineCalls, List.mem_flatMap, wraps.inlines_perm.mem_iff,
      List.exists_mem_cons_iff]
  simp only [List.exists_mem_cons_iff, here, or_assoc]

/-- Grammars that correspond pass their validation or neither does, if what is called
besides is called by a declared rule too. -/
theorem Builder.Alike.validate_iff
    {serial otherSerial : Nat}
    (alike : builder.Alike outer other)
    (settled : (builder.build serial).Settled)
    (otherSettled : (other.build otherSerial).Settled)
    (links : builder.Links drawn)
    (otherLinks : other.Links otherDrawn)
    (plain : ∀ expr ∈ drawn, ∀ name ∈ expr.inlineCalls, '-' ∉ name.toList)
    (more : CallMore extra drawn otherDrawn)
    (supported : ∀ name ∈ extra, ∃ rule ∈ declared builder.rules, name ∈ rule.body.calls) :
    (builder.build serial).validate.2 = none ↔ (other.build otherSerial).validate.2 = none := by
  have sameDeclared : ∀ name,
      (∃ rule ∈ declared other.rules, name ∈ rule.body.calls) ↔
        ∃ rule ∈ declared builder.rules, name ∈ rule.body.calls := by
    intro name
    rw [exists_declared_iff settled.rules, exists_declared_iff otherSettled.rules]
    refine exists_congr fun key => and_congr_right fun plain => ?_
    rw [alike.localCalls plain]
  have sameCalls : ∀ name, other.Calls otherDrawn name ↔ builder.Calls drawn name := by
    intro name
    rw [Builder.Calls, Builder.Calls, sameDeclared, more, ← or_assoc]
    exact or_congr_left (or_iff_left_of_imp (supported name))
  have noHyphen : ∀ name, builder.Calls drawn name → '-' ∉ name.toList := by
    rintro name (⟨rule, mem, called⟩ | ⟨expr, mem, called⟩)
    · have outlined := (settled.body mem).outlined
      exact outlined.no_hyphen name ((Expr.calls_rename _ rule.body).symm ▸ called)
    · exact plain expr mem name called
  rw [links.validate_eq_none_iff settled, otherLinks.validate_eq_none_iff otherSettled]
  refine forall_congr' fun name => ?_
  rw [sameCalls]
  refine forall_congr' fun called => ?_
  rw [alike.finds.isSome (noHyphen name called)]

end Calls

/-! ## The rule around the alternative -/

section Support

variable
  {outer : String}
  {builder after : Builder}
  {rule wrapped : Source.RuleDeclaration}
  {rules others later : List Source.RuleDeclaration}
  {installed : Rule}

/-- A rule calls what its pattern calls once it is installed. -/
theorem calls_of_installRule
    (ends : (installRule rule).run.run builder = (.ok (), after)) :
    ∃ drawn installed, outline? rule.body = some drawn ∧
      after.localRule? rule.name = some installed ∧ drawn.calls ⊆ installed.body.calls := by
  obtain ⟨body, middle, lowers, obeys⟩ := installRule_cases ends
  obtain ⟨outlines, -⟩ := (lower_goesBy rule.body).of_ok lowers
  have sameCalls : body.anonymous.calls = body.calls := Expr.calls_rename _ body
  generalize rule.operator = operator at obeys
  cases obeys with
  | define _ installs | override installs =>
      refine ⟨_, ⟨rule.name, body⟩, outlines, ?_, sameCalls ▸ List.Subset.refl _⟩
      rw [installs.localRule?, if_pos rfl]
  | @extend existing _ installs =>
      refine ⟨_, ⟨rule.name, .alt existing body⟩, outlines, ?_,
        sameCalls ▸ List.subset_append_right _ _⟩
      rw [installs.localRule?, if_pos rfl]

/-- A rule goes on to call what it calls until it is overridden. -/
theorem calls_kept_by_installRule
    (plain : '-' ∉ outer.toList)
    (stays : rule.name = outer → rule.operator ≠ .override)
    (found : builder.localRule? outer = some installed)
    (ends : (installRule rule).run.run builder = (.ok (), after)) :
    ∃ still, after.localRule? outer = some still ∧ installed.body.calls ⊆ still.body.calls := by
  obtain ⟨body, middle, lowers, obeys⟩ := installRule_cases ends
  have adds := ((lower_goesBy rule.body).of_ok lowers).2
  have known : middle.localRule? outer = some installed := (adds.localRule? plain).trans found
  by_cases same : rule.name = outer
  · have notOverridden := stays same
    generalize rule.operator = operator at obeys notOverridden
    cases obeys with
    | define absent => cases (same ▸ absent).symm.trans known
    | override => contradiction
    | @extend existing isExisting installs =>
        refine ⟨⟨rule.name, .alt existing body⟩, by rw [installs.localRule?, if_pos same], ?_⟩
        rw [Builder.lookup?, same, known] at isExisting
        cases isExisting
        exact List.subset_append_left _ _
  · refine ⟨installed, ?_, List.Subset.refl _⟩
    generalize rule.operator = operator at obeys
    cases obeys with
    | define _ installs | override installs | extend _ installs =>
        rw [installs.localRule?, if_neg same, known]

theorem calls_kept_by_installRules
    (plain : '-' ∉ outer.toList)
    (stays : ∀ rule ∈ rules, rule.name = outer → rule.operator ≠ .override)
    (found : builder.localRule? outer = some installed)
    (ends : (installRules rules).run.run builder = (.ok (), after)) :
    ∃ still, after.localRule? outer = some still ∧ installed.body.calls ⊆ still.body.calls := by
  induction rules generalizing builder installed with
  | nil =>
      cases ends
      exact ⟨installed, found, List.Subset.refl _⟩
  | cons rule rules inductionHypothesis =>
      obtain ⟨⟨⟩, middle, installs, installsOthers⟩ := run_bind_eq_ok_iff.mp ends
      obtain ⟨staysFirst, stays⟩ := List.forall_mem_cons.mp stays
      obtain ⟨between, foundBetween, calls⟩ :=
        calls_kept_by_installRule plain staysFirst found installs
      obtain ⟨still, foundStill, callsStill⟩ :=
        inductionHypothesis stays foundBetween installsOthers
      exact ⟨still, foundStill, List.Subset.trans calls callsStill⟩

/-- Positions do not matter for outlines. -/
theorem outlines_unplaced (rules : List Source.RuleDeclaration) :
    outlines (rules.map Source.RuleDeclaration.unplaced) = outlines rules := by
  rw [outlines, List.filterMap_map]
  exact List.filterMap_congr fun rule _ => Source.Pattern.outline?_unplaced rule.body

theorem outlines_eq_of_unplaced
    (same :
      others.map Source.RuleDeclaration.unplaced = rules.map Source.RuleDeclaration.unplaced) :
    outlines others = outlines rules := by
  rw [← outlines_unplaced, same, outlines_unplaced]

/-- What the wrapped alternative calls is still called by the rule around it, unless that
is overridden later. -/
theorem exists_callMore
    (wraps : Source.RulesWrap outer later rules others)
    (plain : '-' ∉ outer.toList)
    (stays : ∀ rule ∈ later, rule.name = outer → rule.operator ≠ .override)
    (ends : (installRules rules).run.run builder = (.ok (), after)) :
    ∃ extra still, CallMore extra (outlines rules) (outlines others) ∧
      after.localRule? outer = some still ∧ extra ⊆ still.body.calls := by
  induction wraps generalizing builder with
  | here named wraps same =>
      obtain ⟨⟨⟩, middle, installs, installsOthers⟩ := run_bind_eq_ok_iff.mp ends
      obtain ⟨drawn, installed, isDrawn, found, calls⟩ := calls_of_installRule installs
      obtain ⟨still, foundStill, callsStill⟩ :=
        calls_kept_by_installRules plain stays (named ▸ found) installsOthers
      have both := wraps.body.outlines
      rw [Source.Pattern.outline?_unplaced, Source.Pattern.outline?_unplaced, isDrawn] at both
      generalize isWrapped : outline? _ = otherOutline at both
      cases both with
      | some wraps =>
          obtain ⟨alternative, wraps⟩ := wraps
          refine ⟨alternative.calls, still, ?_, foundStill,
            List.Subset.trans (List.Subset.trans wraps.calls_subset calls) callsStill⟩
          rw [outlines_cons isDrawn, outlines_cons isWrapped, outlines_eq_of_unplaced same]
          exact .wraps wraps _
  | @there rule other _ _ same _ inductionHypothesis =>
      obtain ⟨⟨⟩, middle, installs, installsOthers⟩ := run_bind_eq_ok_iff.mp ends
      obtain ⟨drawn, -, isDrawn, -⟩ := calls_of_installRule installs
      obtain ⟨extra, still, more, found, calls⟩ := inductionHypothesis installsOthers
      refine ⟨extra, still, ?_, found, calls⟩
      rw [outlines_cons isDrawn,
        outlines_cons ((Source.outline?_eq_of_unplaced same).trans isDrawn)]
      exact more.cons drawn

end Support
end Heirloom
