import Heirloom.Proofs.Settling
import Heirloom.Proofs.Wrapping.Source

/-!
# Assembling with a wrapped alternative

A declaration in which an alternative is wrapped is assembled if and only if the
declaration without it is. Under each declared name both find bodies that correspond:
they differ in the names of inline rules only, or in the wrapped alternative too.
-/

namespace Heirloom

open Source.Pattern (outline?)

/-- Two bodies of one rule differ in the names of inline rules only, or in one
alternative of the outer rule too, which is left to an inline rule in the second. -/
def Corresponds (outer rule : String) (body other : Expr) : Prop :=
  other.anonymous = body.anonymous ∨ rule = outer ∧ ∃ inner, body.WrapsOne inner other

/-- What is found under names without a hyphen corresponds. -/
def FindAlike (outer : String) (find otherFind : String → Option Expr) : Prop :=
  ∀ name, '-' ∉ name.toList → Option.Rel (Corresponds outer name) (find name) (otherFind name)

section Bodies

variable
  {outer rule : String}
  {body other added otherAdded : Expr}
  {find otherFind : String → Option Expr}

theorem Corresponds.calls_eq
    (corresponds : Corresponds outer rule body other) :
    other.calls = body.calls := by
  rcases corresponds with same | ⟨-, inner, wraps⟩
  · exact Expr.calls_eq_of_anonymous same
  · exact wraps.calls_eq

/-- One more alternative on both sides. -/
theorem Corresponds.alt
    (corresponds : Corresponds outer rule body other)
    (same : otherAdded.anonymous = added.anonymous) :
    Corresponds outer rule (.alt body added) (.alt other otherAdded) := by
  rcases corresponds with sameBody | ⟨isOuter, inner, alternative, unwrapped, wraps, sameBody⟩
  · exact .inl (congrArg₂ Expr.alt sameBody same)
  · exact .inr ⟨isOuter, inner, alternative, .alt unwrapped otherAdded, wraps.left,
      congrArg₂ Expr.alt sameBody same⟩

/-- The wrapped alternative is the last one. -/
theorem Corresponds.of_wraps
    {inner : String}
    (wraps : added.WrapsOne inner otherAdded)
    (body : Expr) :
    Corresponds outer outer (.alt body added) (.alt body otherAdded) := by
  obtain ⟨alternative, unwrapped, wraps, same⟩ := wraps
  exact .inr ⟨rfl, inner, alternative, .alt body unwrapped, wraps.right,
    congrArg (Expr.alt body.anonymous) same⟩

theorem FindAlike.refl (outer : String) (find : String → Option Expr) :
    FindAlike outer find find := by
  intro name _
  cases find name with
  | none => exact .none
  | some body => exact .some (.inl rfl)

theorem FindAlike.cases
    {name : String}
    (alike : FindAlike outer find otherFind)
    (plain : '-' ∉ name.toList) :
    find name = none ∧ otherFind name = none ∨
      ∃ body other, find name = some body ∧ otherFind name = some other ∧
        Corresponds outer name body other := by
  have found := alike name plain
  generalize find name = known at found ⊢
  generalize otherFind name = otherKnown at found ⊢
  cases found with
  | none => exact .inl ⟨rfl, rfl⟩
  | some corresponds => exact .inr ⟨_, _, rfl, rfl, corresponds⟩

theorem FindAlike.isSome
    {name : String}
    (alike : FindAlike outer find otherFind)
    (plain : '-' ∉ name.toList) :
    (otherFind name).isSome = (find name).isSome := by
  rcases alike.cases plain with ⟨absent, otherAbsent⟩ | ⟨_, _, found, otherFound, -⟩
  · rw [absent, otherAbsent]
  · rw [found, otherFound]
    rfl

end Bodies

/-! ## Builders -/

namespace Builder

variable
  {outer name : String}
  {names otherNames : List String}
  {body otherBody : Expr}
  {builder other after otherAfter : Builder}

/-- Two builders have rules under the same declared names, and find bodies that
correspond. -/
structure Alike (outer : String) (builder other : Builder) : Prop where
  finds : FindAlike outer builder.lookup? other.lookup?
  locals : ∀ name, '-' ∉ name.toList →
    (other.localRule? name).isSome = (builder.localRule? name).isSome

namespace Alike

theorem refl (outer : String) (builder : Builder) : builder.Alike outer builder :=
  ⟨.refl outer builder.lookup?, fun _ _ => rfl⟩

theorem begin
    (alike : builder.Alike outer other)
    (name : String) :
    (builder.beginRule name).Alike outer (other.beginRule name) :=
  ⟨alike.finds, alike.locals⟩

/-- Inline rules may be added on both sides. -/
theorem adds
    (alike : builder.Alike outer other)
    (adds : builder.Adds names after)
    (otherAdds : other.Adds otherNames otherAfter) :
    after.Alike outer otherAfter where
  finds name plain := by
    rw [adds.lookup? plain, otherAdds.lookup? plain]
    exact alike.finds name plain
  locals name plain := by
    rw [adds.localRule? plain, otherAdds.localRule? plain]
    exact alike.locals name plain

/-- Bodies that correspond may be installed under one name. -/
theorem installs
    (alike : builder.Alike outer other)
    (installs : builder.Installs name body after)
    (otherInstalls : other.Installs name otherBody otherAfter)
    (corresponds : Corresponds outer name body otherBody) :
    after.Alike outer otherAfter where
  finds key plain := by
    rw [installs.lookup?, otherInstalls.lookup?]
    by_cases same : key = name
    · subst same
      rw [Function.update_self, Function.update_self]
      exact .some corresponds
    · rw [Function.update_of_ne same, Function.update_of_ne same]
      exact alike.finds key plain
  locals key plain := by
    rw [installs.localRule?, otherInstalls.localRule?]
    split
    · rfl
    · exact alike.locals key plain

/-! ### Calls -/

theorem define
    (alike : builder.Alike outer other)
    (plain : '-' ∉ name.toList)
    (corresponds : Corresponds outer name body otherBody) :
    EndAlike (Alike outer) Eq
      ((BuilderM.change fun builder => builder.define name body).run.run builder)
      ((BuilderM.change fun builder => builder.define name otherBody).run.run other) := by
  have locals := alike.locals name plain
  rw [BuilderM.run_change, BuilderM.run_change]
  cases known : builder.localRule? name <;> cases otherKnown : other.localRule? name <;>
    rw [known, otherKnown] at locals
  case none.none =>
    obtain ⟨after, changes, installs⟩ := define_of_absent known body
    obtain ⟨otherAfter, otherChanges, otherInstalls⟩ := define_of_absent otherKnown otherBody
    rw [changes, otherChanges]
    exact .succeed rfl (alike.installs installs otherInstalls corresponds)
  case some.some =>
    rw [define_of_local known, define_of_local otherKnown]
    exact .fail
  all_goals cases locals

theorem override
    (alike : builder.Alike outer other)
    (plain : '-' ∉ name.toList)
    (corresponds : Corresponds outer name body otherBody) :
    EndAlike (Alike outer) Eq
      ((BuilderM.change fun builder => builder.override name body).run.run builder)
      ((BuilderM.change fun builder => builder.override name otherBody).run.run other) := by
  rw [BuilderM.run_change, BuilderM.run_change]
  rcases alike.finds.cases plain with ⟨absent, otherAbsent⟩ | ⟨_, _, found, otherFound, -⟩
  · rw [override_of_absent absent, override_of_absent otherAbsent]
    exact .fail
  · obtain ⟨after, changes, installs⟩ := override_of_found found body
    obtain ⟨otherAfter, otherChanges, otherInstalls⟩ := override_of_found otherFound otherBody
    rw [changes, otherChanges]
    exact .succeed rfl (alike.installs installs otherInstalls corresponds)

theorem extend
    (alike : builder.Alike outer other)
    (plain : '-' ∉ name.toList)
    (corresponds : ∀ existing otherExisting, builder.lookup? name = some existing →
      other.lookup? name = some otherExisting →
        Corresponds outer name (.alt existing body) (.alt otherExisting otherBody)) :
    EndAlike (Alike outer) Eq
      ((BuilderM.change fun builder => builder.extend name body).run.run builder)
      ((BuilderM.change fun builder => builder.extend name otherBody).run.run other) := by
  rw [BuilderM.run_change, BuilderM.run_change]
  rcases alike.finds.cases plain with ⟨absent, otherAbsent⟩ | ⟨_, _, found, otherFound, -⟩
  · rw [extend_of_absent absent, extend_of_absent otherAbsent]
    exact .fail
  · obtain ⟨after, changes, installs⟩ := extend_of_found found body
    obtain ⟨otherAfter, otherChanges, otherInstalls⟩ := extend_of_found otherFound otherBody
    rw [changes, otherChanges]
    exact .succeed rfl
      (alike.installs installs otherInstalls (corresponds _ _ found otherFound))

end Alike
end Builder

/-! ## Rules -/

section Rules

variable
  {outer : String}
  {builder other : Builder}
  {rule otherRule : Source.RuleDeclaration}

/-- Bodies correspond, and so they do as one more alternative of what has been found. -/
def GoOnAlike
    (outer name : String)
    (builder other : Builder)
    (body otherBody : Expr) : Prop :=
  Corresponds outer name body otherBody ∧
    ∀ existing otherExisting, builder.lookup? name = some existing →
      other.lookup? name = some otherExisting →
        Corresponds outer name (.alt existing body) (.alt otherExisting otherBody)

/-- A rule is installed on both sides or on none, if its bodies correspond. -/
theorem installRule_alike
    (named : otherRule.name = rule.name)
    (operates : otherRule.operator = rule.operator)
    (plain : '-' ∉ rule.name.toList)
    (outlines : Option.Rel
      (fun drawn otherDrawn => ∀ body otherBody, Expr.anonymous body = drawn →
        Expr.anonymous otherBody = otherDrawn →
          GoOnAlike outer rule.name builder other body otherBody)
      (outline? rule.body) (outline? otherRule.body))
    (alike : builder.Alike outer other) :
    EndAlike (Builder.Alike outer) Eq ((installRule rule).run.run builder)
      ((installRule otherRule).run.run other) := by
  have compiles : EndAlike
      (fun middle otherMiddle => middle.Alike outer otherMiddle ∧
        middle.lookup? rule.name = builder.lookup? rule.name ∧
          otherMiddle.lookup? rule.name = other.lookup? rule.name)
      (GoOnAlike outer rule.name builder other)
      ((lower rule.body).run.run (builder.beginRule rule.name))
      ((lower otherRule.body).run.run (other.beginRule rule.name)) := by
    have lowers := lower_goesBy rule.body (builder.beginRule rule.name)
    have otherLowers := lower_goesBy otherRule.body (other.beginRule rule.name)
    generalize outline? rule.body = outline at outlines lowers
    generalize outline? otherRule.body = otherOutline at outlines otherLowers
    cases outlines with
    | none =>
        obtain ⟨_, _, fails⟩ := lowers
        obtain ⟨_, _, otherFails⟩ := otherLowers
        rw [fails, otherFails]
        exact .fail
    | some correspond =>
        obtain ⟨body, middle, ends, drawn, adds⟩ := lowers
        obtain ⟨otherBody, otherMiddle, otherEnds, otherDrawn, otherAdds⟩ := otherLowers
        rw [ends, otherEnds]
        exact .succeed (correspond body otherBody drawn otherDrawn)
          ⟨(alike.begin rule.name).adds adds otherAdds, adds.lookup? plain,
            otherAdds.lookup? plain⟩
  unfold installRule
  rw [named, operates]
  refine EndAlike.bind (.succeed rfl ⟨rfl, rfl⟩ : EndAlike
    (fun middle otherMiddle => middle = builder.beginRule rule.name ∧
      otherMiddle = other.beginRule rule.name) Eq _ _) ?_
  rintro _ _ _ _ - ⟨rfl, rfl⟩
  refine compiles.bind fun body otherBody middle otherMiddle goesOn still => ?_
  obtain ⟨corresponds, extended⟩ := goesOn
  obtain ⟨stillAlike, same, otherSame⟩ := still
  cases rule.operator with
  | define => exact stillAlike.define plain corresponds
  | override => exact stillAlike.override plain corresponds
  | extend =>
      refine stillAlike.extend plain ?_
      rw [same, otherSame]
      exact extended

/-- A rule that differs in positions only is installed on both sides or on none. -/
theorem installRule_unplaced_alike
    (same : otherRule.unplaced = rule.unplaced)
    (plain : '-' ∉ rule.name.toList)
    (alike : builder.Alike outer other) :
    EndAlike (Builder.Alike outer) Eq ((installRule rule).run.run builder)
      ((installRule otherRule).run.run other) := by
  obtain ⟨named, -, operates, -⟩ := Source.RuleDeclaration.mk.inj same
  refine installRule_alike named operates plain ?_ alike
  rw [Source.outline?_eq_of_unplaced same]
  cases outline? rule.body with
  | none => exact .none
  | some drawn =>
      refine .some ?_
      rintro body otherBody rfl same
      refine ⟨.inl same, fun existing otherExisting found otherFound => ?_⟩
      have corresponds := alike.finds rule.name plain
      rw [found, otherFound] at corresponds
      cases corresponds with
      | some corresponds => exact corresponds.alt same

/-- A rule with a wrapped alternative is installed if and only if the rule without it is. -/
theorem installRule_wraps
    (wraps : rule.Wraps otherRule)
    (plain : '-' ∉ rule.name.toList)
    (builder : Builder) :
    EndAlike (Builder.Alike rule.name) Eq ((installRule rule).run.run builder)
      ((installRule otherRule).run.run builder) := by
  refine installRule_alike wraps.name wraps.operator plain ?_ (.refl rule.name builder)
  have outlines := wraps.body.outlines
  rw [Source.Pattern.outline?_unplaced, Source.Pattern.outline?_unplaced] at outlines
  generalize outline? rule.body = outline at outlines ⊢
  generalize outline? otherRule.body = otherOutline at outlines ⊢
  cases outlines with
  | none => exact .none
  | some wraps =>
      refine .some ?_
      rintro body otherBody rfl same
      obtain ⟨_, wraps⟩ := wraps
      obtain ⟨inner, alternative, unwrapped, wraps, sameBody⟩ := wraps.exists_of_anonymous same
      have wrapsOne : body.WrapsOne inner otherBody := ⟨alternative, unwrapped, wraps, sameBody⟩
      refine ⟨.inr ⟨rfl, inner, wrapsOne⟩, fun existing otherExisting found otherFound => ?_⟩
      cases found.symm.trans otherFound
      exact .of_wraps wrapsOne existing

variable {rules others later : List Source.RuleDeclaration}

/-- Rules that differ in positions only are installed on both sides or on none. -/
theorem installRules_unplaced_alike
    (plain : ∀ rule ∈ rules, '-' ∉ rule.name.toList)
    (same :
      others.map Source.RuleDeclaration.unplaced = rules.map Source.RuleDeclaration.unplaced)
    (alike : builder.Alike outer other) :
    EndAlike (Builder.Alike outer) Eq ((installRules rules).run.run builder)
      ((installRules others).run.run other) := by
  induction rules generalizing others builder other with
  | nil =>
      cases List.map_eq_nil_iff.mp same
      exact .succeed rfl alike
  | cons rule rules inductionHypothesis =>
      obtain ⟨otherRule, others, rfl, sameRule, same⟩ := List.map_eq_cons_iff.mp same
      obtain ⟨plainRule, plain⟩ := List.forall_mem_cons.mp plain
      exact (installRule_unplaced_alike sameRule plainRule alike).bind
        fun _ _ _ _ _ stillAlike => inductionHypothesis plain same stillAlike

/-- Rules one of which has a wrapped alternative are installed if and only if those
without it are. -/
theorem installRules_wrap
    (wraps : Source.RulesWrap outer later rules others)
    (plain : ∀ rule ∈ rules, '-' ∉ rule.name.toList)
    (builder : Builder) :
    EndAlike (Builder.Alike outer) Eq ((installRules rules).run.run builder)
      ((installRules others).run.run builder) := by
  induction wraps generalizing builder with
  | here named wraps same =>
      obtain ⟨plainRule, plain⟩ := List.forall_mem_cons.mp plain
      exact (named ▸ installRule_wraps wraps plainRule builder).bind
        fun _ _ _ _ _ alike => installRules_unplaced_alike plain same alike
  | @there rule otherRule _ _ same _ inductionHypothesis =>
      obtain ⟨-, plain⟩ := List.forall_mem_cons.mp plain
      have goes : GoAlike Eq Eq (installRule rule) (installRule otherRule) := by
        refine (installRule_unplaced rule).symm.trans ?_
        rw [← same]
        exact installRule_unplaced otherRule
      refine (goes builder builder rfl).bind ?_
      rintro _ _ middle _ - rfl
      exact inductionHypothesis plain middle

end Rules

/-! ## Declarations -/

section Declarations

variable
  {outer : String}
  {later : List Source.RuleDeclaration}
  {parent otherParent : Grammar}
  {declaration other : Source.Declaration}

/-- Over super-grammars that find bodies that correspond so do builders without rules. -/
theorem Builder.Alike.over
    (inherited : FindAlike outer parent.lookup? otherParent.lookup?)
    (name otherName : String) :
    (Builder.over name parent).Alike outer (.over otherName otherParent) :=
  ⟨inherited, fun _ _ => rfl⟩

/-- Declarations that differ in positions only are assembled alike over super-grammars
that find bodies that correspond. -/
theorem assemble_unplaced_alike
    (plain : ∀ rule ∈ declaration.rules, '-' ∉ rule.name.toList)
    (same : other.unplaced = declaration.unplaced)
    (inherited : FindAlike outer parent.lookup? otherParent.lookup?) :
    EndAlike (Builder.Alike outer) Eq ((assemble parent declaration).run.run Builder.empty)
      ((assemble otherParent other).run.run Builder.empty) := by
  obtain ⟨-, -, sameRules⟩ := Source.Declaration.mk.inj same
  rw [run_assemble, run_assemble]
  exact installRules_unplaced_alike plain sameRules (.over inherited _ _)

/-- A declaration with a wrapped alternative is assembled if and only if the one without
it is. -/
theorem assemble_wraps
    (wraps : declaration.Wraps outer later other)
    (plain : ∀ rule ∈ declaration.rules, '-' ∉ rule.name.toList)
    (parent : Grammar) :
    EndAlike (Builder.Alike outer) Eq ((assemble parent declaration).run.run Builder.empty)
      ((assemble parent other).run.run Builder.empty) := by
  rw [run_assemble, run_assemble, wraps.name]
  exact installRules_wrap wraps.rules plain _

end Declarations
end Heirloom
