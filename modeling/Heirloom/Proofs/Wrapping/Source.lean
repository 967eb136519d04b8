import Heirloom.Proofs.Lowering
import Heirloom.Proofs.Placement
import Heirloom.Proofs.Wrapping.Expression

/-!
# Sources with a wrapped alternative

Two sources that differ in positions only, but for one alternative of one rule, which
is written as an inline rule in the second one. What the two rules stand for differs in
that alternative.
-/

namespace Heirloom
namespace Source

open Pattern (outline? outlineAll?)

/-! ## Patterns -/

/-- One alternative of the first pattern is written as an inline rule in the second. -/
inductive Pattern.Wraps : Pattern → Pattern → Prop
  /-- The pattern is the alternative. -/
  | whole {body : Pattern} :
      Wraps body (.inline body)
  /-- The pattern is a choice. -/
  | one {before after : List Pattern} {body : Pattern} :
      Wraps (.alt (before ++ body :: after)) (.alt (before ++ .inline body :: after))

/-- Positions do not matter for the outline. -/
theorem Pattern.outline?_unplaced (pattern : Pattern) :
    outline? pattern.unplaced = outline? pattern := by
  have compiles := lower_goesBy pattern
  have compilesUnplaced := lower_goesBy pattern.unplaced
  rcases (lower_unplaced pattern).cases_run (Eq.refl Builder.empty) with
    ⟨expr, _, _, _, ends, endsToo, rfl, -⟩ | ⟨_, _, _, _, fails, failsToo⟩
  · rw [(compilesUnplaced.of_ok ends).1, (compiles.of_ok endsToo).1]
  · rw [compilesUnplaced.of_error fails, compiles.of_error failsToo]

theorem outline?_eq_of_unplaced
    {rule other : RuleDeclaration}
    (same : other.unplaced = rule.unplaced) :
    outline? other.body = outline? rule.body := by
  rw [← Pattern.outline?_unplaced other.body, ← Pattern.outline?_unplaced rule.body]
  exact congrArg (fun rule => outline? rule.body) same

theorem Pattern.outlineAll?_append_eq (patterns others : List Pattern) :
    outlineAll? (patterns ++ others) =
      (outlineAll? patterns).bind fun items => (outlineAll? others).map (items ++ ·) := by
  induction patterns with
  | nil =>
      rw [List.nil_append, outlineAll?]
      cases outlineAll? others <;> rfl
  | cons pattern patterns inductionHypothesis =>
      rw [List.cons_append, outlineAll?, inductionHypothesis, outlineAll?]
      cases outline? pattern <;> cases outlineAll? patterns <;> cases outlineAll? others <;> rfl

/-- The outlines differ in one alternative, or there are none. -/
theorem Pattern.Wraps.outlines
    {pattern wrapped : Pattern}
    (wraps : pattern.Wraps wrapped) :
    Option.Rel (fun drawn other => ∃ alternative, Expr.Wraps "" alternative drawn other)
      (outline? pattern) (outline? wrapped) := by
  cases wraps with
  | whole =>
      simp only [outline?]
      cases outline? pattern with
      | none => exact .none
      | some drawn => exact .some ⟨drawn, .here⟩
  | @one before after body =>
      simp only [outline?, outlineAll?, outlineAll?_append_eq]
      cases outlineAll? before <;> cases outline? body <;> cases outlineAll? after
      all_goals first
        | exact .none
        | exact .some ⟨_, .choice "" _ _ _⟩

/-! ## Declarations -/

/-- One alternative of the first rule is written as an inline rule in the second. -/
structure RuleDeclaration.Wraps (rule wrapped : RuleDeclaration) : Prop where
  name : wrapped.name = rule.name
  operator : wrapped.operator = rule.operator
  body : rule.body.unplaced.Wraps wrapped.body.unplaced

/-- The rules differ in positions only, but for one rule of that name, of which an
alternative is written as an inline rule. After it come the later rules. -/
inductive RulesWrap (outer : String) (later : List RuleDeclaration) :
    List RuleDeclaration → List RuleDeclaration → Prop
  | here {rule wrapped : RuleDeclaration} {others : List RuleDeclaration}
      (named : rule.name = outer)
      (wraps : rule.Wraps wrapped)
      (same : others.map RuleDeclaration.unplaced = later.map RuleDeclaration.unplaced) :
      RulesWrap outer later (rule :: later) (wrapped :: others)
  | there {rule other : RuleDeclaration} {rules others : List RuleDeclaration}
      (same : other.unplaced = rule.unplaced)
      (wraps : RulesWrap outer later rules others) :
      RulesWrap outer later (rule :: rules) (other :: others)

theorem RulesWrap.exists_mem
    {outer : String}
    {later rules others : List RuleDeclaration}
    (wraps : RulesWrap outer later rules others) :
    ∃ rule ∈ rules, rule.name = outer := by
  induction wraps with
  | here named => exact ⟨_, List.mem_cons_self .., named⟩
  | there _ _ inductionHypothesis =>
      obtain ⟨rule, mem, named⟩ := inductionHypothesis
      exact ⟨rule, List.mem_cons_of_mem _ mem, named⟩

/-- The declarations differ in positions only, but for one rule. -/
structure Declaration.Wraps
    (outer : String)
    (later : List RuleDeclaration)
    (declaration wrapped : Declaration) : Prop where
  name : wrapped.name = declaration.name
  inherits : wrapped.inherits = declaration.inherits
  rules : RulesWrap outer later declaration.rules wrapped.rules

/-- The sources differ in positions only, but for one rule. -/
inductive DeclarationsWrap (outer : String) (later : List RuleDeclaration) :
    List Declaration → List Declaration → Prop
  | here {declaration wrapped : Declaration} {declarations others : List Declaration}
      (wraps : declaration.Wraps outer later wrapped)
      (same : others.map Declaration.unplaced = declarations.map Declaration.unplaced) :
      DeclarationsWrap outer later (declaration :: declarations) (wrapped :: others)
  | there {declaration other : Declaration} {declarations others : List Declaration}
      (same : other.unplaced = declaration.unplaced)
      (wraps : DeclarationsWrap outer later declarations others) :
      DeclarationsWrap outer later (declaration :: declarations) (other :: others)

/-- The rule with the wrapped alternative is one of a declaration. -/
theorem DeclarationsWrap.exists_mem
    {outer : String}
    {later : List RuleDeclaration}
    {declarations others : List Declaration}
    (wraps : DeclarationsWrap outer later declarations others) :
    ∃ declaration ∈ declarations, ∃ rule ∈ declaration.rules, rule.name = outer := by
  induction wraps with
  | here wraps => exact ⟨_, List.mem_cons_self .., wraps.rules.exists_mem⟩
  | there _ _ inductionHypothesis =>
      obtain ⟨declaration, mem, inside⟩ := inductionHypothesis
      exact ⟨declaration, List.mem_cons_of_mem _ mem, inside⟩

end Source
end Heirloom
