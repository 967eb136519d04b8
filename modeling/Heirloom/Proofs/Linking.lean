import Heirloom.Proofs.Calls
import Heirloom.Proofs.Settling

/-!
# Validation and source

A grammar that is assembled from a declaration passes its validation if and only if
everything is found that its declared rules call and that the inline patterns of the
declaration call. Inline patterns count wherever they are written: the rules that they
become stay in the grammar, even if the rule around them is overridden.
-/

namespace Heirloom

open Source.Pattern (outline?)

namespace Expr

/-- The names of the rules that inline expressions call. -/
def inlineCalls (expr : Expr) : List String :=
  expr.inlines.flatMap fun inline => inline.2.calls

theorem inlineCalls_rename (names : String → String) (expr : Expr) :
    (expr.rename names).inlineCalls = expr.inlineCalls := by
  rw [inlineCalls, inlines_rename, List.flatMap_map]
  exact List.flatMap_congr fun inline _ => calls_rename names inline.2

theorem inlineCalls_subset (expr : Expr) : expr.inlineCalls ⊆ expr.calls := by
  intro name mem
  obtain ⟨inline, isInline, called⟩ := List.mem_flatMap.mp mem
  exact (parts_of_mem_inlines isInline).1 called

end Expr

/-! ## Inline rules and outlines -/

namespace Builder

variable
  {parent : Grammar}
  {builder after : Builder}
  {drawn : List Expr}
  {name : String}
  {body expr : Expr}
  {rule other : Rule}

/-- Installing a declared rule leaves the inline rules as they are. -/
theorem mem_installIn_of_isInline
    {rules : List Rule}
    (isInline : rule.isInline)
    (isDeclared : other.isInline = false) :
    rule ∈ installIn other rules ↔ rule ∈ rules := by
  have different : ∀ {same : Rule}, same.name = other.name → rule ≠ same := by
    rintro same named rfl
    rw [Rule.isInline, named] at isInline
    exact absurd isInline (Bool.eq_false_iff.mp isDeclared)
  induction rules with
  | nil => simp [installIn, different rfl]
  | cons head rules inductionHypothesis =>
      unfold installIn
      split
      · next named => simp [different rfl, different (eq_of_beq named)]
      · rw [List.mem_cons, List.mem_cons]
        exact or_congr_right inductionHypothesis

/-- What is found anew over the same super-grammar is a rule of the builder. -/
theorem localRule?_of_new
    (same : after.parent = builder.parent)
    (absent : builder.lookup? name = none)
    (found : after.lookup? name = some body) :
    after.localRule? name = some ⟨name, body⟩ := by
  have notInherited : (builder.parent.bind fun parent => parent.rule? name) = none := by
    unfold lookup? at absent
    split at absent
    · cases absent
    · exact Option.map_eq_none_iff.mp absent
  cases known : after.localRule? name with
  | none =>
      rw [lookup?, known, same, notInherited] at found
      cases found
  | some rule =>
      have named : rule.name = name := by simpa using List.find?_some known
      rw [lookup?, known] at found
      cases found
      rw [← named]

/-- The rules after compiling an expression are those before and its inline expressions. -/
theorem mem_rules_of_compiles
    (adds : builder.Adds expr.inlineNames after)
    (compiles : Compiles parent builder [expr] after) :
    rule ∈ after.rules ↔
      rule ∈ builder.rules ∨ (rule.name, rule.body) ∈ expr.inlines := by
  have reaches := compiles.reaches expr (List.mem_singleton_self _)
  obtain ⟨added, same, named⟩ := adds.rules
  constructor
  · intro mem
    rw [same] at mem
    refine (List.mem_append.mp mem).imp_right fun isAdded => ?_
    obtain ⟨isNamed, found⟩ := named rule isAdded
    obtain ⟨inline, isInline, sameName⟩ := List.mem_map.mp isNamed
    obtain ⟨reached, -, -⟩ := reaches inline isInline
    rw [sameName, lookup?, found] at reached
    rw [← sameName, Option.some.inj reached]
    exact isInline
  · rintro (mem | isInline)
    · rw [same]
      exact List.mem_append_left _ mem
    · obtain ⟨reached, -, -⟩ := reaches _ isInline
      have fresh := adds.fresh rule.name (List.mem_map_of_mem isInline)
      exact List.mem_of_find?_eq_some (localRule?_of_new adds.parent fresh reached)

/-- The inline rules of the builder call what the inline expressions in these bodies
call, and the inline rules that they apply are found. -/
structure Links (builder : Builder) (drawn : List Expr) : Prop where
  calls : ∀ name,
    (∃ rule ∈ builder.rules, rule.isInline ∧ name ∈ rule.body.calls) ↔
      ∃ expr ∈ drawn, name ∈ expr.inlineCalls
  found : ∀ rule ∈ builder.rules, rule.isInline →
    ∀ name ∈ rule.body.inlineNames, (builder.lookup? name).isSome

namespace Links

/-- One more body has been compiled. -/
theorem compiles
    (links : builder.Links drawn)
    (adds : builder.Adds expr.inlineNames after)
    (compiles : Compiles parent builder [expr] after) :
    after.Links (drawn ++ [expr.anonymous]) where
  calls name := by
    have inlineCalls : expr.anonymous.inlineCalls = expr.inlineCalls :=
      expr.inlineCalls_rename _
    simp only [mem_rules_of_compiles adds compiles, or_and_right, exists_or, links.calls,
      List.mem_append, List.mem_singleton, exists_eq_left, inlineCalls]
    refine or_congr_right ⟨?_, fun called => ?_⟩
    · rintro ⟨rule, isInline, -, called⟩
      exact List.mem_flatMap.mpr ⟨_, isInline, called⟩
    · obtain ⟨inline, mem, called⟩ := List.mem_flatMap.mp called
      obtain ⟨-, -, hyphen⟩ := compiles.reaches expr (List.mem_singleton_self _) inline mem
      exact ⟨⟨inline.1, inline.2⟩, mem, isInline_iff.mpr hyphen, called⟩
  found rule mem isInline name applied := by
    rcases (mem_rules_of_compiles adds compiles).mp mem with mem | mem
    · exact adds.grows.isSome (links.found rule mem isInline name applied)
    · obtain ⟨inner, isInner, rfl⟩ := List.mem_map.mp applied
      exact adds.found _ (List.mem_map_of_mem ((Expr.parts_of_mem_inlines mem).2 isInner))

/-- A declared rule has been installed. -/
theorem installs
    (links : builder.Links drawn)
    (installs : builder.Installs name body after)
    (plain : '-' ∉ name.toList) :
    after.Links drawn := by
  have isDeclared : Rule.isInline ⟨name, body⟩ = false :=
    Bool.eq_false_iff.mpr fun isInline => plain (isInline_iff.mp isInline)
  have sameRules : ∀ {rule : Rule}, rule.isInline → (rule ∈ after.rules ↔ rule ∈ builder.rules) :=
    fun isInline => installs.rules ▸ mem_installIn_of_isInline isInline isDeclared
  refine ⟨fun name => ?_, fun rule mem isInline name applied => ?_⟩
  · rw [← links.calls]
    constructor <;> rintro ⟨rule, mem, isInline, called⟩
    · exact ⟨rule, (sameRules isInline).mp mem, isInline, called⟩
    · exact ⟨rule, (sameRules isInline).mpr mem, isInline, called⟩
  · have found := links.found rule ((sameRules isInline).mp mem) isInline name applied
    rw [installs.lookup?, Function.update_apply]
    split
    · rfl
    · exact found

end Links

end Builder

/-! ## Assembled grammars -/

section Assembled

variable
  {parent : Grammar}
  {builder after : Builder}
  {drawn : List Expr}

/-- Whatever its operator, a rule adds its inline patterns. -/
theorem installRule_links
    {rule : Source.RuleDeclaration}
    (plain : '-' ∉ rule.name.toList)
    (consistent : builder.Consistent parent)
    (links : builder.Links drawn)
    (ends : (installRule rule).run.run builder = (.ok (), after)) :
    ∃ expr, outline? rule.body = some expr ∧ after.Links (drawn ++ [expr]) := by
  obtain ⟨body, middle, lowers, obeys⟩ := installRule_cases ends
  obtain ⟨outlines, adds⟩ := (lower_goesBy rule.body).of_ok lowers
  have begun : (builder.beginRule rule.name).Consistent parent :=
    ⟨consistent.inherits, consistent.reaches, consistent.apart⟩
  have begunLinks : (builder.beginRule rule.name).Links drawn := ⟨links.calls, links.found⟩
  have compiled := begunLinks.compiles adds (lower_compiles begun lowers)
  refine ⟨body.anonymous, outlines, ?_⟩
  generalize rule.operator = operator at obeys
  cases obeys with
  | define _ installs | override installs | extend _ installs =>
      exact compiled.installs installs plain

/-- The bodies of rules that have outlines. -/
def outlines (rules : List Source.RuleDeclaration) : List Expr :=
  rules.filterMap fun rule => outline? rule.body

theorem outlines_cons
    {rule : Source.RuleDeclaration}
    {expr : Expr}
    (isOutline : outline? rule.body = some expr)
    (rules : List Source.RuleDeclaration) :
    outlines (rule :: rules) = expr :: outlines rules :=
  List.filterMap_cons_some isOutline

theorem installRules_links
    {rules : List Source.RuleDeclaration}
    (written : ∀ rule ∈ rules, rule.Written)
    (consistent : builder.Consistent parent)
    (links : builder.Links drawn)
    (ends : (installRules rules).run.run builder = (.ok (), after)) :
    after.Links (drawn ++ outlines rules) := by
  induction rules generalizing builder drawn with
  | nil =>
      cases ends
      exact (List.append_nil drawn).symm ▸ links
  | cons rule rules inductionHypothesis =>
      obtain ⟨⟨⟩, middle, installs, installsOthers⟩ := run_bind_eq_ok_iff.mp ends
      obtain ⟨writtenRule, written⟩ := List.forall_mem_cons.mp written
      obtain ⟨expr, isOutline, linksRule⟩ :=
        installRule_links writtenRule.name.no_hyphen consistent links installs
      have linksAll := inductionHypothesis written
        (installRule_consistent writtenRule consistent installs) linksRule installsOthers
      rwa [List.append_assoc, List.singleton_append, ← outlines_cons isOutline] at linksAll

/-- A builder knows the inline rules of the declaration that it was assembled from. -/
theorem assemble_links
    {declaration : Source.Declaration}
    (written : declaration.Written)
    (inherited : parent.Consistent)
    (ends : (assemble parent declaration).run.run Builder.empty = (.ok (), after)) :
    after.Links (outlines declaration.rules) := by
  rw [run_assemble] at ends
  have consistent : (Builder.over declaration.name parent).Consistent parent :=
    ⟨rfl, inherited.reaches, fun rule mem => nomatch mem⟩
  have links : (Builder.over declaration.name parent).Links [] :=
    ⟨fun name => by simp [Builder.over, Builder.empty], fun rule mem => nomatch mem⟩
  exact installRules_links written.rules consistent links ends

/-- A declared rule of the builder or an inline expression in one of the bodies calls the
rule. -/
def Builder.Calls (builder : Builder) (drawn : List Expr) (name : String) : Prop :=
  (∃ rule ∈ declared builder.rules, name ∈ rule.body.calls) ∨
    ∃ expr ∈ drawn, name ∈ expr.inlineCalls

/-- A settled grammar passes its validation if and only if everything is found that its
declared rules and the inline expressions call. -/
theorem Builder.Links.validate_eq_none_iff
    {serial : Nat}
    (links : builder.Links drawn)
    (settled : (builder.build serial).Settled) :
    (builder.build serial).validate.2 = none ↔
      ∀ name, builder.Calls drawn name → (builder.lookup? name).isSome := by
  have sameFound : ∀ name,
      ((builder.build serial).rule? name).isSome = (builder.lookup? name).isSome := fun name => by
    rw [builder.lookup?_eq name serial, Option.isSome_map]
  have sameLookup : (builder.build serial).lookup? = builder.lookup? :=
    funext fun name => (builder.lookup?_eq name serial).symm
  rw [Grammar.validate_eq_none_iff]
  simp only [sameFound, Expr.mem_references_iff]
  constructor
  · rintro found name (⟨rule, mem, called⟩ | drawn)
    · exact found rule (List.mem_of_mem_filter mem) name (.inl called)
    · obtain ⟨rule, mem, -, called⟩ := (links.calls name).mpr drawn
      exact found rule mem name (.inl called)
  · rintro found rule mem name (called | applied) <;> cases isInline : rule.isInline
    · exact found name (.inl ⟨rule, List.mem_filter.mpr ⟨mem, by simp [isInline]⟩, called⟩)
    · exact found name (.inr ((links.calls name).mp ⟨rule, mem, isInline, called⟩))
    · have isDeclared : rule ∈ declared (builder.build serial).rules :=
        List.mem_filter.mpr ⟨mem, by simp [isInline]⟩
      exact sameLookup ▸ (settled.body isDeclared).found name applied
    · exact links.found rule mem isInline name applied

end Assembled
end Heirloom
