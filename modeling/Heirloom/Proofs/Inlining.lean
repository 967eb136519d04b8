import Heirloom.Proofs.Building
import Heirloom.Proofs.Registration
import Heirloom.Proofs.Source.Names

/-!
# Inline rules

An inline expression is matched as the rule of its name. In a grammar that was
loaded from source, over grammars that were, that rule has exactly the body
written in the expression and skips blanks if and only if the rule around it
does. What makes this hold is that names of inline rules have a hyphen, which
declared names never have, and that an inline rule takes a name under which
nothing is found, so nothing that is found under such a name ever changes.
-/

namespace Heirloom

/-! ## Inline expressions -/

namespace Expr

mutual

/-- The inline expressions in an expression, those in the bodies of others
included, each as its name and its body. -/
def inlines : Expr → List (String × Expr)
  | inline rule body => (rule, body) :: inlines body
  | alt left right => inlines left ++ inlines right
  | seq items => itemInlines items
  | bind body _ => inlines body
  | many body _ => inlines body
  | opt body => inlines body
  | not body => inlines body
  | peek body => inlines body
  | str body => inlines body
  | lst body => inlines body
  | obj properties _ => propertyInlines properties
  | _ => []

/-- The inline expressions in a list of expressions. -/
def itemInlines : List Expr → List (String × Expr)
  | [] => []
  | item :: items => inlines item ++ itemInlines items

/-- The inline expressions in the patterns of properties. -/
def propertyInlines : List (String × Expr) → List (String × Expr)
  | [] => []
  | (_, body) :: properties => inlines body ++ propertyInlines properties

end

end Expr

/-- Every inline expression in the body is found under its name with its own
body, and its name is that of an inline rule of the given class. -/
def Reaches (find : String → Option Expr) (syntactic : Bool) (body : Expr) : Prop :=
  ∀ inline ∈ body.inlines,
    find inline.1 = some inline.2 ∧ isSyntacticName inline.1 = syntactic ∧
      '-' ∈ inline.1.toList

namespace Reaches

variable
  {find findMore : String → Option Expr}
  {syntactic lenient : Bool}
  {name : String}
  {body left right : Expr}
  {items : List Expr}
  {properties : List (String × Expr)}

/-- Finding more under names of inline rules does no harm. -/
theorem mono
    (reaches : Reaches find syntactic body)
    (more : ∀ name inner, '-' ∈ name.toList → find name = some inner →
      findMore name = some inner) :
    Reaches findMore syntactic body := by
  intro inline mem
  obtain ⟨found, sameClass, hyphen⟩ := reaches inline mem
  exact ⟨more _ _ hyphen found, sameClass, hyphen⟩

/-- An expression without inline expressions. -/
theorem of_inlines_eq_nil
    (plain : body.inlines = []) :
    Reaches find syntactic body := by
  intro inline mem
  rw [plain] at mem
  cases mem

theorem alt
    (leftReaches : Reaches find syntactic left)
    (rightReaches : Reaches find syntactic right) :
    Reaches find syntactic (.alt left right) := by
  unfold Reaches
  rw [Expr.inlines, List.forall_mem_append]
  exact ⟨leftReaches, rightReaches⟩

theorem seq
    (reaches : ∀ item ∈ items, Reaches find syntactic item) :
    Reaches find syntactic (.seq items) := by
  unfold Reaches
  rw [Expr.inlines]
  induction items with
  | nil => exact nofun
  | cons item items inductionHypothesis =>
      obtain ⟨first, others⟩ := List.forall_mem_cons.mp reaches
      rw [Expr.itemInlines, List.forall_mem_append]
      exact ⟨first, inductionHypothesis others⟩

theorem obj
    (reaches : ∀ property ∈ properties, Reaches find syntactic property.2) :
    Reaches find syntactic (.obj properties lenient) := by
  unfold Reaches
  rw [Expr.inlines]
  induction properties with
  | nil => exact nofun
  | cons property properties inductionHypothesis =>
      obtain ⟨first, others⟩ := List.forall_mem_cons.mp reaches
      rw [Expr.propertyInlines, List.forall_mem_append]
      exact ⟨first, inductionHypothesis others⟩

theorem inline
    (reaches : Reaches find syntactic body)
    (found : find name = some body)
    (sameClass : isSyntacticName name = syntactic)
    (hyphen : '-' ∈ name.toList) :
    Reaches find syntactic (.inline name body) := by
  unfold Reaches
  rw [Expr.inlines, List.forall_mem_cons]
  exact ⟨⟨found, sameClass, hyphen⟩, reaches⟩

/-- A choice reaches what its alternatives reach. -/
theorem choice
    (reaches : ∀ item ∈ items, Reaches find syntactic item) :
    Reaches find syntactic (choice items) := by
  have folded : ∀ (others : List Expr) (first : Expr), Reaches find syntactic first →
      (∀ item ∈ others, Reaches find syntactic item) →
        Reaches find syntactic (others.foldl .alt first) := by
    intro others
    induction others with
    | nil => exact fun first reachesFirst _ => reachesFirst
    | cons next others inductionHypothesis =>
        intro first reachesFirst reachesOthers
        obtain ⟨reachesNext, reachesOthers⟩ := List.forall_mem_cons.mp reachesOthers
        exact inductionHypothesis _ (reachesFirst.alt reachesNext) reachesOthers
  cases items with
  | nil => exact seq nofun
  | cons first others =>
      obtain ⟨reachesFirst, reachesOthers⟩ := List.forall_mem_cons.mp reaches
      exact folded others first reachesFirst reachesOthers

end Reaches

/-! ## Names of inline rules -/

theorem hyphen_mem_inlineRuleName (enclosing : String) (ordinal : Nat) :
    '-' ∈ (inlineRuleName enclosing ordinal).toList := by
  simp [inlineRuleName]

/-- An inline rule is of the class of the rule it is named after. -/
theorem isSyntacticName_inlineRuleName (enclosing : String) (ordinal : Nat) :
    isSyntacticName (inlineRuleName enclosing ordinal) = isSyntacticName enclosing := by
  unfold isSyntacticName inlineRuleName
  rw [String.toList_append, String.toList_append]
  cases enclosing.toList with
  | nil =>
      change Text.isUppercase '-' = false
      decide +kernel
  | cons first others => rfl

/-! ## Grammars -/

namespace Grammar

/-- The body of the rule of that name. -/
def lookup? (grammar : Grammar) (name : String) : Option Expr :=
  (grammar.rule? name).map Rule.body

/-- Inline expressions reach their bodies from the grammar, and the inline rules
of its lineage are kept apart by their names. -/
structure Consistent (grammar : Grammar) : Prop where
  reaches :
    ∀ name body, grammar.lookup? name = some body →
      Reaches grammar.lookup? (isSyntacticName name) body
  apart :
    grammar.lineage.Pairwise fun lower upper =>
      ∀ rule ∈ lower.rules, rule.isInline → upper.localRule? rule.name = none

/-- The base grammar has no inline expressions. -/
theorem consistent_baseGrammar : baseGrammar.Consistent where
  reaches name body found := by
    have plain : ∀ rule ∈ baseRules, rule.body.inlines = [] := by decide
    obtain ⟨rule, visible, rfl⟩ := Option.map_eq_some_iff.mp found
    obtain ⟨ancestor, inherited, declared⟩ := exists_declaring visible
    obtain rfl := List.mem_singleton.mp inherited
    exact .of_inlines_eq_nil (plain rule declared)
  apart := List.pairwise_singleton _ _

end Grammar

/-! ## Builders -/

namespace Builder

variable
  {parent : Grammar}
  {builder after middle : Builder}
  {name : String}
  {body : Expr}
  {bodies others : List Expr}

/-- Inline expressions reach their bodies from the builder, and its inline rules
do not have the names of inherited ones. -/
structure Consistent (builder : Builder) (parent : Grammar) : Prop where
  inherits : builder.parent = some parent
  reaches :
    ∀ name body, builder.lookup? name = some body →
      Reaches builder.lookup? (isSyntacticName name) body
  apart : ∀ rule ∈ builder.rules, rule.isInline → parent.rule? rule.name = none

/-- What is found stays found with the same body. -/
def Grows (builder after : Builder) : Prop :=
  ∀ name body, builder.lookup? name = some body → after.lookup? name = some body

theorem mem_installIn
    {rule other : Rule}
    {rules : List Rule}
    (mem : other ∈ installIn rule rules) :
    other = rule ∨ other ∈ rules := by
  induction rules with
  | nil => exact .inl (List.mem_singleton.mp mem)
  | cons head rules inductionHypothesis =>
      unfold installIn at mem
      split at mem
      · rcases List.mem_cons.mp mem with same | mem
        · exact .inl same
        · exact .inr (List.mem_cons_of_mem _ mem)
      · rcases List.mem_cons.mp mem with rfl | mem
        · exact .inr (List.mem_cons_self ..)
        · exact (inductionHypothesis mem).imp_right (List.mem_cons_of_mem _)

namespace Consistent

/-- Installing a body keeps a builder consistent if it takes away nothing that
an inline expression could refer to. -/
theorem installs
    (consistent : builder.Consistent parent)
    (installs : builder.Installs name body after)
    (keeps : ∀ other inner, '-' ∈ other.toList → builder.lookup? other = some inner →
      after.lookup? other = some inner)
    (reaches : Reaches after.lookup? (isSyntacticName name) body)
    (apart : '-' ∈ name.toList → parent.rule? name = none) :
    after.Consistent parent where
  inherits := installs.parent.trans consistent.inherits
  reaches other inner found := by
    by_cases same : other = name
    · rw [same, installs.lookup?, Function.update_self] at found
      cases found
      exact same ▸ reaches
    · rw [installs.lookup?, Function.update_of_ne same] at found
      exact (consistent.reaches other inner found).mono keeps
  apart rule mem isInline := by
    rw [installs.rules] at mem
    rcases mem_installIn mem with rfl | mem
    · exact apart (List.contains_iff_mem.mp isInline)
    · exact consistent.apart rule mem isInline

/-- A declared rule can be installed freely, as no inline expression refers to
it. -/
theorem declare
    (consistent : builder.Consistent parent)
    (installs : builder.Installs name body after)
    (declared : '-' ∉ name.toList)
    (reaches : Reaches builder.lookup? (isSyntacticName name) body) :
    after.Consistent parent := by
  have keeps : ∀ other inner, '-' ∈ other.toList → builder.lookup? other = some inner →
      after.lookup? other = some inner := by
    intro other inner hyphen found
    have different : other ≠ name := fun same => declared (same ▸ hyphen)
    rwa [installs.lookup?, Function.update_of_ne different]
  exact consistent.installs installs keeps (reaches.mono keeps)
    fun hyphen => absurd hyphen declared

end Consistent

/-- Nothing that is found is lost when a body is installed under a free name. -/
theorem Installs.grows
    (installs : builder.Installs name body after)
    (absent : builder.lookup? name = none) :
    builder.Grows after := by
  intro other inner found
  have different : other ≠ name := by
    rintro rfl
    rw [absent] at found
    cases found
  rwa [installs.lookup?, Function.update_of_ne different]

/-- Bodies were compiled from one builder to another, which finds the same and
whatever the bodies refer to. -/
structure Compiles
    (parent : Grammar)
    (builder : Builder)
    (bodies : List Expr)
    (after : Builder) : Prop where
  consistent : after.Consistent parent
  currentRule : after.currentRule = builder.currentRule
  grows : builder.Grows after
  reaches :
    ∀ body ∈ bodies, Reaches after.lookup? (isSyntacticName builder.enclosingName) body

namespace Compiles

/-- Bodies without inline rules leave the builder as it is. -/
theorem unchanged
    (consistent : builder.Consistent parent)
    (reaches :
      ∀ body ∈ bodies, Reaches builder.lookup? (isSyntacticName builder.enclosingName) body) :
    Compiles parent builder bodies builder :=
  ⟨consistent, rfl, fun _ _ => id, reaches⟩

theorem append
    (first : Compiles parent builder bodies middle)
    (second : Compiles parent middle others after) :
    Compiles parent builder (bodies ++ others) after where
  consistent := second.consistent
  currentRule := second.currentRule.trans first.currentRule
  grows name body found := second.grows name body (first.grows name body found)
  reaches body mem := by
    have sameClass : middle.enclosingName = builder.enclosingName := by
      rw [enclosingName, first.currentRule, enclosingName]
    rcases List.mem_append.mp mem with mem | mem
    · exact (first.reaches body mem).mono fun name inner _ => second.grows name inner
    · exact sameClass ▸ second.reaches body mem

/-- What is made of compiled bodies is compiled. -/
theorem wrap
    (compiles : Compiles parent builder bodies after)
    (reaches :
      (∀ body ∈ bodies, Reaches after.lookup? (isSyntacticName builder.enclosingName) body) →
        Reaches after.lookup? (isSyntacticName builder.enclosingName) body) :
    Compiles parent builder [body] after :=
  ⟨compiles.consistent, compiles.currentRule, compiles.grows,
    List.forall_mem_singleton.mpr (reaches compiles.reaches)⟩

/-- An operator on one body brings in no inline expression of its own. -/
theorem enclose
    {outer : Expr}
    (compiles : Compiles parent builder [body] after)
    (same : outer.inlines = body.inlines) :
    Compiles parent builder [outer] after := by
  refine compiles.wrap fun reaches => ?_
  unfold Reaches
  rw [same]
  exact reaches body (List.mem_singleton_self _)

/-- An inline rule gets a free name and is found under it from then on. -/
theorem inline
    (compiles : Compiles parent builder [body] middle)
    (installs : middle.Installs middle.freshName body after) :
    Compiles parent builder [.inline middle.freshName body] after := by
  have absent := middle.lookup?_freshName
  have grows := installs.grows absent
  have sameClass : isSyntacticName middle.freshName = isSyntacticName builder.enclosingName := by
    rw [freshName, isSyntacticName_inlineRuleName, enclosingName, compiles.currentRule,
      enclosingName]
  have reaches : Reaches after.lookup? (isSyntacticName middle.freshName) body := by
    rw [sameClass]
    exact (compiles.reaches body (List.mem_singleton_self _)).mono fun name inner _ =>
      grows name inner
  have found : after.lookup? middle.freshName = some body := by
    rw [installs.lookup?, Function.update_self]
  refine
    { consistent := compiles.consistent.installs installs (fun name inner _ => grows name inner)
        reaches fun _ => ?_
      currentRule := installs.currentRule.trans compiles.currentRule
      grows := fun name inner known => grows name inner (compiles.grows name inner known)
      reaches := List.forall_mem_singleton.mpr ?_ }
  · unfold Builder.lookup? at absent
    rw [compiles.consistent.inherits] at absent
    split at absent
    · cases absent
    · exact Option.map_eq_none_iff.mp absent
  · rw [sameClass] at reaches
    exact .inline reaches found sameClass (hyphen_mem_inlineRuleName _ _)

end Compiles

end Builder
/-! ## Rule bodies -/

section Bodies

variable
  {parent : Grammar}
  {builder after : Builder}

theorem BuilderM.run_orComplain
    {position : Position}
    {complaint : Source.Complaint}
    {reading : Option α}
    {result : α}
    (ends : (BuilderM.orComplain position complaint reading).run.run builder =
      (.ok result, after)) :
    reading = some result ∧ after = builder := by
  cases reading with
  | none => cases ends
  | some value =>
      cases ends
      exact ⟨rfl, rfl⟩

/-- The value of a literal is found without changing the builder. -/
theorem run_lowerLiteral
    {position : Position}
    {literal : Source.Literal}
    {value : Value}
    (ends : (lowerLiteral position literal).run.run builder = (.ok value, after)) :
    after = builder := by
  cases literal with
  | text text =>
      cases ends
      rfl
  | char c =>
      cases ends
      rfl
  | integer number =>
      obtain ⟨_, _, reads, finishes⟩ := run_bind_eq_ok_iff.mp ends
      cases finishes
      exact (BuilderM.run_orComplain reads).2
  | other => cases ends

theorem run_lowerNegative
    {position : Position}
    {signed : Bool}
    {number : Nat}
    {value : Value}
    (ends : (lowerNegative position signed number).run.run builder = (.ok value, after)) :
    after = builder := by
  cases signed with
  | true => cases ends
  | false =>
      obtain ⟨_, _, reads, finishes⟩ := run_bind_eq_ok_iff.mp ends
      cases finishes
      exact (BuilderM.run_orComplain reads).2

open Builder (Compiles)

mutual

/-- Compiling a pattern keeps the builder consistent and gives an expression
whose inline expressions reach their bodies. -/
theorem lower_compiles :
    ∀ {pattern : Source.Pattern} {builder after : Builder} {expr : Expr},
      builder.Consistent parent → (lower pattern).run.run builder = (.ok expr, after) →
        Compiles parent builder [expr] after
  | .any, _, _, _, consistent, ends | .undefined, _, _, _, consistent, ends
  | .null, _, _, _, consistent, ends | .bool _, _, _, _, consistent, ends
  | .range _ _, _, _, _, consistent, ends | .call _, _, _, _, consistent, ends => by
      rw [lower] at ends
      cases ends
      exact .unchanged consistent (List.forall_mem_singleton.mpr (.of_inlines_eq_nil rfl))
  | .literal position value, _, _, _, consistent, ends => by
      rw [lower] at ends
      obtain ⟨_, _, reads, finishes⟩ := run_bind_eq_ok_iff.mp ends
      obtain rfl := run_lowerLiteral reads
      cases finishes
      exact .unchanged consistent (List.forall_mem_singleton.mpr (.of_inlines_eq_nil rfl))
  | .negative position signed value, _, _, _, consistent, ends => by
      rw [lower] at ends
      obtain ⟨_, _, reads, finishes⟩ := run_bind_eq_ok_iff.mp ends
      obtain rfl := run_lowerNegative reads
      cases finishes
      exact .unchanged consistent (List.forall_mem_singleton.mpr (.of_inlines_eq_nil rfl))
  | .regex position source, _, _, _, consistent, ends => by
      rw [lower] at ends
      obtain ⟨_, _, reads, finishes⟩ := run_bind_eq_ok_iff.mp ends
      obtain ⟨-, rfl⟩ := BuilderM.run_orComplain reads
      cases finishes
      exact .unchanged consistent (List.forall_mem_singleton.mpr (.of_inlines_eq_nil rfl))
  | .alt patterns, _, _, _, consistent, ends => by
      rw [lower] at ends
      obtain ⟨_, _, lowers, finishes⟩ := run_bind_eq_ok_iff.mp ends
      cases finishes
      exact (lowerAll_compiles consistent lowers).wrap .choice
  | .seq patterns, _, _, _, consistent, ends => by
      rw [lower] at ends
      obtain ⟨_, _, lowers, finishes⟩ := run_bind_eq_ok_iff.mp ends
      cases finishes
      exact (lowerAll_compiles consistent lowers).wrap .seq
  | .bind body _, _, _, _, consistent, ends | .star body, _, _, _, consistent, ends
  | .plus body, _, _, _, consistent, ends | .opt body, _, _, _, consistent, ends
  | .not body, _, _, _, consistent, ends | .peek body, _, _, _, consistent, ends
  | .str body, _, _, _, consistent, ends | .list body, _, _, _, consistent, ends => by
      rw [lower] at ends
      obtain ⟨_, _, lowers, finishes⟩ := run_bind_eq_ok_iff.mp ends
      cases finishes
      exact (lower_compiles consistent lowers).enclose rfl
  | .object properties lenient, _, _, _, consistent, ends => by
      rw [lower] at ends
      split at ends
      · obtain ⟨_, _, lowers, finishes⟩ := run_bind_eq_ok_iff.mp ends
        cases finishes
        exact (lowerProperties_compiles consistent lowers).wrap fun reaches =>
          .obj fun property mem => reaches _ (List.mem_map_of_mem mem)
      · cases ends
  | .inline body, _, _, _, consistent, ends => by
      rw [lower] at ends
      obtain ⟨expr, middle, lowers, inlines⟩ := run_bind_eq_ok_iff.mp ends
      obtain ⟨last, same, installs⟩ := middle.inline_installs expr
      rw [BuilderM.eq_ok_of_run_inline inlines] at same
      cases same
      exact (lower_compiles consistent lowers).inline installs

theorem lowerAll_compiles :
    ∀ {patterns : List Source.Pattern} {builder after : Builder} {exprs : List Expr},
      builder.Consistent parent → (lowerAll patterns).run.run builder = (.ok exprs, after) →
        Compiles parent builder exprs after
  | [], _, _, _, consistent, ends => by
      rw [lowerAll] at ends
      cases ends
      exact .unchanged consistent nofun
  | pattern :: patterns, _, _, _, consistent, ends => by
      rw [lowerAll] at ends
      obtain ⟨expr, middle, lowersFirst, others⟩ := run_bind_eq_ok_iff.mp ends
      obtain ⟨exprs, _, lowersOthers, finishes⟩ := run_bind_eq_ok_iff.mp others
      cases finishes
      have first := lower_compiles consistent lowersFirst
      exact first.append (lowerAll_compiles first.consistent lowersOthers)

theorem lowerProperties_compiles :
    ∀ {patterns : List (Source.Key × Source.Pattern)} {builder after : Builder}
      {properties : List (String × Expr)},
      builder.Consistent parent →
        (lowerProperties patterns).run.run builder = (.ok properties, after) →
          Compiles parent builder (properties.map Prod.snd) after
  | [], _, _, _, consistent, ends => by
      rw [lowerProperties] at ends
      cases ends
      exact .unchanged consistent nofun
  | (key, pattern) :: patterns, _, _, _, consistent, ends => by
      rw [lowerProperties] at ends
      obtain ⟨expr, middle, lowersFirst, others⟩ := run_bind_eq_ok_iff.mp ends
      obtain ⟨properties, _, lowersOthers, finishes⟩ := run_bind_eq_ok_iff.mp others
      cases finishes
      have first := lower_compiles consistent lowersFirst
      exact first.append (lowerProperties_compiles first.consistent lowersOthers)

end

/-- What an operator does with the body that a rule has been compiled to. -/
inductive Obeys (name : String) (body : Expr) (builder after : Builder) :
    Source.RuleOperator → Prop
  | define
      (absent : builder.localRule? name = none)
      (installs : builder.Installs name body after) :
      Obeys name body builder after .define
  | override
      (installs : builder.Installs name body after) :
      Obeys name body builder after .override
  | extend {existing : Expr}
      (found : builder.lookup? name = some existing)
      (installs : builder.Installs name (.alt existing body) after) :
      Obeys name body builder after .extend

/-- A rule that has been installed was compiled, and its operator was obeyed. -/
theorem installRule_cases
    {rule : Source.RuleDeclaration}
    (ends : (installRule rule).run.run builder = (.ok (), after)) :
    ∃ body middle, (lower rule.body).run.run (builder.beginRule rule.name) = (.ok body, middle) ∧
      Obeys rule.name body middle after rule.operator := by
  obtain ⟨_, _, ⟨⟩, lowersBody⟩ := run_bind_eq_ok_iff.mp ends
  obtain ⟨body, middle, lowers, installs⟩ := run_bind_eq_ok_iff.mp lowersBody
  refine ⟨body, middle, lowers, ?_⟩
  cases operates : rule.operator <;> rw [operates] at installs <;>
    have changes := BuilderM.eq_ok_of_run_change installs
  case define =>
      exact .define (Builder.absent_of_define changes) (Builder.installs_of_define changes)
  case override => exact .override (Builder.installs_of_override changes)
  case extend =>
    obtain ⟨existing, found, extended⟩ := Builder.installs_of_extend changes
    exact .extend found extended

/-- A declared rule keeps the builder consistent, whatever its operator. -/
theorem installRule_consistent
    {rule : Source.RuleDeclaration}
    (written : rule.Written)
    (consistent : builder.Consistent parent)
    (ends : (installRule rule).run.run builder = (.ok (), after)) :
    after.Consistent parent := by
  obtain ⟨body, middle, lowers, obeys⟩ := installRule_cases ends
  have begun : (builder.beginRule rule.name).Consistent parent :=
    ⟨consistent.inherits, consistent.reaches, consistent.apart⟩
  have compiles := lower_compiles begun lowers
  have reaches : Reaches middle.lookup? (isSyntacticName rule.name) body :=
    compiles.reaches body (List.mem_singleton_self _)
  have declared := written.name.no_hyphen
  generalize rule.operator = operator at obeys
  cases obeys with
  | define _ defines => exact compiles.consistent.declare defines declared reaches
  | override overrides => exact compiles.consistent.declare overrides declared reaches
  | extend found extended =>
      have reachesExisting := compiles.consistent.reaches _ _ found
      exact compiles.consistent.declare extended declared (reachesExisting.alt reaches)

theorem installRules_consistent
    {rules : List Source.RuleDeclaration}
    (written : ∀ rule ∈ rules, rule.Written)
    (consistent : builder.Consistent parent)
    (ends : (installRules rules).run.run builder = (.ok (), after)) :
    after.Consistent parent := by
  induction rules generalizing builder with
  | nil =>
      cases ends
      exact consistent
  | cons rule rules inductionHypothesis =>
      obtain ⟨⟨⟩, middle, installs, installsOthers⟩ := run_bind_eq_ok_iff.mp ends
      obtain ⟨first, others⟩ := List.forall_mem_cons.mp written
      exact inductionHypothesis others (installRule_consistent first consistent installs)
        installsOthers

/-- A builder with nothing of its own is as consistent as its super-grammar. -/
theorem assemble_consistent
    {declaration : Source.Declaration}
    (written : declaration.Written)
    (inherited : parent.Consistent)
    (ends : (assemble parent declaration).run.run Builder.empty = (.ok (), after)) :
    after.Consistent parent := by
  rw [run_assemble] at ends
  refine installRules_consistent written.rules ?_ ends
  exact ⟨rfl, inherited.reaches, fun rule mem => nomatch mem⟩

/-- What a consistent builder is finished to is consistent. -/
theorem Builder.Consistent.build
    (consistent : builder.Consistent parent)
    (inherited : parent.Consistent)
    (serial : Nat) :
    (builder.build serial).Consistent where
  reaches := by
    have same : (builder.build serial).lookup? = builder.lookup? :=
      funext fun name => (builder.lookup?_eq name serial).symm
    rw [same]
    exact consistent.reaches
  apart := by
    unfold Builder.build
    rw [consistent.inherits, Grammar.lineage, List.pairwise_cons]
    refine ⟨fun upper further rule mem isInline => ?_, inherited.apart⟩
    have absent := consistent.apart rule mem isInline
    exact List.findSome?_eq_none_iff.mp absent upper further

end Bodies

/-! ## Loading -/

/-- The property is that of the base grammar, and goes from a super-grammar to what a
declaration is assembled to over it. -/
structure Grammar.Hereditary (good : Grammar → Prop) : Prop where
  base : good baseGrammar
  assembles :
    ∀ {parent grammar : Grammar} {declaration : Source.Declaration},
      declaration.Written → good parent → WorkspaceM.Assembles parent declaration grammar →
        good grammar

/-- Inline expressions reach their bodies in every grammar that is assembled over one
in which they do. -/
theorem Grammar.hereditary_consistent : Hereditary Consistent where
  base := consistent_baseGrammar
  assembles := by
    rintro parent _ declaration written inherited ⟨builder, serial, assembles, rfl⟩
    exact (assemble_consistent written inherited assembles).build inherited serial

namespace WorkspaceM

variable
  {good : Grammar → Prop}
  {space : Option String}
  {options : LoadOptions}
  {batch : List Grammar}

/-- A grammar is as good as the grammars it can be declared over. -/
theorem load_good
    {declaration : Source.Declaration}
    (hereditary : Grammar.Hereditary good)
    (written : declaration.Written)
    (earlier : ∀ grammar ∈ batch, good grammar) :
    Keeps (fun workspace => workspace.registry.Offers space good) good
      (load space options batch declaration) := by
  have finds : Keeps (fun workspace => workspace.registry.Offers space good) good
      (superGrammar space batch declaration) :=
    superGrammar_keeps hereditary.base earlier Registry.Offers.finds
      fun other _ => Registry.Offers.bearsCreate other
  refine (load_keeps (Registry.Offers space good) finds).weaken fun grammar loaded => ?_
  obtain ⟨⟨parent, inherited, assembles⟩, -⟩ := loaded
  exact hereditary.assembles written inherited assembles

/-- A batch is registered beside grammars that are as good as it. -/
theorem loadBatch_good
    {declarations : List Source.Declaration}
    (hereditary : Grammar.Hereditary good)
    (written : ∀ declaration ∈ declarations, declaration.Written) :
    Keeps (fun workspace => workspace.registry.Offers space good)
      (fun grammars => ∀ grammar ∈ grammars, good grammar)
      (do
        let batch ← loadEach space options [] declarations
        registerBatch space options batch) := by
  have loads : Keeps (fun workspace => workspace.registry.Offers space good)
      (fun grammars => ∀ grammar ∈ grammars, good grammar)
      (loadEach space options [] declarations) :=
    loadEach_all
      (fun declaration mem _ earlier => load_good hereditary (written declaration mem) earlier)
      nofun
  refine loads.bind fun batch allGood => ?_
  exact registerBatch_keeps allGood Registry.Offers.finds
    fun target _ grammar mem => Registry.Offers.bearsAdd (allGood grammar mem) target

theorem loadAll_good
    (hereditary : Grammar.Hereditary good)
    (source : String) :
    Keeps (fun workspace => workspace.registry.Offers space good)
      (fun grammars => ∀ grammar ∈ grammars, good grammar)
      (loadAll space options source) :=
  (ofSource_keeps _).bind fun _ parses =>
    loadBatch_good hereditary (Source.written_of_parseAll parses)

theorem loadOne_good
    (hereditary : Grammar.Hereditary good)
    (source : String) :
    Keeps (fun workspace => workspace.registry.Offers space good)
      (fun grammars => ∀ grammar ∈ grammars, good grammar)
      (loadOne space options source) :=
  (ofSource_keeps _).bind fun _ parses =>
    loadBatch_good hereditary (List.forall_mem_singleton.mpr (Source.written_of_parseOne parses))

end WorkspaceM

/-- The grammar was loaded from source, without a namespace or in a registry of
grammars that were loaded from source. -/
inductive Grammar.FromSource : Grammar → Prop
  | all
      {workspace : Workspace}
      {space : Option String}
      {options : LoadOptions}
      {source : String}
      {grammars : List Grammar}
      {grammar : Grammar}
      (held :
        space.isSome → ∀ held ∈ workspace.registry.spaces, ∀ other ∈ held.grammars,
          FromSource other)
      (loads :
        ((WorkspaceM.loadAll space options source).run.run workspace).1 = .ok grammars)
      (mem : grammar ∈ grammars) :
      FromSource grammar
  | one
      {workspace : Workspace}
      {space : Option String}
      {options : LoadOptions}
      {source : String}
      {grammars : List Grammar}
      {grammar : Grammar}
      (held :
        space.isSome → ∀ held ∈ workspace.registry.spaces, ∀ other ∈ held.grammars,
          FromSource other)
      (loads :
        ((WorkspaceM.loadOne space options source).run.run workspace).1 = .ok grammars)
      (mem : grammar ∈ grammars) :
      FromSource grammar

namespace Grammar.FromSource

/-- What goes from super-grammars to those declared over them holds of every grammar
from source. -/
theorem good
    {good : Grammar → Prop}
    {grammar : Grammar}
    (hereditary : Hereditary good)
    (loaded : grammar.FromSource) :
    good grammar := by
  induction loaded with
  | all held loads mem inductionHypothesis =>
      exact (WorkspaceM.loadAll_good hereditary _ _ inductionHypothesis).2 _ loads _ mem
  | one held loads mem inductionHypothesis =>
      exact (WorkspaceM.loadOne_good hereditary _ _ inductionHypothesis).2 _ loads _ mem

theorem consistent
    {grammar : Grammar}
    (loaded : grammar.FromSource) :
    grammar.Consistent :=
  loaded.good hereditary_consistent

/-- Inline expressions always reach their own bodies. In a grammar loaded from
source, each inline expression in a rule that is found, wherever it was
declared and however it was extended, is found under its name with exactly its
body, and skips blanks if and only if that rule does. No two grammars of one
lineage have inline rules of one name. -/
theorem inline_reaches_its_body
    {grammar : Grammar}
    (loaded : grammar.FromSource) :
    (∀ name rule, grammar.rule? name = some rule →
      ∀ inline ∈ rule.body.inlines,
        ∃ reached, grammar.rule? inline.1 = some reached ∧ reached.body = inline.2 ∧
          reached.isSyntactic = rule.isSyntactic) ∧
    grammar.lineage.Pairwise fun lower upper =>
      ∀ rule ∈ lower.rules, rule.isInline → upper.localRule? rule.name = none := by
  refine ⟨fun name rule visible inline mem => ?_, loaded.consistent.apart⟩
  have found : grammar.lookup? name = some rule.body := by
    rw [lookup?, visible, Option.map_some]
  obtain ⟨reaches, sameClass, -⟩ := loaded.consistent.reaches name rule.body found inline mem
  obtain ⟨reached, reachedVisible, same⟩ := Option.map_eq_some_iff.mp reaches
  refine ⟨reached, reachedVisible, same, ?_⟩
  rw [Rule.isSyntactic, name_of_rule? reachedVisible, sameClass, Rule.isSyntactic,
    name_of_rule? visible]

/-- An inherited alternative goes on to reach its own body beside a new one. -/
theorem extended_inline_reaches_its_body :
    ∃ first second,
      ((WorkspaceM.loadAll none {}
        "grammar A \x7bR=#('a')\x7d grammar B:A \x7bR+=#('b')\x7d").run.run {}).1 =
          .ok [first, second] ∧
      second.rule? "R" =
        some ⟨"R",
          .alt (.inline "R-1" (.prim (.char 'a'))) (.inline "R-2" (.prim (.char 'b')))⟩ ∧
      ∃ reached, second.rule? "R-1" = some reached ∧ reached.body = .prim (.char 'a') ∧
        reached.isSyntactic = true := by
  obtain ⟨grammars, loads, passes⟩ := exists_ok_of_any
    (by decide +kernel :
      ((WorkspaceM.loadAll none {}
        "grammar A \x7bR=#('a')\x7d grammar B:A \x7bR+=#('b')\x7d").run.run {}).1.toOption.any
          (fun grammars => decide (grammars.length = 2 ∧
            grammars[1]?.bind (·.rule? "R") =
              some ⟨"R",
                .alt (.inline "R-1" (.prim (.char 'a'))) (.inline "R-2" (.prim (.char 'b')))⟩)) =
        true)
  obtain ⟨two, visible⟩ := of_decide_eq_true passes
  obtain ⟨first, second, rfl⟩ := List.length_eq_two.mp two
  have loaded : second.FromSource := .all (by simp) loads (by simp)
  have reached := (inline_reaches_its_body loaded).1 _ _ visible
    ("R-1", .prim (.char 'a')) (by simp [Expr.inlines])
  exact ⟨first, second, loads, visible, reached⟩

end Grammar.FromSource
end Heirloom
