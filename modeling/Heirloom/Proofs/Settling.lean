import Heirloom.Proofs.Lowering

/-!
# Settled grammars

In a grammar that was loaded without a namespace the body of every declared rule
can be written as source again, and its inline expressions have names of their
own: those of different expressions differ, and those in different rules belong
to different rules. The super-grammar is the base grammar or the last grammar of
its name before it.
-/

namespace Heirloom

open Source (IsName)

theorem takeWhile_inlineRuleName
    {enclosing : String}
    (plain : '-' ∉ enclosing.toList)
    (ordinal : Nat) :
    (inlineRuleName enclosing ordinal).toList.takeWhile (· != '-') = enclosing.toList := by
  have all : ∀ c ∈ enclosing.toList, (c != '-') = true := by
    rintro c mem
    exact bne_iff_ne.mpr fun same => plain (same ▸ mem)
  simp [inlineRuleName, List.takeWhile_append_of_pos all]

/-- The name of an inline rule tells which rule it stands in. -/
theorem eq_of_inlineRuleName_eq
    {first second : String}
    {ordinal other : Nat}
    (plain : '-' ∉ first.toList)
    (plainOther : '-' ∉ second.toList)
    (same : inlineRuleName first ordinal = inlineRuleName second other) :
    first = second := by
  have letters := takeWhile_inlineRuleName plain ordinal
  rw [same, takeWhile_inlineRuleName plainOther other] at letters
  exact String.toList_inj.mp letters.symm

/-! ## Rules -/

/-- The body of a rule comes from source. Its inline expressions have names of
their own as inline rules of that rule, and something is found under each. -/
structure Settled (find : String → Option Expr) (rule : String) (body : Expr) : Prop where
  outlined : body.anonymous.Outlined
  distinct : body.inlineNames.Nodup
  named : ∀ name ∈ body.inlineNames, ∃ ordinal, name = inlineRuleName rule ordinal
  found : ∀ name ∈ body.inlineNames, (find name).isSome

/-- Declared rules have names of their own, and whatever is found under the name
of a declared rule is settled. -/
structure SettledRules (find : String → Option Expr) (rules : List Rule) : Prop where
  names : ∀ rule ∈ declared rules, IsName rule.name
  distinct : ((declared rules).map Rule.name).Nodup
  bodies :
    ∀ name body, '-' ∉ name.toList → find name = some body → Settled find name body

section Rules

variable
  {find findMore : String → Option Expr}
  {rule name : String}
  {body other : Expr}
  {builder after : Builder}

/-- Finding more does no harm. -/
theorem Settled.mono
    (settled : Settled find rule body)
    (more : ∀ name, (find name).isSome → (findMore name).isSome) :
    Settled findMore rule body :=
  { settled with found := fun name mem => more name (settled.found name mem) }

/-- One more alternative, whose inline expressions have new names. -/
theorem Settled.alt
    (settled : Settled find rule body)
    (settledOther : Settled find rule other)
    (apart : ∀ name ∈ other.inlineNames, name ∉ body.inlineNames) :
    Settled find rule (.alt body other) := by
  have names : (Expr.alt body other).inlineNames = body.inlineNames ++ other.inlineNames :=
    List.map_append
  refine ⟨settled.outlined.alt settledOther.outlined, ?_, ?_, ?_⟩
  · rw [names, List.nodup_append]
    refine ⟨settled.distinct, settledOther.distinct, ?_⟩
    rintro name mem _ memOther rfl
    exact apart name memOther mem
  · rw [names]
    exact List.forall_mem_append.mpr ⟨settled.named, settledOther.named⟩
  · rw [names]
    exact List.forall_mem_append.mpr ⟨settled.found, settledOther.found⟩

/-- Adding inline rules leaves declared rules settled. -/
theorem SettledRules.adds
    {names : List String}
    (settled : SettledRules builder.lookup? builder.rules)
    (adds : builder.Adds names after) :
    SettledRules after.lookup? after.rules where
  names := adds.declared ▸ settled.names
  distinct := adds.declared ▸ settled.distinct
  bodies name body plain found :=
    (settled.bodies name body plain (adds.lookup? plain ▸ found)).mono fun _ => adds.grows.isSome

/-- Installing a settled body leaves declared rules settled. -/
theorem SettledRules.installs
    (settled : SettledRules builder.lookup? builder.rules)
    (named : IsName name)
    (installs : builder.Installs name body after)
    (settledBody : Settled builder.lookup? name body) :
    SettledRules after.lookup? after.rules := by
  have isDeclared : Rule.isInline ⟨name, body⟩ = false :=
    Bool.eq_false_iff.mpr fun isInline => named.no_hyphen (isInline_iff.mp isInline)
  have more : ∀ other, (builder.lookup? other).isSome → (after.lookup? other).isSome := by
    intro other found
    rw [installs.lookup?, Function.update_apply]
    split
    · rfl
    · exact found
  refine ⟨?_, ?_, fun other inner plain found => ?_⟩
  · rw [installs.rules, declared_installIn isDeclared]
    intro rule mem
    rcases Builder.mem_installIn mem with rfl | mem
    · exact named
    · exact settled.names rule mem
  · rw [installs.rules, declared_installIn isDeclared, Builder.map_name_installIn]
    split
    · exact settled.distinct
    · next new => exact List.concat_eq_append ▸ settled.distinct.concat new
  · rw [installs.lookup?, Function.update_apply] at found
    split at found
    · next same =>
        cases found
        exact same ▸ settledBody.mono more
    · exact (settled.bodies other inner plain found).mono more

end Rules

/-! ## Builders -/

namespace Builder

variable
  {parent : Grammar}
  {builder after : Builder}
  {given name : String}
  {body : Expr}

/-- The builder is for a grammar of that name over that super-grammar, and its
declared rules are settled. -/
structure Settled (builder : Builder) (given : String) (parent : Grammar) : Prop where
  givenName : builder.givenName = some given
  inherits : builder.parent = some parent
  rules : SettledRules builder.lookup? builder.rules

namespace Settled

theorem begin
    (settled : builder.Settled given parent)
    (name : String) :
    (builder.beginRule name).Settled given parent :=
  ⟨settled.givenName, settled.inherits, settled.rules⟩

theorem adds
    {names : List String}
    (settled : builder.Settled given parent)
    (adds : builder.Adds names after) :
    after.Settled given parent :=
  ⟨adds.givenName.trans settled.givenName, adds.parent.trans settled.inherits,
    settled.rules.adds adds⟩

theorem installs
    (settled : builder.Settled given parent)
    (named : IsName name)
    (installs : builder.Installs name body after)
    (settledBody : Heirloom.Settled builder.lookup? name body) :
    after.Settled given parent :=
  ⟨installs.givenName.trans settled.givenName, installs.parent.trans settled.inherits,
    settled.rules.installs named installs settledBody⟩

/-- What a settled builder is finished to. -/
theorem build
    (settled : builder.Settled given parent)
    (serial : Nat) :
    (builder.build serial).name = given ∧ (builder.build serial).parent = some parent ∧
      SettledRules (builder.build serial).lookup? (builder.build serial).rules := by
  have same : (builder.build serial).lookup? = builder.lookup? :=
    funext fun name => (builder.lookup?_eq name serial).symm
  refine ⟨?_, settled.inherits, same ▸ settled.rules⟩
  change builder.givenName.getD _ = given
  rw [settled.givenName]
  rfl

end Settled

end Builder

section Declarations

variable
  {parent : Grammar}
  {builder after : Builder}
  {given : String}

/-- The body of a rule is settled once it has been compiled. -/
theorem lower_settled
    {pattern : Source.Pattern}
    {rule : String}
    {body : Expr}
    (outlined : ∀ expr, pattern.outline? = some expr → expr.Outlined)
    (ends : (lower pattern).run.run (builder.beginRule rule) = (.ok body, after)) :
    (builder.beginRule rule).Adds body.inlineNames after ∧ Settled after.lookup? rule body := by
  obtain ⟨outlines, adds⟩ := (lower_goesBy pattern).of_ok ends
  exact ⟨adds, outlined _ outlines, adds.distinct, adds.named, adds.found⟩

/-- Rules stay settled whatever the operator of the next one. -/
theorem installRule_settled
    {rule : Source.RuleDeclaration}
    (named : IsName rule.name)
    (outlined : ∀ expr, rule.body.outline? = some expr → expr.Outlined)
    (settled : builder.Settled given parent)
    (ends : (installRule rule).run.run builder = (.ok (), after)) :
    after.Settled given parent := by
  obtain ⟨body, middle, lowers, obeys⟩ := installRule_cases ends
  obtain ⟨adds, settledBody⟩ := lower_settled outlined lowers
  have begun := settled.begin rule.name
  have compiled := begun.adds adds
  generalize rule.operator = operator at obeys
  cases obeys with
  | define _ defines => exact compiled.installs named defines settledBody
  | override overrides => exact compiled.installs named overrides settledBody
  | @extend existing found extended =>
      -- The existing body was there before the new one was compiled.
      rw [adds.lookup? named.no_hyphen] at found
      have settledExisting := begun.rules.bodies _ _ named.no_hyphen found
      have apart : ∀ name ∈ body.inlineNames, name ∉ existing.inlineNames := by
        intro name mem memExisting
        have known := settledExisting.found name memExisting
        rw [adds.fresh name mem] at known
        cases known
      exact compiled.installs named extended
        ((settledExisting.mono fun _ => adds.grows.isSome).alt settledBody apart)

theorem installRules_settled
    {rules : List Source.RuleDeclaration}
    (named : ∀ rule ∈ rules, IsName rule.name)
    (outlined : ∀ rule ∈ rules, ∀ expr, rule.body.outline? = some expr → expr.Outlined)
    (settled : builder.Settled given parent)
    (ends : (installRules rules).run.run builder = (.ok (), after)) :
    after.Settled given parent := by
  induction rules generalizing builder with
  | nil =>
      cases ends
      exact settled
  | cons rule rules inductionHypothesis =>
      obtain ⟨⟨⟩, middle, installs, installsOthers⟩ := run_bind_eq_ok_iff.mp ends
      obtain ⟨namedRule, named⟩ := List.forall_mem_cons.mp named
      obtain ⟨outlinedRule, outlined⟩ := List.forall_mem_cons.mp outlined
      exact inductionHypothesis named outlined
        (installRule_settled namedRule outlinedRule settled installs) installsOthers

end Declarations

/-! ## Grammars -/

namespace Grammar

/-- The grammar has a name from source, and its declared rules are settled. -/
structure Settled (grammar : Grammar) : Prop where
  name : IsName grammar.name
  rules : SettledRules grammar.lookup? grammar.rules

/-- The body of every declared rule is settled. -/
theorem Settled.body
    {grammar : Grammar}
    {rule : Rule}
    (settled : grammar.Settled)
    (mem : rule ∈ declared grammar.rules) :
    Heirloom.Settled grammar.lookup? rule.name rule.body := by
  have plain := (settled.rules.names rule mem).no_hyphen
  refine settled.rules.bodies rule.name rule.body plain ?_
  have found := find?_of_mem settled.rules.distinct mem
  rw [find?_declared plain] at found
  rw [lookup?, rule?_eq, localRule?, found]
  rfl

theorem outlined_of_mem_baseRules :
    ∀ rule ∈ baseRules, rule.body.anonymous.Outlined := by
  have idents : ∀ name ∈ ["lower", "upper", "letter", "digit", "space"],
      Text.isIdent name.toList ∧ name ∉ Source.reservedWords := by
    decide +kernel
  have app : ∀ name ∈ ["lower", "upper", "letter", "digit", "space"], (Expr.app name).Outlined :=
    fun name mem => .app (.inl (idents name mem).1) (idents name mem).2
  simp only [baseRules, List.forall_mem_cons]
  exact ⟨.any, .not .any, .seq (by decide) nofun, .range (by decide), .range (by decide),
    .range (by decide), .range (by decide), .alt (app _ (by decide)) (app _ (by decide)),
    .alt (app _ (by decide)) (app _ (by decide)), .alt (.prim trivial) (.range (by decide)),
    .many (by decide) (app _ (by decide)), nofun⟩

theorem settled_baseGrammar : baseGrammar.Settled where
  name := .inl (by decide)
  rules := by
    have idents : ∀ rule ∈ declared baseRules, Text.isIdent rule.name.toList := by decide +kernel
    have plain : ∀ rule ∈ baseRules, rule.body.inlineNames = [] := by decide
    refine ⟨fun rule mem => .inl (idents rule mem), by decide, fun name body _ found => ?_⟩
    obtain ⟨rule, visible, rfl⟩ := Option.map_eq_some_iff.mp found
    obtain ⟨ancestor, inherited, mem⟩ := exists_declaring visible
    obtain rfl := List.mem_singleton.mp inherited
    have none := plain rule mem
    exact ⟨outlined_of_mem_baseRules rule mem, none ▸ .nil, none ▸ nofun, none ▸ nofun⟩

end Grammar

/-- A builder with nothing of its own is as settled as its super-grammar. -/
theorem assemble_settled
    {parent : Grammar}
    {declaration : Source.Declaration}
    {after : Builder}
    (named : ∀ rule ∈ declaration.rules, IsName rule.name)
    (outlined :
      ∀ rule ∈ declaration.rules, ∀ expr, rule.body.outline? = some expr → expr.Outlined)
    (inherited : parent.Settled)
    (ends : (assemble parent declaration).run.run Builder.empty = (.ok (), after)) :
    after.Settled declaration.name parent := by
  rw [run_assemble] at ends
  refine installRules_settled named outlined ⟨rfl, rfl, ?_⟩ ends
  exact ⟨nofun, .nil, inherited.rules.bodies⟩

/-! ## Loading -/

section Loading

variable
  {parent grammar : Grammar}
  {declaration : Source.Declaration}

/-- A declaration is assembled to a settled grammar over a settled one. -/
theorem Grammar.Settled.of_assembles
    (written : declaration.Written)
    (inherited : parent.Settled)
    (assembles : WorkspaceM.Assembles parent declaration grammar) :
    grammar.Settled ∧ grammar.parent = some parent := by
  obtain ⟨builder, serial, assembles, rfl⟩ := assembles
  have settled : builder.Settled declaration.name parent :=
    assemble_settled (fun rule mem => (written.rules rule mem).name)
      (fun rule mem _ outlines => (written.rules rule mem).body.outlined outlines)
      inherited assembles
  obtain ⟨name, inherits, rules⟩ := settled.build serial
  exact ⟨⟨name ▸ written.name, rules⟩, inherits⟩

/-- Settled grammars are assembled over settled grammars. -/
theorem Grammar.hereditary_settled : Hereditary Settled where
  base := settled_baseGrammar
  assembles written inherited assembles := (Settled.of_assembles written inherited assembles).1

theorem Grammar.FromSource.settled
    (loaded : grammar.FromSource) :
    grammar.Settled :=
  loaded.good hereditary_settled

end Loading

/-- Grammars are settled and lie each over one that could be named before it. -/
inductive Placed : List Grammar → List Grammar → Prop
  | nil {before : List Grammar} :
      Placed before []
  | cons {before later : List Grammar} {grammar parent : Grammar}
      (settled : grammar.Settled)
      (inherits : grammar.parent = some parent)
      (inheritable : Inheritable before parent)
      (others : Placed (before ++ [grammar]) later) :
      Placed before (grammar :: later)

namespace WorkspaceM

variable
  {options : LoadOptions}
  {batch : List Grammar}
  {declaration : Source.Declaration}

/-- A grammar that is loaded over settled ones is settled. -/
theorem load_settled
    (written : declaration.Written)
    (earlier : ∀ grammar ∈ batch, Grammar.Settled grammar) :
    Gives (fun grammar => grammar.Settled ∧ ∃ parent, grammar.parent = some parent ∧
        Inheritable batch parent)
      (load none options batch declaration) := by
  have finds : Gives (Inheritable batch) (superGrammar none batch declaration) :=
    superGrammar_inheritable
  refine (load_keeps (fun _ => True) finds).weaken fun grammar loaded => ?_
  obtain ⟨⟨parent, inheritable, assembles⟩, -⟩ := loaded
  obtain ⟨settled, inherits⟩ := Grammar.Settled.of_assembles written
    (inheritable.good Grammar.settled_baseGrammar earlier) assembles
  exact ⟨settled, parent, inherits, inheritable⟩

theorem loadEach_placed
    {declarations : List Source.Declaration}
    (written : ∀ declaration ∈ declarations, declaration.Written)
    (earlier : ∀ grammar ∈ batch, Grammar.Settled grammar) :
    Gives (fun grammars => ∃ later, grammars = batch ++ later ∧ Placed batch later)
      (loadEach none options batch declarations) := by
  induction declarations generalizing batch with
  | nil => exact Keeps.pure ⟨[], (List.append_nil _).symm, .nil⟩
  | cons declaration declarations inductionHypothesis =>
      obtain ⟨first, others⟩ := List.forall_mem_cons.mp written
      refine (load_settled first earlier).bind fun grammar loaded => ?_
      obtain ⟨settled, parent, inherits, inheritable⟩ := loaded
      have goesOn := inductionHypothesis others
        (List.forall_mem_append.mpr ⟨earlier, List.forall_mem_singleton.mpr settled⟩)
      intro workspace _
      refine ⟨trivial, fun grammars ends => ?_⟩
      obtain ⟨later, rfl, placed⟩ := (goesOn workspace trivial).2 grammars ends
      exact ⟨grammar :: later, by simp, .cons settled inherits inheritable placed⟩

/-- The grammars of a source that is loaded without a namespace. -/
theorem loadAll_placed (source : String) :
    Gives (Placed []) (loadAll none options source) := by
  refine (ofSource_keeps _).bind fun declarations parses => ?_
  have none : ∀ grammar ∈ [], Grammar.Settled grammar := nofun
  refine (loadEach_placed (Source.written_of_parseAll parses) none).bind fun batch loaded => ?_
  obtain ⟨grammars, rfl, placed⟩ := loaded
  exact Keeps.pure placed

end WorkspaceM
end Heirloom
