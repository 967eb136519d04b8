import Heirloom.Proofs.Settling
import Heirloom.Proofs.Source.PrintedGrammar

/-!
# Reloading printed grammars

Grammars that were loaded without a namespace are printed as a text that loads
again, unless a rule is illegible. The grammars loaded from that text have the
same names, super-grammars and declared rules, and their bodies differ in
nothing but the names of inline rules.
-/

namespace Heirloom

open Source (IsName PrintsRule PrintsGrammar)

/-! ## Printing settled grammars -/

section Printing

variable
  {rule : Rule}
  {rules : List Rule}
  {grammar parent : Grammar}
  {before grammars : List Grammar}

theorem Grammar.Settled.printsRule
    (settled : grammar.Settled)
    (mem : rule ∈ declared grammar.rules)
    (legible : rule.body.isLegible) :
    PrintsRule rule :=
  ⟨settled.rules.names rule mem, (settled.body mem).outlined, legible⟩

/-- No grammar that was loaded passes for the base grammar. -/
theorem Grammar.not_isBase
    (inherits : grammar.parent.isSome) :
    grammar.isBase = false := by
  rw [isBase, Option.isNone_eq_false_iff.mpr inherits, Bool.and_false]

/-- Placed grammars are settled. -/
theorem Placed.settled
    (placed : Placed before grammars) :
    ∀ grammar ∈ grammars, grammar.Settled := by
  induction placed with
  | nil => exact nofun
  | cons settled _ _ _ inductionHypothesis =>
      exact List.forall_mem_cons.mpr ⟨settled, inductionHypothesis⟩

/-- What the written form of placed grammars shows can be read, if it is legible. -/
theorem Placed.prints
    (placed : Placed before grammars)
    (earlier : ∀ grammar ∈ before, grammar.Settled)
    (legible : ∀ grammar ∈ grammars, ∀ rule ∈ declared grammar.rules, rule.body.isLegible) :
    ∀ grammar ∈ grammars, PrintsGrammar grammar := by
  induction placed with
  | nil => exact nofun
  | @cons before later grammar parent settled inherits inheritable _ inductionHypothesis =>
      obtain ⟨legibleFirst, legible⟩ := List.forall_mem_cons.mp legible
      have isName : IsName parent.name :=
        (inheritable.good Grammar.settled_baseGrammar earlier).name
      refine List.forall_mem_cons.mpr ⟨⟨settled.name, ?_, ?_⟩, ?_⟩
      · rintro reference isParent
        rw [Grammar.parentRef?, inherits] at isParent
        dsimp only at isParent
        split at isParent
        · cases isParent
        · cases isParent
          exact isName
      · exact fun rule mem => settled.printsRule mem (legibleFirst rule mem)
      · exact inductionHypothesis
          (List.forall_mem_append.mpr ⟨earlier, List.forall_mem_singleton.mpr settled⟩) legible

end Printing

/-! ## Copies -/

/-- The rule has the name and the body of the other, but for the names of inline
expressions. -/
structure Rule.Copies (copy rule : Rule) : Prop where
  name : copy.name = rule.name
  body : copy.body.anonymous = rule.body.anonymous

/-- The grammar is settled and declares the same rules as the other over a
super-grammar of the same name. -/
structure Grammar.Copies (copy grammar : Grammar) : Prop where
  name : copy.name = grammar.name
  parent : copy.parent.map Grammar.name = grammar.parent.map Grammar.name
  parentRef : copy.parentRef? = grammar.parentRef?
  rules : List.Forall₂ Rule.Copies (declared copy.rules) (declared grammar.rules)
  settled : copy.Settled

section Rules

variable
  {builder : Builder}
  {rule : Rule}
  {rules : List Rule}

/-- A printed rule is installed after the others as a copy. -/
theorem installRule_copies
    {written : Source.RuleDeclaration}
    (defines : written.Defines rule)
    (named : IsName rule.name)
    (new : rule.name ∉ (declared builder.rules).map Rule.name) :
    ∃ (copy : Rule) (after : Builder),
      (installRule written).run.run builder = (.ok (), after) ∧ copy.Copies rule ∧
        declared after.rules = declared builder.rules ++ [copy] := by
  have lowers := lower_goesBy written.body (builder.beginRule written.name)
  rw [defines.body] at lowers
  obtain ⟨body, middle, lowers, same, adds⟩ := lowers
  have absent : middle.localRule? written.name = none := by
    rw [defines.name, Builder.localRule?, ← find?_declared named.no_hyphen, adds.declared]
    rw [List.find?_eq_none]
    intro other mem isNamed
    exact new (List.mem_map.mpr ⟨other, mem, eq_of_beq isNamed⟩)
  obtain ⟨after, changes, installs⟩ := Builder.define_of_absent absent body
  refine ⟨⟨written.name, body⟩, after, ?_, ⟨defines.name, same⟩, ?_⟩
  · refine run_bind_eq_ok_iff.mpr ⟨_, _, rfl, run_bind_eq_ok_iff.mpr ⟨body, middle, lowers, ?_⟩⟩
    rw [defines.operator]
    dsimp only
    rw [BuilderM.run_change, changes]
  · have isDeclared : Rule.isInline ⟨written.name, body⟩ = false :=
      Bool.eq_false_iff.mpr fun isInline =>
        (defines.name ▸ named).no_hyphen (isInline_iff.mp isInline)
    rw [installs.rules, declared_installIn isDeclared, adds.declared]
    exact Builder.installIn_of_not_mem (defines.name ▸ new)

/-- Printed rules are installed as copies, in order. -/
theorem installRules_copies
    {writtens : List Source.RuleDeclaration}
    (defines : List.Forall₂ Source.RuleDeclaration.Defines writtens rules)
    (named : ∀ rule ∈ rules, IsName rule.name)
    (distinct : ((declared builder.rules).map Rule.name ++ rules.map Rule.name).Nodup) :
    ∃ copies after, (installRules writtens).run.run builder = (.ok (), after) ∧
      List.Forall₂ Rule.Copies copies rules ∧
        declared after.rules = declared builder.rules ++ copies := by
  induction defines generalizing builder with
  | nil => exact ⟨[], builder, rfl, .nil, (List.append_nil _).symm⟩
  | @cons written rule writtens rules first others inductionHypothesis =>
      obtain ⟨namedRule, named⟩ := List.forall_mem_cons.mp named
      have new : rule.name ∉ (declared builder.rules).map Rule.name := fun mem =>
        (List.nodup_append.mp distinct).2.2 _ mem _ (List.mem_cons_self ..) rfl
      obtain ⟨copy, middle, installs, copies, same⟩ := installRule_copies first namedRule new
      have distinctOthers :
          ((declared middle.rules).map Rule.name ++ rules.map Rule.name).Nodup := by
        rw [same, List.map_append, List.append_assoc]
        rw [List.map_cons] at distinct
        simpa [copies.name] using distinct
      obtain ⟨otherCopies, after, installsOthers, copiesOthers, sameOthers⟩ :=
        inductionHypothesis named distinctOthers
      refine ⟨copy :: otherCopies, after, ?_, .cons copies copiesOthers, ?_⟩
      · exact run_bind_eq_ok_iff.mpr ⟨(), middle, installs, installsOthers⟩
      · rw [sameOthers, same, List.append_assoc, List.singleton_append]

end Rules

/-- The names and bodies of printed rules come from source. -/
theorem written_of_defines
    {rules : List Rule}
    {writtens : List Source.RuleDeclaration}
    (defines : List.Forall₂ Source.RuleDeclaration.Defines writtens rules)
    (prints : ∀ rule ∈ rules, PrintsRule rule) :
    ∀ written ∈ writtens, IsName written.name ∧
      ∀ expr, written.body.outline? = some expr → expr.Outlined := by
  induction defines with
  | nil => exact nofun
  | cons first _ inductionHypothesis =>
      obtain ⟨printsRule, prints⟩ := List.forall_mem_cons.mp prints
      refine List.forall_mem_cons.mpr ⟨⟨first.name ▸ printsRule.name, fun expr outlines => ?_⟩,
        inductionHypothesis prints⟩
      rw [first.body] at outlines
      cases outlines
      exact printsRule.outlined

/-- A printed grammar is assembled again over the super-grammar it is given. -/
theorem assemble_copies
    {grammar parent : Grammar}
    {declaration : Source.Declaration}
    (declares : declaration.Declares grammar)
    (prints : PrintsGrammar grammar)
    (settled : grammar.Settled)
    (inherited : parent.Settled) :
    ∃ after, (assemble parent declaration).run.run Builder.empty = (.ok (), after) ∧
      after.Settled grammar.name parent ∧
        List.Forall₂ Rule.Copies (declared after.rules) (declared grammar.rules) := by
  have distinct : ((declared (Builder.over declaration.name parent).rules).map Rule.name ++
      (declared grammar.rules).map Rule.name).Nodup :=
    settled.rules.distinct
  obtain ⟨copies, after, ends, areCopies, same⟩ :=
    installRules_copies declares.rules settled.rules.names distinct
  have written := written_of_defines declares.rules prints.rules
  have settledAfter := assemble_settled (fun rule mem => (written rule mem).1)
    (fun rule mem => (written rule mem).2) inherited ends
  refine ⟨after, ends, declares.name ▸ settledAfter, ?_⟩
  rw [same]
  exact areCopies

/-! ## Loading copies -/

namespace WorkspaceM

variable
  {grammar parent : Grammar}
  {before copies : List Grammar}
  {declaration : Source.Declaration}

/-- Looking up a name among copies finds the copy of what it finds. -/
theorem find?_copies
    {name : String}
    (areCopies : List.Forall₂ Grammar.Copies copies before)
    (found : before.find? (fun other => other.name == name) = some grammar) :
    ∃ copy, copies.find? (fun other => other.name == name) = some copy ∧
      copy.Copies grammar := by
  induction areCopies with
  | nil => cases found
  | @cons copy original copies before isCopy _ inductionHypothesis =>
      rw [List.find?_cons] at found ⊢
      rw [isCopy.name]
      split at found
      · cases found
        exact ⟨copy, rfl, isCopy⟩
      · exact inductionHypothesis found

/-- The declaration of a printed grammar finds the copy of its super-grammar. -/
theorem superGrammar_copies
    (declares : declaration.Declares grammar)
    (inherits : grammar.parent = some parent)
    (inheritable : Inheritable before parent)
    (derived : ∀ grammar ∈ before, grammar.parent.isSome)
    (areCopies : List.Forall₂ Grammar.Copies copies before) :
    ∃ copy, superGrammar none copies declaration = pure copy ∧ copy.name = parent.name ∧
      copy.isBase = parent.isBase ∧ copy.Settled := by
  have names := declares.inherits
  rw [Grammar.parentRef?, inherits] at names
  rcases inheritable with rfl | found
  · refine ⟨baseGrammar, ?_, rfl, rfl, Grammar.settled_baseGrammar⟩
    rw [superGrammar, names]
    rfl
  · have earlier := List.mem_reverse.mp (List.mem_of_find?_eq_some found)
    have notBase := Grammar.not_isBase (derived parent earlier)
    obtain ⟨copy, foundCopy, isCopy⟩ :=
      find?_copies (List.rel_reverse areCopies) found
    have parents : copy.parent.isSome := by
      have parents := congrArg Option.isSome isCopy.parent
      rw [Option.isSome_map, Option.isSome_map, derived parent earlier] at parents
      exact parents
    refine ⟨copy, ?_, isCopy.name, ?_, isCopy.settled⟩
    · rw [superGrammar, names]
      simp [notBase, foundCopy]
    · rw [notBase, Grammar.not_isBase parents]

/-- A printed grammar is loaded again as a copy. -/
theorem load_copies
    (declares : declaration.Declares grammar)
    (prints : PrintsGrammar grammar)
    (settled : grammar.Settled)
    (inherits : grammar.parent = some parent)
    (inheritable : Inheritable before parent)
    (derived : ∀ grammar ∈ before, grammar.parent.isSome)
    (areCopies : List.Forall₂ Grammar.Copies copies before)
    (workspace : Workspace) :
    ∃ copy after, (load none {} copies declaration).run.run workspace = (.ok copy, after) ∧
      copy.Copies grammar := by
  obtain ⟨above, findsParent, sameName, sameBase, settledAbove⟩ :=
    superGrammar_copies declares inherits inheritable derived areCopies
  obtain ⟨builder, assembles, settledBuilder, copiesRules⟩ :=
    assemble_copies declares prints settled settledAbove
  have assembles : (assemble above declaration).run Builder.empty = (.ok (), builder) := assembles
  obtain ⟨name, copyInherits, rules⟩ := settledBuilder.build workspace.nextSerial
  obtain ⟨after, ends⟩ : ∃ after, (load none {} copies declaration).run.run workspace =
      (.ok (builder.build workspace.nextSerial), after) := by
    rw [load, findsParent, pure_bind, assembles]
    exact ⟨_, rfl⟩
  refine ⟨builder.build workspace.nextSerial, after, ends,
    ⟨name, ?_, ?_, copiesRules, ⟨name ▸ settled.name, rules⟩⟩⟩
  · rw [copyInherits, inherits, Option.map_some, Option.map_some, sameName]
  · rw [Grammar.parentRef?, Grammar.parentRef?, copyInherits, inherits]
    dsimp only
    rw [sameBase, sameName]

/-- Printed grammars are loaded again as copies, in order. -/
theorem loadEach_copies
    {later : List Grammar}
    {declarations : List Source.Declaration}
    (placed : Placed before later)
    (prints : ∀ grammar ∈ later, PrintsGrammar grammar)
    (declares : List.Forall₂ Source.Declaration.Declares declarations later)
    (derived : ∀ grammar ∈ before, grammar.parent.isSome)
    (areCopies : List.Forall₂ Grammar.Copies copies before)
    (workspace : Workspace) :
    ∃ others after,
      (loadEach none {} copies declarations).run.run workspace = (.ok (copies ++ others), after) ∧
        List.Forall₂ Grammar.Copies others later := by
  induction placed generalizing declarations copies workspace with
  | nil =>
      cases declares
      exact ⟨[], workspace, by rw [List.append_nil]; rfl, .nil⟩
  | @cons before later grammar parent settled inherits inheritable _ inductionHypothesis =>
      cases declares with
      | @cons declaration _ declarations _ declaresFirst declares =>
          obtain ⟨printsFirst, prints⟩ := List.forall_mem_cons.mp prints
          obtain ⟨copy, middle, loads, isCopy⟩ := load_copies declaresFirst printsFirst settled
            inherits inheritable derived areCopies workspace
          have derivedNext : ∀ other ∈ before ++ [grammar], other.parent.isSome :=
            List.forall_mem_append.mpr ⟨derived,
              List.forall_mem_singleton.mpr (Option.isSome_iff_exists.mpr ⟨parent, inherits⟩)⟩
          obtain ⟨others, after, loadsOthers, othersAreCopies⟩ :=
            inductionHypothesis prints declares derivedNext
              (List.rel_append areCopies (.cons isCopy .nil)) middle
          refine ⟨copy :: others, after, run_bind_eq_ok_iff.mpr ⟨copy, middle, loads, ?_⟩,
            .cons isCopy othersAreCopies⟩
          rw [loadsOthers, List.append_assoc, List.singleton_append]

end WorkspaceM

/-! ## Renamings -/

/-- The rule with other names for the inline expressions in its body. -/
def Rule.rename (names : String → String) (rule : Rule) : Rule :=
  ⟨rule.name, rule.body.rename names⟩

/-- The names of the inline expressions in the declared rules of a grammar. -/
def Grammar.inlineNames (grammar : Grammar) : List String :=
  (declared grammar.rules).flatMap fun rule => rule.body.inlineNames

/-- The grammar has the name of the other, a super-grammar of the same name and
the same written form. One renaming, which keeps different names apart, turns
the declared rules of the other into its own, in order. -/
structure Grammar.Reprints (copy grammar : Grammar) : Prop where
  name : copy.name = grammar.name
  parent : copy.parent.map Grammar.name = grammar.parent.map Grammar.name
  rules :
    ∃ names, declared copy.rules = (declared grammar.rules).map (Rule.rename names) ∧
      Set.InjOn names {name | name ∈ grammar.inlineNames}
  written : copy.render = grammar.render

section Renaming

variable
  {grammar copy : Grammar}
  {rules copies : List Rule}

/-- Inline expressions in declared rules all have different names. -/
theorem Grammar.Settled.nodup_inlineNames
    (settled : grammar.Settled) :
    grammar.inlineNames.Nodup := by
  unfold Grammar.inlineNames
  rw [List.nodup_flatMap]
  refine ⟨fun rule mem => (settled.body mem).distinct, ?_⟩
  have apart := List.pairwise_map.mp settled.rules.distinct
  refine apart.imp_of_mem fun {first second} mem memOther different => ?_
  intro name inFirst inSecond
  obtain ⟨ordinal, rfl⟩ := (settled.body mem).named name inFirst
  obtain ⟨other, same⟩ := (settled.body memOther).named _ inSecond
  exact different (eq_of_inlineRuleName_eq (settled.rules.names _ mem).no_hyphen
    (settled.rules.names _ memOther).no_hyphen same)

/-- The bodies of some rules as the items of one sequence. -/
def together (rules : List Rule) : Expr :=
  .seq (rules.map Rule.body)

theorem inlineNames_together :
    (together rules).inlineNames = rules.flatMap fun rule => rule.body.inlineNames := by
  change Expr.itemInlineNames (rules.map Rule.body) = _
  induction rules with
  | nil => rfl
  | cons rule rules inductionHypothesis =>
      rw [List.map_cons, List.flatMap_cons, ← inductionHypothesis]
      exact List.map_append

theorem anonymous_together
    (areCopies : List.Forall₂ Rule.Copies copies rules) :
    (together copies).anonymous = (together rules).anonymous := by
  refine congrArg Expr.seq ?_
  induction areCopies with
  | nil => rfl
  | cons isCopy _ inductionHypothesis => exact congrArg₂ List.cons isCopy.body inductionHypothesis

theorem eq_map_rename
    {names : String → String}
    (areCopies : List.Forall₂ Rule.Copies copies rules)
    (renamed : (together rules).rename names = together copies) :
    copies = rules.map (Rule.rename names) := by
  have bodies := Expr.seq.inj renamed
  clear renamed
  induction areCopies with
  | nil => rfl
  | @cons copy rule copies rules isCopy _ inductionHypothesis =>
      obtain ⟨body, bodies⟩ := List.cons.inj bodies
      have first : copy = rule.rename names := by
        cases copy
        exact congrArg₂ Rule.mk isCopy.name body.symm
      rw [List.map_cons, ← inductionHypothesis bodies, ← first]

/-- The written form shows the super-grammar as the reference does. -/
theorem Grammar.renderParent_eq (grammar : Grammar) :
    grammar.renderParent =
      match grammar.parentRef? with
      | some reference => " : " ++ reference.name
      | none => "" := by
  unfold renderParent parentRef?
  cases grammar.parent with
  | none => rfl
  | some parent => cases isBase : parent.isBase <;> simp [isBase]

theorem renderRule_rename (names : String → String) (rule : Rule) :
    Grammar.renderRule (rule.rename names) = Grammar.renderRule rule := by
  rw [Grammar.renderRule, Rule.rename, Expr.render_rename, Grammar.renderRule]

/-- A copy of a settled grammar differs from it in the names of inline rules only. -/
theorem Grammar.Copies.reprints
    (isCopy : copy.Copies grammar)
    (settled : grammar.Settled) :
    copy.Reprints grammar := by
  have distinct : (together (declared grammar.rules)).inlineNames.Nodup :=
    inlineNames_together ▸ settled.nodup_inlineNames
  have distinctCopy : (together (declared copy.rules)).inlineNames.Nodup :=
    inlineNames_together ▸ isCopy.settled.nodup_inlineNames
  obtain ⟨names, renamed, injective⟩ :=
    Expr.renames_of_anonymous (anonymous_together isCopy.rules).symm distinct distinctCopy
  have same := eq_map_rename isCopy.rules renamed
  refine ⟨isCopy.name, isCopy.parent, ⟨names, same, ?_⟩, ?_⟩
  · rw [inlineNames_together] at injective
    exact injective
  · have written : (declared copy.rules).map renderRule =
        (declared grammar.rules).map renderRule := by
      rw [same, List.map_map]
      exact List.map_congr_left fun rule _ => renderRule_rename names rule
    unfold declared at written
    rw [render, render, isCopy.name, renderParent_eq, isCopy.parentRef, ← renderParent_eq, written]

theorem reprints_of_copies
    {copies grammars : List Grammar}
    (areCopies : List.Forall₂ Grammar.Copies copies grammars)
    (settled : ∀ grammar ∈ grammars, Grammar.Settled grammar) :
    List.Forall₂ Grammar.Reprints copies grammars := by
  induction areCopies with
  | nil => exact .nil
  | cons isCopy _ inductionHypothesis =>
      obtain ⟨settledFirst, settled⟩ := List.forall_mem_cons.mp settled
      exact .cons (isCopy.reprints settledFirst) (inductionHypothesis settled)

end Renaming

/-- Grammars that were loaded from a source without a namespace are printed as a
text that loads again as the same grammars, but for the names of inline rules,
if every declared rule is legible. -/
theorem printed_grammars_load_again
    {options : LoadOptions}
    {workspace : Workspace}
    {source : String}
    {grammars : List Grammar}
    (loads : ((WorkspaceM.loadAll none options source).run.run workspace).1 = .ok grammars)
    (legible : ∀ grammar ∈ grammars, ∀ rule ∈ declared grammar.rules, rule.body.isLegible)
    (other : Workspace) :
    ∃ copies,
      ((WorkspaceM.loadAll none {}
        ("\n".intercalate (grammars.map Grammar.render))).run.run other).1 = .ok copies ∧
      List.Forall₂ Grammar.Reprints copies grammars := by
  have placed : Placed [] grammars :=
    (WorkspaceM.loadAll_placed source workspace trivial).2 grammars loads
  have prints := placed.prints nofun legible
  obtain ⟨declarations, parses, declares⟩ := Source.parseAll_render prints
  obtain ⟨copies, after, loadsAgain, areCopies⟩ :=
    WorkspaceM.loadEach_copies placed prints declares nofun .nil other
  refine ⟨copies, ?_, ?_⟩
  · rw [WorkspaceM.loadAll, parses]
    change ((WorkspaceM.loadEach none {} [] declarations >>= fun batch =>
      WorkspaceM.registerBatch none {} batch).run.run other).1 = _
    rw [run_bind_task, loadsAgain]
    rfl
  · exact reprints_of_copies areCopies placed.settled

/-- An extended inline rule, a lenient object pattern and a regular expression. -/
theorem inherited_grammars_load_again :
    ∃ first second,
      ((WorkspaceM.loadAll none {}
        "grammar A \x7bR=#('a')*\x7d grammar B:A \x7bR+=#(/\"b\"/)+ \x7bk:_,...\x7d\x7d").run.run
          {}).1 = .ok [first, second] ∧
      (∀ grammar ∈ [first, second], ∀ rule ∈ declared grammar.rules, rule.body.isLegible) ∧
      ∃ copies,
        ((WorkspaceM.loadAll none {}
          ("\n".intercalate ([first, second].map Grammar.render))).run.run {}).1 = .ok copies ∧
        List.Forall₂ Grammar.Reprints copies [first, second] := by
  obtain ⟨grammars, loads, passes⟩ := exists_ok_of_any
    (by decide +kernel :
      ((WorkspaceM.loadAll none {}
        "grammar A \x7bR=#('a')*\x7d grammar B:A \x7bR+=#(/\"b\"/)+ \x7bk:_,...\x7d\x7d").run.run
          {}).1.toOption.any
        (fun grammars => decide (grammars.length = 2 ∧
          ∀ grammar ∈ grammars, ∀ rule ∈ declared grammar.rules, rule.body.isLegible)) = true)
  obtain ⟨two, legible⟩ := of_decide_eq_true passes
  obtain ⟨first, second, rfl⟩ := List.length_eq_two.mp two
  exact ⟨first, second, loads, legible, printed_grammars_load_again loads legible {}⟩

/-- Whether a text is refused as malformed. -/
def isRefused (source : String) : Bool :=
  match ((WorkspaceM.loadAll none {} source).run.run {}).1 with
  | .error (.malformedSource _) => true
  | _ => false

/-- The text declares one grammar, whose printed text is refused. -/
def PrintsIllegibly (source : String) : Prop :=
  ∃ grammar,
    ((WorkspaceM.loadAll none {} source).run.run {}).1 = .ok [grammar] ∧
      isRefused grammar.render = true

theorem printsIllegibly_of_any
    {source : String}
    (passes : (((WorkspaceM.loadAll none {} source).run.run {}).1.toOption.any fun grammars =>
      decide (grammars.length = 1 ∧ ∀ grammar ∈ grammars, isRefused grammar.render)) = true) :
    PrintsIllegibly source := by
  obtain ⟨grammars, loads, holds⟩ := exists_ok_of_any passes
  obtain ⟨one, refused⟩ := of_decide_eq_true holds
  obtain ⟨grammar, rfl⟩ := List.length_eq_one_iff.mp one
  exact ⟨grammar, loads, refused grammar (List.mem_singleton_self grammar)⟩

/-- A star after a regular expression opens a comment once it is printed, and a
key with a superscript is no identifier: neither grammar loads again. -/
theorem illegible_grammars_do_not_load_again :
    PrintsIllegibly "grammar G \x7br=/\"a\"/ *\x7d" ∧
      PrintsIllegibly "grammar G \x7br=\x7b\"a²\":_\x7d\x7d" :=
  ⟨printsIllegibly_of_any (by decide +kernel), printsIllegibly_of_any (by decide +kernel)⟩

end Heirloom
