import Heirloom.Proofs.Registry.Increments

/-!
# Super-grammars of registered grammars

Super-grammars are found while a source is loaded, before any of its grammars is
registered. A name alone means the last grammar of the source before that has it, or else
the one that is registered. So a grammar that gets its name lies over a registered one,
unless it was declared after a grammar that did not get its name: one whose name was taken,
or was declared twice. Where conflicts are rejected, a load with such a grammar fails.
-/

namespace Heirloom
namespace WorkspaceM

variable
  {space name : String}
  {options : LoadOptions}
  {found : String → Option Grammar}
  {batch : List Grammar}
  {declaration : Source.Declaration}

/-! ## What is inherited -/

/-- What a name alone means after some grammars of the source: the last of them that has it,
or else the grammar that is found. -/
def meaning? (found : String → Option Grammar) (batch : List Grammar) (name : String) :
    Option Grammar :=
  (batch.reverse.find? fun grammar => grammar.name == name).or (found name)

/-- Declarations are loaded to these grammars after others: each has the declared name, and
lies over what the name of its super-grammar means if that is named alone. -/
inductive Descend (found : String → Option Grammar) :
    List Grammar → List Source.Declaration → List Grammar → Prop
  | nil {batch : List Grammar} : Descend found batch [] []
  | cons {batch grammars : List Grammar} {grammar : Grammar} {declaration : Source.Declaration}
      {declarations : List Source.Declaration}
      (named : grammar.name = declaration.name)
      (inherits : ∀ name, declaration.inherits = some ⟨none, name⟩ →
        ∃ parent, meaning? found batch name = some parent ∧ grammar.parent = some parent)
      (rest : Descend found (batch ++ [grammar]) declarations grammars) :
      Descend found batch (declaration :: declarations) (grammar :: grammars)

/-- The grammar of a name comes from the first declaration of that name. -/
theorem Descend.of_find?
    {declarations : List Source.Declaration}
    {grammars : List Grammar}
    {grammar : Grammar}
    (descend : Descend found batch declarations grammars)
    (held : (grammars.find? fun other => other.name == name) = some grammar) :
    ∃ (earlier : List Source.Declaration) (declaration : Source.Declaration)
        (later : List Source.Declaration),
      declarations = earlier ++ declaration :: later ∧
      declaration.name = name ∧ name ∉ earlier.map Source.Declaration.name ∧
      ∃ loaded others : List Grammar, grammars = loaded ++ others ∧
        loaded.map Grammar.name = earlier.map Source.Declaration.name ∧
        ∀ other, declaration.inherits = some ⟨none, other⟩ →
          ∃ parent, meaning? found (batch ++ loaded) other = some parent ∧
            grammar.parent = some parent := by
  induction descend with
  | nil => cases held
  | @cons batch grammars first declaration declarations named inherits _ inductionHypothesis =>
      rw [List.find?_cons] at held
      split at held
      · next same =>
          obtain rfl := Option.some.inj held
          have declared : declaration.name = name := named ▸ eq_of_beq same
          refine ⟨[], declaration, declarations, rfl, declared, List.not_mem_nil, [], _, rfl, rfl,
            ?_⟩
          rwa [List.append_nil]
      · next different =>
          obtain ⟨earlier, last, later, rfl, declared, isFirst, loaded, others, rfl, names, lies⟩ :=
            inductionHypothesis held
          refine ⟨declaration :: earlier, last, later, rfl, declared, ?_, first :: loaded, others,
            rfl, ?_, ?_⟩
          · rw [List.map_cons, List.mem_cons, not_or, ← named]
            exact ⟨Ne.symm (beq_eq_false_iff_ne.mp different), isFirst⟩
          · rw [List.map_cons, List.map_cons, named, names]
          · rwa [List.append_assoc, List.singleton_append] at lies

/-! ## Loading -/

variable {before : Registry}

/-- What is found in the namespace does not change while super-grammars are found. -/
theorem superGrammar_means :
    Keeps (fun workspace => before.OpensOnly (fun _ => True) workspace.registry)
      (fun parent => ∀ name, declaration.inherits = some ⟨none, name⟩ →
        meaning? (before.find? space) batch name = some parent)
      (superGrammar (some space) batch declaration) := by
  have finds : Keeps (fun workspace => before.OpensOnly (fun _ => True) workspace.registry)
      (fun _ => True) (superGrammar (some space) batch declaration) :=
    superGrammar_keeps trivial (fun _ _ => trivial) (fun _ _ _ _ _ _ _ => trivial)
      fun _ _ => Registry.OpensOnly.bearsCreate fun _ => trivial
  intro workspace opens
  refine ⟨(finds workspace opens).1, fun parent ends name inherits => ?_⟩
  rw [superGrammar, inherits] at ends
  simp only [Option.isNone_none, if_true] at ends
  rw [meaning?]
  cases earlier : batch.reverse.find? fun grammar => grammar.name == name with
  | some grammar =>
      rw [earlier] at ends
      cases ends
      rfl
  | none =>
      simp only [earlier, resolve, run_grammar, opens.find?] at ends
      rw [Option.none_or]
      cases registered : before.find? space name with
      | some grammar =>
          rw [registered] at ends
          cases ends
          rfl
      | none =>
          rw [registered] at ends
          cases ends

theorem loadEach_descend
    (declarations : List Source.Declaration) :
    Keeps (fun workspace => before.OpensOnly (fun _ => True) workspace.registry)
      (fun grammars => ∃ later, grammars = batch ++ later ∧
        Descend (before.find? space) batch declarations later)
      (loadEach (some space) options batch declarations) := by
  induction declarations generalizing batch with
  | nil => exact Keeps.pure ⟨[], (List.append_nil _).symm, .nil⟩
  | cons declaration declarations inductionHypothesis =>
      refine (load_keeps (before.OpensOnly fun _ => True) superGrammar_means).bind
        fun grammar loaded => ?_
      obtain ⟨⟨parent, means, assembles⟩, -⟩ := loaded
      refine inductionHypothesis.weaken fun grammars loaded => ?_
      obtain ⟨later, rfl, descend⟩ := loaded
      refine ⟨grammar :: later, by rw [List.append_assoc, List.singleton_append], ?_⟩
      exact .cons (name_of_assembles assembles)
        (fun name inherits => ⟨parent, means name inherits, parent_of_assembles assembles⟩) descend

/-- A load that ends well registers a batch, which was loaded while nothing else changed about
what is registered. -/
theorem exists_descend_of_loadAll
    {source : String}
    {workspace after : Workspace}
    {returned : List Grammar}
    (registers : options.register = true)
    (known : (workspace.registry.space? space).isSome)
    (loads : (loadAll (some space) options source).run.run workspace = (.ok returned, after)) :
    ∃ declarations batch middle,
      Source.parseAll source = .ok declarations ∧
      Descend (workspace.registry.find? space) [] declarations batch ∧
      workspace.registry.OpensOnly (fun _ => True) middle ∧
      middle.Enrolled space (batch.map Grammar.name) batch returned after.registry := by
  cases parses : Source.parseAll source with
  | error fault =>
      rw [loadAll, parses] at loads
      cases loads
  | ok declarations =>
      rw [loadAll, parses] at loads
      change (loadEach (some space) options [] declarations >>= _).run.run workspace = _ at loads
      obtain ⟨batch, middle, ends, registersBatch⟩ := run_bind_eq_ok_iff.mp loads
      have keeps : Keeps
          (fun middle => workspace.registry.OpensOnly (fun _ => True) middle.registry)
          (fun grammars => ∃ later, grammars = [] ++ later ∧
            Descend (workspace.registry.find? space) [] declarations later)
          (loadEach (some space) options [] declarations) := loadEach_descend declarations
      obtain ⟨opens, descends⟩ := keeps workspace .refl
      rw [ends] at opens descends
      obtain ⟨_, rfl, descend⟩ := descends batch rfl
      refine ⟨declarations, _, middle.registry, rfl, descend, opens, ?_⟩
      have stillKnown : ∀ target, some space = some target →
          (middle.registry.space? target).isSome := by
        rintro _ ⟨⟩
        exact opens.isSome_space? known
      rcases registerBatch_cases stillKnown with ⟨error, fails⟩ | ⟨_, _, succeeds, enrolls⟩
      · rw [fails] at registersBatch
        cases registersBatch
      · rw [succeeds] at registersBatch
        cases registersBatch
        exact enrolls space rfl registers

/-- A grammar that an unqualified name means is registered under it afterwards, if it is found
or it is the only one of that name before. -/
theorem find?_of_meaning
    {middle after : Registry}
    {declared : List String}
    {loaded others returned : List Grammar}
    {parent : Grammar}
    (enrolled : middle.Enrolled space declared (loaded ++ others) returned after)
    (once : name ∈ loaded.map Grammar.name →
      middle.find? space name = none ∧ (loaded.map Grammar.name).count name = 1)
    (means : meaning? (middle.find? space) loaded name = some parent) :
    after.find? space name = some parent := by
  rw [enrolled.holders, List.find?_append]
  rw [meaning?] at means
  by_cases isLoaded : name ∈ loaded.map Grammar.name
  · obtain ⟨free, single⟩ := once isLoaded
    rw [find?_reverse_of_count single.le, free, Option.or_none] at means
    rw [free, means]
    rfl
  · have unloaded : (loaded.reverse.find? fun grammar => grammar.name == name) = none := by
      simpa using isLoaded
    rw [unloaded, Option.none_or] at means
    rw [means, Option.some_or]

/-- Whether the declarations have these names and super-grammars, and no rules. -/
def declaresBare
    (headings : List (String × Option GrammarRef))
    (declarations : List Source.Declaration) : Bool :=
  decide (declarations.map (fun declaration => (declaration.name, declaration.inherits)) =
    headings) && declarations.all fun declaration => declaration.rules.isEmpty

theorem eq_of_declaresBare
    {headings : List (String × Option GrammarRef)}
    {declarations : List Source.Declaration}
    (bare : declaresBare headings declarations = true) :
    declarations = headings.map fun heading => ⟨heading.1, heading.2, []⟩ := by
  obtain ⟨sameHeadings, noRules⟩ := Bool.and_eq_true_iff.mp bare
  rw [← of_decide_eq_true sameHeadings, List.map_map]
  refine (List.map_id declarations).symm.trans (List.map_congr_left fun declaration mem => ?_)
  have empty := List.isEmpty_iff.mp (List.all_eq_true.mp noRules declaration mem)
  cases declaration
  cases empty
  rfl

/-- Each grammar that a load has newly registered comes from the first declaration of its
name. It lies over the grammar that is registered under the name of its super-grammar, if
that is named alone and, where the first grammar of a name is kept, an earlier declaration
of that name has got it. -/
theorem registered_grammars_inherit_from_registered
    {space : String}
    {options : LoadOptions}
    (registers : options.register = true)
    {source : String}
    {before after : Workspace}
    {returned : List Grammar}
    (known : (before.registry.space? space).isSome)
    (loads : (loadAll (some space) options source).run.run before = (.ok returned, after))
    {name : String}
    {grammar : Grammar}
    (free : before.registry.find? space name = none)
    (held : after.registry.find? space name = some grammar) :
    ∃ earlier declaration later,
      Source.parseAll source = .ok (earlier ++ declaration :: later) ∧
      declaration.name = name ∧ name ∉ earlier.map Source.Declaration.name ∧
      ∀ other, declaration.inherits = some ⟨none, other⟩ →
        (before.registry.policy = .keepFirst →
          other ∈ earlier.map Source.Declaration.name →
            before.registry.find? space other = none ∧
              (earlier.map Source.Declaration.name).count other = 1) →
        ∃ parent, grammar.parent = some parent ∧
          after.registry.find? space other = some parent := by
  obtain ⟨declarations, batch, middle, parses, descend, opens, enrolled⟩ :=
    exists_descend_of_loadAll registers known loads
  have isFirst : (batch.find? fun other => other.name == name) = some grammar := by
    rwa [enrolled.holders, opens.find?, free, Option.none_or] at held
  obtain ⟨earlier, declaration, later, rfl, declared, first, loaded, others, rfl, names, lies⟩ :=
    descend.of_find? isFirst
  refine ⟨earlier, declaration, later, parses, declared, first, fun other inherits kept => ?_⟩
  obtain ⟨parent, means, inherited⟩ := lies other inherits
  rw [List.nil_append] at means
  refine ⟨parent, inherited, find?_of_meaning enrolled ?_ ?_⟩
  · intro isLoaded
    cases policy : before.registry.policy with
    | keepFirst =>
        rw [opens.find?, names]
        exact kept policy (names ▸ isLoaded)
    | reject =>
        -- Neither a taken name nor a repeated one gets through the registration.
        obtain ⟨distinct, unheld⟩ := enrolled.fresh (opens.policy.trans policy)
        rw [List.map_append] at distinct unheld
        refine ⟨unheld other (List.mem_append_left _ isLoaded), ?_⟩
        exact List.count_eq_one_of_mem (List.nodup_append.mp distinct).1 isLoaded
  · have same : middle.find? space = before.registry.find? space := funext fun _ => opens.find?
    rwa [same]

/-- Where the first grammar of a name is kept, a child of a new grammar lies over it. -/
theorem child_of_new_grammar_inherits_from_it :
    let before : Workspace :=
      { registry := { policy := .keepFirst, spaces := [⟨"app", [("C", ⟨0, "C", [], none⟩)]⟩] } }
    ∃ returned after child parent,
      (loadAll (some "app") {} "grammar A\x7b\x7d grammar B:A\x7b\x7d").run.run before =
        (.ok returned, after) ∧
      before.registry.find? "app" "B" = none ∧
      after.registry.find? "app" "B" = some child ∧ child.parent = some parent ∧
      after.registry.find? "app" "A" = some parent := by
  intro before
  obtain ⟨declarations, reads, bare⟩ := exists_ok_of_any
    (by decide +kernel :
      (Source.parseAll "grammar A\x7b\x7d grammar B:A\x7b\x7d").toOption.any
        (declaresBare [("A", none), ("B", some ⟨none, "A"⟩)]) = true)
  obtain rfl := eq_of_declaresBare bare
  have loads : loadAll (some "app") {} "grammar A\x7b\x7d grammar B:A\x7b\x7d" =
      (loadEach (some "app") {} [] [⟨"A", none, []⟩, ⟨"B", some ⟨none, "A"⟩, []⟩] >>=
        registerBatch (some "app") {}) := by
    rw [loadAll, reads]
    rfl
  obtain ⟨returned, after, ends, -⟩ := exists_run_eq_ok_of_any
    (by decide +kernel :
      ((loadEach (some "app") {} [] [⟨"A", none, []⟩, ⟨"B", some ⟨none, "A"⟩, []⟩] >>=
        registerBatch (some "app") {}).run.run before).1.toOption.any (fun _ => true) = true)
  have registered :
      (((loadEach (some "app") {} [] [⟨"A", none, []⟩, ⟨"B", some ⟨none, "A"⟩, []⟩] >>=
        registerBatch (some "app") {}).run.run before).2.registry.find? "app" "B").isSome =
          true := by decide +kernel
  rw [ends] at registered
  obtain ⟨child, held⟩ := Option.isSome_iff_exists.mp registered
  rw [← loads] at ends
  obtain ⟨earlier, declaration, later, parses, declared, -, lies⟩ :=
    registered_grammars_inherit_from_registered rfl rfl ends rfl held
  have split := Except.ok.inj (reads.symm.trans parses)
  rcases earlier with _ | ⟨first, _ | ⟨second, earlier⟩⟩
  · obtain ⟨rfl, -⟩ := List.cons.inj split
    exact absurd declared (by decide)
  · obtain ⟨rfl, rest⟩ := List.cons.inj split
    obtain ⟨rfl, -⟩ := List.cons.inj rest
    obtain ⟨parent, inherits, parentHeld⟩ := lies "A" rfl fun _ _ => ⟨rfl, rfl⟩
    exact ⟨returned, after, child, parent, ends, rfl, held, inherits, parentHeld⟩
  · simp at split

/-- Where the first grammar of a name is kept, a child of the second one lies over a grammar
that is not registered. -/
theorem child_of_dropped_grammar_inherits_from_it :
    let before : Workspace :=
      { registry := { policy := .keepFirst, spaces := [⟨"app", [("A", ⟨0, "A", [], none⟩)]⟩] } }
    let ran := (loadAll (some "app") {} "grammar A\x7b\x7d grammar B:A\x7b\x7d").run.run before
    ran.1.toOption.isSome = true ∧
    before.registry.find? "app" "B" = none ∧
    ((ran.2.registry.find? "app" "B").bind Grammar.parent).map Grammar.serial = some 1 ∧
    (ran.2.registry.find? "app" "A").map Grammar.serial = some 0 := by
  decide +kernel

end WorkspaceM
end Heirloom
