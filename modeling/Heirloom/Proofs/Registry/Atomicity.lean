import Heirloom.Proofs.Lowering
import Heirloom.Proofs.Registration

/-!
# Loading all or nothing

Finding super-grammars opens namespaces, but registers nothing. The grammars of
a source are registered together at the end, and a registry that rejects
conflicts looks for them before it registers the first. So a load that fails
leaves every namespace with the grammars it had, and one that ends well has
enrolled all grammars of the source in one namespace.
-/

namespace Heirloom

/-! ## Opening namespaces -/

namespace Registry

/-- Nothing differs but for new empty namespaces, each of which is wanted. -/
def OpensOnly (wanted : String → Prop) (before after : Registry) : Prop :=
  ∃ opened : List String, after = before.withSpaces opened ∧ opened.Nodup ∧
    ∀ name ∈ opened, before.space? name = none ∧ wanted name

namespace OpensOnly

variable
  {wanted : String → Prop}
  {before after : Registry}
  {space name : String}

theorem refl : before.OpensOnly wanted before :=
  ⟨[], withSpaces_nil.symm, .nil, nofun⟩

theorem isOpen
    (opens : before.OpensOnly wanted after) :
    after.isOpen = before.isOpen := by
  obtain ⟨opened, rfl, -⟩ := opens
  exact isOpen_withSpaces

theorem policy
    (opens : before.OpensOnly wanted after) :
    after.policy = before.policy := by
  obtain ⟨opened, rfl, -⟩ := opens
  exact policy_withSpaces

theorem entries
    (opens : before.OpensOnly wanted after) :
    after.entries space = before.entries space := by
  obtain ⟨opened, rfl, -⟩ := opens
  exact entries_withSpaces

theorem find?
    (opens : before.OpensOnly wanted after) :
    after.find? space name = before.find? space name := by
  obtain ⟨opened, rfl, -⟩ := opens
  exact find?_withSpaces

theorem isSome_space?
    (opens : before.OpensOnly wanted after)
    (known : (before.space? space).isSome) :
    (after.space? space).isSome := by
  obtain ⟨opened, rfl, -⟩ := opens
  simp [space?_withSpaces, known]

theorem create
    (opens : before.OpensOnly wanted after)
    (isWanted : wanted name) :
    before.OpensOnly wanted (after.create name) := by
  rcases create_cases after name with same | ⟨absent, same⟩
  · rwa [same]
  · obtain ⟨opened, rfl, distinct, fresh⟩ := opens
    obtain ⟨unknown, unopened⟩ : before.space? name = none ∧ ∀ other ∈ opened, ¬other = name := by
      simpa [space?_withSpaces] using absent
    refine ⟨opened ++ [name], by rw [same, withSpaces_append], ?_, ?_⟩
    · simpa [List.nodup_append, distinct] using unopened
    · exact List.forall_mem_append.mpr
        ⟨fresh, List.forall_mem_singleton.mpr ⟨unknown, isWanted⟩⟩

theorem bearsCreate
    (isWanted : before.isOpen = true → wanted name) :
    BearsCreate (before.OpensOnly wanted) name :=
  fun _ found stillOpen _ opens => opens.create (isWanted (found.isOpen ▸ stillOpen))

end OpensOnly
end Registry

namespace WorkspaceM

variable
  {space : Option String}
  {options : LoadOptions}
  {batch : List Grammar}

/-- A rule changes nothing about the name and the super-grammar of the grammar. -/
theorem heading_of_installRule
    {rule : Source.RuleDeclaration}
    {builder after : Builder}
    (ends : (installRule rule).run.run builder = (.ok (), after)) :
    after.givenName = builder.givenName ∧ after.parent = builder.parent := by
  obtain ⟨body, middle, lowers, obeys⟩ := installRule_cases ends
  have adds := ((lower_goesBy rule.body).of_ok lowers).2
  have lowered : middle.givenName = builder.givenName ∧ middle.parent = builder.parent :=
    ⟨adds.givenName, adds.parent⟩
  rw [← lowered.1, ← lowered.2]
  generalize rule.operator = operator at obeys
  cases obeys with
  | define _ installs | override installs | extend _ installs =>
      exact ⟨installs.givenName, installs.parent⟩

theorem heading_of_installRules
    {rules : List Source.RuleDeclaration}
    {builder after : Builder}
    (ends : (installRules rules).run.run builder = (.ok (), after)) :
    after.givenName = builder.givenName ∧ after.parent = builder.parent := by
  induction rules generalizing builder with
  | nil =>
      cases ends
      exact ⟨rfl, rfl⟩
  | cons rule rules inductionHypothesis =>
      obtain ⟨⟨⟩, middle, installs, installsOthers⟩ := run_bind_eq_ok_iff.mp ends
      obtain ⟨sameName, sameParent⟩ := heading_of_installRule installs
      rw [← sameName, ← sameParent]
      exact inductionHypothesis installsOthers

section Assembled

variable
  {parent grammar : Grammar}
  {declaration : Source.Declaration}

/-- A grammar has the name that it is declared with. -/
theorem name_of_assembles
    (assembles : Assembles parent declaration grammar) :
    grammar.name = declaration.name := by
  obtain ⟨builder, serial, ends, rfl⟩ := assembles
  rw [run_assemble] at ends
  have named : builder.givenName = some declaration.name := (heading_of_installRules ends).1
  rw [Builder.build, Builder.name, named, Option.getD_some]

/-- A grammar lies over the super-grammar that it is assembled over. -/
theorem parent_of_assembles
    (assembles : Assembles parent declaration grammar) :
    grammar.parent = some parent := by
  obtain ⟨builder, serial, ends, rfl⟩ := assembles
  rw [run_assemble] at ends
  exact (heading_of_installRules ends).2

end Assembled

/-- Declarations are loaded into grammars of their names, and none is registered:
what holds of the registry only has to bear the creation of namespaces. -/
theorem loadEach_keeps
    (holds : Registry → Prop)
    {declarations : List Source.Declaration}
    (bears : ∀ declaration ∈ declarations,
      ∀ other, declaration.RefersTo other → Registry.BearsCreate holds other) :
    Keeps (fun workspace => holds workspace.registry)
      (fun grammars =>
        grammars.map Grammar.name =
          batch.map Grammar.name ++ declarations.map Source.Declaration.name)
      (loadEach space options batch declarations) := by
  induction declarations generalizing batch with
  | nil => exact Keeps.pure (by simp)
  | cons declaration declarations inductionHypothesis =>
      obtain ⟨first, others⟩ := List.forall_mem_cons.mp bears
      have finds : Keeps (fun workspace => holds workspace.registry) (fun _ => True)
          (superGrammar space batch declaration) :=
        superGrammar_keeps trivial (fun _ _ => trivial) (fun _ _ _ _ _ _ _ => trivial) first
      refine (load_keeps holds finds).bind fun grammar loaded => ?_
      obtain ⟨⟨parent, -, assembles⟩, -⟩ := loaded
      refine (inductionHypothesis others).weaken fun grammars named => ?_
      rw [named]
      simp [name_of_assembles assembles]

/-- Of the options, only validation matters before the registration. -/
theorem loadEach_of_validate
    {other : LoadOptions}
    (same : other.validate = options.validate)
    (declarations : List Source.Declaration) :
    loadEach space other batch declarations = loadEach space options batch declarations := by
  have loads : load space other = load space options := by
    funext batch declaration
    simp only [load, same]
  induction declarations generalizing batch with
  | nil => rfl
  | cons declaration declarations inductionHypothesis =>
      simp only [loadEach, loads, inductionHypothesis]

end WorkspaceM

/-! ## Loading -/

/-- Whether a source is one declaration or any number of them. -/
inductive Extent
  | one
  | all

namespace Extent

/-- The declarations of a source. -/
def declarations : Extent → String → Except Source.Fault (List Source.Declaration)
  | one, source => (Source.parseOne source).map fun declaration => [declaration]
  | all, source => Source.parseAll source

/-- Load the grammars of a source and register them. -/
def load : Extent → Option String → LoadOptions → String → WorkspaceM (List Grammar)
  | one => WorkspaceM.loadOne
  | all => WorkspaceM.loadAll

/-- A declaration of the source refers to the namespace. -/
def RefersTo (extent : Extent) (source space : String) : Prop :=
  ∃ declarations, extent.declarations source = .ok declarations ∧
    ∃ declaration ∈ declarations, declaration.RefersTo space

theorem load_eq
    (extent : Extent)
    (space : Option String)
    (options : LoadOptions)
    (source : String) :
    extent.load space options source =
      (do
        let declarations ← WorkspaceM.ofSource (extent.declarations source)
        let batch ← WorkspaceM.loadEach space options [] declarations
        WorkspaceM.registerBatch space options batch) := by
  cases extent with
  | all => rfl
  | one =>
      rw [load, WorkspaceM.loadOne, declarations]
      cases Source.parseOne source <;> rfl

/-- The declarations of a source are written as sources are. -/
theorem written_of_declarations
    {extent : Extent}
    {source : String}
    {declarations : List Source.Declaration}
    (parses : extent.declarations source = .ok declarations) :
    ∀ declaration ∈ declarations, declaration.Written := by
  cases extent with
  | all => exact Source.written_of_parseAll parses
  | one =>
      rw [Extent.declarations] at parses
      cases read : Source.parseOne source with
      | error fault =>
          rw [read] at parses
          cases parses
      | ok declaration =>
          rw [read] at parses
          cases parses
          exact List.forall_mem_singleton.mpr (Source.written_of_parseOne read)

end Extent

/-- A batch of grammars has been registered in a namespace: nothing else is
registered, and each name is that of the grammar that had it or of the first of
the batch. The grammars returned are those that have the declared names. A
registry that rejects conflicts had none of the names. -/
structure Registry.Enrolled
    (target : String)
    (declared : List String)
    (batch returned : List Grammar)
    (before after : Registry) : Prop where
  names : batch.map Grammar.name = declared
  holders : ∀ name, after.find? target name =
    (before.find? target name).or (batch.find? fun grammar => grammar.name == name)
  others : ∀ other, other ≠ target → after.entries other = before.entries other
  returned : List.Forall₂ (fun name grammar => after.find? target name = some grammar)
    declared returned
  fresh : before.policy = .reject →
    declared.Nodup ∧ ∀ name ∈ declared, before.find? target name = none

/-- Opening namespaces beforehand makes no difference. -/
theorem Registry.Enrolled.of_opens
    {target : String}
    {declared : List String}
    {batch returned : List Grammar}
    {wanted : String → Prop}
    {before middle after : Registry}
    (enrolled : middle.Enrolled target declared batch returned after)
    (opens : before.OpensOnly wanted middle) :
    before.Enrolled target declared batch returned after where
  names := enrolled.names
  holders name := by rw [enrolled.holders, opens.find?]
  others other different := by rw [enrolled.others other different, opens.entries]
  returned := enrolled.returned
  fresh rejects := by
    obtain ⟨distinct, free⟩ := enrolled.fresh (opens.policy.trans rejects)
    exact ⟨distinct, fun name mem => opens.find?.symm.trans (free name mem)⟩

namespace WorkspaceM

/-- Registering a batch, which conflicts may keep from happening at all. -/
theorem registerBatch_cases
    {space : Option String}
    {options : LoadOptions}
    {batch : List Grammar}
    {workspace : Workspace}
    (known : ∀ target, space = some target → (workspace.registry.space? target).isSome) :
    (∃ error, (registerBatch space options batch).run.run workspace = (.error error, workspace)) ∨
      ∃ returned after,
        (registerBatch space options batch).run.run workspace = (.ok returned, after) ∧
          ∀ target, space = some target → options.register = true →
            workspace.registry.Enrolled target (batch.map Grammar.name) batch returned
              after.registry := by
  cases space with
  | none => exact .inr ⟨batch, workspace, rfl, nofun⟩
  | some target =>
      have isKnown := known target rfl
      rw [registerBatch]
      split
      · by_cases allowed : workspace.registry.policy = .reject →
            workspace.registry.Admits target batch
        · obtain ⟨returned, log, registers, holders⟩ := registerEach_of_allowed allowed isKnown
          refine .inr ⟨returned, _, (registerAll_of_allowed allowed).trans registers, ?_⟩
          rintro _ ⟨⟩ -
          refine
            { names := rfl
              holders := fun name => Registry.find?_enrollAll isKnown
              others := fun other different => Registry.entries_enrollAll_of_ne different
              returned := List.forall₂_map_left_iff.mpr holders
              fresh := fun rejects => ?_ }
          obtain ⟨distinct, free⟩ := allowed rejects
          exact ⟨distinct, List.forall_mem_map.mpr free⟩
        · obtain ⟨rejects, conflict⟩ := Classical.not_imp.mp allowed
          exact .inl (registerAll_of_conflict rejects conflict)
      · next unregistered =>
          exact .inr ⟨batch, workspace, rfl, fun _ _ registers => absurd registers unregistered⟩

end WorkspaceM

/-- Loading a source fails before the registration, or it builds a batch, which
is then registered. Either way it has opened namespaces only. -/
theorem Extent.load_cases
    (extent : Extent)
    (space : Option String)
    (options : LoadOptions)
    (source : String)
    (before : Workspace) :
    ∃ middle : Workspace,
      before.registry.OpensOnly
        (fun name => before.registry.isOpen = true ∧ extent.RefersTo source name)
        middle.registry ∧
      ((∃ error,
          (extent.load space options source).run.run before = (.error error, middle)) ∨
        ∃ declarations batch,
          extent.declarations source = .ok declarations ∧
          batch.map Grammar.name = declarations.map Source.Declaration.name ∧
          ∀ other : LoadOptions, other.validate = options.validate →
            (extent.load space other source).run.run before =
              (WorkspaceM.registerBatch space other batch).run.run middle) := by
  have runs : ∀ other : LoadOptions, other.validate = options.validate →
      (extent.load space other source).run.run before =
        (do
          let declarations ← WorkspaceM.ofSource (extent.declarations source)
          let batch ← WorkspaceM.loadEach space options [] declarations
          WorkspaceM.registerBatch space other batch).run.run before := by
    intro other same
    simp only [extent.load_eq, WorkspaceM.loadEach_of_validate same]
  cases parses : extent.declarations source with
  | error fault =>
      refine ⟨before, .refl, .inl ⟨.malformedSource fault, ?_⟩⟩
      rw [runs options rfl, parses]
      rfl
  | ok declarations =>
      let wanted (name : String) := before.registry.isOpen = true ∧ extent.RefersTo source name
      have keeps : Keeps (fun workspace => before.registry.OpensOnly wanted workspace.registry)
          (fun grammars =>
            grammars.map Grammar.name = declarations.map Source.Declaration.name)
          (WorkspaceM.loadEach space options [] declarations) :=
        WorkspaceM.loadEach_keeps (before.registry.OpensOnly wanted)
          fun declaration mem other refers => Registry.OpensOnly.bearsCreate fun stillOpen =>
            ⟨stillOpen, declarations, parses, declaration, mem, refers⟩
      obtain ⟨opens, named⟩ := keeps before .refl
      rcases loads : (WorkspaceM.loadEach space options [] declarations).run.run before with
        ⟨error | batch, middle⟩
      · rw [loads] at opens
        refine ⟨middle, opens, .inl ⟨error, ?_⟩⟩
        rw [runs options rfl, parses]
        change (WorkspaceM.loadEach space options [] declarations >>= _).run.run before = _
        rw [run_bind_task, loads]
      · rw [loads] at opens named
        refine ⟨middle, opens, .inr ⟨declarations, batch, rfl, named batch rfl, ?_⟩⟩
        intro other same
        rw [runs other same, parses]
        change (WorkspaceM.loadEach space options [] declarations >>= _).run.run before = _
        rw [run_bind_task, loads]

/-- Loading is all or nothing. A load that fails changes nothing about what is
registered, and opens only namespaces that the source refers to. A load that
ends well in a namespace enrolls there the grammars that the same load would
return without registering them. -/
theorem loading_is_all_or_nothing
    (extent : Extent)
    {space : Option String}
    (options : LoadOptions)
    (source : String)
    {before : Workspace}
    (known : ∀ target, space = some target → (before.registry.space? target).isSome) :
    (∀ error after,
      (extent.load space options source).run.run before = (.error error, after) →
        before.registry.OpensOnly
          (fun name => before.registry.isOpen = true ∧ extent.RefersTo source name)
          after.registry) ∧
    ∀ target returned after,
      space = some target → options.register = true →
        (extent.load space options source).run.run before = (.ok returned, after) →
          ∃ declarations batch,
            extent.declarations source = .ok declarations ∧
            ((extent.load space { options with register := false } source).run.run before).1 =
              .ok batch ∧
            before.registry.Enrolled target (declarations.map Source.Declaration.name) batch
              returned after.registry := by
  obtain ⟨middle, opens, fails | ⟨declarations, batch, parses, named, registers⟩⟩ :=
    extent.load_cases space options source before
  · obtain ⟨error, fails⟩ := fails
    rw [fails]
    refine ⟨?_, nofun⟩
    rintro _ _ ⟨⟩
    exact opens
  · have stillKnown : ∀ target, space = some target →
        (middle.registry.space? target).isSome := fun target same =>
      opens.isSome_space? (known target same)
    rw [registers options rfl]
    rcases WorkspaceM.registerBatch_cases stillKnown with
      ⟨error, fails⟩ | ⟨returned, after, succeeds, enrolls⟩
    · rw [fails]
      refine ⟨?_, nofun⟩
      rintro _ _ ⟨⟩
      exact opens
    · rw [succeeds]
      refine ⟨nofun, ?_⟩
      rintro target _ _ inSpace isRegistered ⟨⟩
      have unregistered :
          ((extent.load space { options with register := false } source).run.run before).1 =
            .ok batch := by
        rw [registers { options with register := false } rfl, inSpace]
        rfl
      have enrolled := enrolls target inSpace isRegistered
      rw [named] at enrolled
      exact ⟨declarations, batch, parses, unregistered, enrolled.of_opens opens⟩

/-- A name that is taken stays with its grammar, and a name that is declared twice
goes to the first, in a registry that keeps the first. -/
theorem repeated_names_keep_the_first :
    ∃ before : Workspace,
      before =
        { registry := { policy := .keepFirst, spaces := [⟨"app", [("A", ⟨0, "A", [], none⟩)]⟩] } } ∧
      (∀ target, some "app" = some target → (before.registry.space? target).isSome) ∧
      ∃ returned after batch,
        (Extent.all.load (some "app") {}
          "grammar A\x7b\x7d grammar B\x7b\x7d grammar B\x7br=_\x7d").run.run before =
            (.ok returned, after) ∧
        before.registry.Enrolled "app" ["A", "B", "B"] batch returned after.registry := by
  have known : ∀ target, some "app" = some target →
      (Registry.space?
        { policy := .keepFirst, spaces := [⟨"app", [("A", ⟨0, "A", [], none⟩)]⟩] }
        target).isSome := by
    rintro _ ⟨⟩
    rfl
  refine ⟨_, rfl, known, ?_⟩
  obtain ⟨returned, after, ends, -⟩ := exists_run_eq_ok_of_any
    (by decide +kernel :
      ((Extent.all.load (some "app") {}
        "grammar A\x7b\x7d grammar B\x7b\x7d grammar B\x7br=_\x7d").run.run
        { registry :=
            { policy := .keepFirst,
              spaces := [⟨"app", [("A", ⟨0, "A", [], none⟩)]⟩] } }).1.toOption.any
        (fun _ => true) = true)
  obtain ⟨read, reads, named⟩ := exists_ok_of_any
    (by decide +kernel :
      (Source.parseAll
        "grammar A\x7b\x7d grammar B\x7b\x7d grammar B\x7br=_\x7d").toOption.any
        (fun read => decide (read.map Source.Declaration.name = ["A", "B", "B"])) = true)
  obtain ⟨declarations, batch, parses, -, enrolled⟩ :=
    (loading_is_all_or_nothing .all {}
      "grammar A\x7b\x7d grammar B\x7b\x7d grammar B\x7br=_\x7d" known).2
      "app" returned after rfl rfl ends
  cases reads.symm.trans parses
  rw [of_decide_eq_true named] at enrolled
  exact ⟨returned, after, batch, ends, enrolled⟩

end Heirloom
