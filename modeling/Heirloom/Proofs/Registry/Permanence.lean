import Heirloom.Proofs.Registry.Atomicity

/-!
# Registrations are permanent

Whatever is done with a registry and its namespaces, a grammar that is
registered stays registered under its name. Operations add grammars under free
names only, and looking something up adds none.
-/

namespace Heirloom

namespace Registry

/-- Grammars are registered under their own names, no name twice in a namespace,
and no two namespaces have one name. -/
structure Sound (registry : Registry) : Prop where
  keyed : ∀ held ∈ registry.spaces, ∀ entry ∈ held.entries, entry.1 = entry.2.name
  distinct : ∀ held ∈ registry.spaces, (held.entries.map Prod.fst).Nodup
  apart : (registry.spaces.map Namespace.name).Nodup

/-- What was registered still is, as the same grammar. -/
def Extends (before after : Registry) : Prop :=
  ∀ space name grammar, before.find? space name = some grammar →
    after.find? space name = some grammar

variable
  {before registry : Registry}
  {space name : String}
  {grammar : Grammar}

namespace Sound

theorem create
    (sound : registry.Sound)
    (name : String) :
    (registry.create name).Sound := by
  rcases create_cases registry name with same | ⟨absent, same⟩
  · rwa [same]
  · rw [same]
    refine ⟨?_, ?_, ?_⟩
    · exact List.forall_mem_append.mpr ⟨sound.keyed, List.forall_mem_singleton.mpr nofun⟩
    · exact List.forall_mem_append.mpr ⟨sound.distinct, List.forall_mem_singleton.mpr .nil⟩
    · have fresh : ∀ held ∈ registry.spaces, held.name ≠ name := by
        simpa [space?] using absent
      simpa [withSpaces, List.nodup_append, sound.apart] using fresh

/-- A free name of a namespace is the key of none of its entries. -/
theorem fresh
    (sound : registry.Sound)
    (absent : registry.find? space name = none)
    {held : Namespace}
    (mem : held ∈ registry.spaces)
    (isSpace : held.name = space) :
    name ∉ held.entries.map Prod.fst := by
  have found : registry.space? space = some held := isSpace ▸ find?_of_mem sound.apart mem
  rw [find?, found, Option.bind_some, Namespace.find?, List.lookup_eq_none_iff] at absent
  rintro taken
  obtain ⟨entry, isEntry, rfl⟩ := List.mem_map.mp taken
  simpa using absent entry isEntry

theorem add
    (sound : registry.Sound)
    (absent : registry.find? space grammar.name = none) :
    (registry.add space grammar).Sound := by
  refine ⟨List.forall_mem_map.mpr fun held mem => ?_, List.forall_mem_map.mpr fun held mem => ?_,
    ?_⟩
  · split
    · exact List.forall_mem_append.mpr
        ⟨sound.keyed held mem, List.forall_mem_singleton.mpr rfl⟩
    · exact sound.keyed held mem
  · split
    · next isSpace =>
        have fresh := sound.fresh absent mem (eq_of_beq isSpace)
        rw [List.map_append, List.nodup_append]
        refine ⟨sound.distinct held mem, List.nodup_singleton _, fun key isKey other isNew => ?_⟩
        rintro rfl
        rw [List.mem_singleton.mp isNew] at isKey
        exact fresh isKey
    · exact sound.distinct held mem
  · have names : (registry.add space grammar).spaces.map Namespace.name =
        registry.spaces.map Namespace.name := by
      rw [Registry.add, List.map_map]
      refine List.map_congr_left fun held _ => ?_
      simp only [Function.comp_apply]
      split <;> rfl
    rw [names]
    exact sound.apart

end Sound

namespace Extends

theorem refl : before.Extends before :=
  fun _ _ _ found => found

theorem trans
    {after : Registry}
    (grows : before.Extends registry)
    (thenGrows : registry.Extends after) :
    before.Extends after :=
  fun space name grammar found => thenGrows space name grammar (grows space name grammar found)

theorem create
    (grows : before.Extends registry)
    (name : String) :
    before.Extends (registry.create name) := by
  intro space key grammar found
  rw [find?_create]
  exact grows space key grammar found

theorem add
    (grows : before.Extends registry)
    (space : String)
    (grammar : Grammar) :
    before.Extends (registry.add space grammar) := by
  intro other name existing found
  have stillFound := grows other name existing found
  by_cases same : other = space
  · subst same
    have known : (registry.space? other).isSome := by
      obtain ⟨held, isHeld, -⟩ := Option.bind_eq_some_iff.mp stillFound
      exact isHeld ▸ rfl
    rw [find?_add_self known, stillFound, Option.some_or]
  · rw [find?_eq_lookup, entries_add_of_ne same, ← find?_eq_lookup]
    exact stillFound

end Extends
end Registry

/-! ## Operations -/

/-- What can be done with a registry and its namespaces. -/
inductive Operation
  /-- Ask the registry for a namespace, which creates it. -/
  | openSpace (space : String)
  /-- Ask the registry for a grammar in a namespace, which creates that. -/
  | qualifiedGrammar (space name : String)
  /-- Ask a namespace for a grammar. -/
  | grammar (space name : String)
  /-- Ask a namespace whether it has a grammar. -/
  | contains (space name : String)
  /-- Ask a namespace for all its names. -/
  | grammarNames (space : String)
  /-- Ask for another namespace of the same registry. -/
  | sibling (name : String)
  /-- Resolve a reference inside a namespace. -/
  | resolve (space : String) (reference : GrammarRef)
  | register (space : String) (grammar : Grammar)
  | registerAll (space : String) (batch : List Grammar)
  | load (extent : Extent) (space : Option String) (options : LoadOptions) (source : String)
  /-- Drop the registry, while its namespaces are still held. -/
  | close

namespace Operation

/-- The operation as a task, without its result. -/
def task : Operation → WorkspaceM Unit
  | .openSpace space => WorkspaceM.openSpace space
  | .qualifiedGrammar space name => discard (WorkspaceM.qualifiedGrammar space name)
  | .grammar space name => discard (WorkspaceM.grammar space name)
  | .contains space name => discard (WorkspaceM.contains space name)
  | .grammarNames space => discard (WorkspaceM.grammarNames space)
  | .sibling name => discard (WorkspaceM.sibling name)
  | .resolve space reference => discard (WorkspaceM.resolve space reference)
  | .register space added => discard (WorkspaceM.register space added)
  | .registerAll space batch => discard (WorkspaceM.registerAll space batch)
  | .load extent space options source => discard (extent.load space options source)
  | .close => WorkspaceM.modifyRegistry Registry.close

/-- Whether the operation only looks something up. -/
def isLookup : Operation → Bool
  | .openSpace _ | .qualifiedGrammar _ _ | .grammar _ _ | .contains _ _ | .grammarNames _
  | .sibling _ | .resolve _ _ => true
  | .register _ _ | .registerAll _ _ | .load _ _ _ _ | .close => false

section Keeping

variable {holds : Registry → Prop}

theorem discard_keeps
    {good : α → Prop}
    {task : WorkspaceM α}
    (keeps : Keeps (fun workspace => holds workspace.registry) good task) :
    Keeps (fun workspace => holds workspace.registry) (fun _ => True) (discard task) :=
  keeps.bind fun _ _ => Keeps.pure trivial

/-- What bears the creation of namespaces goes through every lookup. -/
theorem lookup_keeps
    (creates : ∀ name registry, holds registry → holds (registry.create name))
    {operation : Operation}
    (looks : operation.isLookup = true) :
    Keeps (fun workspace => holds workspace.registry) (fun _ => True) operation.task := by
  have finds : Registry.Finds holds fun _ => True := fun _ _ _ _ _ _ => trivial
  have reads : ∀ {α : Type} (view : Workspace → α),
      Keeps (fun workspace => holds workspace.registry) (fun _ => True)
        (do return view (← get) : WorkspaceM α) := fun view =>
    Keeps.get.bind fun _ _ => Keeps.pure trivial
  cases operation with
  | openSpace space => exact WorkspaceM.openSpace_keeps (creates space)
  | qualifiedGrammar space name =>
      exact discard_keeps ((WorkspaceM.openSpace_keeps (creates space)).bind fun _ _ =>
        WorkspaceM.grammar_keeps finds)
  | grammar space name => exact discard_keeps (WorkspaceM.grammar_keeps finds)
  | contains space name => exact discard_keeps (reads _)
  | grammarNames space => exact discard_keeps (reads _)
  | sibling name => exact discard_keeps (WorkspaceM.sibling_keeps fun _ _ _ => creates name)
  | resolve space reference =>
      exact discard_keeps (WorkspaceM.resolve_keeps finds fun other _ _ _ _ => creates other)
  | register | registerAll | load | close => cases looks

theorem load_keeps
    (creates : ∀ name registry, holds registry → holds (registry.create name))
    (adds : ∀ space grammar, Registry.BearsAdd holds space grammar)
    {extent : Extent}
    {space : Option String}
    {options : LoadOptions}
    {source : String} :
    Keeps (fun workspace => holds workspace.registry) (fun _ => True)
      (extent.load space options source) := by
  have finds : Registry.Finds holds fun _ => True := fun _ _ _ _ _ _ => trivial
  rw [extent.load_eq]
  refine (WorkspaceM.ofSource_keeps _).bind fun declarations _ => ?_
  refine (WorkspaceM.loadEach_keeps holds fun _ _ other _ _ _ _ => creates other).bind
    fun batch _ => ?_
  refine (WorkspaceM.registerBatch_keeps (fun _ _ => trivial) (fun _ => finds)
    fun target _ grammar _ => adds target grammar).weaken fun _ _ => trivial

/-- What bears creation, addition and closing goes through every operation. -/
theorem task_keeps
    (creates : ∀ name registry, holds registry → holds (registry.create name))
    (adds : ∀ space grammar, Registry.BearsAdd holds space grammar)
    (closes : ∀ registry, holds registry → holds registry.close)
    (operation : Operation) :
    Keeps (fun workspace => holds workspace.registry) (fun _ => True) operation.task := by
  have finds : Registry.Finds holds fun _ => True := fun _ _ _ _ _ _ => trivial
  cases looks : operation.isLookup with
  | true => exact lookup_keeps creates looks
  | false =>
      cases operation with
      | register space grammar =>
          exact discard_keeps (WorkspaceM.register_keeps finds trivial (adds space grammar))
      | registerAll space batch =>
          exact discard_keeps (WorkspaceM.registerAll_keeps finds (fun _ _ => trivial)
            fun grammar _ => adds space grammar)
      | load extent space options source =>
          exact discard_keeps (load_keeps creates adds)
      | close => exact Keeps.modify fun _ before => closes _ before
      | _ => cases looks

end Keeping

/-- The workspace after the operation, whether it fails or not. -/
def perform (operation : Operation) (workspace : Workspace) : Workspace :=
  (operation.task.run.run workspace).2

/-- The workspace after operations in order. -/
def performAll (operations : List Operation) (workspace : Workspace) : Workspace :=
  operations.foldl (fun workspace operation => operation.perform workspace) workspace

theorem perform_sound
    {workspace : Workspace}
    (sound : workspace.registry.Sound)
    (operation : Operation) :
    (operation.perform workspace).registry.Sound :=
  (task_keeps (fun name _ before => before.create name) (fun _ _ _ before => before.add)
    (fun _ before => ⟨before.keyed, before.distinct, before.apart⟩) operation workspace sound).1

theorem perform_extends
    (operation : Operation)
    (workspace : Workspace) :
    workspace.registry.Extends (operation.perform workspace).registry :=
  (task_keeps (fun name _ grows => grows.create name)
    (fun space grammar _ grows _ => grows.add space grammar)
    (fun _ grows => grows) operation workspace .refl).1

theorem perform_lookup
    {operation : Operation}
    (looks : operation.isLookup = true)
    (workspace : Workspace)
    (space : String) :
    (operation.perform workspace).registry.entries space = workspace.registry.entries space := by
  let holds (registry : Registry) : Prop :=
    registry.entries space = workspace.registry.entries space
  have creates (name : String) (registry : Registry) (same : holds registry) :
      holds (registry.create name) :=
    Registry.entries_create.trans same
  exact (lookup_keeps creates looks workspace rfl).1

theorem performAll_sound
    {workspace : Workspace}
    (sound : workspace.registry.Sound)
    (operations : List Operation) :
    (performAll operations workspace).registry.Sound := by
  induction operations generalizing workspace with
  | nil => exact sound
  | cons operation operations inductionHypothesis =>
      exact inductionHypothesis (perform_sound sound operation)

theorem performAll_extends
    (operations : List Operation)
    (workspace : Workspace) :
    workspace.registry.Extends (performAll operations workspace).registry := by
  induction operations generalizing workspace with
  | nil => exact .refl
  | cons operation operations inductionHypothesis =>
      exact (perform_extends operation workspace).trans (inductionHypothesis _)

end Operation

/-- In every state of a registry, whatever its policy and whatever was done with
it before, grammars are registered under their own names, no name twice in a
namespace and no namespace twice. What is registered stays registered as the same
grammar, whatever is done next, and looking something up leaves the grammars of
every namespace as they are.

Operations may come in any order here. A closed registry can still be asked for
namespaces, and grammars can be registered where there is no namespace. -/
theorem registrations_are_permanent
    (policy : ConflictPolicy)
    (earlier later : List Operation) :
    let start : Workspace := { registry := { policy := policy } }
    let reached := Operation.performAll earlier start
    reached.registry.Sound ∧
      (∀ space name grammar, reached.registry.find? space name = some grammar →
        (Operation.performAll (earlier ++ later) start).registry.find? space name =
          some grammar) ∧
      ∀ operation : Operation, operation.isLookup = true →
        ∀ space, (operation.perform reached).registry.entries space =
          reached.registry.entries space := by
  intro start reached
  have empty : start.registry.Sound := ⟨nofun, nofun, .nil⟩
  refine ⟨Operation.performAll_sound empty earlier, ?_, ?_⟩
  · rw [Operation.performAll, List.foldl_append]
    exact Operation.performAll_extends later reached
  · exact fun operation looks => Operation.perform_lookup looks reached

end Heirloom
