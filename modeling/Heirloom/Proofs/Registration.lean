import Heirloom.Proofs.Loading
import Heirloom.Proofs.Registry.Entries

/-!
# Registration

Looking grammars up may create namespaces, and registering adds grammars under
names that are free. What holds of a registry and bears both goes through every
operation on its namespaces, and so does what holds of every grammar found in
it.
-/

namespace Heirloom

/-- The declaration refers to a super-grammar in the namespace. -/
def Source.Declaration.RefersTo (declaration : Source.Declaration) (space : String) : Prop :=
  ∃ reference, declaration.inherits = some reference ∧ reference.space = some space

namespace Registry

/-- Every grammar that is found has the property. -/
def Finds (holds : Registry → Prop) (good : Grammar → Prop) : Prop :=
  ∀ registry, holds registry →
    ∀ space name grammar, registry.find? space name = some grammar → good grammar

/-- What holds goes on to hold when an open registry creates the namespace. -/
def BearsCreate (holds : Registry → Prop) (name : String) : Prop :=
  ∀ found, holds found → found.isOpen = true →
    ∀ registry, holds registry → holds (registry.create name)

/-- What holds goes on to hold when the grammar is added under a free name. -/
def BearsAdd (holds : Registry → Prop) (space : String) (grammar : Grammar) : Prop :=
  ∀ registry, holds registry → registry.find? space grammar.name = none →
    holds (registry.add space grammar)

/-- Every grammar that can be referred to from the namespace has the property,
which is none without a namespace. -/
def Offers (space : Option String) (good : Grammar → Prop) (registry : Registry) : Prop :=
  space.isSome → ∀ held ∈ registry.spaces, ∀ grammar ∈ held.grammars, good grammar

namespace Offers

variable
  {good : Grammar → Prop}
  {space : Option String}
  {grammar : Grammar}

theorem finds
    (isSpace : space.isSome) :
    Finds (Offers space good) good := by
  intro registry offers _ _ grammar found
  obtain ⟨held, isHeld, isGrammar⟩ := Option.bind_eq_some_iff.mp found
  obtain ⟨before, after, same, -⟩ := List.lookup_eq_some_iff.mp isGrammar
  refine offers isSpace held (List.mem_of_find?_eq_some isHeld) grammar ?_
  rw [Namespace.grammars, same]
  simp

theorem bearsCreate (name : String) : BearsCreate (Offers space good) name := by
  intro _ _ _ registry offers isSpace
  rcases create_cases registry name with same | ⟨-, same⟩
  · rw [same]
    exact offers isSpace
  · rw [same, withSpaces, List.forall_mem_append]
    exact ⟨offers isSpace, List.forall_mem_singleton.mpr (List.forall_mem_nil _)⟩

theorem bearsAdd
    (isGood : good grammar)
    (target : String) :
    BearsAdd (Offers space good) target grammar := by
  intro registry offers _ isSpace held mem
  obtain ⟨before, known, rfl⟩ := List.mem_map.mp mem
  split
  · rw [Namespace.grammars, List.map_append, List.forall_mem_append]
    exact ⟨offers isSpace before known, List.forall_mem_singleton.mpr isGood⟩
  · exact offers isSpace before known

end Offers
end Registry

/-- The super-grammars that can be named after some grammars: the base grammar
and the last grammar of each name. -/
def Inheritable (before : List Grammar) (parent : Grammar) : Prop :=
  parent = baseGrammar ∨
    before.reverse.find? (fun other => other.name == parent.name) = some parent

/-- What holds of the base grammar and of the earlier ones holds of every
super-grammar that can be named. -/
theorem Inheritable.good
    {good : Grammar → Prop}
    {before : List Grammar}
    {parent : Grammar}
    (inheritable : Inheritable before parent)
    (base : good baseGrammar)
    (earlier : ∀ grammar ∈ before, good grammar) :
    good parent := by
  rcases inheritable with rfl | found
  · exact base
  · exact earlier parent (List.mem_reverse.mp (List.mem_of_find?_eq_some found))

namespace WorkspaceM

open Registry (Finds BearsCreate BearsAdd)

section Registries

variable
  {holds : Registry → Prop}
  {good : Grammar → Prop}
  {space name : String}

theorem openSpace_keeps
    (bears : ∀ registry, holds registry → holds (registry.create name)) :
    Keeps (fun workspace => holds workspace.registry) (fun _ => True) (openSpace name) := by
  unfold openSpace
  refine Keeps.get.bind fun workspace _ => ?_
  split
  · exact Keeps.pure trivial
  · exact (record_leaves _).bind fun _ _ => Keeps.modify fun _ before => bears _ before

theorem grammar_keeps (finds : Finds holds good) :
    Keeps (fun workspace => holds workspace.registry) good (grammar space name) := by
  unfold grammar
  refine Keeps.get.bind fun workspace before => ?_
  split
  · next found => exact Keeps.pure (finds _ before _ _ _ found)
  · exact Keeps.throw _

/-- Nothing is created through a closed registry. -/
theorem sibling_keeps (bears : BearsCreate holds name) :
    Keeps (fun workspace => holds workspace.registry) (fun _ => True) (sibling name) := by
  unfold sibling
  refine Keeps.get.bind fun workspace before => ?_
  split
  · next stillOpen =>
      exact (openSpace_keeps (bears _ before stillOpen)).bind fun _ _ => Keeps.pure trivial
  · exact Keeps.pure trivial

theorem resolve_keeps
    {reference : GrammarRef}
    (finds : Finds holds good)
    (bears : ∀ other, reference.space = some other → BearsCreate holds other) :
    Keeps (fun workspace => holds workspace.registry) good (resolve space reference) := by
  unfold resolve
  split
  · exact grammar_keeps finds
  · next other named =>
      split
      · exact grammar_keeps finds
      · refine (sibling_keeps (bears other named)).bind fun found _ => ?_
        split
        · exact grammar_keeps finds
        · exact Keeps.throw _

theorem register_keeps
    {grammar : Grammar}
    (finds : Finds holds good)
    (isGood : good grammar)
    (bears : BearsAdd holds space grammar) :
    Keeps (fun workspace => holds workspace.registry) good (register space grammar) := by
  intro workspace before
  cases found : workspace.registry.find? space grammar.name with
  | none =>
      rw [register_of_absent found]
      refine ⟨bears _ before found, ?_⟩
      rintro _ ⟨⟩
      exact isGood
  | some existing =>
      cases policy : workspace.registry.policy with
      | reject =>
          rw [register_of_taken found policy]
          exact ⟨before, nofun⟩
      | keepFirst =>
          rw [register_of_kept found policy]
          refine ⟨before, ?_⟩
          rintro _ ⟨⟩
          exact finds _ before _ _ _ found

theorem registerEach_keeps
    {batch : List Grammar}
    (finds : Finds holds good)
    (allGood : ∀ grammar ∈ batch, good grammar)
    (bears : ∀ grammar ∈ batch, BearsAdd holds space grammar) :
    Keeps (fun workspace => holds workspace.registry)
      (fun grammars => ∀ grammar ∈ grammars, good grammar) (registerEach space batch) := by
  induction batch with
  | nil => exact Keeps.pure nofun
  | cons grammar batch inductionHypothesis =>
      obtain ⟨first, others⟩ := List.forall_mem_cons.mp allGood
      obtain ⟨bearsFirst, bearsOthers⟩ := List.forall_mem_cons.mp bears
      refine (register_keeps finds first bearsFirst).bind fun registered isGood => ?_
      refine (inductionHypothesis others bearsOthers).bind fun grammars good => ?_
      exact Keeps.pure (List.forall_mem_cons.mpr ⟨isGood, good⟩)

theorem registerAll_keeps
    {batch : List Grammar}
    (finds : Finds holds good)
    (allGood : ∀ grammar ∈ batch, good grammar)
    (bears : ∀ grammar ∈ batch, BearsAdd holds space grammar) :
    Keeps (fun workspace => holds workspace.registry)
      (fun grammars => ∀ grammar ∈ grammars, good grammar) (registerAll space batch) := by
  unfold registerAll
  refine Keeps.get.bind fun workspace _ => ?_
  dsimp only
  split
  · exact Keeps.throw _
  · exact registerEach_keeps finds allGood bears

end Registries

/-! ## Loading into a namespace -/

section Loading

variable
  {holds : Registry → Prop}
  {good : Grammar → Prop}
  {space : Option String}

theorem ofSource_keeps
    {property : Workspace → Prop}
    (reading : Except Source.Fault α) :
    Keeps property (fun value => reading = .ok value) (ofSource reading) := by
  cases reading with
  | ok value => exact Keeps.pure rfl
  | error fault => exact Keeps.throw _

/-- A super-grammar can be named after the earlier ones, or it is found. -/
theorem superGrammar_inherits
    {batch : List Grammar}
    {declaration : Source.Declaration}
    (finds : space.isSome → Finds holds good)
    (bears : ∀ other, declaration.RefersTo other → BearsCreate holds other) :
    Keeps (fun workspace => holds workspace.registry)
      (fun parent => Inheritable batch parent ∨ space.isSome ∧ good parent)
      (superGrammar space batch declaration) := by
  unfold superGrammar
  split
  · exact Keeps.pure (.inl (.inl rfl))
  · next reference inherits =>
      dsimp only
      split
      · next grammar found =>
          split at found
          · have named : grammar.name = reference.name := by simpa using List.find?_some found
            rw [← named] at found
            exact Keeps.pure (.inl (.inr found))
          · cases found
      · next target absent =>
          have resolves : Keeps (fun workspace => holds workspace.registry) good
              (resolve target reference) :=
            resolve_keeps (finds rfl) fun other named => bears other ⟨reference, inherits, named⟩
          exact resolves.weaken fun _ isGood => .inr ⟨rfl, isGood⟩
      · exact Keeps.throw _

/-- A super-grammar is the base grammar, an earlier one or one that is found. -/
theorem superGrammar_keeps
    (base : good baseGrammar)
    {batch : List Grammar}
    (earlier : ∀ grammar ∈ batch, good grammar)
    {declaration : Source.Declaration}
    (finds : space.isSome → Finds holds good)
    (bears : ∀ other, declaration.RefersTo other → BearsCreate holds other) :
    Keeps (fun workspace => holds workspace.registry) good
      (superGrammar space batch declaration) := by
  refine (superGrammar_inherits finds bears).weaken fun parent inherits => ?_
  rcases inherits with inheritable | ⟨-, isGood⟩
  · exact inheritable.good base earlier
  · exact isGood

/-- Without a namespace nothing but the earlier grammars can be named. -/
theorem superGrammar_inheritable
    {batch : List Grammar}
    {declaration : Source.Declaration} :
    Gives (Inheritable batch) (superGrammar none batch declaration) := by
  have finds : (none : Option String).isSome → Finds (fun _ => True) fun _ => False := nofun
  have bears : ∀ other, declaration.RefersTo other → BearsCreate (fun _ => True) other :=
    fun _ _ _ _ _ _ _ => trivial
  exact (superGrammar_inherits finds bears).weaken fun _ inherits =>
    inherits.resolve_right And.right

theorem registerBatch_keeps
    {options : LoadOptions}
    {batch : List Grammar}
    (allGood : ∀ grammar ∈ batch, good grammar)
    (finds : space.isSome → Finds holds good)
    (bears : ∀ target, space = some target → ∀ grammar ∈ batch, BearsAdd holds target grammar) :
    Keeps (fun workspace => holds workspace.registry)
      (fun grammars => ∀ grammar ∈ grammars, good grammar) (registerBatch space options batch) := by
  unfold registerBatch
  split
  · next target =>
      split
      · exact registerAll_keeps (finds rfl) allGood (bears target rfl)
      · exact Keeps.pure allGood
  · exact Keeps.pure allGood

end Loading

end WorkspaceM
end Heirloom
