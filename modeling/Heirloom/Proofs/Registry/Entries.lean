import Heirloom.Proofs.Building
import Heirloom.Proofs.Task
import Mathlib.Data.List.Forall2
import Mathlib.Tactic.SplitIfs

/-!
# What is registered where

A registry shows what is registered in each of its namespaces. Opening
namespaces shows nothing new, and adding a grammar shows in its own namespace
only. Registering a batch enrolls its grammars one after the other: each takes
its name if nobody has it, and otherwise changes nothing.
-/

namespace Heirloom
namespace Registry

variable
  {registry : Registry}
  {space other name : String}
  {names : List String}
  {grammar : Grammar}
  {batch : List Grammar}

theorem name_of_space?
    {found : Namespace}
    (same : registry.space? name = some found) :
    found.name = name := by
  simpa using List.find?_some same

theorem find?_eq_lookup :
    registry.find? space name = (registry.entries space).lookup name := by
  unfold find? entries
  cases registry.space? space <;> rfl

/-! ## New namespaces -/

/-- The registry with empty namespaces added. -/
def withSpaces (registry : Registry) (names : List String) : Registry :=
  { registry with spaces := registry.spaces ++ names.map fun name => ⟨name, []⟩ }

@[simp] theorem withSpaces_nil : registry.withSpaces [] = registry := by
  simp [withSpaces]

theorem withSpaces_append (others : List String) :
    registry.withSpaces (names ++ others) = (registry.withSpaces names).withSpaces others := by
  simp [withSpaces]

@[simp] theorem policy_withSpaces : (registry.withSpaces names).policy = registry.policy := rfl

@[simp] theorem isOpen_withSpaces : (registry.withSpaces names).isOpen = registry.isOpen := rfl

theorem space?_withSpaces :
    (registry.withSpaces names).space? space =
      (registry.space? space).or ((names.find? (· == space)).map fun name => ⟨name, []⟩) := by
  rw [space?, withSpaces, List.find?_append, List.find?_map]
  rfl

/-- New namespaces show nothing new. -/
@[simp] theorem entries_withSpaces :
    (registry.withSpaces names).entries space = registry.entries space := by
  rw [entries, space?_withSpaces, entries]
  cases registry.space? space with
  | some found => rfl
  | none => cases names.find? (· == space) <;> rfl

@[simp] theorem find?_withSpaces :
    (registry.withSpaces names).find? space name = registry.find? space name := by
  rw [find?_eq_lookup, entries_withSpaces, find?_eq_lookup]

theorem create_of_known
    (known : (registry.space? name).isSome) :
    registry.create name = registry := by
  obtain ⟨found, same⟩ := Option.isSome_iff_exists.mp known
  rw [create, same]

theorem create_of_absent
    (absent : registry.space? name = none) :
    registry.create name = registry.withSpaces [name] := by
  rw [create, absent]
  rfl

/-- A namespace that is asked for exists or is opened. -/
theorem create_cases (registry : Registry) (name : String) :
    registry.create name = registry ∨
      registry.space? name = none ∧ registry.create name = registry.withSpaces [name] := by
  cases absent : registry.space? name with
  | none => exact .inr ⟨rfl, create_of_absent absent⟩
  | some found => exact .inl (create_of_known (absent ▸ rfl))

@[simp] theorem entries_create :
    (registry.create name).entries space = registry.entries space := by
  rcases create_cases registry name with same | ⟨-, same⟩ <;> simp [same]

@[simp] theorem find?_create {key : String} :
    (registry.create name).find? space key = registry.find? space key := by
  rw [find?_eq_lookup, entries_create, find?_eq_lookup]

/-! ## New grammars -/

/-- Adding a grammar changes no name of a namespace. -/
theorem space?_add :
    (registry.add space grammar).space? other =
      (registry.space? other).map fun found =>
        if found.name == space then
          { found with entries := found.entries ++ [(grammar.name, grammar)] }
        else found := by
  rw [space?, add, List.find?_map, space?]
  congr 2
  funext found
  simp only [Function.comp_apply]
  split <;> rfl

@[simp] theorem isSome_space?_add :
    ((registry.add space grammar).space? other).isSome = (registry.space? other).isSome := by
  rw [space?_add, Option.isSome_map]

theorem entries_add_self
    (known : (registry.space? space).isSome) :
    (registry.add space grammar).entries space =
      registry.entries space ++ [(grammar.name, grammar)] := by
  obtain ⟨found, same⟩ := Option.isSome_iff_exists.mp known
  simp [entries, space?_add, same, name_of_space? same]

theorem entries_add_of_ne
    (different : other ≠ space) :
    (registry.add space grammar).entries other = registry.entries other := by
  rw [entries, space?_add, entries]
  cases same : registry.space? other with
  | none => rfl
  | some found =>
      simp [name_of_space? same, different]

theorem find?_add_self
    (known : (registry.space? space).isSome) :
    (registry.add space grammar).find? space name =
      (registry.find? space name).or (if grammar.name == name then some grammar else none) := by
  rw [find?_eq_lookup, entries_add_self known, List.lookup_append, find?_eq_lookup,
    List.lookup_cons]
  by_cases same : grammar.name = name
  · simp [same]
  · simp [same, beq_eq_false_iff_ne.mpr (Ne.symm same)]

/-! ## Enrolling -/

/-- The registry with the grammar under its name, unless the name is taken. -/
def enroll (registry : Registry) (space : String) (grammar : Grammar) : Registry :=
  if (registry.find? space grammar.name).isSome then registry else registry.add space grammar

/-- The registry with the grammars enrolled one after the other. -/
def enrollAll (registry : Registry) (space : String) : List Grammar → Registry
  | [] => registry
  | grammar :: grammars => (registry.enroll space grammar).enrollAll space grammars

@[simp] theorem policy_enroll : (registry.enroll space grammar).policy = registry.policy := by
  unfold enroll
  split <;> rfl

@[simp] theorem isOpen_enroll : (registry.enroll space grammar).isOpen = registry.isOpen := by
  unfold enroll
  split <;> rfl

@[simp] theorem isSome_space?_enroll :
    ((registry.enroll space grammar).space? other).isSome = (registry.space? other).isSome := by
  unfold enroll
  split
  · rfl
  · exact isSome_space?_add

theorem entries_enroll_of_ne
    (different : other ≠ space) :
    (registry.enroll space grammar).entries other = registry.entries other := by
  unfold enroll
  split
  · rfl
  · exact entries_add_of_ne different

/-- The first grammar of a name keeps it. -/
theorem find?_enroll
    (known : (registry.space? space).isSome) :
    (registry.enroll space grammar).find? space name =
      (registry.find? space name).or (if grammar.name == name then some grammar else none) := by
  unfold enroll
  split
  · next taken =>
      by_cases same : grammar.name = name
      · obtain ⟨first, found⟩ := Option.isSome_iff_exists.mp taken
        rw [same] at found
        simp [found]
      · simp [same]
  · exact find?_add_self known

@[simp] theorem policy_enrollAll :
    (registry.enrollAll space batch).policy = registry.policy := by
  induction batch generalizing registry with
  | nil => rfl
  | cons grammar batch inductionHypothesis => rw [enrollAll, inductionHypothesis, policy_enroll]

@[simp] theorem isOpen_enrollAll :
    (registry.enrollAll space batch).isOpen = registry.isOpen := by
  induction batch generalizing registry with
  | nil => rfl
  | cons grammar batch inductionHypothesis => rw [enrollAll, inductionHypothesis, isOpen_enroll]

@[simp] theorem isSome_space?_enrollAll :
    ((registry.enrollAll space batch).space? other).isSome = (registry.space? other).isSome := by
  induction batch generalizing registry with
  | nil => rfl
  | cons grammar batch inductionHypothesis =>
      rw [enrollAll, inductionHypothesis, isSome_space?_enroll]

theorem enrollAll_append (others : List Grammar) :
    registry.enrollAll space (batch ++ others) =
      (registry.enrollAll space batch).enrollAll space others := by
  induction batch generalizing registry with
  | nil => rfl
  | cons grammar batch inductionHypothesis =>
      rw [List.cons_append, enrollAll, inductionHypothesis, enrollAll]

theorem entries_enrollAll_of_ne
    (different : other ≠ space) :
    (registry.enrollAll space batch).entries other = registry.entries other := by
  induction batch generalizing registry with
  | nil => rfl
  | cons grammar batch inductionHypothesis =>
      rw [enrollAll, inductionHypothesis, entries_enroll_of_ne different]

/-- A name goes to the grammar that had it, or else to the first of the batch. -/
theorem find?_enrollAll
    (known : (registry.space? space).isSome) :
    (registry.enrollAll space batch).find? space name =
      (registry.find? space name).or (batch.find? fun grammar => grammar.name == name) := by
  induction batch generalizing registry with
  | nil => simp [enrollAll]
  | cons grammar batch inductionHypothesis =>
      rw [enrollAll, inductionHypothesis (by simpa using known), find?_enroll known,
        List.find?_cons, Option.or_assoc]
      cases grammar.name == name <;> simp

/-! ## Batches without conflicts -/

/-- The grammars of the batch have different names, none of which is taken. -/
structure Admits (registry : Registry) (space : String) (batch : List Grammar) : Prop where
  distinct : (batch.map Grammar.name).Nodup
  free : ∀ grammar ∈ batch, registry.find? space grammar.name = none

namespace Admits

theorem nil : registry.Admits space [] :=
  ⟨.nil, nofun⟩

theorem cons_iff
    (known : (registry.space? space).isSome) :
    registry.Admits space (grammar :: batch) ↔
      registry.find? space grammar.name = none ∧
        (registry.enroll space grammar).Admits space batch := by
  constructor
  · rintro ⟨distinct, free⟩
    obtain ⟨fresh, distinct⟩ := List.nodup_cons.mp distinct
    obtain ⟨first, others⟩ := List.forall_mem_cons.mp free
    refine ⟨first, distinct, fun other mem => ?_⟩
    have different : grammar.name ≠ other.name := fun same =>
      fresh (same ▸ List.mem_map_of_mem mem)
    rw [find?_enroll known, others other mem]
    simp [different]
  · rintro ⟨first, distinct, free⟩
    have others : ∀ other ∈ batch,
        registry.find? space other.name = none ∧ grammar.name ≠ other.name := by
      intro other mem
      have absent := free other mem
      rw [find?_enroll known] at absent
      simpa using absent
    refine ⟨List.nodup_cons.mpr ⟨fun mem => ?_, distinct⟩, ?_⟩
    · obtain ⟨other, isOther, same⟩ := List.mem_map.mp mem
      exact (others other isOther).2 same.symm
    · exact List.forall_mem_cons.mpr ⟨first, fun other mem => (others other mem).1⟩

/-- Grammars without conflicts get their own names. -/
theorem find?_enrollAll
    (admits : registry.Admits space batch)
    (known : (registry.space? space).isSome)
    (mem : grammar ∈ batch) :
    (registry.enrollAll space batch).find? space grammar.name = some grammar := by
  rw [Registry.find?_enrollAll known, admits.free grammar mem, Option.none_or,
    find?_of_mem admits.distinct mem]

end Admits

theorem firstConflict?_eq_none_iff {seen : List String} :
    WorkspaceM.firstConflict? registry space seen batch = none ↔
      registry.Admits space batch ∧ ∀ grammar ∈ batch, grammar.name ∉ seen := by
  induction batch generalizing seen with
  | nil => simp [WorkspaceM.firstConflict?, Admits.nil]
  | cons grammar batch inductionHypothesis =>
      rw [WorkspaceM.firstConflict?]
      split_ifs with conflict
      · refine iff_of_false nofun ?_
        rintro ⟨admits, unseen⟩
        have free := admits.free grammar List.mem_cons_self
        have fresh := unseen grammar List.mem_cons_self
        simp [free, fresh] at conflict
      · obtain ⟨free, fresh⟩ : registry.find? space grammar.name = none ∧ grammar.name ∉ seen := by
          simpa using conflict
        rw [inductionHypothesis]
        constructor
        · rintro ⟨⟨distinct, others⟩, unseen⟩
          refine ⟨⟨List.nodup_cons.mpr ⟨fun mem => ?_, distinct⟩,
            List.forall_mem_cons.mpr ⟨free, others⟩⟩,
            List.forall_mem_cons.mpr ⟨fresh, fun other mem isSeen => ?_⟩⟩
          · obtain ⟨other, isOther, same⟩ := List.mem_map.mp mem
            exact unseen other isOther (same ▸ List.mem_cons_self)
          · exact unseen other mem (List.mem_cons_of_mem _ isSeen)
        · rintro ⟨⟨distinct, others⟩, unseen⟩
          obtain ⟨different, distinct⟩ := List.nodup_cons.mp distinct
          refine ⟨⟨distinct, (List.forall_mem_cons.mp others).2⟩, fun other mem isSeen => ?_⟩
          rcases List.mem_cons.mp isSeen with same | isSeen
          · exact different (same ▸ List.mem_map_of_mem mem)
          · exact unseen other (List.mem_cons_of_mem _ mem) isSeen

end Registry

/-! ## Registering -/

namespace WorkspaceM

variable
  {space : String}
  {workspace : Workspace}
  {grammar existing : Grammar}
  {batch : List Grammar}

/-- A free name goes to the grammar. -/
theorem register_of_absent
    (absent : workspace.registry.find? space grammar.name = none) :
    (register space grammar).run.run workspace =
      (.ok grammar,
        { workspace with
          registry := workspace.registry.add space grammar
          log := workspace.log ++ [.registered grammar.name space] }) := by
  rw [register, run_get_bind]
  simp only [absent]
  rfl

theorem register_of_taken
    (found : workspace.registry.find? space grammar.name = some existing)
    (rejects : workspace.registry.policy = .reject) :
    (register space grammar).run.run workspace =
      (.error (.grammarAlreadyRegistered space grammar.name), workspace) := by
  rw [register, run_get_bind]
  simp only [found, rejects]
  rfl

/-- A name that is taken stays with the grammar that has it. -/
theorem register_of_kept
    (found : workspace.registry.find? space grammar.name = some existing)
    (keeps : workspace.registry.policy = .keepFirst) :
    (register space grammar).run.run workspace =
      (.ok existing,
        { workspace with log := workspace.log ++ [.keptFirst grammar.name space] }) := by
  rw [register, run_get_bind]
  simp only [found, keeps]
  rfl

/-- Unless the name is taken and the registry rejects that, the grammar is
enrolled, and the one that then has its name is returned. -/
theorem register_of_allowed
    (allowed :
      workspace.registry.policy = .reject → workspace.registry.find? space grammar.name = none)
    (known : (workspace.registry.space? space).isSome) :
    ∃ registered log,
      (register space grammar).run.run workspace =
        (.ok registered,
          { workspace with registry := workspace.registry.enroll space grammar, log := log }) ∧
      (workspace.registry.enroll space grammar).find? space grammar.name = some registered := by
  rw [Registry.find?_enroll known]
  cases found : workspace.registry.find? space grammar.name with
  | none =>
      refine ⟨grammar, workspace.log ++ [.registered grammar.name space], ?_, by simp⟩
      simp [register_of_absent found, Registry.enroll, found]
  | some existing =>
      have keeps : workspace.registry.policy = .keepFirst := by
        cases policy : workspace.registry.policy with
        | reject => simp [allowed policy] at found
        | keepFirst => rfl
      refine ⟨existing, workspace.log ++ [.keptFirst grammar.name space], ?_, rfl⟩
      simp [register_of_kept found keeps, Registry.enroll, found]

/-- The returned grammars are those that have the names afterwards. -/
theorem registerEach_of_allowed
    (allowed : workspace.registry.policy = .reject → workspace.registry.Admits space batch)
    (known : (workspace.registry.space? space).isSome) :
    ∃ registered log,
      (registerEach space batch).run.run workspace =
        (.ok registered,
          { workspace with registry := workspace.registry.enrollAll space batch, log := log }) ∧
      List.Forall₂
        (fun grammar holder =>
          (workspace.registry.enrollAll space batch).find? space grammar.name = some holder)
        batch registered := by
  induction batch generalizing workspace with
  | nil => exact ⟨[], workspace.log, rfl, .nil⟩
  | cons grammar batch inductionHypothesis =>
      have first : workspace.registry.policy = .reject →
          workspace.registry.find? space grammar.name = none :=
        fun rejects => ((Registry.Admits.cons_iff known).mp (allowed rejects)).1
      obtain ⟨holder, log, registers, holds⟩ := register_of_allowed first known
      have others : (workspace.registry.enroll space grammar).policy = .reject →
          (workspace.registry.enroll space grammar).Admits space batch := fun rejects =>
        ((Registry.Admits.cons_iff known).mp (allowed (by simpa using rejects))).2
      have stillKnown : ((workspace.registry.enroll space grammar).space? space).isSome := by
        simpa using known
      obtain ⟨holders, lastLog, registersOthers, holdOthers⟩ :=
        @inductionHypothesis
          { workspace with registry := workspace.registry.enroll space grammar, log := log }
          others stillKnown
      refine ⟨holder :: holders, lastLog, ?_, .cons ?_ holdOthers⟩
      · rw [registerEach, run_bind_task, registers]
        dsimp only
        rw [run_bind_task, registersOthers]
        rfl
      · rw [Registry.enrollAll, Registry.find?_enrollAll stillKnown, holds, Option.some_or]

theorem registerAll_of_conflict
    (rejects : workspace.registry.policy = .reject)
    (conflict : ¬workspace.registry.Admits space batch) :
    ∃ error, (registerAll space batch).run.run workspace = (.error error, workspace) := by
  cases found : firstConflict? workspace.registry space [] batch with
  | none => exact absurd (Registry.firstConflict?_eq_none_iff.mp found).1 conflict
  | some name =>
      refine ⟨.grammarAlreadyRegistered space name, ?_⟩
      rw [registerAll, run_get_bind]
      simp only [rejects, found]
      rfl

theorem registerAll_of_allowed
    (allowed : workspace.registry.policy = .reject → workspace.registry.Admits space batch) :
    (registerAll space batch).run.run workspace =
      (registerEach space batch).run.run workspace := by
  rw [registerAll, run_get_bind]
  cases policy : workspace.registry.policy with
  | keepFirst => simp only [policy]
  | reject =>
      have free : firstConflict? workspace.registry space [] batch = none :=
        Registry.firstConflict?_eq_none_iff.mpr ⟨allowed policy, fun _ _ => List.not_mem_nil⟩
      simp only [policy, free]

end WorkspaceM
end Heirloom
