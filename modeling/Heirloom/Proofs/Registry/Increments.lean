import Heirloom.Proofs.Placement
import Heirloom.Proofs.Registry.Atomicity

/-!
# Loading in turn

Declarations may be loaded as one source or one after the other. The grammars
of one source find each other before any is registered, and are registered
together at the end. Loaded in turn, each is registered at once, and is found in
the namespace by those after it. In a registry that rejects conflicts the two
end alike.
-/

namespace Heirloom
namespace Registry

variable
  {registry : Registry}
  {space name : String}
  {grammar : Grammar}
  {batch : List Grammar}

/-! ## Opening and enrolling -/

theorem create_add
    (known : (registry.space? space).isSome) :
    (registry.add space grammar).create name = (registry.create name).add space grammar := by
  cases absent : registry.space? name with
  | some found =>
      have isKnown : (registry.space? name).isSome := absent ▸ rfl
      rw [create_of_known isKnown, create_of_known (isSome_space?_add.trans isKnown)]
  | none =>
      have unknown : (registry.add space grammar).space? name = none := by
        rw [space?_add, absent, Option.map_none]
      have different : name ≠ space := by
        rintro rfl
        simp [absent] at known
      rw [create_of_absent absent, create_of_absent unknown]
      simp [add, withSpaces, different]

theorem create_enroll
    (known : (registry.space? space).isSome) :
    (registry.enroll space grammar).create name = (registry.create name).enroll space grammar := by
  unfold enroll
  rw [find?_create]
  split
  · rfl
  · exact create_add known

theorem policy_create : (registry.create name).policy = registry.policy := by
  rcases create_cases registry name with same | ⟨-, same⟩
  · rw [same]
  · rw [same, policy_withSpaces]

theorem isSome_space?_create
    (known : (registry.space? space).isSome) :
    ((registry.create name).space? space).isSome := by
  rcases create_cases registry name with same | ⟨-, same⟩
  · rwa [same]
  · rw [same, space?_withSpaces, Option.isSome_or, known, Bool.true_or]

/-- Which is done first makes no difference. -/
theorem create_enrollAll
    (known : (registry.space? space).isSome) :
    (registry.enrollAll space batch).create name =
      (registry.create name).enrollAll space batch := by
  induction batch generalizing registry with
  | nil => rfl
  | cons grammar batch inductionHypothesis =>
      rw [enrollAll, inductionHypothesis (by simpa using known), create_enroll known, enrollAll]

theorem Admits.create
    (admits : registry.Admits space batch)
    (name : String) :
    (registry.create name).Admits space batch :=
  ⟨admits.distinct, fun grammar mem => find?_create.trans (admits.free grammar mem)⟩

end Registry

namespace WorkspaceM

/-- One after the other, load the only declaration of each source and register
it. -/
def loadInTurn (space : String) (options : LoadOptions) : List String → WorkspaceM (List Grammar)
  | [] => return []
  | source :: sources => do
      let loaded ← loadOne (some space) options source
      let others ← loadInTurn space options sources
      return loaded ++ others

/-- The task returns these grammars and leaves this registry. -/
def Ends
    (task : WorkspaceM (List Grammar))
    (workspace : Workspace)
    (grammars : List Grammar)
    (registry : Registry) : Prop :=
  ∃ after, task.run.run workspace = (.ok grammars, after) ∧ after.registry = registry

namespace Ends

variable
  {task : WorkspaceM α}
  {next : α → WorkspaceM (List Grammar)}
  {whole : WorkspaceM (List Grammar)}
  {workspace middle : Workspace}
  {grammars : List Grammar}
  {registry : Registry}

theorem iff_of_ok
    {returned : List Grammar}
    (ends : whole.run.run workspace = (.ok returned, middle)) :
    Ends whole workspace grammars registry ↔ returned = grammars ∧ middle.registry = registry := by
  unfold Ends
  rw [ends]
  constructor
  · rintro ⟨_, ⟨⟩, same⟩
    exact ⟨rfl, same⟩
  · rintro ⟨rfl, same⟩
    exact ⟨middle, rfl, same⟩

theorem bind_iff_of_ok
    {value : α}
    (ends : task.run.run workspace = (.ok value, middle)) :
    Ends (task >>= next) workspace grammars registry ↔
      Ends (next value) middle grammars registry := by
  unfold Ends
  rw [run_bind_task, ends]

theorem not_bind_of_error
    {error : Error}
    (fails : task.run.run workspace = (.error error, middle)) :
    ¬Ends (task >>= next) workspace grammars registry := by
  rintro ⟨after, ends, -⟩
  rw [run_bind_task, fails] at ends
  cases ends

/-- What comes before what a task returns. -/
theorem append_iff
    (loaded : List Grammar) :
    Ends (do return loaded ++ (← whole)) workspace grammars registry ↔
      ∃ others, grammars = loaded ++ others ∧ Ends whole workspace others registry := by
  constructor
  · rintro ⟨after, ends, same⟩
    obtain ⟨others, _, endsWhole, finishes⟩ := run_bind_eq_ok_iff.mp ends
    cases finishes
    exact ⟨others, rfl, after, endsWhole, same⟩
  · rintro ⟨others, rfl, after, ends, same⟩
    exact ⟨after, run_bind_eq_ok_iff.mpr ⟨others, after, ends, rfl⟩, same⟩

end Ends

/-! ## Side by side -/

/-- A batch has been loaded, and waits to be registered in one workspace while it
has been registered in the other. -/
structure Beside
    (space : String)
    (batch : List Grammar)
    (together apart : Workspace) : Prop where
  registry : apart.registry = together.registry.enrollAll space batch
  serial : apart.nextSerial = together.nextSerial
  admits : together.registry.Admits space batch
  known : (together.registry.space? space).isSome
  rejects : together.registry.policy = .reject

variable
  {space name : String}
  {options : LoadOptions}
  {batch : List Grammar}
  {declaration single : Source.Declaration}

theorem run_grammar (workspace : Workspace) :
    (grammar space name).run.run workspace =
      match workspace.registry.find? space name with
      | some found => (.ok found, workspace)
      | none => (.error (.unknownGrammar space name), workspace) := by
  rw [grammar, run_get_bind]
  cases workspace.registry.find? space name <;> rfl

theorem run_openSpace
    (name : String)
    (workspace : Workspace) :
    ∃ log, (openSpace name).run.run workspace =
      (.ok (),
        { workspace with registry := workspace.registry.create name, log := log }) := by
  rw [openSpace, run_get_bind]
  cases absent : workspace.registry.space? name with
  | some found =>
      refine ⟨workspace.log, ?_⟩
      rw [Registry.create_of_known (absent ▸ rfl)]
      rfl
  | none => exact ⟨_, rfl⟩

namespace Beside

variable {together apart : Workspace}

theorem find?_self
    (beside : Beside space batch together apart) :
    apart.registry.find? space name =
      (batch.find? fun grammar => grammar.name == name).or
        (together.registry.find? space name) := by
  rw [beside.registry, Registry.find?_enrollAll beside.known]
  cases found : batch.find? fun grammar => grammar.name == name with
  | none => simp
  | some grammar =>
      have named : grammar.name = name := by simpa using List.find?_some found
      have free := beside.admits.free grammar (List.mem_of_find?_eq_some found)
      rw [named] at free
      simp [free]

theorem find?_of_ne
    {other : String}
    (beside : Beside space batch together apart)
    (different : other ≠ space) :
    apart.registry.find? other name = together.registry.find? other name := by
  rw [beside.registry, Registry.find?_eq_lookup, Registry.entries_enrollAll_of_ne different,
    Registry.find?_eq_lookup]

end Beside

theorem openSpace_alike :
    GoAlike (Beside space batch) Eq (openSpace name) (openSpace name) := by
  intro together apart beside
  obtain ⟨log, opens⟩ := run_openSpace name together
  obtain ⟨otherLog, opensToo⟩ := run_openSpace name apart
  rw [opens, opensToo]
  refine .succeed rfl
    { registry := ?_
      serial := beside.serial
      admits := beside.admits.create name
      known := Registry.isSome_space?_create beside.known
      rejects := ?_ }
  · rw [beside.registry]
    exact Registry.create_enrollAll beside.known
  · rw [← beside.rejects]
    exact Registry.policy_create

theorem record_alike (records others : List Log.Record) :
    GoAlike (Beside space batch) Eq (record records) (record others) :=
  .modify fun _ _ ⟨registry, serial, admits, known, rejects⟩ =>
    ⟨registry, serial, admits, known, rejects⟩

theorem freshSerial_alike : GoAlike (Beside space batch) Eq freshSerial freshSerial := by
  refine .get_bind fun together apart beside => ?_
  rw [beside.serial]
  refine GoAlike.bind (.modify ?_) fun _ => .pure rfl
  exact fun _ _ ⟨registry, _, admits, known, rejects⟩ => ⟨registry, rfl, admits, known, rejects⟩

theorem build_alike (builder : Builder) :
    GoAlike (Beside space batch) Eq (build builder) (build builder) :=
  (record_alike _ _).bind fun _ => freshSerial_alike.bind fun _ => .pure rfl

theorem validate_alike (grammar : Grammar) :
    GoAlike (Beside space batch) Eq (validate grammar) (validate grammar) := by
  refine (record_alike _ _).bind fun _ => ?_
  split
  · exact .throw _ _
  · exact .pure rfl

/-- What another namespace has is the same on both sides. -/
theorem grammar_alike
    {other : String}
    (different : other ≠ space) :
    GoAlike (Beside space batch) Eq (grammar other name) (grammar other name) := by
  intro together apart beside
  rw [run_grammar, run_grammar, beside.find?_of_ne different]
  cases together.registry.find? other name with
  | none => exact .fail
  | some found => exact .succeed rfl beside

theorem sibling_alike : GoAlike (Beside space batch) Eq (sibling name) (sibling name) := by
  refine .get_bind fun together apart beside => ?_
  rw [beside.registry, Registry.isOpen_enrollAll]
  split
  · exact openSpace_alike.bind fun _ => .pure rfl
  · exact .pure rfl

/-- The sibling of a name has that name. -/
theorem sibling_gives : Gives (fun found => ∀ other, found = some other → other = name)
    (sibling name) := by
  refine Keeps.get.bind fun workspace _ => ?_
  split
  · refine Keeps.bind (fun _ _ => ⟨trivial, fun _ _ => trivial⟩) fun _ _ => Keeps.pure ?_
    rintro _ ⟨⟩
    rfl
  · exact Keeps.pure nofun

/-- If there is only one grammar of a name, the last one is the first. -/
theorem find?_reverse_of_count
    {grammars : List Grammar}
    (once : (grammars.map Grammar.name).count name ≤ 1) :
    (grammars.reverse.find? fun grammar => grammar.name == name) =
      grammars.find? fun grammar => grammar.name == name := by
  induction grammars with
  | nil => rfl
  | cons grammar grammars inductionHypothesis =>
      rw [List.reverse_cons, List.find?_append, List.find?_singleton, List.find?_cons]
      rw [List.map_cons, List.count_cons] at once
      by_cases same : grammar.name = name
      · have absent : name ∉ grammars.map Grammar.name := by
          rw [← List.count_eq_zero]
          simpa [same] using once
        have unfound : (grammars.reverse.find? fun grammar => grammar.name == name) = none := by
          simpa using absent
        simp [same, unfound]
      · simp only [beq_eq_false_iff_ne.mpr same, Bool.false_eq_true, if_false, Option.or_none]
        exact inductionHypothesis (by omega)

/-- Among grammars with different names, the last of a name is the first. -/
theorem find?_reverse_of_admits
    {registry : Registry}
    (admits : registry.Admits space batch) :
    (batch.reverse.find? fun grammar => grammar.name == name) =
      batch.find? fun grammar => grammar.name == name :=
  find?_reverse_of_count (List.nodup_iff_count_le_one.mp admits.distinct name)

/-- A super-grammar is found in the batch on one side and in the namespace on the
other. -/
theorem superGrammar_alike
    (same : declaration.inherits = single.inherits)
    (foreign : ¬ declaration.RefersTo space) :
    GoAlike (Beside space batch) Eq (superGrammar (some space) batch declaration)
      (superGrammar (some space) [] single) := by
  unfold superGrammar
  rw [← same]
  cases inherits : declaration.inherits with
  | none => exact .pure rfl
  | some reference =>
      obtain ⟨target, name⟩ := reference
      cases target with
      | none =>
          intro together apart beside
          simp only [Option.isNone_none, if_true, List.reverse_nil, List.find?_nil, resolve,
            run_grammar, find?_reverse_of_admits beside.admits, beside.find?_self]
          cases batch.find? fun grammar => grammar.name == name with
          | some found => exact .succeed rfl beside
          | none =>
              rw [Option.none_or, run_grammar]
              cases together.registry.find? space name with
              | some found => exact .succeed rfl beside
              | none => exact .fail
      | some other =>
          have different : other ≠ space := by
            rintro rfl
            exact foreign ⟨_, inherits, rfl⟩
          have otherSpace : (other == space) = false := beq_eq_false_iff_ne.mpr different
          simp only [Option.isNone_some, Bool.false_eq_true, if_false, resolve, otherSpace]
          refine sibling_alike.bind_of_gives sibling_gives fun found named => ?_
          cases found with
          | none => exact .throw _ _
          | some found =>
              rw [named found rfl]
              exact grammar_alike different

/-- Declarations that differ in positions only are loaded alike. -/
theorem load_alike
    (same : declaration.unplaced = single.unplaced)
    (foreign : ¬ declaration.RefersTo space) :
    GoAlike (Beside space batch) Eq (load (some space) options batch declaration)
      (load (some space) options [] single) := by
  have sameInherits : declaration.inherits = single.inherits := by
    simpa using congrArg Source.Declaration.inherits same
  refine (superGrammar_alike sameInherits foreign).bind fun parent => ?_
  rcases ran : (assemble parent declaration).run Builder.empty with ⟨result, builder⟩
  rcases otherRan : (assemble parent single).run Builder.empty with ⟨otherResult, otherBuilder⟩
  have assembled : EndAlike Eq Eq (result, builder) (otherResult, otherBuilder) := by
    rw [← ran, ← otherRan]
    exact assemble_alike same parent Builder.empty Builder.empty rfl
  cases assembled with
  | fail => exact (record_alike _ _).bind fun _ => .throw _ _
  | succeed _ sameBuilder =>
      subst sameBuilder
      refine (record_alike _ _).bind fun _ => (build_alike builder).bind fun grammar => ?_
      dsimp only
      split
      · exact (validate_alike grammar).bind fun _ => (record_alike _ _).bind fun _ => .pure rfl
      · exact (record_alike _ _).bind fun _ => .pure rfl

/-! ## Registering -/

variable {workspace : Workspace}

/-- A registry that rejects conflicts registers a batch without any as it is. -/
theorem registerAll_of_admits
    (admits : workspace.registry.Admits space batch)
    (known : (workspace.registry.space? space).isSome) :
    ∃ log, (registerAll space batch).run.run workspace =
      (.ok batch,
        { workspace with registry := workspace.registry.enrollAll space batch, log := log }) := by
  obtain ⟨registered, log, registers, holders⟩ := registerEach_of_allowed (fun _ => admits) known
  have both := (List.forall₂_and_left batch registered).mpr
    ⟨fun grammar mem => admits.find?_enrollAll known mem, holders⟩
  have same : batch = registered := by
    rw [← List.forall₂_eq_eq_eq]
    exact both.imp fun grammar holder ⟨own, held⟩ => Option.some.inj (own.symm.trans held)
  exact ⟨log, by rw [registerAll_of_allowed fun _ => admits, registers, same]⟩

namespace Beside

variable
  {together apart : Workspace}
  {grammar : Grammar}

/-- Registering one more grammar on one side keeps the two beside each other. -/
theorem enroll
    (beside : Beside space batch together apart)
    (free : apart.registry.find? space grammar.name = none)
    (log : List Log.Record) :
    Beside space (batch ++ [grammar]) together
      { apart with registry := apart.registry.enrollAll space [grammar], log := log } := by
  rw [beside.find?_self, Option.or_eq_none_iff, List.find?_eq_none] at free
  obtain ⟨unloaded, unregistered⟩ := free
  refine
    { registry := ?_
      serial := beside.serial
      admits := ⟨?_, ?_⟩
      known := beside.known
      rejects := beside.rejects }
  · rw [Registry.enrollAll_append, ← beside.registry]
  · rw [List.map_append, List.nodup_append]
    refine ⟨beside.admits.distinct, List.nodup_singleton _, ?_⟩
    refine List.forall_mem_map.mpr fun other mem name isLast => ?_
    rw [List.mem_singleton.mp isLast]
    simpa using unloaded other mem
  · exact List.forall_mem_append.mpr
      ⟨beside.admits.free, List.forall_mem_singleton.mpr unregistered⟩

/-- A grammar that cannot be registered on one side cannot be registered with the
batch on the other. -/
theorem not_admits
    {registry : Registry}
    {others : List Grammar}
    {wanted : String → Prop}
    {names : List String}
    (beside : Beside space batch together apart)
    (taken : apart.registry.find? space grammar.name ≠ none)
    (opens : together.registry.OpensOnly wanted registry)
    (named : others.map Grammar.name = (batch ++ [grammar]).map Grammar.name ++ names) :
    ¬registry.Admits space others := by
  rintro ⟨distinct, free⟩
  have freeNames : ∀ name ∈ others.map Grammar.name, registry.find? space name = none :=
    List.forall_mem_map.mpr free
  rw [named, List.map_append, List.map_singleton] at distinct freeNames
  rw [beside.find?_self, ne_eq, Option.or_eq_none_iff, List.find?_eq_none, ← opens.find?] at taken
  refine taken ⟨fun other mem => ?_, freeNames grammar.name (by simp)⟩
  have different := (List.nodup_append.mp (List.nodup_append.mp distinct).1).2.2 other.name
    (List.mem_map_of_mem mem) grammar.name (List.mem_singleton_self _)
  simpa using different

end Beside

/-! ## In turn -/

/-- The source reads as the declaration, but for positions. -/
def Reads (source : String) (declaration : Source.Declaration) : Prop :=
  ∃ single, Source.parseOne source = .ok single ∧ declaration.unplaced = single.unplaced

section InTurn

variable
  {together apart : Workspace}
  {grammar : Grammar}
  {declarations : List Source.Declaration}
  {source : String}
  {sources : List String}
  {grammars : List Grammar}
  {registry : Registry}

theorem loadInTurn_cons
    (parses : Source.parseOne source = .ok single)
    (registers : options.register = true) :
    loadInTurn space options (source :: sources) =
      (do
        let grammar ← load (some space) options [] single
        let loaded ← registerAll space [grammar]
        return loaded ++ (← loadInTurn space options sources)) := by
  simp [loadInTurn, loadOne, parses, ofSource, loadEach, registerBatch, registers]

/-- A grammar that cannot be registered on one side keeps the whole batch from
being registered on the other. -/
theorem not_ends_of_taken
    (beside : Beside space batch together apart)
    (taken : apart.registry.find? space grammar.name ≠ none) :
    ¬Ends
      (do
        let all ← loadEach (some space) options (batch ++ [grammar]) declarations
        registerAll space all)
      together grammars registry := by
  rintro ⟨after, ends, -⟩
  obtain ⟨all, middle, loads, registers⟩ := run_bind_eq_ok_iff.mp ends
  have keeps : Keeps
      (fun workspace => together.registry.OpensOnly (fun _ => True) workspace.registry)
      (fun grammars =>
        grammars.map Grammar.name =
          (batch ++ [grammar]).map Grammar.name ++ declarations.map Source.Declaration.name)
      (loadEach (some space) options (batch ++ [grammar]) declarations) :=
    loadEach_keeps _ fun _ _ _ _ => Registry.OpensOnly.bearsCreate fun _ => trivial
  obtain ⟨opens, named⟩ := keeps together .refl
  rw [loads] at opens named
  have rejects : middle.registry.policy = .reject := opens.policy.trans beside.rejects
  obtain ⟨error, conflicts⟩ :=
    registerAll_of_conflict rejects (beside.not_admits taken opens (named all rfl))
  rw [conflicts] at registers
  cases registers

theorem not_ends_registerAll_of_taken
    {next : List Grammar → WorkspaceM (List Grammar)}
    (beside : Beside space batch together apart)
    (taken : apart.registry.find? space grammar.name ≠ none) :
    ¬Ends (registerAll space [grammar] >>= next) apart grammars registry := by
  have rejects : apart.registry.policy = .reject := by
    rw [beside.registry, Registry.policy_enrollAll]
    exact beside.rejects
  obtain ⟨error, conflicts⟩ := registerAll_of_conflict rejects
    fun admits => taken (admits.free grammar (List.mem_singleton_self _))
  exact Ends.not_bind_of_error conflicts

/-- What is loaded together is registered if and only if all of it can be loaded
and registered in turn. -/
theorem ends_loadInTurn_iff
    (reads : List.Forall₂ Reads sources declarations)
    (foreign : ∀ declaration ∈ declarations, ¬declaration.RefersTo space)
    (registers : options.register = true)
    (beside : Beside space batch together apart) :
    Ends
        (do
          let all ← loadEach (some space) options batch declarations
          registerAll space all)
        together grammars registry ↔
      ∃ others, grammars = batch ++ others ∧
        Ends (loadInTurn space options sources) apart others registry := by
  induction reads generalizing batch together apart with
  | nil =>
      obtain ⟨log, ends⟩ := registerAll_of_admits beside.admits beside.known
      have loads : (loadEach (some space) options batch []).run.run together =
          (.ok batch, together) := rfl
      have inTurn : (loadInTurn space options []).run.run apart = (.ok [], apart) := rfl
      rw [Ends.bind_iff_of_ok loads, Ends.iff_of_ok ends, ← beside.registry]
      simp [Ends.iff_of_ok inTurn, eq_comm]
  | @cons source declaration sources declarations reading others inductionHypothesis =>
      obtain ⟨single, parses, same⟩ := reading
      obtain ⟨first, foreignOthers⟩ := List.forall_mem_cons.mp foreign
      rw [loadInTurn_cons parses registers, loadEach, bind_assoc]
      have alike : GoAlike (Beside space batch) Eq (load (some space) options batch declaration)
          (load (some space) options [] single) := load_alike same first
      rcases alike.cases_run beside with
        ⟨grammar, _, middle, otherMiddle, loads, loadsApart, rfl, stay⟩ |
        ⟨_, _, _, _, fails, failsApart⟩
      · simp only [Ends.bind_iff_of_ok loads, Ends.bind_iff_of_ok loadsApart]
        by_cases free : otherMiddle.registry.find? space grammar.name = none
        · have admits : otherMiddle.registry.Admits space [grammar] :=
            ⟨List.nodup_singleton _, List.forall_mem_singleton.mpr free⟩
          have known : (otherMiddle.registry.space? space).isSome := by
            rw [stay.registry, Registry.isSome_space?_enrollAll]
            exact stay.known
          obtain ⟨log, registersOne⟩ := registerAll_of_admits admits known
          simp only [Ends.bind_iff_of_ok registersOne, Ends.append_iff]
          rw [inductionHypothesis foreignOthers (stay.enroll free log)]
          simp
        · refine iff_of_false (not_ends_of_taken stay free) ?_
          rintro ⟨others, -, endsApart⟩
          exact not_ends_registerAll_of_taken stay free endsApart
      · refine iff_of_false (Ends.not_bind_of_error fails) ?_
        rintro ⟨others, -, endsApart⟩
        exact Ends.not_bind_of_error failsApart endsApart

/-- Whether a grammar without a super-grammar is declared that has one rule, and
the rule stands for anything. -/
def definesAnything (name rule : String) : Source.Declaration → Bool
  | ⟨given, none, [⟨written, _, .define, .any⟩]⟩ => decide (given = name ∧ written = rule)
  | _ => false

theorem eq_of_definesAnything
    {name rule : String}
    {declaration : Source.Declaration}
    (defines : definesAnything name rule declaration = true) :
    ∃ position, declaration = ⟨name, none, [⟨rule, position, .define, .any⟩]⟩ := by
  unfold definesAnything at defines
  split at defines
  · obtain ⟨rfl, rfl⟩ := of_decide_eq_true defines
    exact ⟨_, rfl⟩
  · cases defines

/-- Whether a grammar with a super-grammar and without rules is declared. -/
def definesHeir (name : String) (parent : GrammarRef) : Source.Declaration → Bool
  | ⟨given, some named, []⟩ => decide (given = name ∧ named = parent)
  | _ => false

theorem eq_of_definesHeir
    {name : String}
    {parent : GrammarRef}
    {declaration : Source.Declaration}
    (defines : definesHeir name parent declaration = true) :
    declaration = ⟨name, some parent, []⟩ := by
  unfold definesHeir at defines
  split at defines
  · obtain ⟨rfl, rfl⟩ := of_decide_eq_true defines
    rfl
  · cases defines

/-- In a registry that rejects conflicts, loading declarations as one source ends
as loading them in turn does: both return the same grammars and leave the same
registry, or both fail. References that are qualified with the namespace itself
are left out, since they are not looked up among the declarations before. -/
theorem batch_loading_is_loading_in_turn
    {before : Workspace}
    (rejects : before.registry.policy = .reject)
    (known : (before.registry.space? space).isSome)
    (registers : options.register = true)
    (parses : Source.parseAll source = .ok declarations)
    (reads : List.Forall₂ Reads sources declarations)
    (foreign : ∀ declaration ∈ declarations, ¬declaration.RefersTo space)
    (grammars : List Grammar)
    (registry : Registry) :
    Ends (loadAll (some space) options source) before grammars registry ↔
      Ends (loadInTurn space options sources) before grammars registry := by
  have beside : Beside space [] before before :=
    { registry := rfl
      serial := rfl
      admits := .nil
      known := known
      rejects := rejects }
  have opens : loadAll (some space) options source =
      (do
        let all ← loadEach (some space) options [] declarations
        registerAll space all) := by
    simp [loadAll, parses, ofSource, registerBatch, registers]
  rw [opens, ends_loadInTurn_iff reads foreign registers beside]
  simp

/-- A grammar and its heir, of which the second is found in the namespace or
among the grammars of the source. -/
theorem heirs_load_in_turn :
    ∃ before : Workspace,
      before = { registry := { spaces := [⟨"app", []⟩] } } ∧
      before.registry.policy = .reject ∧ (before.registry.space? "app").isSome ∧
      ∃ declarations,
        Source.parseAll "grammar A\x7br=_\x7d grammar B:A\x7b\x7d" = .ok declarations ∧
        List.Forall₂ Reads ["grammar A\x7br=_\x7d", "grammar B:A\x7b\x7d"] declarations ∧
        (∀ declaration ∈ declarations, ¬declaration.RefersTo "app") ∧
        ∃ grammars registry,
          Ends (loadAll (some "app") {} "grammar A\x7br=_\x7d grammar B:A\x7b\x7d") before
            grammars registry ∧
          Ends (loadInTurn "app" {} ["grammar A\x7br=_\x7d", "grammar B:A\x7b\x7d"]) before
            grammars registry := by
  obtain ⟨first, parsesFirst, isFirst⟩ := exists_ok_of_any
    (by decide +kernel :
      (Source.parseOne "grammar A\x7br=_\x7d").toOption.any (definesAnything "A" "r") = true)
  obtain ⟨second, parsesSecond, isSecond⟩ := exists_ok_of_any
    (by decide +kernel :
      (Source.parseOne "grammar B:A\x7b\x7d").toOption.any (definesHeir "B" ⟨none, "A"⟩) = true)
  obtain ⟨both, parses, areBoth⟩ := exists_ok_of_any
    (by decide +kernel :
      (Source.parseAll "grammar A\x7br=_\x7d grammar B:A\x7b\x7d").toOption.any
        (fun both => decide (both.length = 2 ∧
          (∀ one ∈ both[0]?, definesAnything "A" "r" one) ∧
          ∀ other ∈ both[1]?, definesHeir "B" ⟨none, "A"⟩ other)) = true)
  obtain ⟨two, isOne, isOther⟩ := of_decide_eq_true areBoth
  obtain ⟨one, other, rfl⟩ := List.length_eq_two.mp two
  obtain ⟨onePosition, rfl⟩ := eq_of_definesAnything isFirst
  obtain ⟨position, rfl⟩ := eq_of_definesAnything (isOne one rfl)
  cases eq_of_definesHeir isSecond
  cases eq_of_definesHeir (isOther other rfl)
  have reads : List.Forall₂ Reads ["grammar A\x7br=_\x7d", "grammar B:A\x7b\x7d"]
      [⟨"A", none, [⟨"r", position, .define, .any⟩]⟩, ⟨"B", some ⟨none, "A"⟩, []⟩] :=
    .cons ⟨_, parsesFirst, rfl⟩ (.cons ⟨_, parsesSecond, rfl⟩ .nil)
  have foreign : ∀ declaration ∈
      ([⟨"A", none, [⟨"r", position, .define, .any⟩]⟩, ⟨"B", some ⟨none, "A"⟩, []⟩] :
        List Source.Declaration), ¬declaration.RefersTo "app" := by
    simp [Source.Declaration.RefersTo]
  obtain ⟨grammars, after, loads, -⟩ := exists_run_eq_ok_of_any
    (by decide +kernel :
      ((loadAll (some "app") {} "grammar A\x7br=_\x7d grammar B:A\x7b\x7d").run.run
        { registry := { spaces := [⟨"app", []⟩] } }).1.toOption.any (fun _ => true) = true)
  have ends : Ends (loadAll (some "app") {} "grammar A\x7br=_\x7d grammar B:A\x7b\x7d")
      { registry := { spaces := [⟨"app", []⟩] } } grammars after.registry := ⟨after, loads, rfl⟩
  exact ⟨_, rfl, rfl, rfl, _, parses, reads, foreign, grammars, after.registry, ends,
    (batch_loading_is_loading_in_turn rfl rfl rfl parses reads foreign grammars
      after.registry).mp ends⟩

end InTurn

end WorkspaceM
end Heirloom
