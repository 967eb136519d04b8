import Heirloom.Proofs.Registry.Parentage

/-!
# Qualified super-grammars

A super-grammar can be named through a namespace. Through the namespace that the source is
loaded into, this means the grammar that the name alone means there, so that a source may
say either. Only a name that an earlier declaration of the source has taken is looked up
elsewhere: alone it means the earlier grammar, which is not registered yet.
-/

namespace Heirloom
namespace Source

/-- The declaration with its super-grammar named through the namespace, if no namespace is
named. -/
def Declaration.qualified (space : String) (declaration : Declaration) : Declaration :=
  { declaration with
    inherits := declaration.inherits.map fun reference =>
      { reference with space := some (reference.space.getD space) } }

/-- Declarations that come after some names differ only in positions, and in naming some
super-grammars through the namespace that no earlier declaration has the name of. -/
inductive QualifyParents (space : String) :
    List String → List Declaration → List Declaration → Prop
  | nil {earlier : List String} : QualifyParents space earlier [] []
  | keep {earlier : List String} {declaration other : Declaration}
      {declarations others : List Declaration}
      (same : declaration.unplaced = other.unplaced)
      (rest : QualifyParents space (earlier ++ [declaration.name]) declarations others) :
      QualifyParents space earlier (declaration :: declarations) (other :: others)
  | qualify {earlier : List String} {declaration other : Declaration}
      {declarations others : List Declaration}
      {name : String}
      (unqualified : declaration.inherits = some ⟨none, name⟩)
      (absent : name ∉ earlier)
      (same : (declaration.qualified space).unplaced = other.unplaced)
      (rest : QualifyParents space (earlier ++ [declaration.name]) declarations others) :
      QualifyParents space earlier (declaration :: declarations) (other :: others)

end Source

namespace WorkspaceM

variable
  {space : String}
  {options : LoadOptions}
  {batch : List Grammar}
  {declaration : Source.Declaration}
  {name : String}

/-- A name that no grammar of the batch has is looked up in the namespace, whether or not
that is said. -/
theorem load_qualified
    (unqualified : declaration.inherits = some ⟨none, name⟩)
    (absent : name ∉ batch.map Grammar.name) :
    load (some space) options batch (declaration.qualified space) =
      load (some space) options batch declaration := by
  have unloaded : (batch.reverse.find? fun grammar => grammar.name == name) = none := by
    rw [List.find?_eq_none]
    intro grammar mem named
    exact absent (List.mem_map.mpr ⟨grammar, List.mem_reverse.mp mem, eq_of_beq named⟩)
  have inherits : (declaration.qualified space).inherits = some ⟨some space, name⟩ := by
    rw [Source.Declaration.qualified, unqualified]
    rfl
  have sameSuper : superGrammar (some space) batch (declaration.qualified space) =
      superGrammar (some space) batch declaration := by
    simp [superGrammar, inherits, unqualified, unloaded, resolve]
  rw [load_eq, load_eq, sameSuper]
  rfl

theorem load_gives_name :
    Gives (fun grammar => grammar.name = declaration.name)
      (load (some space) options batch declaration) := by
  have finds : Gives (fun _ => True) (superGrammar (some space) batch declaration) :=
    fun _ _ => ⟨trivial, fun _ _ => trivial⟩
  refine (load_keeps (fun _ => True) finds).weaken ?_
  rintro grammar ⟨⟨parent, -, assembles⟩, -⟩
  exact name_of_assembles assembles

/-! ## Runs -/

/-- The first declaration that cannot be loaded is the same in both lists, and what comes
before it is loaded to the same grammars. -/
inductive FailAlike (space : Option String) (options : LoadOptions) :
    List Grammar → List Source.Declaration → List Source.Declaration → Workspace → Prop
  | here {batch : List Grammar} {declaration other : Source.Declaration}
      {declarations others : List Source.Declaration} {workspace : Workspace}
      (fails : ¬ Succeeds (load space options batch declaration) workspace)
      (failsToo : ¬ Succeeds (load space options batch other) workspace) :
      FailAlike space options batch (declaration :: declarations) (other :: others) workspace
  | later {batch : List Grammar} {declaration other : Source.Declaration}
      {declarations others : List Source.Declaration} {workspace middle : Workspace}
      {grammar : Grammar}
      (loads : (load space options batch declaration).run.run workspace = (.ok grammar, middle))
      (loadsToo : (load space options batch other).run.run workspace = (.ok grammar, middle))
      (rest : FailAlike space options (batch ++ [grammar]) declarations others middle) :
      FailAlike space options batch (declaration :: declarations) (other :: others) workspace

/-- Where a declaration fails, neither list is loaded. -/
theorem FailAlike.not_succeeds
    {space : Option String}
    {declarations others : List Source.Declaration}
    {workspace : Workspace}
    (fail : FailAlike space options batch declarations others workspace) :
    ¬ Succeeds (loadEach space options batch declarations) workspace ∧
      ¬ Succeeds (loadEach space options batch others) workspace := by
  induction fail with
  | here fails failsToo =>
      obtain ⟨_, _, fails⟩ := not_succeeds_iff.mp fails
      obtain ⟨_, _, failsToo⟩ := not_succeeds_iff.mp failsToo
      exact ⟨not_succeeds_bind_of_run fails, not_succeeds_bind_of_run failsToo⟩
  | later loads loadsToo _ inductionHypothesis =>
      rw [loadEach, loadEach, succeeds_bind_of_run loads, succeeds_bind_of_run loadsToo]
      exact inductionHypothesis

/-- Two lists of declarations end alike: they come to the same or fail alike. -/
def LoadAlike
    (space : Option String)
    (options : LoadOptions)
    (batch : List Grammar)
    (declarations others : List Source.Declaration) : Prop :=
  ∀ workspace,
    (loadEach space options batch declarations).run.run workspace =
        (loadEach space options batch others).run.run workspace ∨
      FailAlike space options batch declarations others workspace

/-- What follows needs to be looked at only for a grammar of the declared name. -/
theorem LoadAlike.cons
    {other : Source.Declaration}
    {declarations others : List Source.Declaration}
    (first : GoAlike Eq Eq (load (some space) options batch declaration)
      (load (some space) options batch other))
    (rest : ∀ grammar, grammar.name = declaration.name →
      LoadAlike (some space) options (batch ++ [grammar]) declarations others) :
    LoadAlike (some space) options batch (declaration :: declarations) (other :: others) := by
  intro workspace
  rcases (first.and_keeps load_gives_name).cases_run ⟨rfl, trivial⟩ with
    ⟨grammar, _, middle, _, loads, loadsToo, ⟨rfl, isNamed⟩, ⟨rfl, -⟩⟩ |
    ⟨_, _, _, _, fails, failsToo⟩
  · rw [loadEach, loadEach, run_bind_task, run_bind_task, loads, loadsToo]
    exact (rest grammar isNamed middle).imp_right (.later loads loadsToo)
  · exact .inr (.here (not_succeeds_of_run fails) (not_succeeds_of_run failsToo))

/-- Whether super-grammars are named through the namespace is not seen in the loading. -/
theorem loadAlike_of_qualifyParents
    {earlier : List String}
    {declarations others : List Source.Declaration}
    (qualify : Source.QualifyParents space earlier declarations others)
    (named : batch.map Grammar.name = earlier) :
    LoadAlike (some space) options batch declarations others := by
  induction qualify generalizing batch with
  | nil => exact fun _ => .inl rfl
  | keep same _ inductionHypothesis =>
      refine .cons (load_unplaced same) fun grammar isNamed => ?_
      exact inductionHypothesis (by rw [List.map_append, named, List.map_singleton, isNamed])
  | @qualify earlier declaration other _ _ name unqualified absent same _ inductionHypothesis =>
      have first : GoAlike Eq Eq (load (some space) options batch declaration)
          (load (some space) options batch other) := by
        rw [← load_qualified unqualified (named ▸ absent)]
        exact load_unplaced same
      refine .cons first fun grammar isNamed => ?_
      exact inductionHypothesis (by rw [List.map_append, named, List.map_singleton, isNamed])

/-- Naming super-grammars through the namespace that the source is loaded into makes no
difference, unless an earlier declaration has the name. The load comes to the same, or it
fails at the same declaration. -/
theorem qualifying_parents_changes_nothing
    {space : String}
    (options : LoadOptions)
    {source qualified : String}
    {declarations others : List Source.Declaration}
    (parses : Source.parseAll source = .ok declarations)
    (parsesToo : Source.parseAll qualified = .ok others)
    (qualify : Source.QualifyParents space [] declarations others)
    (before : Workspace) :
    (loadAll (some space) options source).run.run before =
        (loadAll (some space) options qualified).run.run before ∨
      FailAlike (some space) options [] declarations others before ∧
        ¬ Succeeds (loadAll (some space) options source) before ∧
        ¬ Succeeds (loadAll (some space) options qualified) before := by
  have loads : (loadAll (some space) options source).run.run before =
      (loadEach (some space) options [] declarations >>= registerBatch (some space) options).run.run
        before := by
    rw [loadAll, parses]
    rfl
  have loadsToo : (loadAll (some space) options qualified).run.run before =
      (loadEach (some space) options [] others >>= registerBatch (some space) options).run.run
        before := by
    rw [loadAll, parsesToo]
    rfl
  have alike : LoadAlike (some space) options [] declarations others :=
    loadAlike_of_qualifyParents qualify rfl
  rcases alike before with same | fail
  · left
    rw [loads, loadsToo, run_bind_task, run_bind_task, same]
  · right
    obtain ⟨fails, failsToo⟩ := fail.not_succeeds
    obtain ⟨_, _, fails⟩ := not_succeeds_iff.mp fails
    obtain ⟨_, _, failsToo⟩ := not_succeeds_iff.mp failsToo
    refine ⟨fail, ?_, ?_⟩
    · rw [Succeeds, loads]
      exact not_succeeds_bind_of_run fails
    · rw [Succeeds, loadsToo]
      exact not_succeeds_bind_of_run failsToo

/-- A grammar that is registered is the same super-grammar under both names. -/
theorem registered_parent_is_the_same_qualified :
    let before : Workspace := { registry := { spaces := [⟨"app", [("A", ⟨0, "A", [], none⟩)]⟩] } }
    ∃ declarations others,
      Source.parseAll "grammar B:A\x7b\x7d grammar C:B\x7b\x7d" = .ok declarations ∧
      Source.parseAll "grammar B:app.A\x7b\x7d grammar C:B\x7b\x7d" = .ok others ∧
      Source.QualifyParents "app" [] declarations others ∧
      ∃ grammars after,
        (loadAll (some "app") {} "grammar B:A\x7b\x7d grammar C:B\x7b\x7d").run.run before =
          (.ok grammars, after) ∧
        (loadAll (some "app") {} "grammar B:app.A\x7b\x7d grammar C:B\x7b\x7d").run.run before =
          (.ok grammars, after) := by
  intro before
  obtain ⟨declarations, parses, bare⟩ := exists_ok_of_any
    (by decide +kernel :
      (Source.parseAll "grammar B:A\x7b\x7d grammar C:B\x7b\x7d").toOption.any
        (declaresBare [("B", some ⟨none, "A"⟩), ("C", some ⟨none, "B"⟩)]) = true)
  obtain ⟨others, parsesToo, otherBare⟩ := exists_ok_of_any
    (by decide +kernel :
      (Source.parseAll "grammar B:app.A\x7b\x7d grammar C:B\x7b\x7d").toOption.any
        (declaresBare [("B", some ⟨some "app", "A"⟩), ("C", some ⟨none, "B"⟩)]) = true)
  obtain rfl := eq_of_declaresBare bare
  obtain rfl := eq_of_declaresBare otherBare
  have qualify : Source.QualifyParents "app" []
      [⟨"B", some ⟨none, "A"⟩, []⟩, ⟨"C", some ⟨none, "B"⟩, []⟩]
      [⟨"B", some ⟨some "app", "A"⟩, []⟩, ⟨"C", some ⟨none, "B"⟩, []⟩] :=
    .qualify rfl List.not_mem_nil rfl (.keep rfl .nil)
  obtain ⟨grammars, after, ends, -⟩ := exists_run_eq_ok_of_any
    (by decide +kernel :
      ((loadEach (some "app") {} []
        [⟨"B", some ⟨none, "A"⟩, []⟩, ⟨"C", some ⟨none, "B"⟩, []⟩] >>=
          registerBatch (some "app") {}).run.run before).1.toOption.any (fun _ => true) = true)
  have loads : (loadAll (some "app") {} "grammar B:A\x7b\x7d grammar C:B\x7b\x7d").run.run
      before = (.ok grammars, after) := by
    rw [loadAll, parses]
    exact ends
  refine ⟨_, _, parses, parsesToo, qualify, grammars, after, loads, ?_⟩
  rcases qualifying_parents_changes_nothing {} parses parsesToo qualify before with
    same | ⟨-, fails, -⟩
  · rw [← same, loads]
  · exact absurd (succeeds_of_run loads) fails

/-- An earlier declaration of the source is not found through the namespace. -/
theorem earlier_declaration_is_unknown_qualified :
    let before : Workspace := { registry := { spaces := [⟨"app", []⟩] } }
    ((loadAll (some "app") {} "grammar A\x7b\x7d grammar B:A\x7b\x7d").run.run
      before).1.toOption.isSome = true ∧
    ((loadAll (some "app") {} "grammar A\x7b\x7d grammar B:app.A\x7b\x7d").run.run
      before).1.toOption.isSome = false := by
  decide +kernel

end WorkspaceM
end Heirloom
