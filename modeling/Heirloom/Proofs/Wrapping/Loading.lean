import Heirloom.Proofs.Registry.Increments
import Heirloom.Proofs.Wrapping.Matching

/-!
# Loading with a wrapped alternative

A source and the source with a wrapped alternative are both loaded or neither is. Up to
the declaration that differs the runs are the same. From there on, grammars of the one
batch correspond to grammars of the other, so every later declaration finds
super-grammars that correspond, and so does every name of the registry in the end.
-/

namespace Heirloom

open Source.Pattern (outline?)

variable {outer : String}

/-! ## Grammars and registries -/

namespace Grammar

theorem sound_hereditary : Hereditary Sound where
  base := ⟨settled_baseGrammar, consistent_baseGrammar⟩
  assembles written inherited assembles :=
    ⟨hereditary_settled.assembles written inherited.settled assembles,
      hereditary_consistent.assembles written inherited.consistent assembles⟩

/-- A grammar corresponds to itself. -/
theorem Alike.refl
    {grammar : Grammar}
    (sound : grammar.Sound) :
    grammar.Alike outer grammar :=
  ⟨rfl, .refl outer grammar.lookup?, sound, sound⟩

end Grammar

/-- Two registries hold grammars that correspond under the same names. -/
structure Registry.Alike (outer : String) (registry other : Registry) : Prop where
  policy : other.policy = registry.policy
  isOpen : other.isOpen = registry.isOpen
  spaces : ∀ space, (other.space? space).isSome = (registry.space? space).isSome
  finds : ∀ space name,
    Option.Rel (Grammar.Alike outer) (registry.find? space name) (other.find? space name)

namespace Registry

variable
  {registry other : Registry}
  {space : String}
  {grammar otherGrammar : Grammar}

theorem isSome_space?_create_eq (registry : Registry) (name space : String) :
    ((registry.create name).space? space).isSome =
      ((registry.space? space).isSome || name == space) := by
  cases known : registry.space? name with
  | some found =>
      rw [create_of_known (known ▸ rfl)]
      by_cases here : name = space
      · subst here
        simp [known]
      · simp [here]
  | none =>
      rw [create_of_absent known, space?_withSpaces]
      by_cases here : name = space <;> simp [here]

theorem find?_add (registry : Registry) (space other name : String) (grammar : Grammar) :
    (registry.add space grammar).find? other name =
      (registry.find? other name).or
        (if other = space ∧ (registry.space? space).isSome ∧ grammar.name = name then some grammar
        else none) := by
  by_cases here : other = space
  · subst here
    cases known : (registry.space? other).isSome with
    | true =>
        rw [find?_add_self known]
        simp
    | false =>
        have absent : registry.space? other = none := by simpa using known
        simp [find?, space?_add, absent]
  · rw [find?_eq_lookup, entries_add_of_ne here, ← find?_eq_lookup]
    simp [here]

namespace Alike

/-- A registry corresponds to itself if every grammar in it does. -/
theorem refl
    (good : ∀ held ∈ registry.spaces, ∀ grammar ∈ held.grammars, Grammar.Sound grammar) :
    registry.Alike outer registry where
  policy := rfl
  isOpen := rfl
  spaces _ := rfl
  finds space name := by
    cases found : registry.find? space name with
    | none => exact .none
    | some grammar =>
        have finds : Finds (Offers (some space) Grammar.Sound) Grammar.Sound := Offers.finds rfl
        exact .some (.refl (finds registry (fun _ => good) _ _ _ found))

theorem create
    (alike : registry.Alike outer other)
    (name : String) :
    (registry.create name).Alike outer (other.create name) where
  policy := by rw [policy_create, policy_create, alike.policy]
  isOpen := by
    rcases create_cases registry name with same | ⟨-, same⟩ <;>
      rcases create_cases other name with otherSame | ⟨-, otherSame⟩ <;>
      simp [same, otherSame, alike.isOpen]
  spaces space := by
    rw [isSome_space?_create_eq, isSome_space?_create_eq, alike.spaces]
  finds space key := by
    rw [find?_create, find?_create]
    exact alike.finds space key

theorem add
    (alike : registry.Alike outer other)
    (space : String)
    (grammars : grammar.Alike outer otherGrammar) :
    (registry.add space grammar).Alike outer (other.add space otherGrammar) where
  policy := alike.policy
  isOpen := alike.isOpen
  spaces name := by
    rw [isSome_space?_add, isSome_space?_add, alike.spaces]
  finds target name := by
    rw [find?_add, find?_add, grammars.name, alike.spaces]
    have finds := alike.finds target name
    generalize registry.find? target name = found at finds
    generalize other.find? target name = otherFound at finds
    cases finds with
    | some corresponds => exact .some corresponds
    | none =>
        rw [Option.none_or, Option.none_or]
        split
        · exact .some grammars
        · exact .none

end Alike
end Registry

/-- Two workspaces whose registries correspond, if there is a namespace to look into. -/
def Workspace.Alike
    (outer : String)
    (space : Option String)
    (workspace other : Workspace) : Prop :=
  space.isSome → workspace.registry.Alike outer other.registry

/-! ## Loading one declaration -/

namespace WorkspaceM

section Tasks

variable
  {space : Option String}
  {options : LoadOptions}
  {batch others : List Grammar}

theorem openSpace_goAlike (name : String) :
    GoAlike (Workspace.Alike outer space) Eq (openSpace name) (openSpace name) := by
  intro workspace other alike
  obtain ⟨log, opens⟩ := run_openSpace name workspace
  obtain ⟨otherLog, opensToo⟩ := run_openSpace name other
  rw [opens, opensToo]
  exact .succeed rfl fun isSpace => (alike isSpace).create name

theorem record_goAlike (records others : List Log.Record) :
    GoAlike (Workspace.Alike outer space) Eq (record records) (record others) :=
  .modify fun _ _ alike => alike

theorem grammar_goAlike
    (isSpace : space.isSome)
    (target name : String) :
    GoAlike (Workspace.Alike outer space) (Grammar.Alike outer) (grammar target name)
      (grammar target name) := by
  intro workspace other alike
  rw [run_grammar, run_grammar]
  have finds := (alike isSpace).finds target name
  generalize workspace.registry.find? target name = found at finds
  generalize other.registry.find? target name = otherFound at finds
  cases finds with
  | none => exact .fail
  | some corresponds => exact .succeed corresponds alike

theorem sibling_goAlike
    (isSpace : space.isSome)
    (name : String) :
    GoAlike (Workspace.Alike outer space) Eq (sibling name) (sibling name) := by
  refine .get_bind fun workspace other alike => ?_
  rw [(alike isSpace).isOpen]
  split
  · exact (openSpace_goAlike name).bind fun _ => .pure rfl
  · exact .pure rfl

/-- A reference means grammars that correspond. -/
theorem resolve_goAlike
    (isSpace : space.isSome)
    (target : String)
    (reference : GrammarRef) :
    GoAlike (Workspace.Alike outer space) (Grammar.Alike outer) (resolve target reference)
      (resolve target reference) := by
  unfold resolve
  cases reference.space with
  | none => exact grammar_goAlike isSpace _ _
  | some other =>
      dsimp only
      split
      · exact grammar_goAlike isSpace _ _
      · refine (sibling_goAlike isSpace other).bind fun found => ?_
        cases found with
        | none => exact .throw _ _
        | some found => exact grammar_goAlike isSpace _ _

/-- Among grammars that correspond, the first ones of a name do. -/
theorem find?_alike
    (alike : List.Forall₂ (Grammar.Alike outer) batch others)
    (name : String) :
    Option.Rel (Grammar.Alike outer) (batch.find? fun grammar => grammar.name == name)
      (others.find? fun grammar => grammar.name == name) := by
  induction alike with
  | nil => exact .none
  | cons first _ inductionHypothesis =>
      rw [List.find?_cons, List.find?_cons, first.name]
      split
      · exact .some first
      · exact inductionHypothesis

/-- The super-grammars of declarations that refer to the same one correspond. -/
theorem superGrammar_goAlike
    {declaration other : Source.Declaration}
    (same : other.inherits = declaration.inherits)
    (alike : List.Forall₂ (Grammar.Alike outer) batch others) :
    GoAlike (Workspace.Alike outer space) (Grammar.Alike outer)
      (superGrammar space batch declaration) (superGrammar space others other) := by
  unfold superGrammar
  rw [same]
  cases declaration.inherits with
  | none => exact .pure (.refl Grammar.sound_hereditary.base)
  | some reference =>
      dsimp only
      have earlier : Option.Rel (Grammar.Alike outer)
          (if reference.space.isNone then
            batch.reverse.find? fun grammar => grammar.name == reference.name else none)
          (if reference.space.isNone then
            others.reverse.find? fun grammar => grammar.name == reference.name else none) := by
        split
        · exact find?_alike (List.rel_reverse alike) _
        · exact .none
      generalize (if reference.space.isNone then
        batch.reverse.find? fun grammar => grammar.name == reference.name else none) = found
        at earlier
      generalize (if reference.space.isNone then
        others.reverse.find? fun grammar => grammar.name == reference.name else none) = otherFound
        at earlier
      cases earlier with
      | some corresponds => exact .pure corresponds
      | none =>
          cases space with
          | none => exact .throw _ _
          | some space => exact resolve_goAlike rfl space reference

theorem freshSerial_goAlike :
    GoAlike (Workspace.Alike outer space) (fun _ _ => True) freshSerial freshSerial := by
  refine .get_bind fun workspace other alike => ?_
  refine GoAlike.bind (.modify fun _ _ alike => alike) fun _ => ?_
  exact .pure trivial

/-- What is found by builders that are alike is found by the grammars that they are
finished to. -/
theorem findAlike_build
    {builder other : Builder}
    (alike : builder.Alike outer other)
    (serial otherSerial : Nat) :
    FindAlike outer (builder.build serial).lookup? (other.build otherSerial).lookup? := by
  intro name plain
  rw [Grammar.lookup?, Grammar.lookup?, ← Builder.lookup?_eq, ← Builder.lookup?_eq]
  exact alike.finds name plain

/-- What makes the grammars of two declarations correspond: they are assembled alike over
super-grammars that correspond, and if they are validated, then what the inline patterns
of the second one call besides is called by a declared rule of the first one. -/
structure AssembleAlike
    (outer : String)
    (options : LoadOptions)
    (parent otherParent : Grammar)
    (declaration other : Source.Declaration) : Prop where
  parents : parent.Alike outer otherParent
  written : declaration.Written
  otherWritten : other.Written
  name : other.name = declaration.name
  assembles :
    EndAlike (Builder.Alike outer) Eq ((assemble parent declaration).run.run Builder.empty)
      ((assemble otherParent other).run.run Builder.empty)
  supported : ∀ builder, options.validate = true →
    (assemble parent declaration).run.run Builder.empty = (.ok (), builder) →
      ∃ extra, CallMore extra (outlines declaration.rules) (outlines other.rules) ∧
        ∀ name ∈ extra, ∃ rule ∈ declared builder.rules, name ∈ rule.body.calls

/-- What the inline patterns of a declaration call has been declared. -/
theorem plain_of_outlines
    {declaration : Source.Declaration}
    (written : declaration.Written) :
    ∀ expr ∈ outlines declaration.rules, ∀ name ∈ expr.inlineCalls, '-' ∉ name.toList := by
  intro expr mem name called
  obtain ⟨rule, isRule, isOutline⟩ := List.mem_filterMap.mp mem
  have outlined := (written.rules rule isRule).body.outlined isOutline
  exact outlined.no_hyphen name (expr.inlineCalls_subset called)

/-- Grammars that correspond pass their validation or neither does. -/
theorem validate_goAlike
    {grammar other : Grammar}
    (both : grammar.validate.2 = none ↔ other.validate.2 = none) :
    GoAlike (Workspace.Alike outer space) (fun _ _ => True) (validate grammar)
      (validate other) := by
  unfold validate
  generalize grammar.validate = ending at both
  generalize other.validate = otherEnding at both
  obtain ⟨records, error⟩ := ending
  obtain ⟨otherRecords, otherError⟩ := otherEnding
  refine (record_goAlike records otherRecords).bind fun _ => ?_
  cases error with
  | none =>
      cases otherError with
      | none => exact .pure trivial
      | some _ => cases both.mp rfl
  | some error =>
      cases otherError with
      | none => cases both.mpr rfl
      | some otherError => exact .throw _ _

section Assembled

variable
  {parent otherParent : Grammar}
  {declaration other : Source.Declaration}
  {builder otherBuilder : Builder}

theorem givenName_of_assembles
    (written : declaration.Written)
    (sound : parent.Sound)
    (ran : (assemble parent declaration).run.run Builder.empty = (.ok (), builder)) :
    builder.givenName = some declaration.name :=
  (assemble_settled (fun rule mem => (written.rules rule mem).name)
    (fun rule mem _ outlines => (written.rules rule mem).body.outlined outlines)
    sound.settled ran).givenName

namespace AssembleAlike

/-- What is assembled from declarations that are assembled alike corresponds. -/
theorem builds
    (alike : AssembleAlike outer options parent otherParent declaration other)
    (ran : (assemble parent declaration).run.run Builder.empty = (.ok (), builder))
    (otherRan : (assemble otherParent other).run.run Builder.empty = (.ok (), otherBuilder))
    (builders : builder.Alike outer otherBuilder)
    (serial otherSerial : Nat) :
    (builder.build serial).Alike outer (otherBuilder.build otherSerial) where
  name := by
    rw [Builder.build, Builder.build, Builder.name, Builder.name,
      givenName_of_assembles alike.written alike.parents.sound ran,
      givenName_of_assembles alike.otherWritten alike.parents.otherSound otherRan, alike.name]
  finds := findAlike_build builders serial otherSerial
  sound := Grammar.sound_hereditary.assembles alike.written alike.parents.sound
    ⟨builder, serial, ran, rfl⟩
  otherSound := Grammar.sound_hereditary.assembles alike.otherWritten alike.parents.otherSound
    ⟨otherBuilder, otherSerial, otherRan, rfl⟩

/-- Both grammars pass their validation or neither does. -/
theorem validate_iff
    (alike : AssembleAlike outer options parent otherParent declaration other)
    (validates : options.validate = true)
    (ran : (assemble parent declaration).run.run Builder.empty = (.ok (), builder))
    (otherRan : (assemble otherParent other).run.run Builder.empty = (.ok (), otherBuilder))
    (builders : builder.Alike outer otherBuilder)
    (serial otherSerial : Nat) :
    (builder.build serial).validate.2 = none ↔
      (otherBuilder.build otherSerial).validate.2 = none := by
  obtain ⟨extra, more, supported⟩ := alike.supported builder validates ran
  have grammars := alike.builds ran otherRan builders serial otherSerial
  exact builders.validate_iff grammars.sound.settled grammars.otherSound.settled
    (assemble_links alike.written alike.parents.sound.consistent ran)
    (assemble_links alike.otherWritten alike.parents.otherSound.consistent otherRan)
    (plain_of_outlines alike.written) more supported

end AssembleAlike

/-- Declarations that are assembled alike are loaded alike. -/
theorem loadOver_goAlike
    (alike : AssembleAlike outer options parent otherParent declaration other) :
    GoAlike (Workspace.Alike outer space) (Grammar.Alike outer)
      (loadOver options declaration parent) (loadOver options other otherParent) := by
  unfold loadOver
  rcases ran : (assemble parent declaration).run Builder.empty with ⟨result, builder⟩
  rcases otherRan : (assemble otherParent other).run Builder.empty with ⟨otherResult, otherBuilder⟩
  have ends : EndAlike (Builder.Alike outer) Eq (result, builder) (otherResult, otherBuilder) := by
    rw [← ran, ← otherRan]
    exact alike.assembles
  refine (record_goAlike _ _).bind fun _ => ?_
  cases ends with
  | fail => exact .throw _ _
  | succeed _ builders =>
      have builds : GoAlike (Workspace.Alike outer space)
          (fun grammar otherGrammar => ∃ serial otherSerial, grammar = builder.build serial ∧
            otherGrammar = otherBuilder.build otherSerial)
          (build builder) (build otherBuilder) :=
        (record_goAlike _ _).bind fun _ =>
          freshSerial_goAlike.bind_of_results fun serial otherSerial _ =>
            .pure ⟨serial, otherSerial, rfl, rfl⟩
      refine builds.bind_of_results ?_
      rintro _ _ ⟨serial, otherSerial, rfl, rfl⟩
      have grammars := alike.builds ran otherRan builders serial otherSerial
      split
      · next validates =>
          have both := alike.validate_iff validates ran otherRan builders serial otherSerial
          exact (validate_goAlike both).bind_of_results fun _ _ _ =>
            (record_goAlike _ _).bind fun _ => .pure grammars
      · exact (record_goAlike _ _).bind fun _ => .pure grammars

end Assembled

/-! ## Declarations that differ in positions only -/

theorem rules_plain
    {declaration : Source.Declaration}
    (written : declaration.Written) :
    ∀ rule ∈ declaration.rules, '-' ∉ rule.name.toList :=
  fun rule mem => (written.rules rule mem).name.no_hyphen

/-- After the one that differs, declarations are loaded alike. -/
theorem load_goAlike
    {declaration other : Source.Declaration}
    (written : declaration.Written)
    (otherWritten : other.Written)
    (same : other.unplaced = declaration.unplaced)
    (alike : List.Forall₂ (Grammar.Alike outer) batch others) :
    GoAlike (Workspace.Alike outer space) (Grammar.Alike outer)
      (load space options batch declaration) (load space options others other) := by
  obtain ⟨sameName, inherits, rules⟩ := Source.Declaration.mk.inj same
  rw [load_eq, load_eq]
  refine (superGrammar_goAlike inherits alike).bind_of_results fun parent otherParent parents => ?_
  refine loadOver_goAlike ⟨parents, written, otherWritten, sameName,
    assemble_unplaced_alike (rules_plain written) same parents.finds, fun _ _ _ => ⟨[], ?_, nofun⟩⟩
  rw [outlines_eq_of_unplaced rules]
  exact .refl _

theorem loadEach_goAlike
    {declarations otherDeclarations : List Source.Declaration}
    (written : ∀ declaration ∈ declarations, declaration.Written)
    (otherWritten : ∀ declaration ∈ otherDeclarations, declaration.Written)
    (same : otherDeclarations.map Source.Declaration.unplaced =
      declarations.map Source.Declaration.unplaced)
    (alike : List.Forall₂ (Grammar.Alike outer) batch others) :
    GoAlike (Workspace.Alike outer space) (List.Forall₂ (Grammar.Alike outer))
      (loadEach space options batch declarations)
      (loadEach space options others otherDeclarations) := by
  induction declarations generalizing otherDeclarations batch others with
  | nil =>
      cases List.map_eq_nil_iff.mp same
      exact .pure alike
  | cons declaration declarations inductionHypothesis =>
      obtain ⟨other, otherDeclarations, rfl, sameFirst, same⟩ := List.map_eq_cons_iff.mp same
      obtain ⟨writtenFirst, written⟩ := List.forall_mem_cons.mp written
      obtain ⟨otherWrittenFirst, otherWritten⟩ := List.forall_mem_cons.mp otherWritten
      refine (load_goAlike writtenFirst otherWrittenFirst sameFirst alike).bind_of_results
        fun grammar otherGrammar grammars => ?_
      exact inductionHypothesis written otherWritten same
        (List.rel_append alike (.cons grammars .nil))

/-! ## The declaration that differs -/

variable
  {later : List Source.RuleDeclaration}
  {workspace : Workspace}

/-- The declarations that differ are assembled alike over one super-grammar, unless the
outer rule is overridden later and the grammars are to be validated. -/
theorem assembleAlike_of_wraps
    {parent : Grammar}
    {declaration other : Source.Declaration}
    (sound : parent.Sound)
    (written : declaration.Written)
    (otherWritten : other.Written)
    (wraps : declaration.Wraps outer later other)
    (outerPlain : '-' ∉ outer.toList)
    (stays : options.validate = true →
      ∀ rule ∈ later, rule.name = outer → rule.operator ≠ .override) :
    AssembleAlike outer options parent parent declaration other where
  parents := .refl sound
  written := written
  otherWritten := otherWritten
  name := wraps.name
  assembles := assemble_wraps wraps (rules_plain written) parent
  supported builder validates ran := by
    rw [run_assemble] at ran
    obtain ⟨extra, still, more, found, calls⟩ :=
      exists_callMore wraps.rules outerPlain (stays validates) ran
    refine ⟨extra, more, fun name mem => ⟨still, ?_, calls mem⟩⟩
    rw [Builder.localRule?, ← find?_declared outerPlain] at found
    exact List.mem_of_find?_eq_some found

/-- The declarations that differ are loaded alike after the same grammars. -/
theorem load_wraps
    {declaration other : Source.Declaration}
    (written : declaration.Written)
    (otherWritten : other.Written)
    (wraps : declaration.Wraps outer later other)
    (outerPlain : '-' ∉ outer.toList)
    (stays : options.validate = true →
      ∀ rule ∈ later, rule.name = outer → rule.operator ≠ .override)
    (earlier : ∀ grammar ∈ batch, Grammar.Sound grammar)
    (held : workspace.registry.Offers space Grammar.Sound) :
    EndAlike (Workspace.Alike outer space) (Grammar.Alike outer)
      ((load space options batch declaration).run.run workspace)
      ((load space options batch other).run.run workspace) := by
  have sameSuper : superGrammar space batch other = superGrammar space batch declaration := by
    unfold superGrammar
    rw [wraps.inherits]
  have finds := (GoAlike.refl (superGrammar space batch declaration)).and_keeps
    (superGrammar_keeps Grammar.sound_hereditary.base earlier Registry.Offers.finds
      fun other _ => Registry.Offers.bearsCreate other)
  rw [load_eq, load_eq, sameSuper]
  refine (finds workspace workspace ⟨rfl, held⟩).bind ?_
  rintro parent _ middle _ ⟨rfl, sound⟩ ⟨rfl, held⟩
  exact loadOver_goAlike (assembleAlike_of_wraps sound written otherWritten wraps outerPlain stays)
    middle middle fun isSpace => .refl (held isSpace)

theorem loadEach_wraps
    {declarations otherDeclarations : List Source.Declaration}
    (wraps : Source.DeclarationsWrap outer later declarations otherDeclarations)
    (written : ∀ declaration ∈ declarations, declaration.Written)
    (otherWritten : ∀ declaration ∈ otherDeclarations, declaration.Written)
    (outerPlain : '-' ∉ outer.toList)
    (stays : options.validate = true →
      ∀ rule ∈ later, rule.name = outer → rule.operator ≠ .override)
    (earlier : ∀ grammar ∈ batch, Grammar.Sound grammar)
    (held : workspace.registry.Offers space Grammar.Sound) :
    EndAlike (Workspace.Alike outer space) (List.Forall₂ (Grammar.Alike outer))
      ((loadEach space options batch declarations).run.run workspace)
      ((loadEach space options batch otherDeclarations).run.run workspace) := by
  induction wraps generalizing batch workspace with
  | here wraps same =>
      obtain ⟨writtenFirst, written⟩ := List.forall_mem_cons.mp written
      obtain ⟨otherWrittenFirst, otherWritten⟩ := List.forall_mem_cons.mp otherWritten
      refine (load_wraps writtenFirst otherWrittenFirst wraps outerPlain stays earlier held).bind
        fun grammar otherGrammar middle otherMiddle grammars alike => ?_
      have batches : List.Forall₂ (Grammar.Alike outer) (batch ++ [grammar])
          (batch ++ [otherGrammar]) :=
        List.rel_append (List.forall₂_same.mpr fun grammar mem => .refl (earlier grammar mem))
          (.cons grammars .nil)
      exact loadEach_goAlike written otherWritten same batches middle otherMiddle alike
  | @there declaration _ _ _ same _ inductionHypothesis =>
      obtain ⟨writtenFirst, written⟩ := List.forall_mem_cons.mp written
      obtain ⟨-, otherWritten⟩ := List.forall_mem_cons.mp otherWritten
      have keeps : Keeps (fun workspace => workspace.registry.Offers space Grammar.Sound)
          Grammar.Sound (load space options batch declaration) :=
        load_good Grammar.sound_hereditary writtenFirst earlier
      refine ((load_unplaced same.symm).and_keeps keeps workspace workspace ⟨rfl, held⟩).bind ?_
      rintro grammar _ middle _ ⟨rfl, sound⟩ ⟨rfl, held⟩
      exact inductionHypothesis written otherWritten
        (List.forall_mem_append.mpr ⟨earlier, List.forall_mem_singleton.mpr sound⟩) held

/-! ## Registering -/

theorem register_goAlike
    {grammar other : Grammar}
    (isSpace : space.isSome)
    (target : String)
    (grammars : grammar.Alike outer other) :
    GoAlike (Workspace.Alike outer space) (Grammar.Alike outer) (register target grammar)
      (register target other) := by
  refine .get_bind fun workspace otherWorkspace alike => ?_
  have finds := (alike isSpace).finds target grammar.name
  dsimp only
  rw [grammars.name, (alike isSpace).policy]
  generalize workspace.registry.find? target grammar.name = found at finds
  generalize otherWorkspace.registry.find? target grammar.name = otherFound at finds
  cases finds with
  | none =>
      refine (record_goAlike _ _).bind fun _ => ?_
      refine GoAlike.bind (.modify fun _ _ alike isSpace => ?_) fun _ => .pure grammars
      exact (alike isSpace).add target grammars
  | some corresponds =>
      cases workspace.registry.policy with
      | reject => exact .throw _ _
      | keepFirst => exact (record_goAlike _ _).bind fun _ => .pure corresponds

theorem registerEach_goAlike
    (isSpace : space.isSome)
    (target : String)
    (grammars : List.Forall₂ (Grammar.Alike outer) batch others) :
    GoAlike (Workspace.Alike outer space) (List.Forall₂ (Grammar.Alike outer))
      (registerEach target batch) (registerEach target others) := by
  induction grammars with
  | nil => exact .pure .nil
  | cons first _ inductionHypothesis =>
      refine (register_goAlike isSpace target first).bind_of_results fun one other ones => ?_
      refine inductionHypothesis.bind_of_results fun rest otherRest rests => ?_
      exact .pure (.cons ones rests)

/-- Batches that correspond are in conflict with registries that correspond over the same
name. -/
theorem firstConflict?_eq
    {registry other : Registry}
    (alike : registry.Alike outer other)
    (target : String)
    (grammars : List.Forall₂ (Grammar.Alike outer) batch others)
    (seen : List String) :
    firstConflict? other target seen others = firstConflict? registry target seen batch := by
  induction grammars generalizing seen with
  | nil => rfl
  | @cons grammar _ _ _ first _ inductionHypothesis =>
      have finds := alike.finds target grammar.name
      have taken : (other.find? target grammar.name).isSome =
          (registry.find? target grammar.name).isSome := by
        generalize registry.find? target grammar.name = found at finds
        generalize other.find? target grammar.name = otherFound at finds
        cases finds <;> rfl
      rw [firstConflict?, firstConflict?, first.name, taken, inductionHypothesis]

/-- Batches that correspond are registered alike. -/
theorem registerBatch_goAlike
    (grammars : List.Forall₂ (Grammar.Alike outer) batch others) :
    GoAlike (Workspace.Alike outer space) (List.Forall₂ (Grammar.Alike outer))
      (registerBatch space options batch) (registerBatch space options others) := by
  cases space with
  | none => exact .pure grammars
  | some target =>
      unfold registerBatch
      dsimp only
      split
      · refine .get_bind fun workspace other alike => ?_
        dsimp only
        rw [firstConflict?_eq (alike rfl) target grammars, (alike rfl).policy]
        split
        · exact .throw _ _
        · exact registerEach_goAlike rfl target grammars
      · exact .pure grammars

end Tasks

end WorkspaceM
end Heirloom
