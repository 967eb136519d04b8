import Heirloom.Proofs.Task
import Heirloom.Proofs.Validation

/-!
# Loading a declaration

Whatever a declaration says, the builder that it is assembled in has no other
super-grammar than the one found for the declaration. What is done besides,
from recording to validating, leaves the registry alone.
-/

namespace Heirloom

/-- The builder has no other super-grammar than the given one. -/
def Builder.OnlyOver (parent : Grammar) (builder : Builder) : Prop :=
  ∀ other, builder.parent = some other → other = parent

namespace Builder.OnlyOver

variable
  {parent : Grammar}
  {builder after : Builder}
  {name : String}
  {body reference : Expr}

/-- The super-grammar does not change with the other parts of a builder. -/
theorem of_parent_eq
    (only : builder.OnlyOver parent)
    (same : after.parent = builder.parent) :
    after.OnlyOver parent := by
  intro other sets
  exact only other (same ▸ sets)

theorem setParent
    (sets : builder.setParent parent = .ok after) :
    after.OnlyOver parent := by
  unfold Builder.setParent at sets
  split at sets
  · cases sets
  · cases sets
    rintro _ ⟨⟩
    rfl

theorem define
    (only : builder.OnlyOver parent)
    (defines : builder.define name body = .ok after) :
    after.OnlyOver parent := by
  unfold Builder.define at defines
  split at defines
  · cases defines
  · cases defines
    exact only.of_parent_eq rfl

theorem override
    (only : builder.OnlyOver parent)
    (overrides : builder.override name body = .ok after) :
    after.OnlyOver parent := by
  unfold Builder.override at overrides
  split at overrides
  · cases overrides
    exact only.of_parent_eq rfl
  · cases overrides

theorem extend
    (only : builder.OnlyOver parent)
    (extended : builder.extend name body = .ok after) :
    after.OnlyOver parent := by
  unfold Builder.extend at extended
  split at extended
  · cases extended
    exact only.of_parent_eq rfl
  · cases extended

theorem inline
    (only : builder.OnlyOver parent)
    (inlines : builder.inline body = .ok (reference, after)) :
    after.OnlyOver parent := by
  simp only [Builder.inline] at inlines
  split at inlines
  · next defines =>
      cases inlines
      refine define ?_ defines
      exact only.of_parent_eq rfl
  · cases inlines

end Builder.OnlyOver

/-! ## Rule bodies -/

section Bodies

variable {parent : Grammar}

/-- A change of the builder keeps what each of its successes keeps. -/
theorem BuilderM.change_keeps
    {holds : Builder → Prop}
    {operation : Builder → Except Error Builder}
    (kept : ∀ {builder after}, holds builder → operation builder = .ok after → holds after) :
    Keeps holds (fun _ => True) (BuilderM.change operation) := by
  unfold BuilderM.change
  refine Keeps.get.bind fun builder before => ?_
  split
  · next after changes => exact Keeps.set (kept before changes)
  · exact Keeps.throw _

theorem BuilderM.inline_keeps (body : Expr) :
    Keeps (Builder.OnlyOver parent) (fun _ => True) (BuilderM.inline body) := by
  unfold BuilderM.inline
  refine Keeps.get.bind fun builder only => ?_
  split
  · next reference after inlines =>
      exact (Keeps.set (only.inline inlines)).bind fun _ _ => Keeps.pure trivial
  · exact Keeps.throw _

theorem BuilderM.complain_keeps
    {holds : Builder → Prop}
    {good : α → Prop}
    (position : Position)
    (complaint : Source.Complaint) :
    Keeps holds good (BuilderM.complain position complaint : BuilderM α) :=
  Keeps.throw _

theorem BuilderM.orComplain_keeps
    {holds : Builder → Prop}
    (position : Position)
    (complaint : Source.Complaint)
    (reading : Option α) :
    Keeps holds (fun _ => True) (BuilderM.orComplain position complaint reading) := by
  cases reading with
  | none => exact BuilderM.complain_keeps position complaint
  | some result => exact Keeps.pure trivial

theorem lowerLiteral_keeps
    {holds : Builder → Prop}
    (position : Position)
    (literal : Source.Literal) :
    Keeps holds (fun _ => True) (lowerLiteral position literal) := by
  cases literal with
  | text value => exact Keeps.pure trivial
  | char value => exact Keeps.pure trivial
  | integer value =>
      exact (BuilderM.orComplain_keeps _ _ _).bind fun _ _ => Keeps.pure trivial
  | other => exact BuilderM.complain_keeps _ _

theorem lowerNegative_keeps
    {holds : Builder → Prop}
    (position : Position)
    (signed : Bool)
    (value : Nat) :
    Keeps holds (fun _ => True) (lowerNegative position signed value) := by
  cases signed with
  | true => exact BuilderM.complain_keeps _ _
  | false => exact (BuilderM.orComplain_keeps _ _ _).bind fun _ _ => Keeps.pure trivial

mutual

/-- Only inline patterns change the builder, and they keep its super-grammar. -/
theorem lower_keeps : ∀ pattern : Source.Pattern,
    Keeps (Builder.OnlyOver parent) (fun _ => True) (lower pattern)
  | .any | .undefined | .null | .bool _ | .range _ _ | .call _ => by
      rw [lower]
      exact Keeps.pure trivial
  | .literal position value => by
      rw [lower]
      exact (lowerLiteral_keeps position value).bind fun _ _ => Keeps.pure trivial
  | .negative position signed value => by
      rw [lower]
      exact (lowerNegative_keeps position signed value).bind fun _ _ => Keeps.pure trivial
  | .regex position source => by
      rw [lower]
      exact (BuilderM.orComplain_keeps _ _ _).bind fun _ _ => Keeps.pure trivial
  | .alt patterns | .seq patterns => by
      rw [lower]
      exact (lowerAll_keeps patterns).bind fun _ _ => Keeps.pure trivial
  | .bind body _ | .star body | .plus body | .opt body | .not body | .peek body | .str body
  | .list body => by
      rw [lower]
      exact (lower_keeps body).bind fun _ _ => Keeps.pure trivial
  | .object properties lenient => by
      rw [lower]
      split
      · exact (lowerProperties_keeps properties).bind fun _ _ => Keeps.pure trivial
      · exact Keeps.throw _
  | .inline body => by
      rw [lower]
      exact (lower_keeps body).bind fun expr _ => BuilderM.inline_keeps expr

theorem lowerAll_keeps : ∀ patterns : List Source.Pattern,
    Keeps (Builder.OnlyOver parent) (fun _ => True) (lowerAll patterns)
  | [] => by
      rw [lowerAll]
      exact Keeps.pure trivial
  | pattern :: patterns => by
      rw [lowerAll]
      exact (lower_keeps pattern).bind fun _ _ =>
        (lowerAll_keeps patterns).bind fun _ _ => Keeps.pure trivial

theorem lowerProperties_keeps : ∀ properties : List (Source.Key × Source.Pattern),
    Keeps (Builder.OnlyOver parent) (fun _ => True) (lowerProperties properties)
  | [] => by
      rw [lowerProperties]
      exact Keeps.pure trivial
  | (key, pattern) :: properties => by
      rw [lowerProperties]
      exact (lower_keeps pattern).bind fun _ _ =>
        (lowerProperties_keeps properties).bind fun _ _ => Keeps.pure trivial

end

theorem installRule_keeps (rule : Source.RuleDeclaration) :
    Keeps (Builder.OnlyOver parent) (fun _ => True) (installRule rule) := by
  unfold installRule
  refine (Keeps.modify fun builder only => only.of_parent_eq rfl).bind fun _ _ => ?_
  refine (lower_keeps rule.body).bind fun body _ => ?_
  split
  · exact BuilderM.change_keeps Builder.OnlyOver.define
  · exact BuilderM.change_keeps Builder.OnlyOver.override
  · exact BuilderM.change_keeps Builder.OnlyOver.extend

theorem installRules_keeps (rules : List Source.RuleDeclaration) :
    Keeps (Builder.OnlyOver parent) (fun _ => True) (installRules rules) := by
  induction rules with
  | nil => exact Keeps.pure trivial
  | cons rule rules inductionHypothesis =>
      exact (installRule_keeps rule).bind fun _ _ => inductionHypothesis

/-- A declaration is assembled over the super-grammar it is given. -/
theorem assemble_keeps (declaration : Source.Declaration) :
    Keeps (Builder.OnlyOver parent) (fun _ => True) (assemble parent declaration) := by
  unfold assemble
  refine (Keeps.modify fun builder only => only.of_parent_eq rfl).bind fun _ _ => ?_
  refine (BuilderM.change_keeps fun _ sets => .setParent sets).bind fun _ _ => ?_
  exact installRules_keeps declaration.rules

end Bodies

/-! ## Declarations -/

/-- A builder without rules over a super-grammar. -/
def Builder.over (name : String) (parent : Grammar) : Builder :=
  { Builder.empty with
    givenName := some name
    parent := some parent
    records := [.superGrammarSet name parent.name] }

/-- A declaration is assembled by installing its rules over the super-grammar. -/
theorem run_assemble (parent : Grammar) (declaration : Source.Declaration) :
    (assemble parent declaration).run.run Builder.empty =
      (installRules declaration.rules).run.run (.over declaration.name parent) :=
  rfl

namespace WorkspaceM

variable {options : LoadOptions}

/-- A task on a workspace whose results have a property. -/
def Gives (good : α → Prop) (task : WorkspaceM α) : Prop :=
  Keeps (fun _ => True) good task

/-! ### What leaves the registry alone -/

section Leaving

variable {holds : Registry → Prop}

theorem record_leaves (records : List Log.Record) :
    Keeps (fun workspace => holds workspace.registry) (fun _ => True) (record records) :=
  Keeps.modify fun _ before => before

theorem freshSerial_leaves :
    Keeps (fun workspace => holds workspace.registry) (fun _ => True) freshSerial :=
  Keeps.get.bind fun _ _ =>
    (Keeps.modify fun _ before => before).bind fun _ _ => Keeps.pure trivial

theorem validate_leaves (grammar : Grammar) :
    Keeps (fun workspace => holds workspace.registry) (fun _ => grammar.validate.2 = none)
      (validate grammar) := by
  unfold validate
  refine (record_leaves _).bind fun _ _ => ?_
  split
  · exact Keeps.throw _
  · next passes => exact Keeps.pure passes

theorem build_leaves (builder : Builder) :
    Keeps (fun workspace => holds workspace.registry)
      (fun grammar => ∃ serial, grammar = builder.build serial) (build builder) :=
  (record_leaves _).bind fun _ _ =>
    freshSerial_leaves.bind fun serial _ => Keeps.pure ⟨serial, rfl⟩

/-- The grammar is what the declaration is assembled to over the super-grammar. -/
def Assembles
    (parent : Grammar)
    (declaration : Source.Declaration)
    (grammar : Grammar) : Prop :=
  ∃ builder serial,
    (assemble parent declaration).run.run Builder.empty = (.ok (), builder) ∧
      grammar = builder.build serial

/-- Load a declaration over its super-grammar. -/
def loadOver
    (options : LoadOptions)
    (declaration : Source.Declaration)
    (parent : Grammar) : WorkspaceM Grammar := do
  let (result, builder) := (assemble parent declaration).run Builder.empty
  record builder.records
  match result with
  | .error error => throw error
  | .ok () =>
      let grammar ← build builder
      if options.validate then validate grammar
      record [.loaded grammar.render]
      return grammar

theorem load_eq
    (space : Option String)
    (options : LoadOptions)
    (batch : List Grammar)
    (declaration : Source.Declaration) :
    load space options batch declaration =
      superGrammar space batch declaration >>= loadOver options declaration :=
  rfl

/-- A declaration is assembled over its super-grammar, and validated if that is
asked for. Whatever finding the super-grammar keeps true of the registry stays
true. -/
theorem load_keeps
    (holds : Registry → Prop)
    {inherited : Grammar → Prop}
    {space : Option String}
    {batch : List Grammar}
    {declaration : Source.Declaration}
    (finds :
      Keeps (fun workspace => holds workspace.registry) inherited
        (superGrammar space batch declaration)) :
    Keeps (fun workspace => holds workspace.registry)
      (fun grammar =>
        (∃ parent, inherited parent ∧ Assembles parent declaration grammar) ∧
          (options.validate = true → grammar.validate.2 = none))
      (load space options batch declaration) := by
  unfold load
  refine finds.bind fun parent isInherited => ?_
  rcases assembled : (assemble parent declaration).run Builder.empty with ⟨result, builder⟩
  refine (record_leaves _).bind fun _ _ => ?_
  cases result with
  | error error => exact Keeps.throw _
  | ok =>
      refine (build_leaves builder).bind fun grammar built => ?_
      obtain ⟨serial, isBuilt⟩ := built
      have assembles : ∃ parent, inherited parent ∧ Assembles parent declaration grammar :=
        ⟨parent, isInherited, builder, serial, assembled, isBuilt⟩
      have finishes : ∀ passes : options.validate = true → grammar.validate.2 = none,
          Keeps (fun workspace => holds workspace.registry)
            (fun grammar =>
              (∃ parent, inherited parent ∧ Assembles parent declaration grammar) ∧
                (options.validate = true → grammar.validate.2 = none))
            (do record [.loaded grammar.render]; return grammar) := fun passes =>
        (record_leaves _).bind fun _ _ => Keeps.pure ⟨assembles, passes⟩
      split
      · exact (validate_leaves grammar).bind fun _ passes => finishes fun _ => passes
      · next unchecked => exact finishes fun validates => absurd validates unchecked

end Leaving

/-- If each grammar is good when the earlier ones are, all are good. -/
theorem loadEach_all
    {property : Workspace → Prop}
    {good : Grammar → Prop}
    {space : Option String}
    {batch : List Grammar}
    {declarations : List Source.Declaration}
    (loads :
      ∀ declaration ∈ declarations, ∀ batch, (∀ grammar ∈ batch, good grammar) →
        Keeps property good (load space options batch declaration))
    (earlier : ∀ grammar ∈ batch, good grammar) :
    Keeps property (fun grammars => ∀ grammar ∈ grammars, good grammar)
      (loadEach space options batch declarations) := by
  induction declarations generalizing batch with
  | nil => exact Keeps.pure earlier
  | cons declaration declarations inductionHypothesis =>
      obtain ⟨first, others⟩ := List.forall_mem_cons.mp loads
      refine (first batch earlier).bind fun grammar isGood => ?_
      refine inductionHypothesis others ?_
      exact List.forall_mem_append.mpr ⟨earlier, List.forall_mem_singleton.mpr isGood⟩


end WorkspaceM
end Heirloom
