import Heirloom.Proofs.Matching.Termination
import Heirloom.Proofs.Registration

/-!
# Safety of validated grammars

A grammar that is loaded without a namespace lies over the base grammar or an
earlier one of its source, so if every grammar is validated as it is loaded,
whole lineages are. A match of a grammar whose lineage is validated never ends
with a fault when it starts from a rule that is found: the rules found are
closed under what their bodies apply, wherever in the lineage they were declared
and validated. In any grammar the only faults are applications of rules that no
grammar of the lineage declares.
-/

namespace Heirloom

/-! ## Loading validated grammars -/

/-- The base grammar passes its own validation. -/
theorem baseGrammar_validated : baseGrammar.Validated :=
  .extending (by decide) nofun

namespace WorkspaceM

variable {options : LoadOptions}

/-- A grammar that is loaded over validated ones and validated itself has a
validated lineage. -/
theorem load_gives
    (validates : options.validate = true)
    {batch : List Grammar}
    (earlier : ∀ grammar ∈ batch, grammar.Validated)
    (declaration : Source.Declaration) :
    Gives Grammar.Validated (load none options batch declaration) := by
  have finds : Gives Grammar.Validated (superGrammar none batch declaration) :=
    superGrammar_inheritable.weaken fun _ inheritable =>
      inheritable.good baseGrammar_validated earlier
  refine (load_keeps (fun _ => True) finds).weaken fun grammar loaded => ?_
  obtain ⟨⟨parent, inherited, builder, serial, assembles, rfl⟩, passes⟩ := loaded
  have start : Builder.empty.OnlyOver parent := nofun
  have only : builder.OnlyOver parent := by
    have kept := (assemble_keeps declaration Builder.empty start).1
    rwa [assembles] at kept
  refine .extending (passes validates) ?_
  intro other sets
  exact only other sets ▸ inherited

/-- Every grammar of a source that is loaded without a namespace and validated
has a validated lineage. -/
theorem loadAll_gives
    (validates : options.validate = true)
    (source : String) :
    Gives (fun grammars => ∀ grammar ∈ grammars, Grammar.Validated grammar)
      (loadAll none options source) := by
  have loads : ∀ declarations, Gives (fun grammars => ∀ grammar ∈ grammars, grammar.Validated)
      (loadEach none options [] declarations) := fun declarations =>
    loadEach_all (fun declaration _ _ earlier => load_gives validates earlier declaration) nofun
  exact (ofSource_keeps _).bind fun declarations _ =>
    (loads declarations).bind fun batch validated => Keeps.pure validated

end WorkspaceM

/-! ## Matching with validated grammars -/

namespace Matcher

/-- The rules found from a validated grammar are closed. -/
theorem closed_of_validated
    {matcher : Matcher}
    (validated : matcher.grammar.Validated) :
    matcher.Closed fun name => (matcher.grammar.rule? name).isSome where
  applied _ found := validated.references_found found
  skipped skips := (skipRule_of_skipRuleFor skips).2

/-- A match that starts from a rule that is found in a validated grammar ends
without a fault. -/
theorem matchAll_ne_fault
    {matcher : Matcher}
    (validated : matcher.grammar.Validated)
    {name : String}
    (found : (matcher.grammar.rule? name).isSome)
    (stream : List Value)
    (fault : Matching.Fault) :
    matcher.matchAll stream name ≠ .fault fault := by
  intro ends
  obtain ⟨missing, resolves, absent, -⟩ :=
    run_respects (closed_of_validated validated) found stream ends
  rw [absent] at resolves
  cases resolves

/-- The only fault of a match is the application of a rule that no grammar of the
lineage declares. -/
theorem fault_of_matchAll
    {matcher : Matcher}
    {name : String}
    {stream : List Value}
    {fault : Matching.Fault}
    (ends : matcher.matchAll stream name = .fault fault) :
    ∃ missing, fault = .undefinedRule matcher.grammar.name missing ∧
      ∀ ancestor ∈ matcher.grammar.lineage, ancestor.localRule? missing = none := by
  obtain ⟨missing, -, absent, undefined⟩ :=
    run_respects (Closed.all matcher) trivial stream ends
  exact ⟨missing, undefined, List.findSome?_eq_none_iff.mp absent⟩

/-- Matching with a grammar whose lineage is validated never faults from a rule
that is found. The base grammar is such a grammar, and so is every grammar that
is loaded without a namespace and validated. Whatever the grammar, the only fault
names the grammar of the matcher and a rule declared nowhere in its lineage. -/
theorem validated_matching_is_safe :
    (∀ (matcher : Matcher) (name : String),
      (∀ ancestor ∈ matcher.grammar.lineage, ancestor.validate.2 = none) →
      (matcher.grammar.rule? name).isSome →
        (∀ stream fault, matcher.matchAll stream name ≠ .fault fault) ∧
        (∀ value fault, matcher.matchValue value name ≠ .fault fault) ∧
        (∀ text fault, matcher.matchText text name ≠ .fault fault)) ∧
    (∀ ancestor ∈ baseGrammar.lineage, ancestor.validate.2 = none) ∧
    (∀ (options : LoadOptions) (source : String) (workspace : Workspace)
      (grammars : List Grammar),
      options.validate = true →
      ((WorkspaceM.loadAll none options source).run.run workspace).1 = .ok grammars →
        ∀ grammar ∈ grammars, ∀ ancestor ∈ grammar.lineage, ancestor.validate.2 = none) ∧
    (∀ (matcher : Matcher) (name : String) (fault : Matching.Fault),
      ((∃ stream, matcher.matchAll stream name = .fault fault) ∨
        (∃ value, matcher.matchValue value name = .fault fault) ∨
        (∃ text, matcher.matchText text name = .fault fault)) →
          ∃ missing, fault = .undefinedRule matcher.grammar.name missing ∧
            ∀ ancestor ∈ matcher.grammar.lineage, ancestor.localRule? missing = none) := by
  refine ⟨?_, baseGrammar_validated, ?_, ?_⟩
  · intro matcher name validated found
    have safe := matchAll_ne_fault validated found
    exact ⟨safe, fun value => safe [value], fun text => safe (Value.chars text)⟩
  · intro options source workspace grammars validates loaded
    exact (WorkspaceM.loadAll_gives validates source workspace trivial).2 grammars loaded
  · rintro matcher name fault (⟨_, ends⟩ | ⟨_, ends⟩ | ⟨_, ends⟩) <;>
      exact fault_of_matchAll ends

/-- A grammar over the base grammar matches from an inherited rule without faults. -/
theorem inherited_matching_is_safe :
    let pairs : Grammar :=
      ⟨1, "Pairs", [⟨"pair", .seq [.app "letter", .app "digit"]⟩], some baseGrammar⟩
    (∀ ancestor ∈ pairs.lineage, ancestor.validate.2 = none) ∧
    (pairs.rule? "letter").isSome ∧
    ∀ stream fault, Matcher.matchAll { grammar := pairs } stream "letter" ≠ .fault fault := by
  refine ⟨by decide, by decide, ?_⟩
  exact (validated_matching_is_safe.1 { grammar := _ } "letter" (by decide) (by decide)).1

end Matcher
end Heirloom
