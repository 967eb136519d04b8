import Heirloom.Proofs.Loading

/-!
# Placement

Positions in a declaration only place its faults. Declarations that differ in
nothing else are assembled and loaded alike.
-/

namespace Heirloom
namespace Source

namespace Pattern

mutual

/-- The pattern with all its parts at the start. -/
def unplaced : Pattern → Pattern
  | any => any
  | undefined => undefined
  | null => null
  | bool value => bool value
  | literal _ value => literal .start value
  | negative _ signed value => negative .start signed value
  | range first last => range first last
  | regex _ source => regex .start source
  | call rule => call rule
  | alt alternatives => alt (unplacedAll alternatives)
  | seq items => seq (unplacedAll items)
  | bind body name => bind (unplaced body) name
  | star body => star (unplaced body)
  | plus body => plus (unplaced body)
  | opt body => opt (unplaced body)
  | not body => not (unplaced body)
  | peek body => peek (unplaced body)
  | str body => str (unplaced body)
  | list body => list (unplaced body)
  | object properties lenient => object (unplacedProperties properties) lenient
  | inline body => inline (unplaced body)

def unplacedAll : List Pattern → List Pattern
  | [] => []
  | pattern :: patterns => unplaced pattern :: unplacedAll patterns

def unplacedProperties : List (Key × Pattern) → List (Key × Pattern)
  | [] => []
  | (key, pattern) :: properties =>
      (⟨key.name, .start⟩, unplaced pattern) :: unplacedProperties properties

end

end Pattern

/-- The rule with all its parts at the start. -/
def RuleDeclaration.unplaced (rule : RuleDeclaration) : RuleDeclaration :=
  { rule with position := .start, body := rule.body.unplaced }

/-- The declaration with all its parts at the start. -/
def Declaration.unplaced (declaration : Declaration) : Declaration :=
  { declaration with rules := declaration.rules.map RuleDeclaration.unplaced }

@[simp] theorem Declaration.inherits_unplaced (declaration : Declaration) :
    declaration.unplaced.inherits = declaration.inherits := rfl

theorem checkKeys_unplaced
    {properties : List (Key × Pattern)}
    {seen : List String} :
    checkKeys seen (Pattern.unplacedProperties properties) = .ok () ↔
      checkKeys seen properties = .ok () := by
  induction properties generalizing seen with
  | nil => rfl
  | cons property properties inductionHypothesis =>
      rw [Pattern.unplacedProperties, checkKeys, checkKeys]
      split
      · exact ⟨nofun, nofun⟩
      · exact inductionHypothesis

end Source

open Source.Pattern (unplaced unplacedAll unplacedProperties)

/-! ## Rule bodies -/

theorem BuilderM.orComplain_alike
    (position otherPosition : Position)
    (complaint : Source.Complaint)
    (reading : Option α) :
    GoAlike Eq Eq (BuilderM.orComplain position complaint reading)
      (BuilderM.orComplain otherPosition complaint reading) := by
  cases reading with
  | none => exact .throw _ _
  | some result => exact .pure rfl

theorem lowerLiteral_alike
    (position otherPosition : Position)
    (literal : Source.Literal) :
    GoAlike Eq Eq (lowerLiteral position literal) (lowerLiteral otherPosition literal) := by
  cases literal with
  | text value => exact .pure rfl
  | char value => exact .pure rfl
  | integer value => exact (BuilderM.orComplain_alike _ _ _ _).bind fun _ => .pure rfl
  | other => exact .throw _ _

theorem lowerNegative_alike
    (position otherPosition : Position)
    (signed : Bool)
    (value : Nat) :
    GoAlike Eq Eq (lowerNegative position signed value)
      (lowerNegative otherPosition signed value) := by
  cases signed with
  | true => exact .throw _ _
  | false => exact (BuilderM.orComplain_alike _ _ _ _).bind fun _ => .pure rfl

mutual

/-- Compiling a pattern ends well wherever its parts stand, or nowhere. -/
theorem lower_unplaced : ∀ pattern : Source.Pattern,
    GoAlike Eq Eq (lower (unplaced pattern)) (lower pattern)
  | .any | .undefined | .null | .bool _ | .range _ _ | .call _ => .refl _
  | .literal position value => by
      rw [unplaced, lower, lower]
      exact (lowerLiteral_alike _ _ value).bind fun _ => .pure rfl
  | .negative position signed value => by
      rw [unplaced, lower, lower]
      exact (lowerNegative_alike _ _ signed value).bind fun _ => .pure rfl
  | .regex position source => by
      rw [unplaced, lower, lower]
      exact (BuilderM.orComplain_alike _ _ _ _).bind fun _ => .pure rfl
  | .alt patterns | .seq patterns => by
      rw [unplaced, lower, lower]
      exact (lowerAll_unplaced patterns).bind fun _ => .pure rfl
  | .bind body _ | .star body | .plus body | .opt body | .not body | .peek body | .str body
  | .list body => by
      rw [unplaced, lower, lower]
      exact (lower_unplaced body).bind fun _ => .pure rfl
  | .object properties lenient => by
      rw [unplaced, lower, lower]
      cases checks : Source.checkKeys [] properties with
      | ok =>
          rw [Source.checkKeys_unplaced.mpr checks]
          exact (lowerProperties_unplaced properties).bind fun _ => .pure rfl
      | error fault =>
          cases otherChecks : Source.checkKeys [] (unplacedProperties properties) with
          | ok =>
              rw [Source.checkKeys_unplaced.mp otherChecks] at checks
              cases checks
          | error otherFault => exact .throw _ _
  | .inline body => by
      rw [unplaced, lower, lower]
      exact (lower_unplaced body).bind fun expr => .refl (BuilderM.inline expr)

theorem lowerAll_unplaced : ∀ patterns : List Source.Pattern,
    GoAlike Eq Eq (lowerAll (unplacedAll patterns)) (lowerAll patterns)
  | [] => .refl _
  | pattern :: patterns => by
      rw [unplacedAll, lowerAll, lowerAll]
      exact (lower_unplaced pattern).bind fun _ =>
        (lowerAll_unplaced patterns).bind fun _ => .pure rfl

theorem lowerProperties_unplaced : ∀ properties : List (Source.Key × Source.Pattern),
    GoAlike Eq Eq (lowerProperties (unplacedProperties properties)) (lowerProperties properties)
  | [] => .refl _
  | (key, pattern) :: properties => by
      rw [unplacedProperties, lowerProperties, lowerProperties]
      exact (lower_unplaced pattern).bind fun _ =>
        (lowerProperties_unplaced properties).bind fun _ => .pure rfl

end

/-! ## Declarations -/

theorem installRule_unplaced (rule : Source.RuleDeclaration) :
    GoAlike Eq Eq (installRule rule.unplaced) (installRule rule) := by
  refine (GoAlike.refl _).bind fun _ => (lower_unplaced rule.body).bind fun body => ?_
  exact .refl _

theorem installRules_unplaced (rules : List Source.RuleDeclaration) :
    GoAlike Eq Eq (installRules (rules.map Source.RuleDeclaration.unplaced))
      (installRules rules) := by
  induction rules with
  | nil => exact .refl _
  | cons rule rules inductionHypothesis =>
      exact (installRule_unplaced rule).bind fun _ => inductionHypothesis

theorem assemble_unplaced
    (parent : Grammar)
    (declaration : Source.Declaration) :
    GoAlike Eq Eq (assemble parent declaration.unplaced) (assemble parent declaration) :=
  (GoAlike.refl _).bind fun _ => (GoAlike.refl _).bind fun _ =>
    installRules_unplaced declaration.rules

/-- Declarations that differ in positions only are assembled alike. -/
theorem assemble_alike
    {declaration other : Source.Declaration}
    (same : declaration.unplaced = other.unplaced)
    (parent : Grammar) :
    GoAlike Eq Eq (assemble parent declaration) (assemble parent other) := by
  refine (assemble_unplaced parent declaration).symm.trans ?_
  rw [same]
  exact assemble_unplaced parent other

namespace WorkspaceM

/-- Declarations that differ in positions only are loaded alike. -/
theorem load_unplaced
    {space : Option String}
    {options : LoadOptions}
    {batch : List Grammar}
    {declaration other : Source.Declaration}
    (same : declaration.unplaced = other.unplaced) :
    GoAlike Eq Eq (load space options batch declaration) (load space options batch other) := by
  obtain ⟨-, inherits, -⟩ := Source.Declaration.mk.inj same
  have sameSuper : superGrammar space batch declaration = superGrammar space batch other := by
    unfold superGrammar
    rw [inherits]
  rw [load_eq, load_eq, sameSuper]
  refine (GoAlike.refl _).bind fun parent => ?_
  unfold loadOver
  rcases ran : (assemble parent declaration).run Builder.empty with ⟨result, builder⟩
  rcases otherRan : (assemble parent other).run Builder.empty with ⟨otherResult, otherBuilder⟩
  have ends : EndAlike Eq Eq (result, builder) (otherResult, otherBuilder) := by
    rw [← ran, ← otherRan]
    exact assemble_alike same parent Builder.empty Builder.empty rfl
  cases ends with
  | succeed _ same =>
      subst same
      exact .refl _
  | fail =>
      intro workspace _ same
      subst same
      exact .fail

end WorkspaceM
end Heirloom
