import Heirloom.Grammar.Validation
import Heirloom.Proofs.Matching.Scopes

/-!
# Collisions

A name that is bound twice in one scope keeps its last value. The validation of a grammar
warns about the names that occur twice in one sequence. Without repetitions, this leaves
out only the names that are bound twice with no sequence around both places: around a
pattern that binds the same name, and in the patterns of two properties. Every other
collision that an evaluation can come to is warned about, unless the validation fails
before it gets to the rule.
-/

namespace Heirloom
namespace Expr

/-! ## Names that are warned about -/

/-- Repeated names are those that were seen before and those that occur twice. -/
theorem mem_addRepeated
    {name : String}
    {seen known names : List String} :
    name ∈ addRepeated seen known names ↔
      name ∈ known ∨ (name ∈ seen ∧ name ∈ names) ∨ 2 ≤ names.count name := by
  induction names generalizing seen known with
  | nil => simp [addRepeated]
  | cons head names inductionHypothesis =>
      rw [addRepeated]
      by_cases same : head = name
      · subst same
        rw [List.count_cons_self]
        split
        · next seenBefore =>
            have added : head ∈ if known.contains head then known else known ++ [head] := by
              split
              · next contained => exact List.contains_iff_mem.mp contained
              · exact List.mem_append_right _ (List.mem_singleton_self _)
            have isSeen := List.contains_iff_mem.mp seenBefore
            exact iff_of_true (inductionHypothesis.mpr (.inl added))
              (.inr (.inl ⟨isSeen, List.mem_cons_self⟩))
        · next notSeen =>
            have isNew : head ∉ seen := fun mem => notSeen (List.contains_iff_mem.mpr mem)
            have once : head ∈ names ∨ 2 ≤ names.count head ↔ 2 ≤ names.count head + 1 := by
              rw [← List.count_pos_iff]
              omega
            simp [inductionHypothesis, isNew, once]
      · have other : name ≠ head := Ne.symm same
        rw [List.count_cons_of_ne same]
        split
        · rw [inductionHypothesis]
          split <;> simp [other]
        · simp [inductionHypothesis, other]

mutual

/-- Looking for duplicates adds them to those that are known. -/
theorem mem_addDuplicates
    (name : String) :
    ∀ (expr : Expr) (known : List String),
      name ∈ expr.addDuplicates known ↔ name ∈ known ∨ name ∈ expr.duplicateBindings
  | .any, _ | .prim _, _ | .range _, _ | .regex _, _ | .app _, _ => by
      simp [addDuplicates, duplicateBindings]
  | .alt left right, known => by
      rw [duplicateBindings, addDuplicates, addDuplicates, mem_addDuplicates name right,
        mem_addDuplicates name left, mem_addDuplicates name right (left.addDuplicates []),
        duplicateBindings, or_assoc]
  | .seq items, known => by
      simp only [duplicateBindings, addDuplicates, mem_addItemDuplicates name items,
        mem_addRepeated, List.not_mem_nil, false_and, false_or, or_assoc]
  | .obj properties _, known => by
      simp only [duplicateBindings, addDuplicates, mem_addPropertyDuplicates name properties,
        List.not_mem_nil, false_or]
  | .bind body _, known | .many body _, known | .opt body, known | .not body, known
  | .peek body, known | .str body, known | .lst body, known | .inline _ body, known =>
      mem_addDuplicates name body known

theorem mem_addItemDuplicates
    (name : String) :
    ∀ (items : List Expr) (known : List String),
      name ∈ addItemDuplicates items known ↔
        name ∈ known ∨ ∃ item ∈ items, name ∈ item.duplicateBindings
  | [], known => by simp [addItemDuplicates]
  | item :: items, known => by
      simp only [addItemDuplicates, mem_addItemDuplicates name items, mem_addDuplicates name item,
        List.mem_cons, exists_eq_or_imp, or_assoc]

theorem mem_addPropertyDuplicates
    (name : String) :
    ∀ (properties : List (String × Expr)) (known : List String),
      name ∈ addPropertyDuplicates properties known ↔
        name ∈ known ∨ ∃ property ∈ properties, name ∈ property.2.duplicateBindings
  | [], known => by simp [addPropertyDuplicates]
  | (key, body) :: properties, known => by
      simp only [addPropertyDuplicates, mem_addPropertyDuplicates name properties,
        mem_addDuplicates name body, List.mem_cons, exists_eq_or_imp, or_assoc]

end

/-- A sequence is warned about for the names that occur in it twice. -/
theorem mem_duplicateBindings_of_count
    {name : String}
    {items : List Expr}
    (repeats : 2 ≤ (itemBindings items).count name) :
    name ∈ (Expr.seq items).duplicateBindings := by
  rw [duplicateBindings, addDuplicates, mem_addItemDuplicates, mem_addRepeated]
  exact .inl (.inr (.inr repeats))

/-! ## Names that are not -/

mutual

/-- The names that can be bound twice with no sequence around both places. -/
def rebound : Expr → List String
  | bind body name => (if name ∈ bindings body then [name] else []) ++ rebound body
  | alt left right => rebound left ++ rebound right
  | opt body => rebound body
  | peek body => rebound body
  | str body => rebound body
  | lst body => rebound body
  | obj properties _ => propertiesRebound properties
  | _ => []

/-- The names that the patterns of two properties bind, or one of them twice. -/
def propertiesRebound : List (String × Expr) → List String
  | [] => []
  | (_, body) :: properties =>
      (bindings body).filter (· ∈ propertyBindings properties) ++ rebound body ++
        propertiesRebound properties

end

/-- A name that one evaluation may bind twice is warned about or rebound. -/
theorem Binds.collision
    {expr : Expr}
    {names : List String}
    {name : String}
    (binds : expr.Binds names)
    (unrepeated : expr.isUnrepeated = true)
    (collides : 2 ≤ names.count name) :
    name ∈ expr.duplicateBindings ∨ name ∈ expr.rebound := by
  induction binds with
  | prim | app | inline | not | any | range | regex | noItems | absent | noProperties =>
      cases collides
  | noRounds | rounds => cases unrepeated
  | left _ inside =>
      rw [isUnrepeated, Bool.and_eq_true] at unrepeated
      rw [rebound, List.mem_append, duplicateBindings, addDuplicates, mem_addDuplicates]
      exact (inside unrepeated.1 collides).imp .inl .inl
  | right _ inside =>
      rw [isUnrepeated, Bool.and_eq_true] at unrepeated
      rw [rebound, List.mem_append, duplicateBindings, addDuplicates, mem_addDuplicates]
      exact (inside unrepeated.2 collides).imp .inr .inr
  | items head tail =>
      have ordered := (Binds.items head tail).sublist_bindings unrepeated
      rw [bindings] at ordered
      exact .inl (mem_duplicateBindings_of_count (Nat.le_trans collides (ordered.count_le name)))
  | @bind body outer names inner inside =>
      rw [rebound, List.mem_append]
      rw [List.count_append] at collides
      by_cases twice : 2 ≤ names.count name
      · exact (inside unrepeated twice).imp_right .inr
      · have once : 0 < names.count name ∧ 0 < [outer].count name := by
          have last : [outer].count name ≤ 1 := List.count_le_length
          omega
        have bound := inner.subset_bindings (List.count_pos_iff.mp once.1)
        obtain rfl := List.mem_singleton.mp (List.count_pos_iff.mp once.2)
        rw [if_pos bound]
        exact .inr (.inl (List.mem_singleton_self _))
  | present _ inside | peek _ inside | str _ inside | lst _ inside =>
      exact inside unrepeated collides
  | @properties key body properties lenient names others head tail first later =>
      rw [isUnrepeated, propertiesAreUnrepeated, Bool.and_eq_true] at unrepeated
      rw [rebound, propertiesRebound, List.mem_append, List.mem_append]
      rw [duplicateBindings, addDuplicates, addPropertyDuplicates, mem_addPropertyDuplicates]
      rw [List.count_append] at collides
      by_cases inFirst : 2 ≤ names.count name
      · exact (first unrepeated.1 inFirst).imp .inl (.inl ∘ .inr)
      by_cases inLater : 2 ≤ others.count name
      · refine (later unrepeated.2 inLater).imp (fun warned => .inr ?_) .inr
        rw [duplicateBindings, addDuplicates, mem_addPropertyDuplicates] at warned
        exact warned.resolve_left List.not_mem_nil
      · have once : 0 < names.count name ∧ 0 < others.count name := by omega
        have inBody := head.subset_bindings (List.count_pos_iff.mp once.1)
        have inOthers := tail.subset_bindings (List.count_pos_iff.mp once.2)
        rw [bindings] at inOthers
        exact .inr (.inl (.inl (List.mem_filter.mpr ⟨inBody, decide_eq_true inOthers⟩)))

end Expr

namespace Grammar

/-! ## Warnings -/

/-- A validation that gets to a rule warns about the duplicates in it. -/
theorem bindingWarnings_subset_validateRules
    {grammar : Grammar}
    {earlier : List Rule}
    (rule : Rule)
    (later : List Rule)
    (reached : ∀ other ∈ earlier ++ [rule], ∀ name ∈ other.body.references,
      (grammar.rule? name).isSome) :
    grammar.bindingWarnings rule ⊆ (grammar.validateRules (earlier ++ rule :: later)).1 := by
  induction earlier with
  | nil =>
      have defined : grammar.firstUndefined? rule.body.referencedRules = none :=
        firstUndefined?_eq_none_iff.mpr fun name applied =>
          reached rule (List.mem_singleton_self rule) name (Expr.mem_referencedRules.mp applied)
      rw [List.nil_append, validateRules, defined]
      exact List.subset_append_left _ _
  | cons first earlier inductionHypothesis =>
      rw [List.cons_append, List.forall_mem_cons] at reached
      have defined : grammar.firstUndefined? first.body.referencedRules = none :=
        firstUndefined?_eq_none_iff.mpr fun name applied =>
          reached.1 name (Expr.mem_referencedRules.mp applied)
      rw [List.cons_append, validateRules, defined]
      exact List.subset_append_of_subset_right _ (inductionHypothesis reached.2)

end Grammar

open Matching

/-- Without repetitions, a name that a match of a rule body binds twice is one of the
duplicates of the body, unless no sequence is around both places. The validation warns about
it if it gets to the rule. -/
theorem Grammar.collisions_are_logged
    {grammar : Grammar}
    {earlier later : List Rule}
    {rule : Rule}
    (declared : grammar.rules = earlier ++ rule :: later)
    (unrepeated : rule.body.isUnrepeated = true)
    {context : Context}
    {stream : List Value}
    {position : Nat}
    {memo : Memo}
    {step : Step}
    (matched : (eval context rule.body stream position [] memo).outcome = .matched step)
    {name : String}
    (collides : 2 ≤ (step.scope.map Prod.fst).count name)
    (sequenced : name ∉ rule.body.rebound) :
    name ∈ rule.body.duplicateBindings ∧
      ((∀ other ∈ earlier ++ [rule], ∀ applied ∈ other.body.references,
          (grammar.rule? applied).isSome) →
        .reboundName grammar.name rule.name name ∈ grammar.validate.1) := by
  obtain ⟨added, grown, binds⟩ := eval_binds matched
  rw [grown, List.nil_append] at collides
  have warned := (binds.collision unrepeated collides).resolve_right sequenced
  refine ⟨warned, fun reached => ?_⟩
  rw [validate, declared]
  exact bindingWarnings_subset_validateRules rule later reached (List.mem_map_of_mem warned)

/-- A pair that binds both halves to one name is warned about. -/
theorem Grammar.pair_collision_is_logged :
    let pair : Rule := ⟨"pair", .seq [.bind (.app "half") "x", .opt (.bind .any "x")]⟩
    let grammar : Grammar := ⟨0, "Pairs", [⟨"half", .any⟩, pair], none⟩
    let matcher : Matcher := { grammar }
    (∃ step,
      (eval (matcher.contextFor (matcher.applyWithin 1) pair) pair.body (Value.chars "ab") 0 []
        Memo.empty).outcome = .matched step ∧
      2 ≤ (step.scope.map Prod.fst).count "x") ∧
    "x" ∈ pair.body.duplicateBindings ∧ .reboundName "Pairs" "pair" "x" ∈ grammar.validate.1 := by
  intro pair grammar matcher
  have works :
      (match (eval (matcher.contextFor (matcher.applyWithin 1) pair) pair.body
          (Value.chars "ab") 0 [] Memo.empty).outcome with
        | .matched step => decide (2 ≤ (step.scope.map Prod.fst).count "x")
        | _ => false) = true := by decide +kernel
  split at works
  · next step matched =>
      have collides := of_decide_eq_true works
      have declared : grammar.rules = [⟨"half", .any⟩] ++ pair :: [] := rfl
      obtain ⟨warned, logged⟩ :=
        collisions_are_logged declared rfl matched collides (by decide)
      exact ⟨⟨step, matched, collides⟩, warned, logged (by decide +kernel)⟩
  · cases works

/-- A pattern that binds a name around a binding of that name collides without a warning. -/
theorem Grammar.binding_around_binding_is_not_logged :
    let rule : Rule := ⟨"twice", .bind (.bind .any "x") "x"⟩
    let grammar : Grammar := ⟨0, "Twice", [rule], none⟩
    let matcher : Matcher := { grammar }
    (∃ step,
      (eval (matcher.contextFor (matcher.applyWithin 0) rule) rule.body (Value.chars "a") 0 []
        Memo.empty).outcome = .matched step ∧
      2 ≤ (step.scope.map Prod.fst).count "x") ∧
    rule.body.isUnrepeated = true ∧ grammar.validate = ([], none) ∧
      "x" ∉ rule.body.duplicateBindings := by
  intro rule grammar matcher
  have works :
      (match (eval (matcher.contextFor (matcher.applyWithin 0) rule) rule.body
          (Value.chars "a") 0 [] Memo.empty).outcome with
        | .matched step => decide (2 ≤ (step.scope.map Prod.fst).count "x")
        | _ => false) = true := by decide +kernel
  split at works
  · next step matched =>
      exact ⟨⟨step, matched, of_decide_eq_true works⟩, rfl, rfl, by decide⟩
  · cases works

end Heirloom
