import Heirloom.Proofs.Renaming
import Heirloom.Proofs.Source.Outline

/-!
# Rules applied by name

An expression applies rules that were called by name where it was written, and the
inline rules in it. The calls do not change when inline rules get other names, and the
bodies of inline rules make no calls of their own. What is written has calls without
a hyphen, so that none of them is an inline rule.
-/

namespace Heirloom
namespace Expr

mutual

/-- The names of the rules that were called by name, in order. -/
def calls : Expr → List String
  | app rule => [rule]
  | inline _ body => calls body
  | alt left right => calls left ++ calls right
  | seq items => itemCalls items
  | bind body _ => calls body
  | many body _ => calls body
  | opt body => calls body
  | not body => calls body
  | peek body => calls body
  | str body => calls body
  | lst body => calls body
  | obj properties _ => propertyCalls properties
  | _ => []

/-- The names of the rules called by a list of expressions. -/
def itemCalls : List Expr → List String
  | [] => []
  | item :: items => calls item ++ itemCalls items

/-- The names of the rules called by the patterns of properties. -/
def propertyCalls : List (String × Expr) → List String
  | [] => []
  | (_, body) :: properties => calls body ++ propertyCalls properties

end

/-! ## Calls and inline expressions -/

section Names

variable {name : String}

mutual

/-- The rules applied are those called by name and the inline rules. -/
theorem mem_references_iff : ∀ {expr : Expr},
    name ∈ expr.references ↔ name ∈ expr.calls ∨ name ∈ expr.inlineNames
  | prim _ | any | range _ | regex _ => by simp [references, calls, inlineNames, inlines]
  | app _ => by simp [references, calls, inlineNames, inlines]
  | alt left right => by
      have left := @mem_references_iff left
      have right := @mem_references_iff right
      simp only [inlineNames] at left right
      simp only [references, calls, inlineNames, inlines, List.map_append, List.mem_append, left,
        right]
      exact or_or_or_comm
  | seq items => mem_itemReferences_iff
  | bind body _ | many body _ | opt body | not body | peek body | str body | lst body =>
      @mem_references_iff body
  | inline _ body => by
      have inside := @mem_references_iff body
      simp only [inlineNames] at inside
      simp only [references, calls, inlineNames, inlines, List.map_cons, List.mem_cons, inside]
      exact or_left_comm
  | obj properties _ => mem_propertyReferences_iff

theorem mem_itemReferences_iff : ∀ {items : List Expr},
    name ∈ itemReferences items ↔ name ∈ itemCalls items ∨ name ∈ itemInlineNames items
  | [] => by simp [itemReferences, itemCalls, itemInlineNames, itemInlines]
  | item :: items => by
      have first := @mem_references_iff item
      have others := @mem_itemReferences_iff items
      simp only [inlineNames, itemInlineNames] at first others
      simp only [itemReferences, itemCalls, itemInlineNames, itemInlines, List.map_append,
        List.mem_append, first, others]
      exact or_or_or_comm

theorem mem_propertyReferences_iff : ∀ {properties : List (String × Expr)},
    name ∈ propertyReferences properties ↔
      name ∈ propertyCalls properties ∨ name ∈ propertyInlineNames properties
  | [] => by simp [propertyReferences, propertyCalls, propertyInlineNames, propertyInlines]
  | (_, body) :: properties => by
      have first := @mem_references_iff body
      have others := @mem_propertyReferences_iff properties
      simp only [inlineNames, propertyInlineNames] at first others
      simp only [propertyReferences, propertyCalls, propertyInlineNames, propertyInlines,
        List.map_append, List.mem_append, first, others]
      exact or_or_or_comm

end

end Names

mutual

/-- New names for inline rules leave the calls as they are. -/
theorem calls_rename (names : String → String) : ∀ expr : Expr,
    (expr.rename names).calls = expr.calls
  | prim _ | app _ | any | range _ | regex _ => rfl
  | alt left right => by
      rw [rename, calls, calls, calls_rename names left, calls_rename names right]
  | seq items => by
      rw [rename, calls, calls, itemCalls_rename names items]
  | bind body _ | many body _ | opt body | not body | peek body | str body | lst body
  | inline _ body => by
      rw [rename, calls, calls, calls_rename names body]
  | obj properties _ => by
      rw [rename, calls, calls, propertyCalls_rename names properties]

theorem itemCalls_rename (names : String → String) : ∀ items : List Expr,
    itemCalls (renameItems names items) = itemCalls items
  | [] => rfl
  | item :: items => by
      rw [renameItems, itemCalls, itemCalls, calls_rename names item,
        itemCalls_rename names items]

theorem propertyCalls_rename (names : String → String) :
    ∀ properties : List (String × Expr),
      propertyCalls (renameProperties names properties) = propertyCalls properties
  | [] => rfl
  | (key, body) :: properties => by
      rw [renameProperties, propertyCalls, propertyCalls, calls_rename names body,
        propertyCalls_rename names properties]

end

/-- Expressions that differ in the names of inline rules only make the same calls. -/
theorem calls_eq_of_anonymous
    {expr other : Expr}
    (same : expr.anonymous = other.anonymous) :
    expr.calls = other.calls := by
  rw [← calls_rename (fun _ => "") expr, ← calls_rename (fun _ => "") other]
  exact congrArg calls same

section Inside

variable {inner : String × Expr}

mutual

/-- What the body of an inline rule applies is applied by the expression around it. -/
theorem parts_of_mem_inlines : ∀ {expr : Expr}, inner ∈ expr.inlines →
    inner.2.calls ⊆ expr.calls ∧ inner.2.inlines ⊆ expr.inlines
  | prim _, mem | app _, mem | any, mem | range _, mem | regex _, mem => nomatch mem
  | alt left right, mem => by
      simp only [calls, inlines] at mem ⊢
      rcases List.mem_append.mp mem with mem | mem
      · obtain ⟨called, inside⟩ := parts_of_mem_inlines mem
        exact ⟨List.subset_append_of_subset_left _ called,
          List.subset_append_of_subset_left _ inside⟩
      · obtain ⟨called, inside⟩ := parts_of_mem_inlines mem
        exact ⟨List.subset_append_of_subset_right _ called,
          List.subset_append_of_subset_right _ inside⟩
  | seq items, mem => parts_of_mem_itemInlines mem
  | bind body _, mem | many body _, mem | opt body, mem | not body, mem | peek body, mem
  | str body, mem | lst body, mem => @parts_of_mem_inlines body mem
  | inline rule body, mem => by
      simp only [calls, inlines] at mem ⊢
      rcases List.mem_cons.mp mem with rfl | mem
      · exact ⟨List.Subset.refl _, List.subset_cons_self _ _⟩
      · obtain ⟨called, inside⟩ := parts_of_mem_inlines mem
        exact ⟨called, List.subset_cons_of_subset _ inside⟩
  | obj properties _, mem => parts_of_mem_propertyInlines mem

theorem parts_of_mem_itemInlines : ∀ {items : List Expr}, inner ∈ itemInlines items →
    inner.2.calls ⊆ itemCalls items ∧ inner.2.inlines ⊆ itemInlines items
  | item :: items, mem => by
      simp only [itemCalls, itemInlines] at mem ⊢
      rcases List.mem_append.mp mem with mem | mem
      · obtain ⟨called, inside⟩ := parts_of_mem_inlines mem
        exact ⟨List.subset_append_of_subset_left _ called,
          List.subset_append_of_subset_left _ inside⟩
      · obtain ⟨called, inside⟩ := parts_of_mem_itemInlines mem
        exact ⟨List.subset_append_of_subset_right _ called,
          List.subset_append_of_subset_right _ inside⟩

theorem parts_of_mem_propertyInlines : ∀ {properties : List (String × Expr)},
    inner ∈ propertyInlines properties →
      inner.2.calls ⊆ propertyCalls properties ∧ inner.2.inlines ⊆ propertyInlines properties
  | (_, body) :: properties, mem => by
      simp only [propertyCalls, propertyInlines] at mem ⊢
      rcases List.mem_append.mp mem with mem | mem
      · obtain ⟨called, inside⟩ := parts_of_mem_inlines mem
        exact ⟨List.subset_append_of_subset_left _ called,
          List.subset_append_of_subset_left _ inside⟩
      · obtain ⟨called, inside⟩ := parts_of_mem_propertyInlines mem
        exact ⟨List.subset_append_of_subset_right _ called,
          List.subset_append_of_subset_right _ inside⟩

end

end Inside

/-! ## Calls that were written -/

theorem no_hyphen_of_mem_itemCalls
    {items : List Expr}
    (parts : ∀ item ∈ items, ∀ name ∈ item.calls, '-' ∉ name.toList) :
    ∀ name ∈ itemCalls items, '-' ∉ name.toList := by
  induction items with
  | nil => exact nofun
  | cons item items inductionHypothesis =>
      obtain ⟨first, others⟩ := List.forall_mem_cons.mp parts
      exact List.forall_mem_append.mpr ⟨first, inductionHypothesis others⟩

theorem no_hyphen_of_mem_propertyCalls
    {properties : List (String × Expr)}
    (parts : ∀ property ∈ properties, ∀ name ∈ property.2.calls, '-' ∉ name.toList) :
    ∀ name ∈ propertyCalls properties, '-' ∉ name.toList := by
  induction properties with
  | nil => exact nofun
  | cons property properties inductionHypothesis =>
      obtain ⟨first, others⟩ := List.forall_mem_cons.mp parts
      exact List.forall_mem_append.mpr ⟨first, inductionHypothesis others⟩

/-- Rules that were called in source have no hyphen in their names. -/
theorem Outlined.no_hyphen
    {expr : Expr}
    (outlined : expr.Outlined) :
    ∀ name ∈ expr.calls, '-' ∉ name.toList := by
  induction outlined with
  | prim | any | range | regex => exact nofun
  | app named => exact List.forall_mem_singleton.mpr named.no_hyphen
  | alt _ _ first second => exact List.forall_mem_append.mpr ⟨first, second⟩
  | seq _ _ inductionHypothesis => exact no_hyphen_of_mem_itemCalls inductionHypothesis
  | obj _ _ inductionHypothesis => exact no_hyphen_of_mem_propertyCalls inductionHypothesis
  | bind _ _ inside | many _ _ inside | opt _ inside | not _ inside | peek _ inside
  | str _ inside | lst _ inside | inline _ inside => exact inside

end Expr
end Heirloom
