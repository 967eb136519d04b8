import Heirloom.Proofs.Inlining
import Mathlib.Data.List.GetD
import Mathlib.Data.Set.Function

/-!
# Renaming

Inline expressions can be given other names. Expressions that agree once all
names are taken away are renamings of each other, as long as no name stands for
two inline expressions. The written form does not show the names.
-/

namespace Heirloom
namespace Expr

mutual

/-- Give new names to inline expressions. -/
def rename (names : String → String) : Expr → Expr
  | prim value => prim value
  | app rule => app rule
  | alt left right => alt (rename names left) (rename names right)
  | seq items => seq (renameItems names items)
  | bind body name => bind (rename names body) name
  | many body min => many (rename names body) min
  | opt body => opt (rename names body)
  | not body => not (rename names body)
  | peek body => peek (rename names body)
  | str body => str (rename names body)
  | lst body => lst (rename names body)
  | obj properties lenient => obj (renameProperties names properties) lenient
  | inline rule body => inline (names rule) (rename names body)
  | any => any
  | range chars => range chars
  | regex literal => regex literal

/-- Give new names to inline expressions in a list of expressions. -/
def renameItems (names : String → String) : List Expr → List Expr
  | [] => []
  | item :: items => rename names item :: renameItems names items

/-- Give new names to inline expressions in the patterns of properties. -/
def renameProperties (names : String → String) : List (String × Expr) → List (String × Expr)
  | [] => []
  | (key, body) :: properties => (key, rename names body) :: renameProperties names properties

end

/-- The expression without the names of its inline expressions. -/
def anonymous (expr : Expr) : Expr :=
  expr.rename fun _ => ""

/-- The names of the inline expressions in an expression. -/
def inlineNames (expr : Expr) : List String :=
  expr.inlines.map Prod.fst

/-- The names of the inline expressions in a list of expressions. -/
def itemInlineNames (items : List Expr) : List String :=
  (itemInlines items).map Prod.fst

/-- The names of the inline expressions in the patterns of properties. -/
def propertyInlineNames (properties : List (String × Expr)) : List String :=
  (propertyInlines properties).map Prod.fst

theorem precedence_rename (names : String → String) (expr : Expr) :
    (expr.rename names).precedence = expr.precedence := by
  cases expr with
  | seq items =>
      match items with
      | [] | [_] | _ :: _ :: _ => rfl
  | _ => rfl

mutual

/-- Names of inline expressions are not written. -/
theorem render_rename (names : String → String) : ∀ expr : Expr,
    (expr.rename names).render = expr.render
  | prim _ | app _ | any | range _ | regex _ => rfl
  | alt left right => by
      rw [rename, render, render, render_rename names left, render_rename names right,
        precedence_rename]
  | seq [] => rfl
  | seq (item :: items) => by
      rw [rename, renameItems, render, render, render_rename names item, precedence_rename,
        renderTail_rename names items]
  | bind body _ | many body _ | opt body | not body | peek body => by
      rw [rename, render, render, render_rename names body, precedence_rename]
  | str body | lst body | inline _ body => by
      rw [rename, render, render, render_rename names body]
  | obj [] true => rfl
  | obj (property :: properties) true => by
      have same := renderProperties_rename names (property :: properties)
      rw [renameProperties] at same
      rw [rename, renameProperties, render, render, same]
      all_goals nofun
  | obj properties false => by
      rw [rename, render, render, renderProperties_rename names properties]

theorem renderTail_rename (names : String → String) : ∀ items : List Expr,
    renderTail (renameItems names items) = renderTail items
  | [] => rfl
  | item :: items => by
      rw [renameItems, renderTail, renderTail, render_rename names item, precedence_rename,
        renderTail_rename names items]

theorem renderProperties_rename (names : String → String) :
    ∀ properties : List (String × Expr),
      renderProperties (renameProperties names properties) = renderProperties properties
  | [] => rfl
  | [(key, body)] => by
      rw [renameProperties, renameProperties, renderProperties, renderProperties,
        render_rename names body]
  | (key, body) :: next :: properties => by
      have others := renderProperties_rename names (next :: properties)
      rw [renameProperties] at others
      rw [renameProperties, renameProperties, renderProperties, render_rename names body, others]
      · rfl
      · nofun

end

/-- An inline expression with its new name and that of those in its body. -/
def renameInline (names : String → String) (inline : String × Expr) : String × Expr :=
  (names inline.1, inline.2.rename names)

mutual

theorem inlines_rename (names : String → String) : ∀ expr : Expr,
    (expr.rename names).inlines = expr.inlines.map (renameInline names)
  | prim _ | app _ | any | range _ | regex _ => rfl
  | alt left right => by
      rw [rename, inlines, inlines, inlines_rename names left, inlines_rename names right,
        List.map_append]
  | seq items => by
      rw [rename, inlines, inlines, itemInlines_rename names items]
  | bind body _ | many body _ | opt body | not body | peek body | str body | lst body => by
      rw [rename, inlines, inlines, inlines_rename names body]
  | inline _ body => by
      rw [rename, inlines, inlines, inlines_rename names body]
      rfl
  | obj properties _ => by
      rw [rename, inlines, inlines, propertyInlines_rename names properties]

theorem itemInlines_rename (names : String → String) : ∀ items : List Expr,
    itemInlines (renameItems names items) = (itemInlines items).map (renameInline names)
  | [] => rfl
  | item :: items => by
      rw [renameItems, itemInlines, itemInlines, inlines_rename names item,
        itemInlines_rename names items, List.map_append]

theorem propertyInlines_rename (names : String → String) :
    ∀ properties : List (String × Expr),
      propertyInlines (renameProperties names properties) =
        (propertyInlines properties).map (renameInline names)
  | [] => rfl
  | (key, body) :: properties => by
      rw [renameProperties, propertyInlines, propertyInlines, inlines_rename names body,
        propertyInlines_rename names properties, List.map_append]

end

theorem inlineNames_rename (names : String → String) (expr : Expr) :
    (expr.rename names).inlineNames = expr.inlineNames.map names := by
  rw [inlineNames, inlines_rename, List.map_map, inlineNames, List.map_map]
  rfl

/-! ## Choices -/

theorem rename_choice (names : String → String) (items : List Expr) :
    (choice items).rename names = choice (renameItems names items) := by
  have folded : ∀ (others : List Expr) (first : Expr),
      (others.foldl alt first).rename names =
        (renameItems names others).foldl alt (first.rename names) := by
    intro others
    induction others with
    | nil => exact fun _ => rfl
    | cons next others inductionHypothesis =>
        exact fun first => inductionHypothesis (alt first next)
  cases items with
  | nil => rfl
  | cons first others => exact folded others first

theorem inlineNames_choice (items : List Expr) :
    (choice items).inlineNames = itemInlineNames items := by
  have folded : ∀ (others : List Expr) (first : Expr),
      (others.foldl alt first).inlines = first.inlines ++ itemInlines others := by
    intro others
    induction others with
    | nil => exact fun first => (List.append_nil _).symm
    | cons next others inductionHypothesis =>
        intro first
        rw [List.foldl_cons, inductionHypothesis, inlines, itemInlines, List.append_assoc]
  cases items with
  | nil => rfl
  | cons first others => exact congrArg (List.map Prod.fst) (folded others first)

/-! ## Equality up to names -/

section Anonymous

variable {names : String → String}

theorem length_inlines_of_anonymous
    {expr other : Expr}
    (same : expr.anonymous = other.anonymous) :
    expr.inlines.length = other.inlines.length := by
  have lengths := congrArg (fun expr => expr.inlines.length) same
  simpa [anonymous, inlines_rename] using lengths

mutual

/-- Expressions that differ in names only are renamings of each other. -/
theorem rename_eq_of_anonymous : ∀ expr other : Expr,
    expr.anonymous = other.anonymous →
      expr.inlineNames.map names = other.inlineNames → expr.rename names = other
  | prim _, other, same, _ | app _, other, same, _ | any, other, same, _
  | range _, other, same, _ | regex _, other, same, _ => by
      cases other <;> cases same
      rfl
  | alt left right, other, same, renames => by
      cases other with
      | alt otherLeft otherRight =>
          obtain ⟨sameLeft, sameRight⟩ := Expr.alt.inj same
          simp only [inlineNames, inlines, List.map_append] at renames
          obtain ⟨renamesLeft, renamesRight⟩ := List.append_inj renames
            (by simp [length_inlines_of_anonymous sameLeft])
          rw [rename, rename_eq_of_anonymous left otherLeft sameLeft renamesLeft,
            rename_eq_of_anonymous right otherRight sameRight renamesRight]
      | _ => cases same
  | seq items, other, same, renames => by
      cases other with
      | seq others =>
          rw [rename, renameItems_eq_of_anonymous items others (Expr.seq.inj same) renames]
      | _ => cases same
  | bind body _, other, same, renames | many body _, other, same, renames => by
      cases other
      all_goals first
        | cases same
        | obtain ⟨sameBody, rfl⟩ := by
            simpa only [anonymous, rename, bind.injEq, many.injEq] using same
          rw [rename, rename_eq_of_anonymous body _ sameBody renames]
  | opt body, other, same, renames | not body, other, same, renames
  | peek body, other, same, renames | str body, other, same, renames
  | lst body, other, same, renames => by
      cases other
      all_goals first
        | cases same
        | injection same with sameBody
          rw [rename, rename_eq_of_anonymous body _ sameBody renames]
  | inline _ body, other, same, renames => by
      cases other with
      | inline _ otherBody =>
          obtain ⟨rfl, renamesBody⟩ := List.cons.inj renames
          rw [rename, rename_eq_of_anonymous body otherBody (Expr.inline.inj same).2 renamesBody]
      | _ => cases same
  | obj properties _, other, same, renames => by
      cases other with
      | obj others _ =>
          obtain ⟨sameProperties, rfl⟩ := Expr.obj.inj same
          rw [rename, renameProperties_eq_of_anonymous properties others sameProperties renames]
      | _ => cases same

theorem renameItems_eq_of_anonymous : ∀ items others : List Expr,
    renameItems (fun _ => "") items = renameItems (fun _ => "") others →
      (itemInlineNames items).map names = itemInlineNames others →
        renameItems names items = others
  | [], others, same, _ => by
      cases others with
      | nil => rfl
      | cons => cases same
  | item :: items, others, same, renames => by
      cases others with
      | nil => cases same
      | cons other others =>
          obtain ⟨sameItem, sameItems⟩ := List.cons.inj same
          simp only [itemInlineNames, itemInlines, List.map_append] at renames
          obtain ⟨renamesItem, renamesItems⟩ := List.append_inj renames
            (by simp [length_inlines_of_anonymous sameItem])
          rw [renameItems, rename_eq_of_anonymous item other sameItem renamesItem,
            renameItems_eq_of_anonymous items others sameItems renamesItems]

theorem renameProperties_eq_of_anonymous : ∀ properties others : List (String × Expr),
    renameProperties (fun _ => "") properties = renameProperties (fun _ => "") others →
      (propertyInlineNames properties).map names = propertyInlineNames others →
        renameProperties names properties = others
  | [], others, same, _ => by
      cases others with
      | nil => rfl
      | cons => cases same
  | (key, body) :: properties, others, same, renames => by
      cases others with
      | nil => cases same
      | cons other others =>
          obtain ⟨sameProperty, sameProperties⟩ := List.cons.inj same
          obtain ⟨rfl, sameBody⟩ := Prod.mk.inj sameProperty
          simp only [propertyInlineNames, propertyInlines, List.map_append] at renames
          obtain ⟨renamesBody, renamesProperties⟩ := List.append_inj renames
            (by simp [length_inlines_of_anonymous sameBody])
          rw [renameProperties, rename_eq_of_anonymous body other.2 sameBody renamesBody,
            renameProperties_eq_of_anonymous properties others sameProperties renamesProperties]

end

/-- The other expression is this one with new names for its inline expressions,
different ones for different ones. -/
def Renames (expr other : Expr) : Prop :=
  ∃ names, expr.rename names = other ∧ Set.InjOn names {name | name ∈ expr.inlineNames}

/-- Expressions without repeated names that agree up to names are renamings. -/
theorem renames_of_anonymous
    {expr other : Expr}
    (same : expr.anonymous = other.anonymous)
    (distinct : expr.inlineNames.Nodup)
    (otherDistinct : other.inlineNames.Nodup) :
    expr.Renames other := by
  have lengths : expr.inlineNames.length = other.inlineNames.length := by
    simpa [inlineNames] using length_inlines_of_anonymous same
  let names (name : String) : String :=
    other.inlineNames.getD (expr.inlineNames.idxOf name) ""
  have renamed : expr.inlineNames.map names = other.inlineNames := by
    refine List.ext_getElem (by simpa using lengths) fun place inside inOther => ?_
    rw [List.getElem_map]
    simp only [names]
    rw [distinct.idxOf_getElem, List.getD_eq_getElem _ _ inOther]
  refine ⟨names, rename_eq_of_anonymous expr other same renamed, ?_⟩
  have distinctImages : (expr.inlineNames.map names).Nodup := renamed ▸ otherDistinct
  exact fun left isLeft right isRight equal =>
    List.inj_on_of_nodup_map distinctImages isLeft isRight equal

end Anonymous

end Expr
end Heirloom
