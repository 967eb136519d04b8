import Heirloom.Expr

/-!
# Names in expressions

The names that an expression binds in the scope of its rule, those bound more
than once in one sequence, and the rules that it applies. An inline rule has a
scope of its own, and what stands under a negation binds nothing that lasts.
-/

namespace Heirloom
namespace Expr

mutual

/-- The names bound in the scope of the enclosing rule, in order. -/
def bindings : Expr → List String
  | bind body name => bindings body ++ [name]
  | alt left right => bindings left ++ bindings right
  | seq items => itemBindings items
  | many body _ => bindings body
  | opt body => bindings body
  | peek body => bindings body
  | str body => bindings body
  | lst body => bindings body
  | obj properties _ => propertyBindings properties
  | _ => []

/-- The names bound by a list of expressions. -/
def itemBindings : List Expr → List String
  | [] => []
  | item :: items => bindings item ++ itemBindings items

/-- The names bound by the patterns of properties. -/
def propertyBindings : List (String × Expr) → List String
  | [] => []
  | (_, body) :: properties => bindings body ++ propertyBindings properties

end

/-- Add to the known duplicates each name that was seen before. -/
def addRepeated (seen duplicates : List String) : List String → List String
  | [] => duplicates
  | name :: names =>
      if seen.contains name then
        addRepeated seen (if duplicates.contains name then duplicates else duplicates ++ [name])
          names
      else
        addRepeated (name :: seen) duplicates names

mutual

/-- Add the names bound more than once in one sequence. -/
def addDuplicates : Expr → List String → List String
  | seq items, duplicates =>
      addItemDuplicates items (addRepeated [] duplicates (itemBindings items))
  | alt left right, duplicates => addDuplicates right (addDuplicates left duplicates)
  | bind body _, duplicates => addDuplicates body duplicates
  | many body _, duplicates => addDuplicates body duplicates
  | opt body, duplicates => addDuplicates body duplicates
  | not body, duplicates => addDuplicates body duplicates
  | peek body, duplicates => addDuplicates body duplicates
  | str body, duplicates => addDuplicates body duplicates
  | lst body, duplicates => addDuplicates body duplicates
  | inline _ body, duplicates => addDuplicates body duplicates
  | obj properties _, duplicates => addPropertyDuplicates properties duplicates
  | _, duplicates => duplicates

/-- Add the duplicates inside each expression of a list. -/
def addItemDuplicates : List Expr → List String → List String
  | [], duplicates => duplicates
  | item :: items, duplicates => addItemDuplicates items (addDuplicates item duplicates)

/-- Add the duplicates inside the pattern of each property. -/
def addPropertyDuplicates : List (String × Expr) → List String → List String
  | [], duplicates => duplicates
  | (_, body) :: properties, duplicates =>
      addPropertyDuplicates properties (addDuplicates body duplicates)

end

/-- The names bound more than once in one sequence, in order of discovery. -/
def duplicateBindings (expr : Expr) : List String :=
  expr.addDuplicates []

mutual

/-- The names of all rules applied, inline rules and their bodies included. -/
def references : Expr → List String
  | app rule => [rule]
  | inline rule body => rule :: references body
  | alt left right => references left ++ references right
  | seq items => itemReferences items
  | bind body _ => references body
  | many body _ => references body
  | opt body => references body
  | not body => references body
  | peek body => references body
  | str body => references body
  | lst body => references body
  | obj properties _ => propertyReferences properties
  | _ => []

/-- The names of the rules applied by a list of expressions. -/
def itemReferences : List Expr → List String
  | [] => []
  | item :: items => references item ++ itemReferences items

/-- The names of the rules applied by the patterns of properties. -/
def propertyReferences : List (String × Expr) → List String
  | [] => []
  | (_, body) :: properties => references body ++ propertyReferences properties

end

end Expr

/-- Insert a name into an ascending list, unless it is there. -/
def insertName (name : String) : List String → List String
  | [] => [name]
  | other :: others =>
      if name < other then name :: other :: others
      else if name == other then other :: others
      else other :: insertName name others

/-- The different names of a list in ascending order of code points. -/
def sortedNames (names : List String) : List String :=
  names.foldr insertName []

/-- The rules that an expression applies, each once, in ascending order. -/
def Expr.referencedRules (expr : Expr) : List String :=
  sortedNames expr.references

end Heirloom
