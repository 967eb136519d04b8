import Heirloom.Loading
import Heirloom.Proofs.Source.Names

/-!
# Outlines

The outline of a written pattern is the expression it stands for, with inline
expressions that have no names yet. A pattern has no outline if one of its
literals stands for no value, if a regular expression is none, or if an object
pattern names a key twice.
-/

namespace Heirloom

/-! ## Patterns -/

/-- The value of a literal, if it stands for one. -/
def Source.Literal.value? : Source.Literal → Option Value
  | .text value => some (.str value)
  | .char value => some (.char value)
  | .integer value => (Value.ofInt? value).map .int
  | .other => none

/-- The value of a negated integer, if it has no sign of its own and fits. -/
def negativeValue? (signed : Bool) (value : Nat) : Option Value :=
  if signed then none else (Value.ofInt? (-(value : Int))).map .int

namespace Source.Pattern

mutual

/-- The expression of a pattern, with inline expressions that have no names. -/
def outline? : Pattern → Option Expr
  | any => some .any
  | undefined => some (.prim .undefined)
  | null => some (.prim .null)
  | bool value => some (.prim (.bool value))
  | literal _ value => value.value?.map .prim
  | negative _ signed value => (negativeValue? signed value).map .prim
  | range first last => some (.range ⟨first, last⟩)
  | regex _ source => (Regex.Literal.ofSource? source).map .regex
  | call rule => some (.app rule)
  | alt alternatives => (outlineAll? alternatives).map choice
  | seq items => (outlineAll? items).map .seq
  | bind body name => (outline? body).map (.bind · name)
  | star body => (outline? body).map (.many · 0)
  | plus body => (outline? body).map (.many · 1)
  | opt body => (outline? body).map .opt
  | not body => (outline? body).map .not
  | peek body => (outline? body).map .peek
  | str body => (outline? body).map .str
  | list body => (outline? body).map .lst
  | object properties lenient =>
      match checkKeys [] properties with
      | .ok () => (outlineProperties? properties).map (.obj · lenient)
      | .error _ => none
  | inline body => (outline? body).map (.inline "")

/-- The expressions of a list of patterns. -/
def outlineAll? : List Pattern → Option (List Expr)
  | [] => some []
  | pattern :: patterns =>
      (outline? pattern).bind fun expr => (outlineAll? patterns).map (expr :: ·)

/-- The expressions of properties under their keys. -/
def outlineProperties? : List (Key × Pattern) → Option (List (String × Expr))
  | [] => some []
  | (key, pattern) :: properties =>
      (outline? pattern).bind fun expr =>
        (outlineProperties? properties).map ((key.name, expr) :: ·)

end

end Source.Pattern

/-! ## Expressions from source -/

/-- The value can be written as one literal or word. -/
def Value.IsScalar : Value → Prop
  | list _ | object _ => False
  | _ => True

namespace Expr

/-- The expressions that written patterns stand for, with inline expressions that
have no names. -/
inductive Outlined : Expr → Prop
  | prim {value : Value}
      (scalar : value.IsScalar) :
      Outlined (.prim value)
  | app {rule : String}
      (named : Source.IsName rule)
      (free : rule ∉ Source.reservedWords) :
      Outlined (.app rule)
  | alt {left right : Expr}
      (first : Outlined left)
      (second : Outlined right) :
      Outlined (.alt left right)
  | seq {items : List Expr}
      (several : items.length ≠ 1)
      (parts : ∀ item ∈ items, Outlined item) :
      Outlined (.seq items)
  | bind {body : Expr} {name : String}
      (named : Source.IsName name)
      (operand : Outlined body) :
      Outlined (.bind body name)
  | many {body : Expr} {min : Nat}
      (least : min ≤ 1)
      (operand : Outlined body) :
      Outlined (.many body min)
  | opt {body : Expr}
      (operand : Outlined body) :
      Outlined (.opt body)
  | not {body : Expr}
      (operand : Outlined body) :
      Outlined (.not body)
  | peek {body : Expr}
      (operand : Outlined body) :
      Outlined (.peek body)
  | str {body : Expr}
      (inside : Outlined body) :
      Outlined (.str body)
  | lst {body : Expr}
      (inside : Outlined body) :
      Outlined (.lst body)
  | obj {properties : List (String × Expr)} {lenient : Bool}
      (distinct : (properties.map Prod.fst).Nodup)
      (parts : ∀ property ∈ properties, Outlined property.2) :
      Outlined (.obj properties lenient)
  | inline {body : Expr}
      (inside : Outlined body) :
      Outlined (.inline "" body)
  | any : Outlined .any
  | range {first last : Char}
      (ordered : first ≤ last) :
      Outlined (.range ⟨first, last⟩)
  | regex {literal : Regex.Literal} : Outlined (.regex literal)

theorem Outlined.choice
    {items : List Expr}
    (some : items ≠ [])
    (parts : ∀ item ∈ items, Outlined item) :
    (choice items).Outlined := by
  have folded : ∀ (others : List Expr) (first : Expr), Outlined first →
      (∀ item ∈ others, Outlined item) → Outlined (others.foldl .alt first) := by
    intro others
    induction others with
    | nil => exact fun first outlined _ => outlined
    | cons next others inductionHypothesis =>
        intro first outlined outlinedOthers
        obtain ⟨outlinedNext, outlinedOthers⟩ := List.forall_mem_cons.mp outlinedOthers
        exact inductionHypothesis _ (outlined.alt outlinedNext) outlinedOthers
  cases items with
  | nil => contradiction
  | cons first others =>
      obtain ⟨outlined, outlinedOthers⟩ := List.forall_mem_cons.mp parts
      exact folded others first outlined outlinedOthers

end Expr

namespace Source.Pattern

theorem outlineAll?_cons
    {pattern : Pattern}
    {patterns : List Pattern}
    {item : Expr}
    {items : List Expr}
    (first : outline? pattern = some item)
    (others : outlineAll? patterns = some items) :
    outlineAll? (pattern :: patterns) = some (item :: items) := by
  rw [outlineAll?, first, others]
  rfl

theorem outlineAll?_append
    {patterns others : List Pattern}
    {items otherItems : List Expr}
    (first : outlineAll? patterns = some items)
    (second : outlineAll? others = some otherItems) :
    outlineAll? (patterns ++ others) = some (items ++ otherItems) := by
  induction patterns generalizing items with
  | nil =>
      cases first
      exact second
  | cons pattern patterns inductionHypothesis =>
      obtain ⟨item, isFirst, rest⟩ := Option.bind_eq_some_iff.mp first
      obtain ⟨rest, isRest, rfl⟩ := Option.map_eq_some_iff.mp rest
      exact outlineAll?_cons isFirst (inductionHypothesis isRest)

theorem outlineProperties?_cons
    {key : Key}
    {pattern : Pattern}
    {members : List (Key × Pattern)}
    {body : Expr}
    {properties : List (String × Expr)}
    (first : outline? pattern = some body)
    (others : outlineProperties? members = some properties) :
    outlineProperties? ((key, pattern) :: members) = some ((key.name, body) :: properties) := by
  rw [outlineProperties?, first, others]
  rfl

theorem outlined_of_outlineAll?
    {patterns : List Pattern}
    {items : List Expr}
    (parts : ∀ pattern ∈ patterns, ∀ item, outline? pattern = some item → item.Outlined)
    (outlines : outlineAll? patterns = some items) :
    items.length = patterns.length ∧ ∀ item ∈ items, item.Outlined := by
  induction patterns generalizing items with
  | nil =>
      cases outlines
      exact ⟨rfl, nofun⟩
  | cons pattern patterns inductionHypothesis =>
      obtain ⟨item, isFirst, rest⟩ := Option.bind_eq_some_iff.mp outlines
      obtain ⟨rest, isRest, rfl⟩ := Option.map_eq_some_iff.mp rest
      obtain ⟨first, others⟩ := List.forall_mem_cons.mp parts
      obtain ⟨lengths, outlined⟩ := inductionHypothesis others isRest
      exact ⟨congrArg Nat.succ lengths, List.forall_mem_cons.mpr ⟨first item isFirst, outlined⟩⟩

theorem keys_of_outlineProperties?
    {members : List (Key × Pattern)}
    {properties : List (String × Expr)}
    (outlines : outlineProperties? members = some properties) :
    properties.map Prod.fst = members.map fun member => member.1.name := by
  induction members generalizing properties with
  | nil =>
      cases outlines
      rfl
  | cons member members inductionHypothesis =>
      obtain ⟨body, -, rest⟩ := Option.bind_eq_some_iff.mp outlines
      obtain ⟨rest, isRest, rfl⟩ := Option.map_eq_some_iff.mp rest
      exact congrArg (member.1.name :: ·) (inductionHypothesis isRest)

theorem outlined_of_outlineProperties?
    {members : List (Key × Pattern)}
    {properties : List (String × Expr)}
    (parts : ∀ member ∈ members, ∀ body, outline? member.2 = some body → body.Outlined)
    (outlines : outlineProperties? members = some properties) :
    ∀ property ∈ properties, property.2.Outlined := by
  induction members generalizing properties with
  | nil =>
      cases outlines
      exact nofun
  | cons member members inductionHypothesis =>
      obtain ⟨body, isFirst, rest⟩ := Option.bind_eq_some_iff.mp outlines
      obtain ⟨rest, isRest, rfl⟩ := Option.map_eq_some_iff.mp rest
      obtain ⟨first, others⟩ := List.forall_mem_cons.mp parts
      exact List.forall_mem_cons.mpr ⟨first body isFirst, inductionHypothesis others isRest⟩

/-- Keys pass their check if and only if they are different from each other and
from those seen before. -/
theorem checkKeys_eq_ok_iff
    {seen : List String}
    {members : List (Key × Pattern)} :
    checkKeys seen members = .ok () ↔
      (members.map fun member => member.1.name).Nodup ∧
        ∀ member ∈ members, member.1.name ∉ seen := by
  induction members generalizing seen with
  | nil => simp [checkKeys]
  | cons member members inductionHypothesis =>
      rw [checkKeys]
      by_cases known : member.1.name ∈ seen
      · simp [known]
      · rw [if_neg (by simpa using known), inductionHypothesis, List.map_cons, List.nodup_cons,
          List.forall_mem_cons]
        simp only [List.mem_cons, not_or, List.mem_map, not_exists, not_and]
        constructor
        · rintro ⟨distinct, new⟩
          exact ⟨⟨fun other mem => (new other mem).1, distinct⟩, known,
            fun other mem => (new other mem).2⟩
        · rintro ⟨⟨different, distinct⟩, -, new⟩
          exact ⟨distinct, fun other mem => ⟨different other mem, new other mem⟩⟩

theorem scalar_of_value?
    {literal : Literal}
    {value : Value}
    (isValue : literal.value? = some value) :
    value.IsScalar := by
  cases literal with
  | text text =>
      cases isValue
      trivial
  | char c =>
      cases isValue
      trivial
  | integer number =>
      rw [Literal.value?] at isValue
      obtain ⟨_, -, rfl⟩ := Option.map_eq_some_iff.mp isValue
      trivial
  | other => cases isValue

theorem scalar_of_negativeValue?
    {signed : Bool}
    {number : Nat}
    {value : Value}
    (isValue : negativeValue? signed number = some value) :
    value.IsScalar := by
  cases signed with
  | true => cases isValue
  | false =>
      rw [negativeValue?, if_neg Bool.false_ne_true] at isValue
      obtain ⟨_, -, rfl⟩ := Option.map_eq_some_iff.mp isValue
      trivial

/-- What a written pattern stands for can be written again. -/
theorem Written.outlined
    {pattern : Pattern}
    (written : pattern.Written)
    {expr : Expr}
    (outlines : outline? pattern = some expr) :
    expr.Outlined := by
  induction written generalizing expr with
  | any =>
      cases outlines
      exact .any
  | undefined | null | bool =>
      cases outlines
      exact .prim trivial
  | literal =>
      obtain ⟨value, isValue, rfl⟩ := Option.map_eq_some_iff.mp outlines
      exact .prim (scalar_of_value? isValue)
  | negative =>
      obtain ⟨value, isValue, rfl⟩ := Option.map_eq_some_iff.mp outlines
      exact .prim (scalar_of_negativeValue? isValue)
  | range ordered =>
      cases outlines
      exact .range ordered
  | regex =>
      obtain ⟨literal, -, rfl⟩ := Option.map_eq_some_iff.mp outlines
      exact .regex
  | call named free =>
      cases outlines
      exact .app named free
  | alt several parts inductionHypothesis =>
      obtain ⟨items, isAll, rfl⟩ := Option.map_eq_some_iff.mp outlines
      obtain ⟨lengths, outlined⟩ := outlined_of_outlineAll?
        (fun pattern mem item => inductionHypothesis pattern mem) isAll
      refine .choice ?_ outlined
      rintro rfl
      rw [← lengths] at several
      cases several
  | seq several parts inductionHypothesis =>
      obtain ⟨items, isAll, rfl⟩ := Option.map_eq_some_iff.mp outlines
      obtain ⟨lengths, outlined⟩ := outlined_of_outlineAll?
        (fun pattern mem item => inductionHypothesis pattern mem) isAll
      exact .seq (lengths ▸ several) outlined
  | bind named operand inductionHypothesis =>
      obtain ⟨body, isBody, rfl⟩ := Option.map_eq_some_iff.mp outlines
      exact .bind named (inductionHypothesis isBody)
  | star operand inductionHypothesis =>
      obtain ⟨body, isBody, rfl⟩ := Option.map_eq_some_iff.mp outlines
      exact .many (Nat.zero_le 1) (inductionHypothesis isBody)
  | plus operand inductionHypothesis =>
      obtain ⟨body, isBody, rfl⟩ := Option.map_eq_some_iff.mp outlines
      exact .many (Nat.le_refl 1) (inductionHypothesis isBody)
  | opt operand inductionHypothesis =>
      obtain ⟨body, isBody, rfl⟩ := Option.map_eq_some_iff.mp outlines
      exact .opt (inductionHypothesis isBody)
  | not operand inductionHypothesis =>
      obtain ⟨body, isBody, rfl⟩ := Option.map_eq_some_iff.mp outlines
      exact .not (inductionHypothesis isBody)
  | peek operand inductionHypothesis =>
      obtain ⟨body, isBody, rfl⟩ := Option.map_eq_some_iff.mp outlines
      exact .peek (inductionHypothesis isBody)
  | str inside inductionHypothesis =>
      obtain ⟨body, isBody, rfl⟩ := Option.map_eq_some_iff.mp outlines
      exact .str (inductionHypothesis isBody)
  | list inside inductionHypothesis =>
      obtain ⟨body, isBody, rfl⟩ := Option.map_eq_some_iff.mp outlines
      exact .lst (inductionHypothesis isBody)
  | object parts inductionHypothesis =>
      rw [outline?] at outlines
      split at outlines
      · next checks =>
          obtain ⟨properties, isAll, rfl⟩ := Option.map_eq_some_iff.mp outlines
          refine .obj ?_ (outlined_of_outlineProperties?
            (fun member mem body => inductionHypothesis member mem) isAll)
          rw [keys_of_outlineProperties? isAll]
          exact (checkKeys_eq_ok_iff.mp checks).1
      · cases outlines
  | inline inside inductionHypothesis =>
      obtain ⟨body, isBody, rfl⟩ := Option.map_eq_some_iff.mp outlines
      exact .inline (inductionHypothesis isBody)

end Source.Pattern

end Heirloom
