import Heirloom.Proofs.Source.Derivation
import Heirloom.Proofs.Source.Outline

/-!
# Parts of patterns

Whether a written pattern stands for an expression is decided part by part: every
regular expression has to be one, no object pattern may repeat a key, every literal
needs a value, and no integer may have two signs. The check of a declaration looks at the
same parts, but not at their literals. So whatever it refuses in a pattern, the pattern has
no outline.
-/

namespace Heirloom
namespace Source
namespace Pattern

mutual

/-- A pattern and all patterns inside it. -/
def parts : Pattern → List Pattern
  | alt alternatives => alt alternatives :: partsOfAll alternatives
  | seq items => seq items :: partsOfAll items
  | bind body name => bind body name :: parts body
  | star body => star body :: parts body
  | plus body => plus body :: parts body
  | opt body => opt body :: parts body
  | not body => not body :: parts body
  | peek body => peek body :: parts body
  | str body => str body :: parts body
  | list body => list body :: parts body
  | object properties lenient => object properties lenient :: partsOfProperties properties
  | inline body => inline body :: parts body
  | leaf => [leaf]

/-- The patterns of a list and all patterns inside them. -/
def partsOfAll : List Pattern → List Pattern
  | [] => []
  | pattern :: patterns => parts pattern ++ partsOfAll patterns

/-- The patterns of properties and all patterns inside them. -/
def partsOfProperties : List (Key × Pattern) → List Pattern
  | [] => []
  | (_, pattern) :: properties => parts pattern ++ partsOfProperties properties

end

/-- A regular expression is one, and an object pattern names no key twice. -/
def Checked : Pattern → Prop
  | regex _ source => (Regex.Literal.ofSource? source).isSome
  | object properties _ => (properties.map fun property => property.1.name).Nodup
  | _ => True

/-- A literal is a text, a character or an integer that fits. A negated integer fits
when it has been negated, be it one that carries a sign of its own. -/
def Valued : Pattern → Prop
  | literal _ (.integer value) => value < Value.intLimit
  | literal _ .other => False
  | negative _ false value => value ≤ Value.intLimit
  | negative _ true value => value < Value.intLimit
  | _ => True

/-! ## The check -/

/-- One check after another passes if and only if both do. -/
theorem bind_check_eq_ok_iff {first second : Except Fault Unit} :
    (first >>= fun _ => second) = .ok () ↔ first = .ok () ∧ second = .ok () :=
  bind_eq_ok_iff.trans ⟨fun ⟨_, passes, goesOn⟩ => ⟨passes, goesOn⟩,
    fun ⟨passes, goesOn⟩ => ⟨(), passes, goesOn⟩⟩

mutual

/-- A pattern passes the check if and only if each of its parts does. -/
theorem checkPattern_eq_ok_iff : ∀ pattern : Pattern,
    checkPattern pattern = .ok () ↔ ∀ part ∈ pattern.parts, part.Checked
  | any | undefined | null | bool _ | literal _ _ | negative _ _ _ | range _ _ | call _ => by
      simp [checkPattern, parts, Checked]
  | regex position source => by
      simp [checkPattern, parts, Checked, Option.isSome_iff_ne_none]
  | alt patterns | seq patterns => by
      rw [checkPattern, checkPatterns_eq_ok_iff, parts]
      exact (List.forall_mem_cons.trans (and_iff_right trivial)).symm
  | bind body _ | star body | plus body | opt body | not body | peek body | str body | list body
  | inline body => by
      rw [checkPattern, checkPattern_eq_ok_iff, parts]
      exact (List.forall_mem_cons.trans (and_iff_right trivial)).symm
  | object properties lenient => by
      rw [checkPattern, bind_check_eq_ok_iff, checkKeys_eq_ok_iff, checkProperties_eq_ok_iff, parts,
        List.forall_mem_cons, Checked]
      exact and_congr_left' (and_iff_left nofun)

theorem checkPatterns_eq_ok_iff : ∀ patterns : List Pattern,
    checkPatterns patterns = .ok () ↔ ∀ part ∈ partsOfAll patterns, part.Checked
  | [] => by simp [checkPatterns, partsOfAll]
  | pattern :: patterns => by
      rw [checkPatterns, bind_check_eq_ok_iff, partsOfAll, List.forall_mem_append,
        checkPattern_eq_ok_iff, checkPatterns_eq_ok_iff]

theorem checkProperties_eq_ok_iff : ∀ properties : List (Key × Pattern),
    checkProperties properties = .ok () ↔ ∀ part ∈ partsOfProperties properties, part.Checked
  | [] => by simp [checkProperties, partsOfProperties]
  | (key, pattern) :: properties => by
      rw [checkProperties, bind_check_eq_ok_iff, partsOfProperties, List.forall_mem_append,
        checkPattern_eq_ok_iff, checkProperties_eq_ok_iff]

end

/-! ## The outline -/

theorem isSome_ofInt?_iff (number : Int) :
    (Value.ofInt? number).isSome ↔ -(Value.intLimit : Int) ≤ number ∧ number < Value.intLimit := by
  unfold Value.ofInt?
  split <;> simp [*]

theorem isSome_value?_iff (position : Position) (value : Literal) :
    value.value?.isSome ↔ (literal position value).Valued := by
  cases value with
  | text | char | other => simp [Literal.value?, Valued]
  | integer number =>
      rw [Literal.value?, Option.isSome_map, isSome_ofInt?_iff, Valued]
      omega

theorem isSome_negativeValue?_iff (position : Position) (signed : Bool) (value : Nat) :
    (negativeValue? signed value).isSome ↔
      (negative position signed value).Valued ∧ (negative position signed value).signsOnce := by
  cases signed with
  | true => simp [negativeValue?, signsOnce]
  | false =>
      rw [negativeValue?, if_neg Bool.false_ne_true, Option.isSome_map, isSome_ofInt?_iff, Valued,
        signsOnce, Bool.not_false, and_iff_left rfl]
      have positive : 0 < Value.intLimit := by decide
      omega

theorem isSome_outline_pair_iff
    {first : Option α}
    {second : Option β}
    (pair : α → β → γ) :
    (first.bind fun one => second.map (pair one)).isSome ↔ first.isSome ∧ second.isSome := by
  cases first <;> simp

/-- A condition on one part and one on all the others. -/
theorem forall_part_cons_iff
    {part : Pattern}
    {others : List Pattern}
    {good : Pattern → Prop}
    {once : Prop}
    (isGood : good part) :
    (∀ one ∈ part :: others, good one) ∧ once ↔ (∀ one ∈ others, good one) ∧ once :=
  and_congr_left' (List.forall_mem_cons.trans (and_iff_right isGood))

mutual

/-- A pattern has an outline if and only if each of its parts passes the check and has a
value if it needs one, and no integer has two signs. -/
theorem isSome_outline?_iff : ∀ pattern : Pattern,
    (outline? pattern).isSome ↔
      (∀ part ∈ pattern.parts, part.Checked ∧ part.Valued) ∧ pattern.signsOnce
  | any | undefined | null | bool _ | range _ _ | call _ => by
      simp [outline?, parts, Checked, Valued, signsOnce]
  | literal position value => by
      rw [outline?, Option.isSome_map, isSome_value?_iff position]
      simp [parts, Checked, signsOnce]
  | negative position signed value => by
      rw [outline?, Option.isSome_map, isSome_negativeValue?_iff position]
      simp [parts, Checked]
  | regex position source => by
      simp [outline?, parts, Checked, Valued, signsOnce]
  | alt patterns | seq patterns => by
      rw [outline?, Option.isSome_map, isSome_outlineAll?_iff, parts, signsOnce]
      exact (forall_part_cons_iff ⟨trivial, trivial⟩).symm
  | bind body _ | star body | plus body | opt body | not body | peek body | str body | list body
  | inline body => by
      rw [outline?, Option.isSome_map, isSome_outline?_iff, parts, signsOnce]
      exact (forall_part_cons_iff ⟨trivial, trivial⟩).symm
  | object properties lenient => by
      rw [parts, List.forall_mem_cons, and_assoc, signsOnce, ← isSome_outlineProperties?_iff,
        Checked, outline?]
      cases checked : checkKeys [] properties with
      | ok =>
          have distinct := (checkKeys_eq_ok_iff.mp checked).1
          simp [distinct, Valued]
      | error fault =>
          have repeated : ¬ (properties.map fun property => property.1.name).Nodup := by
            intro distinct
            rw [checkKeys_eq_ok_iff.mpr ⟨distinct, fun _ _ => List.not_mem_nil⟩] at checked
            cases checked
          simp [repeated]

theorem isSome_outlineAll?_iff : ∀ patterns : List Pattern,
    (outlineAll? patterns).isSome ↔
      (∀ part ∈ partsOfAll patterns, part.Checked ∧ part.Valued) ∧ signOnce patterns
  | [] => by simp [outlineAll?, partsOfAll, signOnce]
  | pattern :: patterns => by
      rw [outlineAll?, isSome_outline_pair_iff, partsOfAll, List.forall_mem_append, signOnce,
        Bool.and_eq_true, isSome_outline?_iff, isSome_outlineAll?_iff]
      exact and_and_and_comm

theorem isSome_outlineProperties?_iff : ∀ properties : List (Key × Pattern),
    (outlineProperties? properties).isSome ↔
      (∀ part ∈ partsOfProperties properties, part.Checked ∧ part.Valued) ∧
        propertiesSignOnce properties
  | [] => by simp [outlineProperties?, partsOfProperties, propertiesSignOnce]
  | (key, pattern) :: properties => by
      rw [outlineProperties?, isSome_outline_pair_iff, partsOfProperties, List.forall_mem_append,
        propertiesSignOnce, Bool.and_eq_true, isSome_outline?_iff, isSome_outlineProperties?_iff]
      exact and_and_and_comm

end

end Pattern
end Source
end Heirloom
