import Heirloom.Proofs.Matching.Shadowing
import Heirloom.Proofs.Wrapping.Validity

/-!
# Matching with a wrapped alternative

Two grammars from source find bodies that correspond under each declared name. The
inline rules of one rule of the first grammar are renamed to those of the rule of that
name in the second one. As the name of an inline rule tells which rule it stands in, the
renamings of all rules make up one. So the grammars are those of a wrapping, and what
holds of matching with wrappings holds of them.
-/

namespace Heirloom

open Matching

/-! ## One renaming for all rules -/

/-- The rule that an inline rule of that name stands in. -/
def enclosingOf (name : String) : String :=
  String.ofList (name.toList.takeWhile (· != '-'))

/-- Rename each inline rule like the other inline rules of the rule it stands in. -/
def renameInlines (namesOf : String → String → String) (name : String) : String :=
  if '-' ∈ name.toList then namesOf (enclosingOf name) name else name

section Names

variable
  {namesOf : String → String → String}
  {key name : String}

theorem enclosingOf_inlineRuleName
    (plain : '-' ∉ key.toList)
    (ordinal : Nat) :
    enclosingOf (inlineRuleName key ordinal) = key := by
  rw [enclosingOf, takeWhile_inlineRuleName plain, String.ofList_toList]

theorem renameInlines_of_plain
    (plain : '-' ∉ name.toList) :
    renameInlines namesOf name = name :=
  if_neg plain

theorem renameInlines_inlineRuleName
    (plain : '-' ∉ key.toList)
    (ordinal : Nat) :
    renameInlines namesOf (inlineRuleName key ordinal) =
      namesOf key (inlineRuleName key ordinal) := by
  rw [renameInlines, if_pos (hyphen_mem_inlineRuleName key ordinal),
    enclosingOf_inlineRuleName plain]

end Names

/-! ## Grammars from source -/

/-- The declared rules of the grammar are settled, and their inline expressions reach
their bodies. -/
structure Grammar.Sound (grammar : Grammar) : Prop where
  settled : grammar.Settled
  consistent : grammar.Consistent

namespace Grammar

variable
  {grammar : Grammar}
  {key name : String}
  {body : Expr}
  {inline : String × Expr}

theorem rule?_of_lookup?
    (found : grammar.lookup? name = some body) :
    grammar.rule? name = some ⟨name, body⟩ := by
  obtain ⟨rule, isRule, rfl⟩ := Option.map_eq_some_iff.mp found
  rw [isRule, ← name_of_rule? isRule]

theorem rule?_of_lookup?_none
    (absent : grammar.lookup? name = none) :
    grammar.rule? name = none :=
  Option.map_eq_none_iff.mp absent

namespace Sound

/-- An inline expression in a declared rule is found, and is of the class of the rule. -/
theorem rule?_of_inline
    (sound : grammar.Sound)
    (found : grammar.lookup? key = some body)
    (mem : inline ∈ body.inlines) :
    grammar.rule? inline.1 = some ⟨inline.1, inline.2⟩ ∧
      isSyntacticName inline.1 = isSyntacticName key := by
  obtain ⟨reached, sameClass, -⟩ := sound.consistent.reaches key body found inline mem
  exact ⟨rule?_of_lookup? reached, sameClass⟩

/-- An inline expression in a declared rule is named after the rule. -/
theorem named
    (sound : grammar.Sound)
    (plain : '-' ∉ key.toList)
    (found : grammar.lookup? key = some body)
    (mem : name ∈ body.inlineNames) :
    ∃ ordinal, name = inlineRuleName key ordinal :=
  (sound.settled.rules.bodies key body plain found).named name mem

/-- What a declared rule calls has been declared. -/
theorem calls_plain
    (sound : grammar.Sound)
    (plain : '-' ∉ key.toList)
    (found : grammar.lookup? key = some body) :
    ∀ other ∈ body.calls, '-' ∉ other.toList := by
  have outlined := (sound.settled.rules.bodies key body plain found).outlined
  rw [← Expr.calls_rename (fun _ => "") body]
  exact outlined.no_hyphen

end Sound

/-- The grammars have the same name and find bodies that correspond under declared
names. -/
structure Alike (outer : String) (grammar other : Grammar) : Prop where
  name : other.name = grammar.name
  finds : FindAlike outer grammar.lookup? other.lookup?
  sound : grammar.Sound
  otherSound : other.Sound

end Grammar

/-- The wrapped alternative of the outer rule has become the inline rule of that name. -/
def IsWrapper (outer : String) (plain wrapped : Grammar) (inner : String) : Prop :=
  ∃ body other, plain.lookup? outer = some body ∧ wrapped.lookup? outer = some other ∧
    body.WrapsOne inner other

/-! ## Names for one rule -/

/-- The second body without the wrapper, and names that turn the first body into it. -/
structure Recast
    (isOuter : Prop)
    (inner : String)
    (body other : Expr)
    (names : String → String)
    (inside : Expr) : Prop where
  same : body.anonymous = inside.anonymous
  renamed : body.inlineNames.map names = inside.inlineNames
  injective : Set.InjOn names {name | name ∈ body.inlineNames}
  whole : ¬isOuter → inside = other
  wraps : isOuter → ∃ alternative, Expr.Wraps inner alternative inside other

namespace Recast

variable
  {isOuter : Prop}
  {inner name : String}
  {body other inside : Expr}
  {names others : String → String}

/-- Bodies without repeated names that agree up to a wrapper can be recast. -/
theorem exists_of_anonymous
    (same : body.anonymous = inside.anonymous)
    (distinct : body.inlineNames.Nodup)
    (insideDistinct : inside.inlineNames.Nodup)
    (whole : ¬isOuter → inside = other)
    (wraps : isOuter → ∃ alternative, Expr.Wraps inner alternative inside other) :
    ∃ names, Recast isOuter inner body other names inside := by
  obtain ⟨names, rfl, injective⟩ := Expr.renames_of_anonymous same distinct insideDistinct
  exact ⟨names, same, (body.inlineNames_rename names).symm, injective, whole, wraps⟩

/-- Only the names of inline expressions in the body matter. -/
theorem rename_eq
    (recast : Recast isOuter inner body other names inside)
    (agree : ∀ name ∈ body.inlineNames, others name = names name) :
    body.rename others = inside :=
  Expr.rename_eq_of_anonymous body inside recast.same
    ((List.map_congr_left agree).trans recast.renamed)

/-- The inline expressions inside are among those of the second body. -/
theorem inlines_subset
    (recast : Recast isOuter inner body other names inside) :
    inside.inlines ⊆ other.inlines := by
  by_cases here : isOuter
  · obtain ⟨alternative, wraps⟩ := recast.wraps here
    exact fun inline mem => wraps.inlines_perm.mem_iff.mpr (List.mem_cons_of_mem _ mem)
  · exact recast.whole here ▸ List.Subset.refl _

theorem mem_inlineNames
    (recast : Recast isOuter inner body other names inside)
    (mem : name ∈ body.inlineNames) :
    names name ∈ other.inlineNames := by
  have isInside : names name ∈ inside.inlineNames :=
    recast.renamed ▸ List.mem_map_of_mem mem
  exact List.map_subset _ recast.inlines_subset isInside

/-- The wrapper is not one of the renamed inline rules. -/
theorem names_ne
    (recast : Recast isOuter inner body other names inside)
    (here : isOuter)
    (distinct : other.inlineNames.Nodup)
    (mem : name ∈ body.inlineNames) :
    names name ≠ inner := by
  obtain ⟨alternative, wraps⟩ := recast.wraps here
  have split : (inner :: inside.inlineNames).Nodup :=
    (wraps.inlines_perm.map Prod.fst).nodup_iff.mp distinct
  rintro rfl
  exact (List.nodup_cons.mp split).1 (recast.renamed ▸ List.mem_map_of_mem mem)

end Recast

/-! ## Names for all rules -/

/-- Two grammars that correspond, with names that recast the body of each declared rule of
the first one. The wrapper may have been there, or it is a name that is free. -/
structure Recasting where
  plain : Grammar
  wrapped : Grammar
  outer : String
  inner : String
  /-- Whether the wrapped alternative is still there. -/
  enclosed : Prop
  namesOf : String → String → String
  alike : plain.Alike outer wrapped
  outer_plain : '-' ∉ outer.toList
  inner_hyphen : '-' ∈ inner.toList
  recasts : ∀ {key : String} {body : Expr}, '-' ∉ key.toList → plain.lookup? key = some body →
    ∃ other inside, wrapped.lookup? key = some other ∧
      Recast (key = outer ∧ enclosed) inner body other (namesOf key) inside
  found : enclosed → (plain.lookup? outer).isSome
  free : ¬enclosed → wrapped.lookup? inner = none

namespace Recasting

variable
  (recasting : Recasting)

/-- The new names of inline rules. -/
def names : String → String :=
  renameInlines recasting.namesOf

/-- Declared rules, and the inline rules that stand in them. -/
def Known (name : String) : Prop :=
  '-' ∉ name.toList ∨
    ∃ key body, '-' ∉ key.toList ∧ recasting.plain.lookup? key = some body ∧
      name ∈ body.inlineNames

section Rules

variable
  {recasting : Recasting}
  {key name : String}
  {body other : Expr}
  {rule : Rule}
  {inline : String × Expr}

theorem names_of_plain
    (plain : '-' ∉ name.toList) :
    recasting.names name = name :=
  renameInlines_of_plain plain

theorem names_of_inline
    (plain : '-' ∉ key.toList)
    (found : recasting.plain.lookup? key = some body)
    (mem : name ∈ body.inlineNames) :
    recasting.names name = recasting.namesOf key name := by
  obtain ⟨ordinal, rfl⟩ := recasting.alike.sound.named plain found mem
  exact renameInlines_inlineRuleName plain ordinal

/-- The body of a declared rule with the new names is the second body without the
wrapper. -/
theorem exists_renamed
    (plain : '-' ∉ key.toList)
    (found : recasting.plain.lookup? key = some body) :
    ∃ other, recasting.wrapped.lookup? key = some other ∧
      Recast (key = recasting.outer ∧ recasting.enclosed) recasting.inner body other
        recasting.names (body.rename recasting.names) := by
  obtain ⟨other, inside, otherFound, recast⟩ := recasting.recasts plain found
  have agree : ∀ name ∈ body.inlineNames, recasting.names name = recasting.namesOf key name :=
    fun name mem => names_of_inline plain found mem
  refine ⟨other, otherFound, ?_⟩
  rw [recast.rename_eq agree]
  exact ⟨recast.same, (List.map_congr_left agree).trans recast.renamed,
    fun first isFirst second isSecond same => recast.injective isFirst isSecond
      (by rwa [agree first isFirst, agree second isSecond] at same),
    recast.whole, recast.wraps⟩

/-- An inline rule has a new name after the rule it stands in. -/
theorem names_named
    (plain : '-' ∉ key.toList)
    (found : recasting.plain.lookup? key = some body)
    (mem : name ∈ body.inlineNames) :
    ∃ ordinal, recasting.names name = inlineRuleName key ordinal := by
  obtain ⟨other, otherFound, recast⟩ := exists_renamed plain found
  exact recasting.alike.otherSound.named plain otherFound (recast.mem_inlineNames mem)

/-- An inline rule is found under its new name. -/
theorem rule?_names
    (plain : '-' ∉ key.toList)
    (found : recasting.plain.lookup? key = some body)
    (mem : inline ∈ body.inlines) :
    recasting.wrapped.rule? (recasting.names inline.1) =
        some ⟨recasting.names inline.1, inline.2.rename recasting.names⟩ ∧
      isSyntacticName (recasting.names inline.1) = isSyntacticName key := by
  obtain ⟨other, otherFound, recast⟩ := exists_renamed plain found
  have isRenamed : Expr.renameInline recasting.names inline ∈ other.inlines :=
    recast.inlines_subset (Expr.inlines_rename recasting.names body ▸ List.mem_map_of_mem mem)
  exact recasting.alike.otherSound.rule?_of_inline otherFound isRenamed

/-- Different known rules have different new names. -/
theorem names_injective
    {first second : String}
    (isFirst : recasting.Known first)
    (isSecond : recasting.Known second)
    (same : recasting.names first = recasting.names second) :
    first = second := by
  rcases isFirst with plainFirst | ⟨key, body, plain, found, mem⟩ <;>
    rcases isSecond with plainSecond | ⟨otherKey, otherBody, otherPlain, otherFound, otherMem⟩
  · rwa [names_of_plain plainFirst, names_of_plain plainSecond] at same
  · obtain ⟨ordinal, named⟩ := names_named otherPlain otherFound otherMem
    rw [named, names_of_plain plainFirst] at same
    exact absurd (hyphen_mem_inlineRuleName otherKey ordinal) (same ▸ plainFirst)
  · obtain ⟨ordinal, named⟩ := names_named plain found mem
    rw [named, names_of_plain plainSecond] at same
    exact absurd (hyphen_mem_inlineRuleName key ordinal) (same ▸ plainSecond)
  · obtain ⟨ordinal, named⟩ := names_named plain found mem
    obtain ⟨otherOrdinal, otherNamed⟩ := names_named otherPlain otherFound otherMem
    obtain rfl := eq_of_inlineRuleName_eq plain otherPlain
      (named.symm.trans (same.trans otherNamed))
    obtain rfl := Option.some.inj (found.symm.trans otherFound)
    obtain ⟨_, -, recast⟩ := exists_renamed plain found
    exact recast.injective mem otherMem same

/-- No known rule is renamed to the wrapper. -/
theorem names_ne_inner
    (known : recasting.Known name) :
    recasting.names name ≠ recasting.inner := by
  rcases known with plain | ⟨key, body, plain, found, mem⟩
  · rintro same
    rw [names_of_plain plain] at same
    exact plain (same ▸ recasting.inner_hyphen)
  obtain ⟨other, otherFound, recast⟩ := exists_renamed plain found
  have settled := recasting.alike.otherSound.settled.rules.bodies key other plain otherFound
  have otherMem := recast.mem_inlineNames mem
  intro same
  by_cases enclosed : recasting.enclosed
  · by_cases here : key = recasting.outer
    · exact recast.names_ne ⟨here, enclosed⟩ settled.distinct mem same
    -- the wrapper is named after the outer rule, and so not after this one
    · obtain ⟨outerBody, outerFound⟩ := Option.isSome_iff_exists.mp (recasting.found enclosed)
      obtain ⟨outerOther, outerOtherFound, outerRecast⟩ :=
        exists_renamed recasting.outer_plain outerFound
      obtain ⟨alternative, wraps⟩ := outerRecast.wraps ⟨rfl, enclosed⟩
      have isWrapper : recasting.inner ∈ outerOther.inlineNames :=
        List.mem_map_of_mem (wraps.inlines_perm.mem_iff.mpr (List.mem_cons_self ..))
      obtain ⟨ordinal, named⟩ := names_named plain found mem
      obtain ⟨wrapperOrdinal, wrapperNamed⟩ := recasting.alike.otherSound.named
        recasting.outer_plain outerOtherFound isWrapper
      exact here (eq_of_inlineRuleName_eq plain recasting.outer_plain
        (named.symm.trans (same.trans wrapperNamed)))
  · have isFound := settled.found _ otherMem
    rw [same, recasting.free enclosed] at isFound
    cases isFound

/-- What a known rule applies is known, and keeps its name if it is called. -/
theorem known_of_references
    (known : recasting.Known name)
    (found : recasting.plain.rule? name = some rule) :
    (∀ other ∈ rule.body.references, recasting.Known other) ∧
      ∀ other ∈ rule.body.calls, '-' ∉ other.toList := by
  -- the body is that of a declared rule, or part of one
  have within : ∃ key body, '-' ∉ key.toList ∧ recasting.plain.lookup? key = some body ∧
      rule.body.calls ⊆ body.calls ∧ rule.body.inlines ⊆ body.inlines := by
    rcases known with plain | ⟨key, body, plain, foundAround, mem⟩
    · exact ⟨name, rule.body, plain, by rw [Grammar.lookup?, found, Option.map_some],
        List.Subset.refl _, List.Subset.refl _⟩
    · obtain ⟨inline, isInline, rfl⟩ := List.mem_map.mp mem
      obtain ⟨reached, -⟩ := recasting.alike.sound.rule?_of_inline foundAround isInline
      cases found.symm.trans reached
      exact ⟨key, body, plain, foundAround, Expr.parts_of_mem_inlines isInline⟩
  obtain ⟨key, body, plain, foundAround, calls, inlines⟩ := within
  have called : ∀ other ∈ rule.body.calls, '-' ∉ other.toList := fun other mem =>
    recasting.alike.sound.calls_plain plain foundAround other (calls mem)
  refine ⟨fun other mem => ?_, called⟩
  rcases Expr.mem_references_iff.mp mem with isCalled | isInline
  · exact .inl (called other isCalled)
  · exact .inr ⟨key, body, plain, foundAround, List.map_subset _ inlines isInline⟩

end Rules

/-! ## Both grammars as a wrapping -/

/-- The alternative stands in the outer rule where the wrapper still does. -/
def IsAlternative (alternative : Expr) : Prop :=
  recasting.enclosed →
    ∃ body other, recasting.plain.lookup? recasting.outer = some body ∧
      recasting.wrapped.lookup? recasting.outer = some other ∧
      (recasting.inner, alternative.rename recasting.names) ∈ other.inlines ∧
      Encloses recasting.names recasting.inner alternative body other

theorem exists_isAlternative : ∃ alternative, recasting.IsAlternative alternative := by
  by_cases enclosed : recasting.enclosed
  · obtain ⟨body, found⟩ := Option.isSome_iff_exists.mp (recasting.found enclosed)
    obtain ⟨other, otherFound, recast⟩ := exists_renamed recasting.outer_plain found
    obtain ⟨_, wraps⟩ := recast.wraps ⟨rfl, enclosed⟩
    obtain ⟨alternative, rfl, encloses⟩ := wraps.encloses rfl
    exact ⟨alternative, fun _ => ⟨body, other, found, otherFound,
      wraps.inlines_perm.mem_iff.mpr (List.mem_cons_self ..), encloses⟩⟩
  · exact ⟨.any, fun isEnclosed => absurd isEnclosed enclosed⟩

section Known

variable
  {recasting : Recasting}
  {name : String}
  {rule : Rule}
  {alternative : Expr}

/-- The wrapper is found as the alternative, in a rule of the same class as the outer one. -/
theorem IsAlternative.inner_found
    (isAlternative : recasting.IsAlternative alternative)
    (enclosed : recasting.enclosed) :
    recasting.wrapped.rule? recasting.inner =
        some ⟨recasting.inner, alternative.rename recasting.names⟩ ∧
      isSyntacticName recasting.inner = isSyntacticName recasting.outer := by
  obtain ⟨_, other, -, otherFound, mem, -⟩ := isAlternative enclosed
  exact recasting.alike.otherSound.rule?_of_inline otherFound mem

/-- A known rule that is missing is missing under its new name, which is its own. -/
theorem missing_names
    (known : recasting.Known name)
    (missing : recasting.plain.rule? name = none) :
    recasting.wrapped.rule? (recasting.names name) = none ∧ recasting.names name = name := by
  rcases known with plain | ⟨key, body, plain, found, mem⟩
  · rcases recasting.alike.finds.cases plain with ⟨-, absent⟩ | ⟨body, _, found, -⟩
    · rw [names_of_plain plain]
      exact ⟨Grammar.rule?_of_lookup?_none absent, rfl⟩
    · cases missing.symm.trans (Grammar.rule?_of_lookup? found)
  · obtain ⟨inline, isInline, rfl⟩ := List.mem_map.mp mem
    cases missing.symm.trans (recasting.alike.sound.rule?_of_inline found isInline).1

/-- A known rule is found under its new name. Its body is renamed, or it is the outer rule
and leaves the alternative to the wrapper. -/
theorem IsAlternative.found_names
    (isAlternative : recasting.IsAlternative alternative)
    (known : recasting.Known name)
    (found : recasting.plain.rule? name = some rule) :
    ∃ body, recasting.wrapped.rule? (recasting.names name) =
        some ⟨recasting.names name, body⟩ ∧
      (body = rule.body.rename recasting.names ∨
        name = recasting.outer ∧ recasting.enclosed ∧
          Encloses recasting.names recasting.inner alternative rule.body body) := by
  rcases known with plain | ⟨key, body, plain, foundAround, mem⟩
  · have foundBody : recasting.plain.lookup? name = some rule.body := by
      rw [Grammar.lookup?, found, Option.map_some]
    obtain ⟨other, otherFound, recast⟩ := exists_renamed plain foundBody
    refine ⟨other, by rw [names_of_plain plain, Grammar.rule?_of_lookup? otherFound], ?_⟩
    by_cases here : name = recasting.outer ∧ recasting.enclosed
    · obtain ⟨rfl, enclosed⟩ := here
      obtain ⟨body, _, isBody, isOther, -, encloses⟩ := isAlternative enclosed
      cases foundBody.symm.trans isBody
      cases otherFound.symm.trans isOther
      exact .inr ⟨rfl, enclosed, encloses⟩
    · exact .inl (recast.whole here).symm
  · obtain ⟨inline, isInline, rfl⟩ := List.mem_map.mp mem
    cases found.symm.trans (recasting.alike.sound.rule?_of_inline foundAround isInline).1
    exact ⟨_, (rule?_names plain foundAround isInline).1, .inl rfl⟩

/-- The new name of a known rule is of the same class. -/
theorem isSyntacticName_names
    (known : recasting.Known name) :
    isSyntacticName (recasting.names name) = isSyntacticName name := by
  rcases known with plain | ⟨key, body, plain, found, mem⟩
  · rw [names_of_plain plain]
  · obtain ⟨inline, isInline, rfl⟩ := List.mem_map.mp mem
    rw [(rule?_names plain found isInline).2,
      (recasting.alike.sound.rule?_of_inline found isInline).2]

end Known

/-- The wrapping that the grammars are. -/
def toWrapping
    (alternative : Expr)
    (isAlternative : recasting.IsAlternative alternative) : Wrapping where
  plain := recasting.plain
  wrapped := recasting.wrapped
  known := recasting.Known
  names := recasting.names
  outer := recasting.outer
  inner := recasting.inner
  alternative := alternative
  enclosed := recasting.enclosed
  same_name := recasting.alike.name
  known_skip := .inl (by decide)
  names_skip := names_of_plain (by decide)
  known_outer := fun _ => .inl recasting.outer_plain
  names_outer := names_of_plain recasting.outer_plain
  injective := names_injective
  apart := names_ne_inner
  missing := missing_names
  found := isAlternative.found_names
  same_class := fun known _ => isSyntacticName_names known
  applies := fun known found => (known_of_references known found).1
  calls := fun known found other mem =>
    names_of_plain ((known_of_references known found).2 other mem)
  inner_found := fun enclosed => (isAlternative.inner_found enclosed).1
  inner_class := fun enclosed => (isAlternative.inner_found enclosed).2

end Recasting

/-! ## Grammars that correspond -/

section Alike

variable
  {outer : String}
  {plain wrapped : Grammar}

/-- The body of a declared rule can be recast. -/
theorem Grammar.Alike.exists_recast
    {inner key : String}
    {enclosed : Prop}
    {body : Expr}
    (alike : plain.Alike outer wrapped)
    (keyPlain : '-' ∉ key.toList)
    (found : plain.lookup? key = some body)
    (ofOuter : ∀ other, key = outer → wrapped.lookup? key = some other →
      (¬enclosed → other.anonymous = body.anonymous) ∧ (enclosed → body.WrapsOne inner other)) :
    ∃ names other inside, wrapped.lookup? key = some other ∧
      Recast (key = outer ∧ enclosed) inner body other names inside := by
  rcases alike.finds.cases keyPlain with ⟨absent, -⟩ | ⟨_, other, isFound, otherFound, corresponds⟩
  · cases absent.symm.trans found
  cases isFound.symm.trans found
  have distinct := (alike.sound.settled.rules.bodies key body keyPlain found).distinct
  have otherDistinct :=
    (alike.otherSound.settled.rules.bodies key other keyPlain otherFound).distinct
  by_cases here : key = outer ∧ enclosed
  · obtain ⟨alternative, inside, wraps, same⟩ := (ofOuter other here.1 otherFound).2 here.2
    have split : (inner :: inside.inlineNames).Nodup :=
      (wraps.inlines_perm.map Prod.fst).nodup_iff.mp otherDistinct
    obtain ⟨names, recast⟩ :
        ∃ names, Recast (key = outer ∧ enclosed) inner body other names inside :=
      Recast.exists_of_anonymous same.symm distinct (List.nodup_cons.mp split).2
        (fun apart => absurd here apart) fun _ => ⟨alternative, wraps⟩
    exact ⟨names, other, inside, otherFound, recast⟩
  · have same : other.anonymous = body.anonymous := by
      rcases corresponds with same | ⟨isOuter, -⟩
      · exact same
      · exact (ofOuter other isOuter otherFound).1 fun isEnclosed => here ⟨isOuter, isEnclosed⟩
    obtain ⟨names, recast⟩ :
        ∃ names, Recast (key = outer ∧ enclosed) inner body other names other :=
      Recast.exists_of_anonymous same.symm distinct otherDistinct (fun _ => rfl) fun both =>
        absurd both here
    exact ⟨names, other, other, otherFound, recast⟩

/-- The grammars can be recast, with the wrapper that there is or with a free name. -/
theorem Grammar.Alike.exists_recasting
    (alike : plain.Alike outer wrapped)
    (outerPlain : '-' ∉ outer.toList) :
    ∃ recasting : Recasting, recasting.plain = plain ∧ recasting.wrapped = wrapped ∧
      recasting.outer = outer ∧
      (recasting.enclosed → IsWrapper outer plain wrapped recasting.inner) := by
  have namesOf : ∀ {inner : String} {enclosed : Prop},
      (∀ body other, plain.lookup? outer = some body → wrapped.lookup? outer = some other →
        (¬enclosed → other.anonymous = body.anonymous) ∧ (enclosed → body.WrapsOne inner other)) →
      ∀ key, ∃ names, ∀ {body}, '-' ∉ key.toList → plain.lookup? key = some body →
        ∃ other inside, wrapped.lookup? key = some other ∧
          Recast (key = outer ∧ enclosed) inner body other names inside := by
    intro inner enclosed ofOuter key
    by_cases known : '-' ∉ key.toList ∧ (plain.lookup? key).isSome
    · obtain ⟨body, found⟩ := Option.isSome_iff_exists.mp known.2
      obtain ⟨names, recast⟩ := alike.exists_recast known.1 found
        fun other same otherFound => ofOuter body other (same ▸ found) (same ▸ otherFound)
      refine ⟨names, fun _ found' => ?_⟩
      cases found.symm.trans found'
      exact recast
    · exact ⟨id, fun keyPlain found => absurd ⟨keyPlain, by rw [found]; rfl⟩ known⟩
  by_cases there : ∃ inner, IsWrapper outer plain wrapped inner
  · obtain ⟨inner, isWrapper⟩ := there
    obtain ⟨outerBody, outerOther, found, otherFound, wrapsOne⟩ := isWrapper
    have ofOuter : ∀ body other, plain.lookup? outer = some body →
        wrapped.lookup? outer = some other →
          (¬True → other.anonymous = body.anonymous) ∧ (True → body.WrapsOne inner other) := by
      intro body other isBody isOther
      cases isBody.symm.trans found
      cases isOther.symm.trans otherFound
      exact ⟨fun impossible => absurd trivial impossible, fun _ => wrapsOne⟩
    choose names recasts using namesOf ofOuter
    have hyphen : '-' ∈ inner.toList := by
      obtain ⟨alternative, unwrapped, wraps, -⟩ := wrapsOne
      have mem : inner ∈ outerOther.inlineNames :=
        List.mem_map_of_mem (wraps.inlines_perm.mem_iff.mpr (List.mem_cons_self ..))
      obtain ⟨ordinal, named⟩ := alike.otherSound.named outerPlain otherFound mem
      exact named ▸ hyphen_mem_inlineRuleName outer ordinal
    exact ⟨⟨plain, wrapped, outer, inner, True, names, alike, outerPlain, hyphen,
      @fun key body => recasts key, fun _ => by rw [found]; rfl,
      fun impossible => absurd trivial impossible⟩, rfl, rfl, rfl,
      fun _ => ⟨outerBody, outerOther, found, otherFound, wrapsOne⟩⟩
  · obtain ⟨step, -, free⟩ := (Builder.over "" wrapped).exists_free_ordinal outer 0
    have ofOuter : ∀ body other, plain.lookup? outer = some body →
        wrapped.lookup? outer = some other →
          (¬False → other.anonymous = body.anonymous) ∧
            (False → body.WrapsOne (inlineRuleName outer (0 + step)) other) := by
      intro body other isBody isOther
      have corresponds := alike.finds outer outerPlain
      rw [isBody, isOther] at corresponds
      cases corresponds with
      | some corresponds =>
          rcases corresponds with same | ⟨-, inner, wrapsOne⟩
          · exact ⟨fun _ => same, nofun⟩
          · exact absurd ⟨inner, body, other, isBody, isOther, wrapsOne⟩ there
    choose names recasts using namesOf ofOuter
    exact ⟨⟨plain, wrapped, outer, _, False, names, alike, outerPlain,
      hyphen_mem_inlineRuleName outer (0 + step), @fun key body => recasts key, nofun,
      fun _ => free⟩, rfl, rfl, rfl, nofun⟩

/-- A rule that is not found cannot be matched. -/
theorem Matcher.matchAll_of_undefined
    {matcher : Matcher}
    {name : String}
    (missing : matcher.grammar.rule? name = none)
    (stream : List Value) :
    matcher.matchAll stream name =
      .fault (.undefinedRule matcher.grammar.name name) := by
  rw [Matcher.matchAll, Matcher.run, Matcher.runWith, missing]
  rfl

/-- Any rule other than an inline rule matches alike in both grammars, as long as the
outer rule stays apart from the wrapper. -/
theorem Grammar.Alike.matchAll_eq
    {name : String}
    (alike : plain.Alike outer wrapped)
    (outerPlain : '-' ∉ outer.toList)
    (declared : ∀ rule, plain.rule? name = some rule ∨ wrapped.rule? name = some rule →
      rule.isInline = false)
    (stream : List Value)
    (apart : ∀ inner, IsWrapper outer plain wrapped inner →
      isApart outer inner [] (Matcher.run { grammar := wrapped } stream name).events = true) :
    Matcher.matchAll { grammar := wrapped } stream name =
      Matcher.matchAll { grammar := plain } stream name := by
  by_cases namePlain : '-' ∉ name.toList
  · obtain ⟨recasting, rfl, rfl, rfl, isWrapper⟩ := alike.exists_recasting outerPlain
    obtain ⟨alternative, isAlternative⟩ := recasting.exists_isAlternative
    exact (recasting.toWrapping alternative isAlternative).matchAll_eq (.inl namePlain)
      (Recasting.names_of_plain namePlain) stream fun enclosed => apart _ (isWrapper enclosed)
  · have missing : ∀ {grammar : Grammar},
        (∀ rule, grammar.rule? name = some rule → rule.isInline = false) →
          grammar.rule? name = none := by
      intro grammar declared
      cases found : grammar.rule? name with
      | none => rfl
      | some rule =>
          have isInline : rule.isInline :=
            isInline_iff.mpr (Grammar.name_of_rule? found ▸ not_not.mp namePlain)
          rw [declared rule found] at isInline
          cases isInline
    rw [Matcher.matchAll_of_undefined (missing fun rule found => declared rule (.inr found)),
      Matcher.matchAll_of_undefined (missing fun rule found => declared rule (.inl found)),
      alike.name]

end Alike
end Heirloom
