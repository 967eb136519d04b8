import Heirloom.Grammar.Validation

/-!
# Validation and lineages

A grammar passes its validation exactly when each rule that its own rules apply
is found from it. The lineage of an ancestor is the end of the lineage, so what
an ancestor finds is found. Hence a grammar whose whole lineage passes finds
every rule that is applied by a rule it finds, although an inherited rule was
validated from where it was declared.
-/

namespace Heirloom

/-! ## Rules applied -/

theorem mem_insertName
    {name other : String}
    {names : List String} :
    other ∈ insertName name names ↔ other = name ∨ other ∈ names := by
  induction names with
  | nil => simp [insertName]
  | cons head names inductionHypothesis =>
      unfold insertName
      split
      · simp
      · split
        · next same =>
            obtain rfl := eq_of_beq same
            simp
        · simp only [List.mem_cons, inductionHypothesis]
          exact or_left_comm

theorem mem_sortedNames
    {name : String}
    {names : List String} :
    name ∈ sortedNames names ↔ name ∈ names := by
  induction names with
  | nil => simp [sortedNames]
  | cons head names inductionHypothesis =>
      change name ∈ insertName head (sortedNames names) ↔ _
      rw [mem_insertName, inductionHypothesis, List.mem_cons]

theorem Expr.mem_referencedRules
    {expr : Expr}
    {name : String} :
    name ∈ expr.referencedRules ↔ name ∈ expr.references :=
  mem_sortedNames

namespace Grammar

/-! ## Lineages -/

/-- The lineage of an ancestor is the end of the lineage. -/
theorem lineage_suffix
    (grammar : Grammar)
    {ancestor : Grammar}
    (inherited : ancestor ∈ grammar.lineage) :
    ancestor.lineage <:+ grammar.lineage := by
  fun_induction lineage grammar with
  | case1 serial name rules =>
      obtain rfl := List.mem_singleton.mp inherited
      simp only [lineage, List.suffix_refl]
  | case2 serial name rules parent inductionHypothesis =>
      rcases List.mem_cons.mp inherited with rfl | inherited
      · simp only [lineage, List.suffix_refl]
      · exact (inductionHypothesis inherited).trans (List.suffix_cons _ _)

/-- A rule is the grammar's own one or else the one its super-grammar finds. -/
theorem rule?_eq (grammar : Grammar) (name : String) :
    grammar.rule? name =
      (grammar.localRule? name).or (grammar.parent.bind fun parent => parent.rule? name) := by
  rcases grammar with ⟨serial, own, rules, _ | parent⟩
  · simp [rule?, lineage]
  · simp only [rule?, lineage, List.findSome?_cons, Option.bind_some]
    cases localRule? ⟨serial, own, rules, some parent⟩ name <;> rfl

theorem name_of_localRule?
    {grammar : Grammar}
    {name : String}
    {rule : Rule}
    (found : grammar.localRule? name = some rule) :
    rule.name = name := by
  simpa using List.find?_some found

/-- A rule is found under its own name. -/
theorem name_of_rule?
    {grammar : Grammar}
    {name : String}
    {rule : Rule}
    (found : grammar.rule? name = some rule) :
    rule.name = name := by
  obtain ⟨ancestor, -, declared⟩ := List.exists_of_findSome?_eq_some found
  exact name_of_localRule? declared

/-- A rule is found if and only if some grammar of the lineage declares it. -/
theorem isSome_rule?_iff
    {grammar : Grammar}
    {name : String} :
    (grammar.rule? name).isSome ↔
      ∃ ancestor ∈ grammar.lineage, (ancestor.localRule? name).isSome := by
  rw [rule?, List.findSome?_isSome_iff]

/-- What an ancestor finds is found. -/
theorem isSome_rule?_of_ancestor
    {grammar ancestor : Grammar}
    {name : String}
    (inherited : ancestor ∈ grammar.lineage)
    (found : (ancestor.rule? name).isSome) :
    (grammar.rule? name).isSome := by
  obtain ⟨declaring, further, declared⟩ := isSome_rule?_iff.mp found
  have nearer := (grammar.lineage_suffix inherited).subset further
  exact isSome_rule?_iff.mpr ⟨declaring, nearer, declared⟩

/-- A rule that is found is one of the rules that an ancestor declares. -/
theorem exists_declaring
    {grammar : Grammar}
    {name : String}
    {rule : Rule}
    (found : grammar.rule? name = some rule) :
    ∃ ancestor ∈ grammar.lineage, rule ∈ ancestor.rules := by
  obtain ⟨ancestor, inherited, declared⟩ := List.exists_of_findSome?_eq_some found
  exact ⟨ancestor, inherited, List.mem_of_find?_eq_some declared⟩

/-- The names of the rules in the whole lineage. -/
def visibleNames (grammar : Grammar) : List String :=
  grammar.lineage.flatMap fun ancestor => ancestor.rules.map Rule.name

theorem length_visibleNames (grammar : Grammar) :
    grammar.visibleNames.length = grammar.visibleCount := by
  unfold visibleNames visibleCount
  induction grammar.lineage with
  | nil => rfl
  | cons ancestor ancestors inductionHypothesis =>
      rw [List.flatMap_cons, List.length_append, List.length_map, inductionHypothesis,
        List.foldr_cons]

/-- A rule that is found has a visible name. -/
theorem mem_visibleNames
    {grammar : Grammar}
    {name : String}
    {rule : Rule}
    (found : grammar.rule? name = some rule) :
    rule.name ∈ grammar.visibleNames := by
  obtain ⟨ancestor, member, found⟩ := List.exists_of_findSome?_eq_some found
  have present := List.mem_of_find?_eq_some found
  exact List.mem_flatMap.mpr ⟨ancestor, member, List.mem_map_of_mem present⟩

/-! ## Validation -/

/-- No name is reported as undefined if and only if all of them are found. -/
theorem firstUndefined?_eq_none_iff
    {grammar : Grammar}
    {names : List String} :
    grammar.firstUndefined? names = none ↔ ∀ name ∈ names, (grammar.rule? name).isSome := by
  rw [firstUndefined?, List.find?_eq_none]
  refine forall₂_congr fun name _ => ?_
  cases grammar.rule? name <;> simp

theorem validateRules_eq_none_iff
    {grammar : Grammar}
    {rules : List Rule} :
    (grammar.validateRules rules).2 = none ↔
      ∀ rule ∈ rules, ∀ name ∈ rule.body.references, (grammar.rule? name).isSome := by
  induction rules with
  | nil => simp [validateRules]
  | cons rule rules inductionHypothesis =>
      rw [List.forall_mem_cons, ← inductionHypothesis, validateRules]
      cases undefined : grammar.firstUndefined? rule.body.referencedRules with
      | none =>
          have found := firstUndefined?_eq_none_iff.mp undefined
          simp only [Expr.mem_referencedRules] at found
          exact (and_iff_right found).symm
      | some name =>
          refine ⟨nofun, ?_⟩
          rintro ⟨found, -⟩
          have none := firstUndefined?_eq_none_iff.mpr fun name applied =>
            found name (Expr.mem_referencedRules.mp applied)
          rw [undefined] at none
          cases none

/-- A grammar passes its validation if and only if every rule that its own rules
apply is found. -/
theorem validate_eq_none_iff
    {grammar : Grammar} :
    grammar.validate.2 = none ↔
      ∀ rule ∈ grammar.rules, ∀ name ∈ rule.body.references, (grammar.rule? name).isSome :=
  validateRules_eq_none_iff

/-- The grammar and all its ancestors pass their validation. -/
def Validated (grammar : Grammar) : Prop :=
  ∀ ancestor ∈ grammar.lineage, ancestor.validate.2 = none

/-- A grammar is validated when it passes over a validated super-grammar. -/
theorem Validated.extending
    {grammar : Grammar}
    (passes : grammar.validate.2 = none)
    (inherits : ∀ parent, grammar.parent = some parent → parent.Validated) :
    grammar.Validated := by
  rcases grammar with ⟨serial, name, rules, _ | parent⟩
  · intro ancestor inherited
    rw [lineage, List.mem_singleton] at inherited
    exact inherited ▸ passes
  · intro ancestor inherited
    rw [lineage, List.mem_cons] at inherited
    rcases inherited with rfl | inherited
    · exact passes
    · exact inherits parent rfl ancestor inherited

/-- What a rule applies is found from wherever the rule is found, even if it was
validated further up the lineage. -/
theorem Validated.references_found
    {grammar : Grammar}
    (validated : grammar.Validated)
    {name : String}
    {rule : Rule}
    (found : grammar.rule? name = some rule) :
    ∀ other ∈ rule.body.references, (grammar.rule? other).isSome := by
  intro other applied
  obtain ⟨ancestor, inherited, declared⟩ := exists_declaring found
  have passes := validate_eq_none_iff.mp (validated ancestor inherited)
  exact isSome_rule?_of_ancestor inherited (passes rule declared other applied)

end Grammar
end Heirloom
