import Heirloom.Builder
import Heirloom.Proofs.Validation
import Mathlib.Data.List.Nodup
import Mathlib.Data.List.Perm.Subperm
import Mathlib.Logic.Function.Basic

/-!
# Building

What the calls of a builder do to the rules that it finds. Installing a rule
changes what is found under its name and nothing else. An inline rule always
gets a name under which nothing is found: different ordinals give different
names, and one more ordinal is tried than there are rules.
-/

namespace Heirloom

/-- Among things with different names, each is found under its own. -/
theorem find?_of_mem
    {key : α → String}
    {item : α}
    {items : List α}
    (distinct : (items.map key).Nodup)
    (mem : item ∈ items) :
    items.find? (fun other => key other == key item) = some item := by
  induction items with
  | nil => cases mem
  | cons head items inductionHypothesis =>
      rw [List.map_cons, List.nodup_cons] at distinct
      rcases List.mem_cons.mp mem with rfl | mem
      · simp
      · have different : key head ≠ key item := fun same =>
          distinct.1 (same ▸ List.mem_map_of_mem mem)
        rw [List.find?_cons_of_neg (by simpa using different)]
        exact inductionHypothesis distinct.2 mem

/-- Ordinals of one enclosing rule give different names. -/
theorem inlineRuleName_injective (enclosing : String) :
    Function.Injective (inlineRuleName enclosing) := by
  intro left right same
  have written : toString left = toString right := (String.append_right_inj _).mp same
  rw [Nat.toString_eq_ofList_toDigits, Nat.toString_eq_ofList_toDigits] at written
  have digits := String.ofList_injective written
  rw [← Nat.ofDigitChars_ten_toDigits (n := left), digits, Nat.ofDigitChars_ten_toDigits]

namespace Builder

variable
  {builder after : Builder}
  {name other : String}
  {body existing : Expr}
  {rule : Rule}

/-! ## What a builder finds -/

/-- A builder finds what the grammar finds that it would be finished to. -/
theorem lookup?_eq (builder : Builder) (name : String) (serial : Nat) :
    builder.lookup? name = ((builder.build serial).rule? name).map Rule.body := by
  rw [Grammar.rule?_eq]
  change builder.lookup? name = ((builder.localRule? name).or _).map Rule.body
  unfold lookup?
  cases builder.localRule? name <;> rfl

theorem visibleCount_eq (builder : Builder) (serial : Nat) :
    builder.visibleCount = (builder.build serial).visibleCount := by
  unfold visibleCount Grammar.visibleCount build
  cases builder.parent <;> rfl

/-! ## Installing -/

/-- A name keeps its place when it is installed again. -/
theorem map_name_installIn (rule : Rule) (rules : List Rule) :
    (installIn rule rules).map Rule.name =
      if rule.name ∈ rules.map Rule.name then rules.map Rule.name
      else rules.map Rule.name ++ [rule.name] := by
  induction rules with
  | nil => rfl
  | cons other others inductionHypothesis =>
      unfold installIn
      by_cases same : other.name = rule.name
      · simp [same]
      · have different : rule.name ≠ other.name := Ne.symm same
        simp only [beq_iff_eq, same, if_false, List.map_cons, inductionHypothesis,
          List.mem_cons, different, false_or]
        split <;> rfl

/-- A rule with a new name is installed at the end. -/
theorem installIn_of_not_mem
    {rules : List Rule}
    (new : rule.name ∉ rules.map Rule.name) :
    installIn rule rules = rules ++ [rule] := by
  induction rules with
  | nil => rfl
  | cons other rules inductionHypothesis =>
      rw [List.map_cons, List.mem_cons, not_or] at new
      rw [installIn, if_neg (by simpa using Ne.symm new.1), inductionHypothesis new.2,
        List.cons_append]

theorem find?_installIn (rule : Rule) (rules : List Rule) (name : String) :
    (installIn rule rules).find? (fun other => other.name == name) =
      if rule.name = name then some rule
      else rules.find? fun other => other.name == name := by
  induction rules with
  | nil =>
      unfold installIn
      by_cases named : rule.name = name <;> simp [named]
  | cons other others inductionHypothesis =>
      unfold installIn
      by_cases same : other.name = rule.name
      · rw [same, beq_self_eq_true, if_pos rfl, List.find?_cons, List.find?_cons, same]
        by_cases named : rule.name = name
        · simp [named]
        · simp [named, beq_false_of_ne named]
      · simp only [beq_iff_eq, same, if_false, List.find?_cons, inductionHypothesis]
        by_cases named : rule.name = name
        · have different : (other.name == name) = false :=
            beq_false_of_ne fun equal => same (equal.trans named.symm)
          simp [named, different]
        · simp [named]

/-- One builder is the other with a body installed under a name. What the
builder records and counts is left open. -/
structure Installs
    (builder : Builder)
    (name : String)
    (body : Expr)
    (after : Builder) : Prop where
  rules : after.rules = installIn ⟨name, body⟩ builder.rules
  parent : after.parent = builder.parent
  givenName : after.givenName = builder.givenName
  currentRule : after.currentRule = builder.currentRule

namespace Installs

theorem localRule?
    (installs : builder.Installs name body after)
    (other : String) :
    after.localRule? other =
      if name = other then some ⟨name, body⟩ else builder.localRule? other := by
  unfold Builder.localRule?
  rw [installs.rules, find?_installIn]

/-- Nothing changes under another name. -/
theorem lookup?
    (installs : builder.Installs name body after) :
    after.lookup? = Function.update builder.lookup? name (some body) := by
  funext other
  unfold Builder.lookup?
  rw [installs.localRule?, installs.parent, Function.update_apply]
  by_cases same : name = other
  · simp [same]
  · simp [same, Ne.symm same]

end Installs

/-! ## Calls -/

theorem define_of_local
    (found : builder.localRule? name = some rule)
    (body : Expr) :
    builder.define name body = .error (.duplicateRule builder.name name) := by
  rw [define, found]

theorem define_of_absent
    (absent : builder.localRule? name = none)
    (body : Expr) :
    ∃ after, builder.define name body = .ok after ∧ builder.Installs name body after := by
  rw [define, absent]
  exact ⟨_, rfl, rfl, rfl, rfl, rfl⟩

theorem require_of_found
    (found : builder.lookup? name = some existing) :
    builder.require name = .ok existing := by
  rw [require, found]

theorem require_of_absent
    (absent : builder.lookup? name = none) :
    builder.require name = .error (.undefinedRule builder.name name) := by
  rw [require, absent]

theorem override_of_absent
    (absent : builder.lookup? name = none)
    (body : Expr) :
    builder.override name body = .error (.undefinedRule builder.name name) := by
  rw [override, require_of_absent absent]

theorem override_of_found
    (found : builder.lookup? name = some existing)
    (body : Expr) :
    ∃ after, builder.override name body = .ok after ∧ builder.Installs name body after := by
  rw [override, require_of_found found]
  exact ⟨_, rfl, rfl, rfl, rfl, rfl⟩

theorem extend_of_absent
    (absent : builder.lookup? name = none)
    (body : Expr) :
    builder.extend name body = .error (.undefinedRule builder.name name) := by
  rw [extend, require_of_absent absent]

theorem extend_of_found
    (found : builder.lookup? name = some existing)
    (body : Expr) :
    ∃ after, builder.extend name body = .ok after ∧
      builder.Installs name (.alt existing body) after := by
  rw [extend, require_of_found found]
  exact ⟨_, rfl, rfl, rfl, rfl, rfl⟩

theorem installs_of_define
    (defines : builder.define name body = .ok after) :
    builder.Installs name body after := by
  cases known : builder.localRule? name with
  | some rule =>
      rw [define_of_local known] at defines
      cases defines
  | none =>
      obtain ⟨installed, same, installs⟩ := define_of_absent known body
      cases same.symm.trans defines
      exact installs

theorem absent_of_define
    (defines : builder.define name body = .ok after) :
    builder.localRule? name = none := by
  cases known : builder.localRule? name with
  | some rule =>
      rw [define_of_local known] at defines
      cases defines
  | none => rfl

theorem installs_of_override
    (overrides : builder.override name body = .ok after) :
    builder.Installs name body after := by
  cases known : builder.lookup? name with
  | none =>
      rw [override_of_absent known] at overrides
      cases overrides
  | some existing =>
      obtain ⟨installed, same, installs⟩ := override_of_found known body
      cases same.symm.trans overrides
      exact installs

theorem installs_of_extend
    (extended : builder.extend name body = .ok after) :
    ∃ existing, builder.lookup? name = some existing ∧
      builder.Installs name (.alt existing body) after := by
  cases known : builder.lookup? name with
  | none =>
      rw [extend_of_absent known] at extended
      cases extended
  | some existing =>
      obtain ⟨installed, same, installs⟩ := extend_of_found known body
      cases same.symm.trans extended
      exact ⟨existing, rfl, installs⟩

/-! ## Inline rules -/

/-- The search ends at a free name, or it has met rules only. -/
theorem freeOrdinal_cases (builder : Builder) (enclosing : String) (tries first : Nat) :
    builder.lookup? (inlineRuleName enclosing (builder.freeOrdinal enclosing tries first)) = none ∨
      builder.freeOrdinal enclosing tries first = first + tries ∧
        ∀ step < tries, builder.lookup? (inlineRuleName enclosing (first + step)) ≠ none := by
  induction tries generalizing first with
  | zero => exact .inr ⟨rfl, nofun⟩
  | succ tries inductionHypothesis =>
      rw [freeOrdinal]
      cases taken : builder.lookup? (inlineRuleName enclosing first) with
      | none => exact .inl (by simpa using taken)
      | some existing =>
          simp only [Option.isSome_some, if_true]
          rcases inductionHypothesis (first + 1) with free | ⟨last, others⟩
          · exact .inl free
          · refine .inr ⟨by omega, fun step inside => ?_⟩
            cases step with
            | zero => simp [taken]
            | succ step =>
                rw [show first + (step + 1) = first + 1 + step by omega]
                exact others step (by omega)

/-- Not every one of more ordinals than there are rules has a rule. -/
theorem exists_free_ordinal (builder : Builder) (enclosing : String) (first : Nat) :
    ∃ step ≤ builder.visibleCount,
      builder.lookup? (inlineRuleName enclosing (first + step)) = none := by
  by_contra! taken
  let names := (List.range (builder.visibleCount + 1)).map fun step =>
    inlineRuleName enclosing (first + step)
  have distinct : names.Nodup := by
    refine List.nodup_range.map fun left right same => ?_
    have := inlineRuleName_injective enclosing same
    omega
  have visible : names ⊆ (builder.build 0).visibleNames := by
    intro name listed
    obtain ⟨step, inside, rfl⟩ := List.mem_map.mp listed
    have found := taken step (Nat.le_of_lt_succ (List.mem_range.mp inside))
    rw [builder.lookup?_eq _ 0, ne_eq, Option.map_eq_none_iff] at found
    obtain ⟨rule, found⟩ := Option.ne_none_iff_exists'.mp found
    exact Grammar.name_of_rule? found ▸ Grammar.mem_visibleNames found
  have short := (distinct.subperm visible).length_le
  rw [Grammar.length_visibleNames, ← visibleCount_eq] at short
  simp only [names, List.length_map, List.length_range] at short
  omega

/-- The name that the next inline rule gets. -/
def freshName (builder : Builder) : String :=
  inlineRuleName builder.enclosingName
    (builder.freeOrdinal builder.enclosingName builder.visibleCount
      (builder.inlineCount builder.enclosingName + 1))

/-- Nothing is found under the name of the next inline rule. -/
theorem lookup?_freshName (builder : Builder) :
    builder.lookup? builder.freshName = none := by
  unfold freshName
  rcases builder.freeOrdinal_cases builder.enclosingName builder.visibleCount
    (builder.inlineCount builder.enclosingName + 1) with free | ⟨last, taken⟩
  · exact free
  · obtain ⟨step, inside, free⟩ := builder.exists_free_ordinal builder.enclosingName
      (builder.inlineCount builder.enclosingName + 1)
    rcases Nat.lt_or_eq_of_le inside with inside | rfl
    · exact absurd free (taken step inside)
    · rw [last]
      exact free

theorem localRule?_of_lookup?
    (absent : builder.lookup? name = none) :
    builder.localRule? name = none := by
  unfold lookup? at absent
  split at absent
  · cases absent
  · assumption

/-- An inline rule is always installed, under the fresh name. -/
theorem inline_installs (builder : Builder) (body : Expr) :
    ∃ after, builder.inline body = .ok (.inline builder.freshName body, after) ∧
      builder.Installs builder.freshName body after := by
  let counted : Builder :=
    { builder with
      inlineCounts :=
        (builder.enclosingName,
          builder.freeOrdinal builder.enclosingName builder.visibleCount
            (builder.inlineCount builder.enclosingName + 1)) :: builder.inlineCounts }
  have absent :
      (counted.record (.inlineRule builder.name builder.freshName)).localRule?
        builder.freshName = none :=
    localRule?_of_lookup? builder.lookup?_freshName
  obtain ⟨after, defines, installs⟩ := define_of_absent absent body
  refine ⟨after, ?_, installs.rules, installs.parent, installs.givenName, installs.currentRule⟩
  unfold inline
  dsimp only
  split
  · next same =>
      cases defines.symm.trans same
      rfl
  · next same => cases defines.symm.trans same

end Builder
end Heirloom
