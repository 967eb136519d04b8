import Heirloom.Proofs.Performing

/-!
# Fresh names

An inline rule is named after its enclosing rule and an ordinal. The search for the
ordinal starts behind the last one given under the enclosing name and passes over the
names that are taken, locally or in the lineage. It meets each rule at most once, so it
ends and the inline rule is installed, whatever has been called before. A name splits
at its last hyphen in one way, so other enclosing rules and other ordinals have other
names.
-/

namespace Heirloom

/-! ## Names -/

/-- A list splits in one way at an element that does not occur again. -/
theorem append_cons_inj_of_not_mem
    {mark : α}
    {front other rest others : List α}
    (last : mark ∉ rest)
    (lastOther : mark ∉ others)
    (same : front ++ mark :: rest = other ++ mark :: others) :
    front = other ∧ rest = others := by
  rcases List.append_eq_append_iff.mp same with ⟨between, rfl, split⟩ | ⟨between, rfl, split⟩ <;>
    cases between with
    | nil => simp_all
    | cons first between =>
        obtain ⟨-, rfl⟩ := List.cons.inj split
        simp at last lastOther

/-- A decimal number has no hyphen. -/
theorem hyphen_not_mem_toString (number : Nat) : '-' ∉ (toString number).toList := by
  intro listed
  rw [Nat.toString_eq_ofList_toDigits, String.toList_ofList] at listed
  exact absurd (Nat.isDigit_of_mem_toDigits (by decide) (by decide) listed) (by decide)

/-- The name of an inline rule tells its enclosing rule and its ordinal, also where the
name of the enclosing rule has hyphens and digits of its own. -/
theorem inlineRuleName_inj
    {enclosing other : String}
    {ordinal number : Nat}
    (same : inlineRuleName enclosing ordinal = inlineRuleName other number) :
    enclosing = other ∧ ordinal = number := by
  have letters : enclosing.toList ++ '-' :: (toString ordinal).toList =
      other.toList ++ '-' :: (toString number).toList := by
    simpa [inlineRuleName] using congrArg String.toList same
  obtain ⟨fronts, -⟩ := append_cons_inj_of_not_mem (hyphen_not_mem_toString ordinal)
    (hyphen_not_mem_toString number) letters
  obtain rfl := String.toList_injective fronts
  exact ⟨rfl, inlineRuleName_injective enclosing same⟩

namespace Builder

variable
  {builder after : Builder}
  {call : Call}
  {operation : Builder → Except Error Builder}
  {enclosing name : String}
  {body reference : Expr}
  {first last tries : Nat}

/-! ## Searching -/

/-- The search that starts at the first ordinal ends at the last. As long as a name is
taken, it goes on to the next ordinal. -/
inductive SearchEnds (builder : Builder) (enclosing : String) : Nat → Nat → Prop
  | free {ordinal : Nat}
      (unknown : builder.lookup? (inlineRuleName enclosing ordinal) = none) :
      SearchEnds builder enclosing ordinal ordinal
  | taken {ordinal last : Nat}
      (known : (builder.lookup? (inlineRuleName enclosing ordinal)).isSome)
      (ends : SearchEnds builder enclosing (ordinal + 1) last) :
      SearchEnds builder enclosing ordinal last

namespace SearchEnds

theorem le (ends : builder.SearchEnds enclosing first last) : first ≤ last := by
  induction ends with
  | free => exact Nat.le_refl _
  | taken _ _ inductionHypothesis => exact Nat.le_of_succ_le inductionHypothesis

/-- Nothing is found under the name at which a search ends. -/
theorem lookup?
    (ends : builder.SearchEnds enclosing first last) :
    builder.lookup? (inlineRuleName enclosing last) = none := by
  induction ends with
  | free unknown => exact unknown
  | taken _ _ inductionHypothesis => exact inductionHypothesis

end SearchEnds

/-- A search ends within the tries if one of the names that they reach is free. -/
theorem searchEnds_freeOrdinal
    (free : ∃ step ≤ tries, builder.lookup? (inlineRuleName enclosing (first + step)) = none) :
    builder.SearchEnds enclosing first (builder.freeOrdinal enclosing tries first) ∧
      builder.freeOrdinal enclosing tries first ≤ first + tries := by
  induction tries generalizing first with
  | zero =>
      obtain ⟨step, inside, unknown⟩ := free
      obtain rfl := Nat.le_zero.mp inside
      exact ⟨.free unknown, Nat.le_refl _⟩
  | succ tries inductionHypothesis =>
      rw [freeOrdinal]
      cases found : builder.lookup? (inlineRuleName enclosing first) with
      | none => exact ⟨.free found, Nat.le_add_right _ _⟩
      | some existing =>
          have later : ∃ step ≤ tries,
              builder.lookup? (inlineRuleName enclosing (first + 1 + step)) = none := by
            obtain ⟨_ | step, inside, unknown⟩ := free
            · rw [Nat.add_zero, found] at unknown
              cases unknown
            · refine ⟨step, Nat.le_of_succ_le_succ inside, ?_⟩
              rwa [Nat.add_assoc, Nat.add_comm 1]
          obtain ⟨ends, bounded⟩ := inductionHypothesis later
          refine ⟨.taken (by rw [found]; rfl) ends, ?_⟩
          simp only [Option.isSome_some, if_true]
          omega

/-- The ordinal that the next inline rule gets. -/
def freshOrdinal (builder : Builder) : Nat :=
  builder.freeOrdinal builder.enclosingName builder.visibleCount
    (builder.inlineCount builder.enclosingName + 1)

/-- The search for the next ordinal ends after at most as many rounds as there are
rules, and one more. -/
theorem searchEnds_freshOrdinal (builder : Builder) :
    builder.SearchEnds builder.enclosingName (builder.inlineCount builder.enclosingName + 1)
        builder.freshOrdinal ∧
      builder.freshOrdinal ≤
        builder.inlineCount builder.enclosingName + 1 + builder.visibleCount :=
  searchEnds_freeOrdinal (builder.exists_free_ordinal _ _)

/-! ## Counting -/

/-- A call that changes the builder by an operation keeps the counts if the operation does. -/
theorem inlineCounts_of_changing
    (changes : call.task = changing operation)
    (keeps : ∀ after, operation builder = .ok after →
      after.inlineCounts = builder.inlineCounts) :
    (builder.perform call).inlineCounts = builder.inlineCounts := by
  unfold perform
  rw [changes, run_changing]
  cases ends : operation builder with
  | ok after => exact keeps after ends
  | error error => rfl

theorem inlineCounts_of_define
    (defines : builder.define name body = .ok after) :
    after.inlineCounts = builder.inlineCounts := by
  unfold define at defines
  split at defines <;> cases defines
  rfl

/-- An inline rule is counted under its enclosing name. -/
theorem inlineCounts_of_inline
    (inlines : builder.inline body = .ok (reference, after)) :
    after.inlineCounts = (builder.enclosingName, builder.freshOrdinal) :: builder.inlineCounts := by
  unfold inline at inlines
  dsimp only at inlines
  split at inlines
  · next defined defines =>
      cases inlines
      exact inlineCounts_of_define defines
  · cases inlines

/-- Only a call for an inline rule changes the counts. -/
theorem inlineCounts_perform (builder : Builder) (call : Call) :
    (builder.perform call).inlineCounts =
      match call with
      | .inline _ => (builder.enclosingName, builder.freshOrdinal) :: builder.inlineCounts
      | _ => builder.inlineCounts := by
  cases call with
  | setName | beginRule => rfl
  | setParent parent =>
      refine inlineCounts_of_changing rfl fun after links => ?_
      unfold setParent at links
      split at links <;> cases links
      rfl
  | define name body => exact inlineCounts_of_changing rfl fun after => inlineCounts_of_define
  | override name body =>
      refine inlineCounts_of_changing rfl fun after overrides => ?_
      unfold override at overrides
      split at overrides <;> cases overrides
      rfl
  | extend name body =>
      refine inlineCounts_of_changing rfl fun after extends_ => ?_
      unfold extend at extends_
      split at extends_ <;> cases extends_
      rfl
  | inline body =>
      obtain ⟨after, inlines, -⟩ := builder.inline_installs body
      unfold perform
      rw [Call.task, run_bind_task, BuilderM.run_inline, inlines]
      exact inlineCounts_of_inline inlines

/-- The ordinal of an inline rule is the last one given under its enclosing name. -/
theorem inlineCount_perform_inline (builder : Builder) (body : Expr) :
    (builder.perform (.inline body)).inlineCount builder.enclosingName = builder.freshOrdinal := by
  rw [inlineCount, inlineCounts_perform, List.lookup_cons, beq_self_eq_true]
  rfl

/-- No call takes an ordinal back. -/
theorem inlineCount_le_perform (builder : Builder) (call : Call) (enclosing : String) :
    builder.inlineCount enclosing ≤ (builder.perform call).inlineCount enclosing := by
  rw [inlineCount, inlineCount, inlineCounts_perform]
  cases call with
  | inline body =>
      dsimp only
      rw [List.lookup_cons]
      by_cases same : enclosing = builder.enclosingName
      · subst same
        rw [beq_self_eq_true]
        exact Nat.le_of_succ_le builder.searchEnds_freshOrdinal.1.le
      · refine Nat.le_of_eq ?_
        rw [beq_false_of_ne same]
  | setName | setParent | beginRule | define | override | extend => exact Nat.le_refl _

theorem inlineCount_le_performAll (builder : Builder) (calls : List Call) (enclosing : String) :
    builder.inlineCount enclosing ≤ (builder.performAll calls).inlineCount enclosing := by
  induction calls generalizing builder with
  | nil => exact Nat.le_refl _
  | cons call calls inductionHypothesis =>
      exact Nat.le_trans (builder.inlineCount_le_perform call enclosing)
        (inductionHypothesis (builder.perform call))

/-- What is answered by the name of an inline rule has got the next ordinal. -/
theorem eq_freshOrdinal_of_outcome
    {number : Nat}
    (answered : builder.outcome (.inline body) =
      .ok (some (.inline (inlineRuleName enclosing number) body))) :
    enclosing = builder.enclosingName ∧ number = builder.freshOrdinal := by
  obtain ⟨after, runs, -⟩ := builder.run_inline body
  rw [outcome, runs] at answered
  injection answered with answered
  injection answered with answered
  injection answered with same
  obtain ⟨rfl, rfl⟩ := inlineRuleName_inj (same : inlineRuleName _ builder.freshOrdinal = _)
  exact ⟨rfl, rfl⟩

end Builder

open Builder

/-- Whatever has been called before, the search for the ordinal of an inline rule ends, and
the inline rule is made. Its ordinal is larger than all those given before under its
enclosing name, and no rule of its name is local or inherited. Other enclosing names and
other ordinals have other names. -/
theorem inline_names_are_fresh (before : List Call) (body : Expr) :
    let builder := Builder.empty.performAll before
    let enclosing := builder.currentRule.getD "inline"
    (∃ ordinal after,
      builder.SearchEnds enclosing (builder.inlineCount enclosing + 1) ordinal ∧
      ordinal ≤ builder.inlineCount enclosing + 1 + builder.visibleCount ∧
      builder.inline body = .ok (.inline (inlineRuleName enclosing ordinal) body, after) ∧
      (∀ earlier later other number,
        before = earlier ++ .inline other :: later →
        (Builder.empty.performAll earlier).outcome (.inline other) =
          .ok (some (.inline (inlineRuleName enclosing number) other)) →
        number < ordinal) ∧
      builder.localRule? (inlineRuleName enclosing ordinal) = none ∧
      ∀ parent, builder.parent = some parent →
        ∀ ancestor ∈ parent.lineage,
          ancestor.localRule? (inlineRuleName enclosing ordinal) = none) ∧
    ∀ enclosing ordinal other number,
      inlineRuleName enclosing ordinal = inlineRuleName other number →
        enclosing = other ∧ ordinal = number := by
  intro builder enclosing
  obtain ⟨ends, bounded⟩ := builder.searchEnds_freshOrdinal
  obtain ⟨after, inlines, -⟩ := builder.inline_installs body
  refine ⟨⟨builder.freshOrdinal, after, ends, bounded, inlines, ?_,
    localRule?_of_lookup? ends.lookup?, fun parent linked ancestor inherited =>
      localRule?_freshName_of_inherited linked inherited⟩,
    fun _ _ _ _ => inlineRuleName_inj⟩
  intro earlier later other number split answered
  obtain ⟨same, rfl⟩ := eq_freshOrdinal_of_outcome answered
  -- The ordinal was counted when it was given, and counts never fall.
  have counted :
      (Builder.empty.performAll earlier).freshOrdinal ≤ builder.inlineCount enclosing := by
    have kept :=
      ((Builder.empty.performAll earlier).perform (.inline other)).inlineCount_le_performAll
        later enclosing
    rw [same, inlineCount_perform_inline, ← same] at kept
    have whole : builder =
        ((Builder.empty.performAll earlier).perform (.inline other)).performAll later := by
      simp only [builder, split, performAll, List.foldl_append, List.foldl_cons]
    rwa [whole]
  exact Nat.lt_of_le_of_lt counted ends.le

end Heirloom
