import Heirloom.Proofs.Renaming
import Heirloom.Proofs.Source.Outline

/-!
# Lowering

Compiling a pattern goes by its outline. It succeeds if and only if there is
one, and then it only names the inline expressions in it: each gets a name of
its own under which nothing was found before.
-/

namespace Heirloom

/-! ## Builders -/

/-- The rules that are not inline rules. -/
def declared (rules : List Rule) : List Rule :=
  rules.filter fun rule => !rule.isInline

section Declared

variable
  {rule : Rule}
  {name : String}

theorem isInline_iff : rule.isInline ↔ '-' ∈ rule.name.toList :=
  List.contains_iff_mem

/-- Installing an inline rule leaves the declared rules as they are. -/
theorem declared_installIn_of_isInline
    (isInline : rule.isInline)
    (rules : List Rule) :
    declared (Builder.installIn rule rules) = declared rules := by
  induction rules with
  | nil => simp [Builder.installIn, declared, isInline]
  | cons other rules inductionHypothesis =>
      unfold Builder.installIn
      split
      · next same =>
          have otherInline : other.isInline := by
            rw [isInline_iff] at isInline ⊢
            rwa [eq_of_beq same]
          simp [declared, isInline, otherInline]
      · simp only [declared, List.filter_cons] at inductionHypothesis ⊢
        rw [inductionHypothesis]

/-- Installing a declared rule is installing it among the declared ones. -/
theorem declared_installIn
    (notInline : rule.isInline = false)
    (rules : List Rule) :
    declared (Builder.installIn rule rules) = Builder.installIn rule (declared rules) := by
  induction rules with
  | nil => simp [Builder.installIn, declared, notInline]
  | cons other rules inductionHypothesis =>
      unfold declared at inductionHypothesis ⊢
      by_cases same : other.name = rule.name
      · have otherDeclared : other.isInline = false := by
          rw [Rule.isInline, same]
          exact notInline
        simp [Builder.installIn, same, notInline, otherDeclared]
      · cases isInline : other.isInline <;>
          simp [Builder.installIn, same, isInline, inductionHypothesis]

/-- A declared name is found among the declared rules. -/
theorem find?_declared
    (isDeclared : '-' ∉ name.toList)
    (rules : List Rule) :
    (declared rules).find? (fun rule => rule.name == name) =
      rules.find? fun rule => rule.name == name := by
  unfold declared
  rw [List.find?_filter]
  congr 1
  funext rule
  cases same : rule.name == name with
  | false => simp
  | true =>
      have notInline : rule.isInline = false := by
        rw [Bool.eq_false_iff, ne_eq, isInline_iff, eq_of_beq same]
        exact isDeclared
      simp [notInline]

end Declared

namespace Builder

variable
  {builder middle after : Builder}
  {names others : List String}
  {name : String}
  {body : Expr}

/-- What is found stays found. -/
theorem Grows.isSome
    (grows : builder.Grows after)
    (found : (builder.lookup? name).isSome) :
    (after.lookup? name).isSome := by
  obtain ⟨body, known⟩ := Option.isSome_iff_exists.mp found
  rw [grows name body known]
  rfl

/-- What is not found was not found before. -/
theorem Grows.eq_none
    (grows : builder.Grows after)
    (absent : after.lookup? name = none) :
    builder.lookup? name = none := by
  refine Option.not_isSome_iff_eq_none.mp fun known => ?_
  have found := grows.isSome known
  rw [absent] at found
  cases found

/-- One builder is the other with inline rules of these names added. Each name
is new, and is that of an inline rule of the rule being compiled. -/
structure Adds (builder : Builder) (names : List String) (after : Builder) : Prop where
  givenName : after.givenName = builder.givenName
  parent : after.parent = builder.parent
  currentRule : after.currentRule = builder.currentRule
  declared : declared after.rules = declared builder.rules
  rules :
    ∃ added, after.rules = builder.rules ++ added ∧
      ∀ rule ∈ added, rule.name ∈ names ∧ after.localRule? rule.name = some rule
  grows : builder.Grows after
  distinct : names.Nodup
  named : ∀ name ∈ names, ∃ ordinal, name = inlineRuleName builder.enclosingName ordinal
  fresh : ∀ name ∈ names, builder.lookup? name = none
  found : ∀ name ∈ names, (after.lookup? name).isSome

namespace Adds

theorem refl : builder.Adds [] builder :=
  ⟨rfl, rfl, rfl, rfl, ⟨[], (List.append_nil _).symm, nofun⟩, fun _ _ => id, .nil, nofun, nofun,
    nofun⟩

theorem enclosingName
    (adds : builder.Adds names after) :
    after.enclosingName = builder.enclosingName := by
  rw [Builder.enclosingName, adds.currentRule, Builder.enclosingName]

theorem localRule?
    (adds : builder.Adds names after)
    (plain : '-' ∉ name.toList) :
    after.localRule? name = builder.localRule? name := by
  unfold Builder.localRule?
  rw [← find?_declared plain, adds.declared, find?_declared plain]

/-- Declared rules are found as before. -/
theorem lookup?
    (adds : builder.Adds names after)
    (plain : '-' ∉ name.toList) :
    after.lookup? name = builder.lookup? name := by
  unfold Builder.lookup?
  rw [adds.localRule? plain, adds.parent]

theorem append
    (first : builder.Adds names middle)
    (second : middle.Adds others after) :
    builder.Adds (names ++ others) after where
  givenName := second.givenName.trans first.givenName
  parent := second.parent.trans first.parent
  currentRule := second.currentRule.trans first.currentRule
  declared := second.declared.trans first.declared
  rules := by
    obtain ⟨added, same, named⟩ := first.rules
    obtain ⟨others, sameOthers, namedOthers⟩ := second.rules
    refine ⟨added ++ others, by rw [sameOthers, same, List.append_assoc], ?_⟩
    refine List.forall_mem_append.mpr ⟨fun rule mem => ?_, fun rule mem => ?_⟩
    · obtain ⟨isNamed, found⟩ := named rule mem
      refine ⟨List.mem_append_left _ isNamed, ?_⟩
      unfold Builder.localRule? at found ⊢
      rw [sameOthers, List.find?_append, found, Option.some_or]
    · obtain ⟨isNamed, found⟩ := namedOthers rule mem
      exact ⟨List.mem_append_right _ isNamed, found⟩
  grows name body found := second.grows name body (first.grows name body found)
  distinct := by
    refine List.nodup_append.mpr ⟨first.distinct, second.distinct, ?_⟩
    rintro name isFirst _ isSecond rfl
    have found := first.found name isFirst
    rw [second.fresh name isSecond] at found
    cases found
  named := List.forall_mem_append.mpr ⟨first.named, first.enclosingName ▸ second.named⟩
  fresh := List.forall_mem_append.mpr
    ⟨first.fresh, fun name mem => first.grows.eq_none (second.fresh name mem)⟩
  found := List.forall_mem_append.mpr
    ⟨fun name mem => second.grows.isSome (first.found name mem), second.found⟩

/-- One more inline rule. -/
theorem inline
    (adds : builder.Adds names middle)
    (installs : middle.Installs middle.freshName body after) :
    builder.Adds (middle.freshName :: names) after := by
  have absent := middle.lookup?_freshName
  have grows := installs.grows absent
  refine
    { givenName := installs.givenName.trans adds.givenName
      parent := installs.parent.trans adds.parent
      currentRule := installs.currentRule.trans adds.currentRule
      declared := ?_
      rules := ?_
      grows := fun name body found => grows name body (adds.grows name body found)
      distinct := List.nodup_cons.mpr ⟨fun mem => ?_, adds.distinct⟩
      named := List.forall_mem_cons.mpr ⟨⟨_, congrArg (inlineRuleName · _) adds.enclosingName⟩,
        adds.named⟩
      fresh := List.forall_mem_cons.mpr ⟨adds.grows.eq_none absent, adds.fresh⟩
      found := List.forall_mem_cons.mpr ⟨?_, fun name mem => grows.isSome (adds.found name mem)⟩ }
  · rw [installs.rules, declared_installIn_of_isInline, adds.declared]
    exact isInline_iff.mpr (hyphen_mem_inlineRuleName _ _)
  · obtain ⟨added, same, named⟩ := adds.rules
    have unlisted := List.find?_eq_none.mp (localRule?_of_lookup? absent)
    have new : middle.freshName ∉ middle.rules.map Rule.name := by
      intro mem
      obtain ⟨rule, isRule, isFresh⟩ := List.mem_map.mp mem
      exact unlisted rule isRule (beq_iff_eq.mpr isFresh)
    refine ⟨added ++ [⟨middle.freshName, body⟩], ?_, ?_⟩
    · rw [installs.rules, installIn_of_not_mem new, same, List.append_assoc]
    · refine List.forall_mem_append.mpr ⟨fun rule mem => ?_, List.forall_mem_singleton.mpr ?_⟩
      · obtain ⟨isNamed, found⟩ := named rule mem
        have different : middle.freshName ≠ rule.name := by
          intro isFresh
          rw [← isFresh, localRule?_of_lookup? absent] at found
          cases found
        rw [installs.localRule?, if_neg different]
        exact ⟨List.mem_cons_of_mem _ isNamed, found⟩
      · rw [installs.localRule?, if_pos rfl]
        exact ⟨List.mem_cons_self .., rfl⟩
  · have found := adds.found _ mem
    rw [absent] at found
    cases found
  · rw [installs.lookup?, Function.update_self]
    rfl

end Adds

end Builder

/-! ## Compiling -/

/-- A task goes by its outline: it succeeds if and only if there is one, and
then its result looks so, and its names have been added. -/
def GoesBy
    (outline : Option β)
    (view : α → β)
    (names : α → List String)
    (task : BuilderM α) : Prop :=
  ∀ builder,
    match outline with
    | some drawn =>
        ∃ result after, task.run.run builder = (.ok result, after) ∧ view result = drawn ∧
          builder.Adds (names result) after
    | none => ∃ error after, task.run.run builder = (.error error, after)

namespace GoesBy

variable
  {outline : Option β}
  {view : α → β}
  {names : α → List String}
  {task : BuilderM α}

/-- What a task that ends well has done. -/
theorem of_ok
    {builder after : Builder}
    {result : α}
    (goes : GoesBy outline view names task)
    (ends : task.run.run builder = (.ok result, after)) :
    outline = some (view result) ∧ builder.Adds (names result) after := by
  have done := goes builder
  cases outline with
  | none =>
      obtain ⟨error, failed, fails⟩ := done
      rw [fails] at ends
      cases ends
  | some drawn =>
      obtain ⟨_, _, succeeds, rfl, adds⟩ := done
      rw [succeeds] at ends
      cases ends
      exact ⟨rfl, adds⟩

/-- A task that fails has no outline. -/
theorem of_error
    {builder after : Builder}
    {error : Error}
    (goes : GoesBy outline view names task)
    (fails : task.run.run builder = (.error error, after)) :
    outline = none := by
  have done := goes builder
  cases outline with
  | none => rfl
  | some drawn =>
      obtain ⟨_, _, succeeds, -⟩ := done
      rw [succeeds] at fails
      cases fails

protected theorem pure
    {result : α}
    (noNames : names result = []) :
    GoesBy (some (view result)) view names (pure result) := by
  intro builder
  exact ⟨result, builder, rfl, rfl, noNames ▸ .refl⟩

protected theorem throw (error : Error) :
    GoesBy none view names (throw error) :=
  fun builder => ⟨error, builder, rfl⟩

/-- Where there is no outline, nothing that follows is done. -/
theorem bind_of_none
    {otherView : γ → δ}
    {otherNames : γ → List String}
    (goes : GoesBy none view names task)
    (next : α → BuilderM γ) :
    GoesBy none otherView otherNames (task >>= next) := by
  intro builder
  obtain ⟨error, after, fails⟩ := goes builder
  refine ⟨error, after, ?_⟩
  rw [run_bind_task, fails]

/-- What is made of the result is made of the outline. -/
protected theorem map
    {wrap : α → α'}
    {draw : β → β'}
    {otherView : α' → β'}
    {otherNames : α' → List String}
    (goes : GoesBy outline view names task)
    (views : ∀ result, otherView (wrap result) = draw (view result))
    (same : ∀ result, otherNames (wrap result) = names result) :
    GoesBy (outline.map draw) otherView otherNames (do return wrap (← task)) := by
  cases outline with
  | none => exact goes.bind_of_none _
  | some drawn =>
      intro builder
      obtain ⟨result, after, succeeds, rfl, adds⟩ := goes builder
      refine ⟨wrap result, after, ?_, views result, same result ▸ adds⟩
      rw [run_bind_task, succeeds]
      rfl

/-- One task and another, and what is made of both results. -/
theorem pair
    {firstOutline : Option β}
    {firstView : α → β}
    {firstNames : α → List String}
    {first : BuilderM α}
    {secondOutline : Option β'}
    {secondView : α' → β'}
    {secondNames : α' → List String}
    {second : BuilderM α'}
    {wrap : α → α' → γ}
    {draw : β → β' → δ}
    {view : γ → δ}
    {names : γ → List String}
    (goes : GoesBy firstOutline firstView firstNames first)
    (goesOn : GoesBy secondOutline secondView secondNames second)
    (views : ∀ one two, view (wrap one two) = draw (firstView one) (secondView two))
    (both : ∀ one two, names (wrap one two) = firstNames one ++ secondNames two) :
    GoesBy (firstOutline.bind fun one => secondOutline.map (draw one)) view names
      (do
        let one ← first
        let two ← second
        return wrap one two) := by
  cases firstOutline with
  | none => exact goes.bind_of_none _
  | some drawn =>
      intro builder
      obtain ⟨one, middle, succeeds, rfl, adds⟩ := goes builder
      have runs : (do
          let one ← first
          let two ← second
          return wrap one two : BuilderM γ).run.run builder =
            (do return wrap one (← second) : BuilderM γ).run.run middle := by
        rw [run_bind_task, succeeds]
      cases secondOutline with
      | none =>
          have failing : GoesBy none view names (do return wrap one (← second)) :=
            goesOn.bind_of_none _
          obtain ⟨error, after, fails⟩ := failing middle
          exact ⟨error, after, runs.trans fails⟩
      | some drawnOther =>
          obtain ⟨two, after, succeedsOther, rfl, addsOthers⟩ := goesOn middle
          refine ⟨wrap one two, after, runs.trans ?_, views one two,
            both one two ▸ adds.append addsOthers⟩
          rw [run_bind_task, succeedsOther]
          rfl

/-- An inline rule always gets a name. -/
theorem inline
    {outline : Option Expr}
    {task : BuilderM Expr}
    (goes : GoesBy outline Expr.anonymous Expr.inlineNames task) :
    GoesBy (outline.map (.inline "")) Expr.anonymous Expr.inlineNames
      (do
        let body ← task
        BuilderM.inline body) := by
  cases outline with
  | none => exact goes.bind_of_none _
  | some drawn =>
      intro builder
      obtain ⟨body, middle, succeeds, rfl, adds⟩ := goes builder
      obtain ⟨after, inlines, installs⟩ := middle.inline_installs body
      refine ⟨.inline middle.freshName body, after, ?_, rfl, adds.inline installs⟩
      rw [run_bind_task, succeeds]
      dsimp only
      rw [BuilderM.run_inline, inlines]

theorem orComplain
    {position : Position}
    {complaint : Source.Complaint}
    (reading : Option α) :
    GoesBy reading id (fun _ => []) (BuilderM.orComplain position complaint reading) := by
  cases reading with
  | none => exact .throw _
  | some result => exact .pure rfl

end GoesBy

/-- A literal goes by its value. -/
theorem lowerLiteral_goesBy (position : Position) (literal : Source.Literal) :
    GoesBy literal.value? id (fun _ => []) (lowerLiteral position literal) := by
  cases literal with
  | text value => exact .pure rfl
  | char value => exact .pure rfl
  | integer value =>
      rw [Source.Literal.value?, lowerLiteral]
      generalize Value.ofInt? value = reading
      exact (GoesBy.orComplain reading).map (fun _ => rfl) fun _ => rfl
  | other => exact .throw _

theorem lowerNegative_goesBy (position : Position) (signed : Bool) (value : Nat) :
    GoesBy (negativeValue? signed value) id (fun _ => [])
      (lowerNegative position signed value) := by
  cases signed with
  | true => exact .throw _
  | false =>
      rw [negativeValue?, lowerNegative, if_neg Bool.false_ne_true, if_neg Bool.false_ne_true]
      generalize Value.ofInt? (-(value : Int)) = reading
      exact (GoesBy.orComplain reading).map (fun _ => rfl) fun _ => rfl

open Source.Pattern (outline? outlineAll? outlineProperties?)

mutual

/-- Compiling a pattern goes by its outline. -/
theorem lower_goesBy : ∀ pattern : Source.Pattern,
    GoesBy (outline? pattern) Expr.anonymous Expr.inlineNames (lower pattern)
  | .any | .undefined | .null | .bool _ | .range _ _ | .call _ => by
      rw [lower]
      exact .pure rfl
  | .literal position value => by
      rw [lower]
      exact (lowerLiteral_goesBy position value).map (fun _ => rfl) fun _ => rfl
  | .negative position signed value => by
      rw [lower]
      exact (lowerNegative_goesBy position signed value).map (fun _ => rfl) fun _ => rfl
  | .regex position source => by
      rw [lower]
      exact (GoesBy.orComplain _).map (fun _ => rfl) fun _ => rfl
  | .alt patterns => by
      rw [lower]
      exact (lowerAll_goesBy patterns).map (Expr.rename_choice _) Expr.inlineNames_choice
  | .seq patterns => by
      rw [lower]
      exact (lowerAll_goesBy patterns).map (fun _ => rfl) fun _ => rfl
  | .bind body name => by
      rw [lower]
      exact (lower_goesBy body).map (fun _ => rfl) fun _ => rfl
  | .star body | .plus body | .opt body | .not body | .peek body | .str body | .list body => by
      rw [lower]
      exact (lower_goesBy body).map (fun _ => rfl) fun _ => rfl
  | .object properties lenient => by
      rw [lower, outline?]
      cases Source.checkKeys [] properties with
      | error fault => exact .throw _
      | ok => exact (lowerProperties_goesBy properties).map (fun _ => rfl) fun _ => rfl
  | .inline body => by
      rw [lower]
      exact (lower_goesBy body).inline

theorem lowerAll_goesBy : ∀ patterns : List Source.Pattern,
    GoesBy (outlineAll? patterns) (Expr.renameItems fun _ => "") Expr.itemInlineNames
      (lowerAll patterns)
  | [] => by
      rw [lowerAll]
      exact .pure rfl
  | pattern :: patterns => by
      rw [lowerAll]
      exact (lower_goesBy pattern).pair (lowerAll_goesBy patterns) (fun _ _ => rfl)
        fun _ _ => List.map_append

theorem lowerProperties_goesBy : ∀ properties : List (Source.Key × Source.Pattern),
    GoesBy (outlineProperties? properties) (Expr.renameProperties fun _ => "")
      Expr.propertyInlineNames (lowerProperties properties)
  | [] => by
      rw [lowerProperties]
      exact .pure rfl
  | (key, pattern) :: properties => by
      rw [lowerProperties]
      exact (lower_goesBy pattern).pair (lowerProperties_goesBy properties) (fun _ _ => rfl)
        fun _ _ => List.map_append

end

end Heirloom
