import Heirloom.Loading

/-!
# Tasks

A task works on a state and may fail, and what it changed before it failed
stays changed. A task keeps a property of the state if the property holds
afterwards whenever it held before, however the task ends. What is kept goes
through tasks one step at a time.
-/

namespace Heirloom

/-- A result that passes a test is there. -/
theorem exists_ok_of_any
    {ε α : Type}
    {result : Except ε α}
    {test : α → Bool}
    (passes : result.toOption.any test = true) :
    ∃ value, result = .ok value ∧ test value = true := by
  cases result with
  | error error => cases passes
  | ok value => exact ⟨value, rfl, passes⟩

theorem exists_run_eq_ok_of_any
    {ε σ α : Type}
    {ending : Except ε α × σ}
    {test : α → Bool}
    (passes : ending.1.toOption.any test = true) :
    ∃ value after, ending = (.ok value, after) ∧ test value = true := by
  obtain ⟨value, same, holds⟩ := exists_ok_of_any passes
  exact ⟨value, ending.2, Prod.ext same rfl, holds⟩

/-- A task keeps a property of the state, and its results have a property of
their own. -/
def Keeps
    (holds : σ → Prop)
    (good : α → Prop)
    (task : ExceptT ε (StateM σ) α) : Prop :=
  ∀ state, holds state →
    holds (task.run.run state).2 ∧ ∀ result, (task.run.run state).1 = .ok result → good result

/-- One task after another: the second runs on what the first leaves, unless the
first fails. -/
theorem run_bind_task
    (task : ExceptT ε (StateM σ) α)
    (next : α → ExceptT ε (StateM σ) β)
    (state : σ) :
    (task >>= next).run.run state =
      match task.run.run state with
      | (.ok result, after) => (next result).run.run after
      | (.error error, after) => (.error error, after) := by
  simp only [ExceptT.run_bind, StateT.run_bind]
  rcases task.run.run state with ⟨error | result, after⟩ <;> rfl

theorem run_get_bind
    (next : σ → ExceptT ε (StateM σ) β)
    (state : σ) :
    (get >>= next).run.run state = (next state).run.run state :=
  run_bind_task get next state

/-- A task ends well if and only if its first part does and what follows does. -/
theorem run_bind_eq_ok_iff
    {task : ExceptT ε (StateM σ) α}
    {next : α → ExceptT ε (StateM σ) β}
    {result : β}
    {state last : σ} :
    (task >>= next).run.run state = (.ok result, last) ↔
      ∃ value middle, task.run.run state = (.ok value, middle) ∧
        (next value).run.run middle = (.ok result, last) := by
  rw [run_bind_task]
  rcases task.run.run state with ⟨error | value, middle⟩
  · exact ⟨nofun, nofun⟩
  · refine ⟨fun ends => ⟨value, middle, rfl, ends⟩, ?_⟩
    rintro ⟨_, _, ⟨⟩, ends⟩
    exact ends

/-! ## Tasks that end well -/

/-- The task ends well from the state. -/
def Succeeds (task : ExceptT ε (StateM σ) α) (state : σ) : Prop :=
  ∃ result after, task.run.run state = (.ok result, after)

theorem succeeds_of_run
    {task : ExceptT ε (StateM σ) α}
    {result : α}
    {state after : σ}
    (ends : task.run.run state = (.ok result, after)) :
    Succeeds task state :=
  ⟨result, after, ends⟩

theorem not_succeeds_of_run
    {task : ExceptT ε (StateM σ) α}
    {error : ε}
    {state after : σ}
    (fails : task.run.run state = (.error error, after)) :
    ¬ Succeeds task state := by
  rintro ⟨result, last, ends⟩
  cases fails.symm.trans ends

/-- A task that does not end well ends with an error. -/
theorem not_succeeds_iff
    {task : ExceptT ε (StateM σ) α}
    {state : σ} :
    ¬ Succeeds task state ↔ ∃ error after, task.run.run state = (.error error, after) := by
  refine ⟨fun fails => ?_, fun ⟨error, after, fails⟩ => not_succeeds_of_run fails⟩
  rcases ends : task.run.run state with ⟨error | result, after⟩
  · exact ⟨error, after, rfl⟩
  · exact absurd (succeeds_of_run ends) fails

/-- One task after another ends well if and only if both do. -/
theorem succeeds_bind_iff
    {task : ExceptT ε (StateM σ) α}
    {next : α → ExceptT ε (StateM σ) β}
    {state : σ} :
    Succeeds (task >>= next) state ↔
      ∃ value middle, task.run.run state = (.ok value, middle) ∧ Succeeds (next value) middle := by
  constructor
  · rintro ⟨result, last, ends⟩
    obtain ⟨value, middle, first, rest⟩ := run_bind_eq_ok_iff.mp ends
    exact ⟨value, middle, first, result, last, rest⟩
  · rintro ⟨value, middle, first, result, last, rest⟩
    exact ⟨result, last, run_bind_eq_ok_iff.mpr ⟨value, middle, first, rest⟩⟩

/-- A task that ends well is followed by what goes on. -/
theorem succeeds_bind_of_run
    {task : ExceptT ε (StateM σ) α}
    {next : α → ExceptT ε (StateM σ) β}
    {value : α}
    {state middle : σ}
    (ends : task.run.run state = (.ok value, middle)) :
    Succeeds (task >>= next) state ↔ Succeeds (next value) middle := by
  rw [succeeds_bind_iff, ends]
  refine ⟨?_, fun succeeds => ⟨value, middle, rfl, succeeds⟩⟩
  rintro ⟨_, _, ⟨⟩, succeeds⟩
  exact succeeds

/-- Nothing follows a task that fails. -/
theorem not_succeeds_bind_of_run
    {task : ExceptT ε (StateM σ) α}
    {next : α → ExceptT ε (StateM σ) β}
    {error : ε}
    {state after : σ}
    (fails : task.run.run state = (.error error, after)) :
    ¬ Succeeds (task >>= next) state := by
  rw [succeeds_bind_iff, fails]
  rintro ⟨_, _, ⟨⟩, -⟩

namespace Keeps

variable
  {holds : σ → Prop}
  {good : α → Prop}
  {better : β → Prop}

protected theorem pure
    {result : α}
    (results : good result) :
    Keeps holds good (pure result : ExceptT ε (StateM σ) α) := by
  intro state before
  refine ⟨before, ?_⟩
  rintro _ ⟨⟩
  exact results

protected theorem throw (error : ε) :
    Keeps holds good (throw error : ExceptT ε (StateM σ) α) := by
  intro state before
  exact ⟨before, nofun⟩

/-- Going on needs to be looked at only for the results of what comes first. -/
protected theorem bind
    {task : ExceptT ε (StateM σ) α}
    {next : α → ExceptT ε (StateM σ) β}
    (first : Keeps holds good task)
    (rest : ∀ result, good result → Keeps holds better (next result)) :
    Keeps holds better (task >>= next) := by
  intro state before
  obtain ⟨kept, results⟩ := first state before
  rw [run_bind_task]
  rcases ended : task.run.run state with ⟨error | result, after⟩
  · rw [ended] at kept
    exact ⟨kept, nofun⟩
  · rw [ended] at kept results
    exact rest result (results result rfl) after kept

/-- What is known of the results may be forgotten. -/
theorem weaken
    {task : ExceptT ε (StateM σ) α}
    {weaker : α → Prop}
    (keeps : Keeps holds good task)
    (forgets : ∀ result, good result → weaker result) :
    Keeps holds weaker task := by
  intro state before
  obtain ⟨kept, results⟩ := keeps state before
  exact ⟨kept, fun result ends => forgets result (results result ends)⟩

protected theorem get : Keeps holds holds (get : ExceptT ε (StateM σ) σ) := by
  intro state before
  refine ⟨before, ?_⟩
  rintro _ ⟨⟩
  exact before

protected theorem set
    {after : σ}
    (kept : holds after) :
    Keeps holds (fun _ => True) (set after : ExceptT ε (StateM σ) PUnit) :=
  fun _ _ => ⟨kept, fun _ _ => trivial⟩

protected theorem modify
    {change : σ → σ}
    (kept : ∀ state, holds state → holds (change state)) :
    Keeps holds (fun _ => True) (modify change : ExceptT ε (StateM σ) PUnit) :=
  fun state before => ⟨kept state before, fun _ _ => trivial⟩

end Keeps

/-! ## Tasks side by side -/

/-- Two runs end alike: well, with results that correspond and in related states, or
both with an error. -/
inductive EndAlike (related : σ → τ → Prop) (same : α → β → Prop) :
    Except ε α × σ → Except ε β × τ → Prop
  | succeed {result : α} {otherResult : β} {state : σ} {other : τ}
      (results : same result otherResult)
      (stay : related state other) :
      EndAlike related same (.ok result, state) (.ok otherResult, other)
  | fail {error otherError : ε} {state : σ} {other : τ} :
      EndAlike related same (.error error, state) (.error otherError, other)

/-- Two tasks go alike: from related states their runs end alike. -/
def GoAlike
    (related : σ → τ → Prop)
    (same : α → β → Prop)
    (task : ExceptT ε (StateM σ) α)
    (other : ExceptT ε (StateM τ) β) : Prop :=
  ∀ state otherState, related state otherState →
    EndAlike related same (task.run.run state) (other.run.run otherState)

namespace EndAlike

variable
  {related : σ → τ → Prop}
  {same : α → β → Prop}

theorem cases_run
    {ran : Except ε α × σ}
    {otherRan : Except ε β × τ}
    (ends : EndAlike related same ran otherRan) :
    (∃ result otherResult last otherLast, ran = (.ok result, last) ∧
      otherRan = (.ok otherResult, otherLast) ∧ same result otherResult ∧
        related last otherLast) ∨
    ∃ error last otherError otherLast, ran = (.error error, last) ∧
      otherRan = (.error otherError, otherLast) := by
  cases ends with
  | succeed results stay => exact .inl ⟨_, _, _, _, rfl, rfl, results, stay⟩
  | fail => exact .inr ⟨_, _, _, _, rfl, rfl⟩

/-- What is known of the runs on each side is known of how they end. -/
theorem imp
    {after : σ → τ → Prop}
    {weaker : α → β → Prop}
    {ran : Except ε α × σ}
    {otherRan : Except ε β × τ}
    (ends : EndAlike related same ran otherRan)
    (known : ∀ result otherResult state otherState, ran = (.ok result, state) →
      otherRan = (.ok otherResult, otherState) → same result otherResult →
        related state otherState → weaker result otherResult ∧ after state otherState) :
    EndAlike after weaker ran otherRan := by
  cases ends with
  | fail => exact .fail
  | succeed results stay =>
      obtain ⟨results, stay⟩ := known _ _ _ _ rfl rfl results stay
      exact .succeed results stay

/-- Runs that go on alike from results that correspond end alike. -/
theorem bind
    {after : σ → τ → Prop}
    {following : γ → δ → Prop}
    {task : ExceptT ε (StateM σ) α}
    {other : ExceptT ε (StateM τ) β}
    {next : α → ExceptT ε (StateM σ) γ}
    {otherNext : β → ExceptT ε (StateM τ) δ}
    {state : σ}
    {otherState : τ}
    (first : EndAlike related same (task.run.run state) (other.run.run otherState))
    (rest : ∀ result otherResult middle otherMiddle, same result otherResult →
      related middle otherMiddle →
        EndAlike after following ((next result).run.run middle)
          ((otherNext otherResult).run.run otherMiddle)) :
    EndAlike after following ((task >>= next).run.run state)
      ((other >>= otherNext).run.run otherState) := by
  rw [run_bind_task, run_bind_task]
  rcases first.cases_run with ⟨_, _, _, _, ends, endsToo, results, stay⟩ |
    ⟨_, _, _, _, fails, failsToo⟩
  · rw [ends, endsToo]
    exact rest _ _ _ _ results stay
  · rw [fails, failsToo]
    exact .fail

end EndAlike

namespace GoAlike

variable {related : σ → τ → Prop}

theorem cases_run
    {same : α → β → Prop}
    {task : ExceptT ε (StateM σ) α}
    {other : ExceptT ε (StateM τ) β}
    {state : σ}
    {otherState : τ}
    (alike : GoAlike related same task other)
    (start : related state otherState) :
    (∃ result otherResult last otherLast, task.run.run state = (.ok result, last) ∧
      other.run.run otherState = (.ok otherResult, otherLast) ∧ same result otherResult ∧
        related last otherLast) ∨
    ∃ error last otherError otherLast, task.run.run state = (.error error, last) ∧
      other.run.run otherState = (.error otherError, otherLast) :=
  (alike state otherState start).cases_run

protected theorem pure
    {same : α → β → Prop}
    {result : α}
    {otherResult : β}
    (results : same result otherResult) :
    GoAlike related same (pure result : ExceptT ε (StateM σ) α) (pure otherResult) :=
  fun _ _ stay => .succeed results stay

protected theorem throw
    {same : α → β → Prop}
    (error otherError : ε) :
    GoAlike related same (throw error : ExceptT ε (StateM σ) α) (throw otherError) :=
  fun _ _ _ => .fail

section Bind

variable
  {same : α → β → Prop}
  {following : γ → δ → Prop}

/-- Going on needs to be looked at only for results that correspond. -/
theorem bind_of_results
    {task : ExceptT ε (StateM σ) α}
    {other : ExceptT ε (StateM τ) β}
    {next : α → ExceptT ε (StateM σ) γ}
    {otherNext : β → ExceptT ε (StateM τ) δ}
    (first : GoAlike related same task other)
    (rest : ∀ result otherResult, same result otherResult →
      GoAlike related following (next result) (otherNext otherResult)) :
    GoAlike related following (task >>= next) (other >>= otherNext) :=
  fun state otherState start =>
    (first state otherState start).bind fun result otherResult _ _ results stay =>
      rest result otherResult results _ _ stay

/-- What the first task keeps and gives on its own is known besides. -/
theorem and_keeps
    {holds : σ → Prop}
    {good : α → Prop}
    {task : ExceptT ε (StateM σ) α}
    {other : ExceptT ε (StateM τ) β}
    (alike : GoAlike related same task other)
    (keeps : Keeps holds good task) :
    GoAlike (fun state otherState => related state otherState ∧ holds state)
      (fun result otherResult => same result otherResult ∧ good result) task other := by
  rintro state otherState ⟨start, before⟩
  obtain ⟨kept, results⟩ := keeps state before
  rcases alike.cases_run start with ⟨_, _, _, _, ends, endsToo, correspond, stay⟩ |
    ⟨_, _, _, _, fails, failsToo⟩
  · rw [ends] at kept results
    rw [ends, endsToo]
    exact .succeed ⟨correspond, results _ rfl⟩ ⟨stay, kept⟩
  · rw [fails, failsToo]
    exact .fail

variable
  {task : ExceptT ε (StateM σ) α}
  {other : ExceptT ε (StateM τ) α}
  {next : α → ExceptT ε (StateM σ) γ}
  {otherNext : α → ExceptT ε (StateM τ) δ}

/-- Going on needs to be looked at only for what the first task returns. -/
theorem bind_of_gives
    {good : α → Prop}
    (first : GoAlike related Eq task other)
    (gives : Keeps (fun _ => True) good task)
    (rest : ∀ result, good result →
      GoAlike related following (next result) (otherNext result)) :
    GoAlike related following (task >>= next) (other >>= otherNext) := by
  intro state otherState start
  refine (first.and_keeps gives state otherState ⟨start, trivial⟩).bind ?_
  rintro result _ middle otherMiddle ⟨rfl, isGood⟩ ⟨stay, -⟩
  exact rest result isGood middle otherMiddle stay

protected theorem bind
    (first : GoAlike related Eq task other)
    (rest : ∀ result, GoAlike related following (next result) (otherNext result)) :
    GoAlike related following (task >>= next) (other >>= otherNext) := by
  refine first.bind_of_results ?_
  rintro result _ rfl
  exact rest result

end Bind

theorem get_bind
    {same : α → β → Prop}
    {next : σ → ExceptT ε (StateM σ) α}
    {otherNext : τ → ExceptT ε (StateM τ) β}
    (rest : ∀ state other, related state other →
      GoAlike related same (next state) (otherNext other)) :
    GoAlike related same (get >>= next) (get >>= otherNext) :=
  fun state other start => rest state other start state other start

protected theorem modify
    {change : σ → σ}
    {otherChange : τ → τ}
    (stay : ∀ state other, related state other → related (change state) (otherChange other)) :
    GoAlike related Eq (modify change : ExceptT ε (StateM σ) PUnit) (modify otherChange) :=
  fun state other start => .succeed rfl (stay state other start)

section Equal

variable {task middle other : ExceptT ε (StateM σ) α}

theorem refl (task : ExceptT ε (StateM σ) α) : GoAlike Eq Eq task task := by
  rintro state _ rfl
  rcases task.run.run state with ⟨error | result, after⟩
  · exact .fail
  · exact .succeed rfl rfl

theorem symm (alike : GoAlike Eq Eq task other) : GoAlike Eq Eq other task := by
  rintro state _ rfl
  rcases alike.cases_run rfl with ⟨_, _, _, _, ends, endsToo, rfl, rfl⟩ |
    ⟨_, _, _, _, fails, failsToo⟩
  · rw [ends, endsToo]
    exact .succeed rfl rfl
  · rw [fails, failsToo]
    exact .fail

theorem trans
    (alike : GoAlike Eq Eq task middle)
    (thenAlike : GoAlike Eq Eq middle other) :
    GoAlike Eq Eq task other := by
  rintro state _ rfl
  have ends := thenAlike state state rfl
  rcases alike.cases_run rfl with ⟨_, _, _, _, succeeds, middleSucceeds, rfl, rfl⟩ |
    ⟨_, _, _, _, fails, middleFails⟩
  · rwa [middleSucceeds, ← succeeds] at ends
  · rw [middleFails] at ends
    rw [fails]
    generalize other.run.run state = ran at ends
    cases ends
    exact .fail

end Equal

end GoAlike

/-! ## Builders -/

namespace BuilderM

variable
  {operation : Builder → Except Error Builder}
  {builder after : Builder}
  {body expr : Expr}

theorem run_change (operation : Builder → Except Error Builder) (builder : Builder) :
    (change operation).run.run builder =
      match operation builder with
      | .ok after => (.ok (), after)
      | .error error => (.error error, builder) := by
  have opens : (change operation).run.run builder =
      (match operation builder with
        | .ok after => set after
        | .error error => throw error : BuilderM Unit).run.run builder :=
    run_bind_task get _ builder
  rw [opens]
  cases operation builder <;> rfl

/-- A change of the builder ends well if and only if the operation does. -/
theorem succeeds_change_iff :
    Succeeds (change operation) builder ↔ ∃ after, operation builder = .ok after := by
  rw [Succeeds, run_change]
  cases operation builder with
  | ok after => exact ⟨fun _ => ⟨after, rfl⟩, fun _ => ⟨(), after, rfl⟩⟩
  | error error =>
      constructor
      · rintro ⟨_, _, ⟨⟩⟩
      · rintro ⟨_, ⟨⟩⟩

theorem run_inline (body : Expr) (builder : Builder) :
    (inline body).run.run builder =
      match builder.inline body with
      | .ok (reference, after) => (.ok reference, after)
      | .error error => (.error error, builder) := by
  have opens : (inline body).run.run builder =
      (match builder.inline body with
        | .ok (reference, after) => do
            set after
            return reference
        | .error error => throw error : BuilderM Expr).run.run builder :=
    run_bind_task get _ builder
  rw [opens]
  cases builder.inline body <;> rfl

theorem eq_ok_of_run_change
    (ends : (change operation).run.run builder = (.ok (), after)) :
    operation builder = .ok after := by
  rw [run_change] at ends
  split at ends
  · next changed changes =>
      cases ends
      exact changes
  · cases ends

theorem eq_ok_of_run_inline
    (ends : (inline body).run.run builder = (.ok expr, after)) :
    builder.inline body = .ok (expr, after) := by
  rw [run_inline] at ends
  split at ends
  · next reference changed inlines =>
      cases ends
      exact inlines
  · cases ends

end BuilderM
end Heirloom
