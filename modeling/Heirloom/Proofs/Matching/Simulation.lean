import Heirloom.Expr.Names
import Heirloom.Proofs.Matching.Leaf
import Mathlib.Data.List.Forall2

/-!
# Simulations

Evaluation is put together from few parts: results, mismatches, one run after
another, attempts and runs on inner streams. A simulation is a relation between
runs that all of these parts respect. If two contexts apply rules and skip in
ways that a simulation relates, then it relates the evaluations of every
expression.

The run on the right works on the rest of the stream on the left after some
offset, and it may be a whole family of runs. An invariant of single runs is a
simulation that pays no attention to the right.
-/

namespace Heirloom

/-- Lists of values that are equal one by one are equal. -/
theorem Value.list_eq_of_forall₂
    {lefts rights : List Value}
    (same : List.Forall₂ Eq lefts rights) :
    Value.list lefts = Value.list rights := by
  rw [List.forall₂_eq_eq_eq] at same
  rw [same]

namespace Matching

/-- A stream that is matched inside an element of another one. -/
inductive Inside (stream : List Value) : List Value → Prop
  /-- The characters of a string. -/
  | chars {text : String} (present : .str text ∈ stream) : Inside stream (Value.chars text)
  /-- The items of a list. -/
  | items {items : List Value} (present : .list items ∈ stream) : Inside stream items
  /-- A field of an object, as a stream of its own. -/
  | field {fields : List (String × Value)} {field : String × Value}
      (present : .object fields ∈ stream) (named : field ∈ fields) : Inside stream [field.2]

/-- The evaluation of a body on a whole stream, without the stream around it. -/
def Context.whole
    (context : Context)
    (body : List Value → Nat → Bindings → Run Step)
    (stream : List Value)
    (scope : Bindings) : Run Step := do
  let step ← body stream 0 scope
  let finish ← context.skip stream step.position
  if stream.length ≤ finish then return step else Run.mismatch

theorem onWhole_eq
    (context : Context)
    (body : List Value → Nat → Bindings → Run Step)
    (stream : List Value)
    (scope : Bindings) :
    context.onWhole body stream scope = Run.within (context.whole body stream scope) :=
  rfl

/-- A relation between runs that the parts of evaluation respect. -/
structure Simulation (ι : Type) where
  /-- The values that count as the same. -/
  alike : Value → Value → Prop
  /-- Runs on a stream that are related to runs on the rest of it, given which of
  their results are related. -/
  Related {α β : Type} (stream : List Value) (offset : Nat) :
    (α → β → Prop) → Run α → (ι → Run β) → Prop
  alike_refl : ∀ value, alike value value
  alike_list : ∀ {lefts rights : List Value},
    List.Forall₂ alike lefts rights → alike (.list lefts) (.list rights)
  done : ∀ {α β : Type} {stream : List Value} {offset : Nat} {same : α → β → Prop}
    {left : α} {right : β}, same left right →
      Related stream offset same (pure left) fun _ => pure right
  mismatch : ∀ {α β : Type} {stream : List Value} {offset : Nat} {same : α → β → Prop},
    Related stream offset same Run.mismatch fun _ => Run.mismatch
  andThen : ∀ {α β γ δ : Type} {stream : List Value} {offset : Nat}
    {same : α → β → Prop} {following : γ → δ → Prop}
    {left : Run α} {right : ι → Run β} {leftNext : α → Run γ} {rightNext : ι → β → Run δ},
    Related stream offset same left right →
      (∀ leftResult rightResult, same leftResult rightResult →
        Related stream offset following (leftNext leftResult)
          fun index => rightNext index rightResult) →
      Related stream offset following (left >>= leftNext)
        fun index => right index >>= rightNext index
  attempt : ∀ {α β : Type} {stream : List Value} {offset : Nat} {same : α → β → Prop}
    {left : Run α} {right : ι → Run β},
    Related stream offset same left right →
      Related stream offset (Option.Rel same) left.attempt fun index => (right index).attempt
  within : ∀ {α β : Type} {stream inner : List Value} {offset : Nat} {same : α → β → Prop}
    {left : Run α} {right : ι → Run β},
    Inside stream inner → Related inner 0 same left right →
      Related stream offset same (Run.within left) fun index => Run.within (right index)

/-- A position on the left and the same place on the right, not before the start
and inside the stream. -/
structure Reaches (stream : List Value) (offset start left right : Nat) : Prop where
  eq_add : left = right + offset
  start_le : start ≤ left
  le_length : left ≤ stream.length

theorem Reaches.trans
    {stream : List Value}
    {offset start middle left right : Nat}
    (before : start ≤ middle)
    (reaches : Reaches stream offset middle left right) :
    Reaches stream offset start left right :=
  ⟨reaches.eq_add, Nat.le_trans before reaches.start_le, reaches.le_length⟩

/-- The place after an element. -/
theorem Reaches.after
    {stream : List Value}
    {offset start place : Nat}
    {value : Value}
    (before : start ≤ place + offset)
    (present : stream[place + offset]? = some value) :
    Reaches stream offset start (place + offset + 1) (place + 1) :=
  ⟨by omega, Nat.le_succ_of_le before, lt_length_of_getElem? present⟩

namespace Simulation

variable {ι : Type} (sim : Simulation ι)

/-- Scopes with the same names, bound to values alike. -/
def ScopesAlike : Bindings → Bindings → Prop :=
  List.Forall₂ fun left right => left.1 = right.1 ∧ sim.alike left.2 right.2

theorem ScopesAlike.refl (scope : Bindings) : sim.ScopesAlike scope scope := by
  induction scope with
  | nil => exact .nil
  | cons bound _ inductionHypothesis =>
      exact .cons ⟨rfl, sim.alike_refl bound.2⟩ inductionHypothesis

/-- If only equal values are alike, then so are only equal scopes. -/
theorem ScopesAlike.eq
    {sim : Simulation ι}
    (exact : ∀ {left right : Value}, sim.alike left right → left = right)
    {scope rightScope : Bindings}
    (scopes : sim.ScopesAlike scope rightScope) :
    scope = rightScope := by
  induction scopes with
  | nil => rfl
  | cons bound _ inductionHypothesis =>
      rw [inductionHypothesis, Prod.ext bound.1 (exact bound.2)]

/-- Matches of values alike that end at the same place. -/
structure HitsAlike (stream : List Value) (offset start : Nat) (left right : Hit) : Prop where
  value : sim.alike left.value right.value
  reaches : Reaches stream offset start left.finish right.finish

/-- If only equal values are alike, then so are only equal matches of a stream. -/
theorem HitsAlike.eq
    {sim : Simulation ι}
    (exact : ∀ {left right : Value}, sim.alike left right → left = right)
    {stream : List Value}
    {start : Nat}
    {hit rightHit : Hit}
    (hits : sim.HitsAlike stream 0 start hit rightHit) :
    hit = rightHit := by
  obtain ⟨value, finish⟩ := hit
  obtain ⟨rightValue, rightFinish⟩ := rightHit
  have values := exact hits.value
  have finishes := hits.reaches.eq_add
  dsimp only at values finishes
  rw [values, finishes, Nat.add_zero]

theorem answers_eq
    {sim : Simulation ι}
    (exact : ∀ {left right : Value}, sim.alike left right → left = right)
    {stream : List Value}
    {start : Nat}
    {answer rightAnswer : Option Hit}
    (answers : Option.Rel (sim.HitsAlike stream 0 start) answer rightAnswer) :
    answer = rightAnswer := by
  cases answers with
  | none => rfl
  | some hits => rw [hits.eq exact]

/-- Evaluations of a body that bound alike and came to values alike at the same
place. -/
structure CompletionsAlike
    (stream : List Value)
    (offset start : Nat)
    (left right : Completion) : Prop where
  value : sim.alike left.value right.value
  reaches : Reaches stream offset start left.finish right.finish
  bindings : sim.ScopesAlike left.bindings right.bindings

/-- If only equal values are alike, then so are only equal evaluations. -/
theorem CompletionsAlike.eq
    {sim : Simulation ι}
    (exact : ∀ {left right : Value}, sim.alike left right → left = right)
    {stream : List Value}
    {start : Nat}
    {completion rightCompletion : Completion}
    (completions : sim.CompletionsAlike stream 0 start completion rightCompletion) :
    completion = rightCompletion := by
  obtain ⟨bindings, value, finish⟩ := completion
  obtain ⟨rightBindings, rightValue, rightFinish⟩ := rightCompletion
  have values := exact completions.value
  have finishes := completions.reaches.eq_add
  have scopes := completions.bindings.eq exact
  dsimp only at values finishes scopes
  rw [values, finishes, scopes, Nat.add_zero]

/-- Steps of values alike to the same place, which bind alike and keep what was
bound. -/
structure StepsAlike
    (stream : List Value)
    (offset start : Nat)
    (scope : Bindings)
    (left right : Step) : Prop where
  value : sim.alike left.value right.value
  reaches : Reaches stream offset start left.position right.position
  scopes : sim.ScopesAlike left.scope right.scope
  extends_scope : scope <+: left.scope

/-- If only equal values are alike, then so are only equal steps. -/
theorem StepsAlike.eq
    {sim : Simulation ι}
    (exact : ∀ {left right : Value}, sim.alike left right → left = right)
    {stream : List Value}
    {start : Nat}
    {scope : Bindings}
    {step rightStep : Step}
    (steps : sim.StepsAlike stream 0 start scope step rightStep) :
    step = rightStep := by
  obtain ⟨value, position, bindings⟩ := step
  obtain ⟨rightValue, rightPosition, rightBindings⟩ := rightStep
  have values := exact steps.value
  have positions := steps.reaches.eq_add
  have scopes := steps.scopes.eq exact
  dsimp only at values positions scopes
  rw [values, positions, scopes, Nat.add_zero]

/-- Steps that follow on a step. -/
theorem StepsAlike.trans
    {sim : Simulation ι}
    {stream : List Value}
    {offset start middle : Nat}
    {scope between : Bindings}
    {left right : Step}
    (before : start ≤ middle)
    (kept : scope <+: between)
    (steps : sim.StepsAlike stream offset middle between left right) :
    sim.StepsAlike stream offset start scope left right :=
  ⟨steps.value, steps.reaches.trans before, steps.scopes, kept.trans steps.extends_scope⟩

/-- Runs stay related when less is asked of their results. -/
theorem weaken
    {α β : Type}
    {stream : List Value}
    {offset : Nat}
    {same weaker : α → β → Prop}
    {left : Run α}
    {right : ι → Run β}
    (implies : ∀ leftResult rightResult,
      same leftResult rightResult → weaker leftResult rightResult)
    (related : sim.Related stream offset same left right) :
    sim.Related stream offset weaker left right := by
  have continued := sim.andThen related
    (fun leftResult rightResult results =>
      sim.done (implies leftResult rightResult results))
  simpa only [bind_pure] using continued

/-- Ways to apply rules that are related for some rules. -/
def AppliersAgree (names : String → Prop) (left : Applier) (right : ι → Applier) : Prop :=
  ∀ ⦃stream : List Value⦄ ⦃offset position : Nat⦄ ⦃rule : String⦄,
    names rule → position + offset ≤ stream.length →
      sim.Related stream offset (sim.HitsAlike stream offset (position + offset))
        (left stream rule (position + offset))
        fun index => right index (stream.drop offset) rule position

/-- Contexts that skip and apply some rules in related ways. -/
structure Agree (names : String → Prop) (left : Context) (right : ι → Context) : Prop where
  skip : ∀ {stream : List Value} {offset position : Nat},
    position + offset ≤ stream.length →
      sim.Related stream offset (Reaches stream offset (position + offset))
        (left.skip stream (position + offset))
        fun index => (right index).skip (stream.drop offset) position
  apply : sim.AppliersAgree names left.apply fun index => (right index).apply

section Parts

variable {sim}
  {names : String → Prop}
  {left : Context}
  {right : ι → Context}

/-- Contexts that skip with the same rule agree if they apply rules in related
ways. -/
theorem AppliersAgree.agree
    {apply : Applier}
    {rightApply : ι → Applier}
    (appliers : sim.AppliersAgree names apply rightApply)
    {skipRule : Option String}
    (skipped : ∀ rule, skipRule = some rule → names rule) :
    sim.Agree names ⟨apply, skipRule⟩ fun index => ⟨rightApply index, skipRule⟩ where
  apply := appliers
  skip := by
    intro stream offset position inside
    unfold Context.skip
    cases skipRule with
    | none => exact sim.done ⟨rfl, Nat.le_refl _, inside⟩
    | some rule =>
        refine sim.andThen (sim.attempt (appliers (skipped rule rfl) inside)) ?_
        rintro _ _ (hits | _)
        · exact sim.done hits.reaches
        · exact sim.done ⟨rfl, Nat.le_refl _, inside⟩

/-- Leaves are related, since they see the same rest of the stream. -/
theorem Agree.leaf
    (agree : sim.Agree names left right)
    {matcher : List Value → Nat → Option Hit}
    (ahead : LooksAhead matcher)
    {stream : List Value}
    {offset position : Nat}
    {scope rightScope : Bindings}
    (inside : position + offset ≤ stream.length)
    (scopes : sim.ScopesAlike scope rightScope) :
    sim.Related stream offset (sim.StepsAlike stream offset (position + offset) scope)
      (left.leaf matcher stream (position + offset) scope)
      fun index => (right index).leaf matcher (stream.drop offset) position rightScope := by
  unfold Context.leaf
  refine sim.andThen (agree.skip inside) ?_
  rintro _ place ⟨rfl, before, within⟩
  have seen := ahead.drop stream offset place
  cases found : matcher (stream.drop offset) place with
  | none =>
      rw [found, Option.map_none] at seen
      rw [seen]
      have stops : sim.Related stream offset (fun (_ _ : Hit) => False)
          Run.mismatch fun _ => Run.mismatch := sim.mismatch
      exact sim.andThen stops fun _ _ => False.elim
  | some hit =>
      rw [found, Option.map_some] at seen
      have bounds := ahead.bounds within seen
      rw [seen]
      exact sim.done
        ⟨sim.alike_refl hit.value, ⟨rfl, Nat.le_trans before bounds.1, bounds.2⟩,
          scopes, List.prefix_refl scope⟩

/-- What a loop has come to on both sides: values alike, the same place, and
scopes that keep what was bound. -/
structure LoopsAlike
    (sim : Simulation ι)
    (stream : List Value)
    (offset start : Nat)
    (scope : Bindings)
    (left right : List Value × Nat × Bindings) : Prop where
  values : List.Forall₂ sim.alike left.1 right.1
  reaches : Reaches stream offset start left.2.1 right.2.1
  scopes : sim.ScopesAlike left.2.2 right.2.2
  extends_scope : scope <+: left.2.2

/-- Loops with related bodies are related. Each round but the last moves on, so
a bound beyond what is left of the stream is not reached. -/
theorem repeatedly_related
    {stream : List Value}
    {offset : Nat}
    {leftBody : Nat → Bindings → Run Step}
    {rightBody : ι → Nat → Bindings → Run Step}
    (body : ∀ (position : Nat) (scope rightScope : Bindings),
      position + offset ≤ stream.length → sim.ScopesAlike scope rightScope →
        sim.Related stream offset (sim.StepsAlike stream offset (position + offset) scope)
          (leftBody (position + offset) scope)
          fun index => rightBody index position rightScope)
    (rounds : Nat) :
    ∀ (position : Nat) (scope rightScope : Bindings) (values rightValues : List Value),
      position + offset ≤ stream.length →
      stream.length < rounds + (position + offset) →
      sim.ScopesAlike scope rightScope →
      List.Forall₂ sim.alike values rightValues →
        sim.Related stream offset (LoopsAlike sim stream offset (position + offset) scope)
          (repeatedly leftBody rounds (position + offset) scope values)
          fun index => repeatedly (rightBody index) rounds position rightScope rightValues := by
  induction rounds with
  | zero =>
      intro position scope rightScope values rightValues inside enough
      omega
  | succ rounds inductionHypothesis =>
      intro position scope rightScope values rightValues inside enough scopes alike
      simp only [repeatedly]
      refine sim.andThen (sim.attempt (body position scope rightScope inside scopes)) ?_
      rintro _ _ (steps | _)
      · next step rightStep =>
          obtain ⟨value, ⟨moved, before, within⟩, stepScopes, kept⟩ := steps
          have added : List.Forall₂ sim.alike
              (values ++ [step.value]) (rightValues ++ [rightStep.value]) :=
            List.rel_append alike (.cons value .nil)
          by_cases still : rightStep.position = position
          · have stillLeft : step.position = position + offset := by omega
            simp only [still, stillLeft, beq_self_eq_true, if_true]
            exact sim.done ⟨added, ⟨rfl, Nat.le_refl _, inside⟩, stepScopes, kept⟩
          · have onLeft : (step.position == position + offset) = false := by
              simp only [beq_eq_false_iff_ne, ne_eq]
              omega
            have onRight : (rightStep.position == position) = false := by
              simpa using still
            simp only [onLeft, onRight, Bool.false_eq_true, if_false]
            rw [moved] at before within ⊢
            refine sim.weaken ?_ (inductionHypothesis rightStep.position step.scope
              rightStep.scope _ _ within ?_ stepScopes added)
            · rintro leftEnd rightEnd ⟨values, reaches, scopes, grows⟩
              exact ⟨values, reaches.trans before, scopes, kept.trans grows⟩
            · have apart : step.position ≠ position + offset := by simpa using onLeft
              omega
      · exact sim.done ⟨alike, ⟨rfl, Nat.le_refl _, inside⟩, scopes, List.prefix_refl scope⟩

/-- The bound on rounds is the same seen from further along. -/
theorem roundLimit_drop
    (stream : List Value)
    (offset position : Nat) :
    roundLimit (stream.drop offset) position = roundLimit stream (position + offset) := by
  unfold roundLimit
  rw [List.length_drop]
  omega

/-- Evaluations on the whole of a stream are related if those at its start are. -/
theorem Agree.whole
    (agree : sim.Agree names left right)
    {leftBody : List Value → Nat → Bindings → Run Step}
    {rightBody : ι → List Value → Nat → Bindings → Run Step}
    {stream : List Value}
    {scope rightScope : Bindings}
    (body : sim.Related stream 0 (sim.StepsAlike stream 0 0 scope)
      (leftBody stream 0 scope) fun index => rightBody index stream 0 rightScope) :
    sim.Related stream 0
      (fun step rightStep =>
        sim.alike step.value rightStep.value ∧
          sim.ScopesAlike step.scope rightStep.scope ∧ scope <+: step.scope)
      (left.whole leftBody stream scope)
      fun index => (right index).whole (rightBody index) stream rightScope := by
  unfold Context.whole
  refine sim.andThen body ?_
  rintro step rightStep ⟨value, ⟨moved, -, within⟩, scopes, kept⟩
  rw [Nat.add_zero] at moved
  have skipped : sim.Related stream 0 (Reaches stream 0 step.position)
      (left.skip stream step.position) fun index => (right index).skip stream step.position :=
    agree.skip within
  rw [← moved]
  refine sim.andThen skipped ?_
  rintro finish _ ⟨rfl, -, -⟩
  split
  · exact sim.done ⟨value, scopes, kept⟩
  · exact sim.mismatch

/-- Evaluations on the whole of an inner stream are related if those at its start
are. -/
theorem Agree.onWhole
    (agree : sim.Agree names left right)
    {leftBody : List Value → Nat → Bindings → Run Step}
    {rightBody : ι → List Value → Nat → Bindings → Run Step}
    {stream inner : List Value}
    {offset : Nat}
    {scope rightScope : Bindings}
    (inside : Inside stream inner)
    (body : sim.Related inner 0 (sim.StepsAlike inner 0 0 scope)
      (leftBody inner 0 scope) fun index => rightBody index inner 0 rightScope) :
    sim.Related stream offset
      (fun step rightStep =>
        sim.alike step.value rightStep.value ∧
          sim.ScopesAlike step.scope rightStep.scope ∧ scope <+: step.scope)
      (left.onWhole leftBody inner scope)
      fun index => (right index).onWhole (rightBody index) inner rightScope := by
  simp only [onWhole_eq]
  exact sim.within inside (agree.whole body)

end Parts

mutual

/-- A simulation relates the evaluations of every expression in contexts that
agree on the rules it applies. -/
theorem eval_related
    {sim : Simulation ι}
    {names : String → Prop}
    {left : Context}
    {right : ι → Context}
    (agree : sim.Agree names left right) :
    ∀ (expr : Expr), (∀ rule ∈ expr.references, names rule) →
    ∀ (stream : List Value) (offset position : Nat) (scope rightScope : Bindings),
      position + offset ≤ stream.length → sim.ScopesAlike scope rightScope →
        sim.Related stream offset (sim.StepsAlike stream offset (position + offset) scope)
          (eval left expr stream (position + offset) scope)
          fun index => eval (right index) expr (stream.drop offset) position rightScope
  | .any, _, stream, offset, position, scope, rightScope, inside, scopes => by
      simp only [eval]
      exact agree.leaf matchAny_looksAhead inside scopes
  | .prim value, _, stream, offset, position, scope, rightScope, inside, scopes => by
      simp only [eval]
      exact agree.leaf (matchPrim_looksAhead value) inside scopes
  | .range chars, _, stream, offset, position, scope, rightScope, inside, scopes => by
      simp only [eval]
      exact agree.leaf (matchRange_looksAhead chars) inside scopes
  | .regex literal, _, stream, offset, position, scope, rightScope, inside, scopes => by
      simp only [eval]
      exact agree.leaf (matchRegex_looksAhead literal) inside scopes
  | .app rule, applied, stream, offset, position, scope, rightScope, inside, scopes => by
      simp only [eval]
      refine sim.andThen (agree.skip inside) ?_
      rintro _ place ⟨rfl, before, within⟩
      refine sim.andThen (agree.apply (applied rule (by simp [Expr.references])) within) ?_
      rintro hit rightHit ⟨value, reaches⟩
      exact sim.done ⟨value, reaches.trans before, scopes, List.prefix_refl scope⟩
  | .inline rule body, applied, stream, offset, position, scope, rightScope, inside, scopes => by
      simp only [eval]
      refine sim.andThen (agree.apply (applied rule (by simp [Expr.references])) inside) ?_
      rintro hit rightHit ⟨value, reaches⟩
      exact sim.done ⟨value, reaches, scopes, List.prefix_refl scope⟩
  | .alt first second, applied, stream, offset, position, scope, rightScope, inside, scopes => by
      simp only [eval]
      simp only [Expr.references, List.mem_append] at applied
      refine sim.andThen (sim.attempt (eval_related agree first
        (fun rule present => applied rule (.inl present))
        stream offset position scope rightScope inside scopes)) ?_
      rintro _ _ (steps | _)
      · exact sim.done steps
      · exact eval_related agree second (fun rule present => applied rule (.inr present))
          stream offset position scope rightScope inside scopes
  | .seq items, applied, stream, offset, position, scope, rightScope, inside, scopes => by
      simp only [eval]
      simp only [Expr.references] at applied
      exact evalItems_related agree items applied stream offset position scope rightScope
        .undefined .undefined inside scopes (sim.alike_refl _)
  | .bind body name, applied, stream, offset, position, scope, rightScope, inside, scopes => by
      simp only [eval]
      simp only [Expr.references] at applied
      refine sim.andThen (eval_related agree body applied
        stream offset position scope rightScope inside scopes) ?_
      rintro step rightStep ⟨value, reaches, stepScopes, kept⟩
      exact sim.done ⟨value, reaches, List.rel_append stepScopes (.cons ⟨rfl, value⟩ .nil),
        kept.trans (List.prefix_append _ _)⟩
  | .many body min, applied, stream, offset, position, scope, rightScope, inside, scopes => by
      simp only [eval]
      simp only [Expr.references] at applied
      have rounds := repeatedly_related
        (eval_related agree body applied stream offset)
        (roundLimit stream (position + offset)) position scope rightScope [] [] inside
        (by unfold roundLimit; omega) scopes .nil
      refine sim.andThen (by simpa only [roundLimit_drop] using rounds) ?_
      rintro ⟨values, finish, loopScope⟩ ⟨rightValues, rightFinish, rightLoopScope⟩
        ⟨alike, reaches, loopScopes, kept⟩
      have counts : values.length = rightValues.length := alike.length_eq
      simp only [counts]
      split
      · exact sim.done ⟨sim.alike_list alike, reaches, loopScopes, kept⟩
      · exact sim.mismatch
  | .opt body, applied, stream, offset, position, scope, rightScope, inside, scopes => by
      simp only [eval]
      simp only [Expr.references] at applied
      refine sim.andThen (sim.attempt (eval_related agree body applied
        stream offset position scope rightScope inside scopes)) ?_
      rintro _ _ (steps | _)
      · exact sim.done steps
      · exact sim.done ⟨sim.alike_refl _, ⟨rfl, Nat.le_refl _, inside⟩, scopes,
          List.prefix_refl scope⟩
  | .not body, applied, stream, offset, position, scope, rightScope, inside, scopes => by
      simp only [eval]
      simp only [Expr.references] at applied
      refine sim.andThen (sim.attempt (eval_related agree body applied
        stream offset position scope rightScope inside scopes)) ?_
      rintro _ _ (_ | _)
      · exact sim.mismatch
      · exact sim.done ⟨sim.alike_refl _, ⟨rfl, Nat.le_refl _, inside⟩, scopes,
          List.prefix_refl scope⟩
  | .peek body, applied, stream, offset, position, scope, rightScope, inside, scopes => by
      simp only [eval]
      simp only [Expr.references] at applied
      refine sim.andThen (eval_related agree body applied
        stream offset position scope rightScope inside scopes) ?_
      rintro step rightStep ⟨value, -, stepScopes, kept⟩
      exact sim.done ⟨value, ⟨rfl, Nat.le_refl _, inside⟩, stepScopes, kept⟩
  | .str body, applied, stream, offset, position, scope, rightScope, inside, scopes => by
      simp only [eval]
      simp only [Expr.references] at applied
      refine sim.andThen (agree.skip inside) ?_
      rintro _ place ⟨rfl, before, within⟩
      simp only [List.getElem?_drop, Nat.add_comm offset place]
      cases found : stream[place + offset]? with
      | none => exact sim.mismatch
      | some value =>
          cases value with
          | str text =>
              refine sim.andThen (agree.onWhole (.chars (List.mem_of_getElem? found))
                (eval_related agree body applied (Value.chars text) 0 0 scope rightScope
                  (Nat.zero_le _) scopes)) ?_
              rintro step rightStep ⟨value, stepScopes, kept⟩
              exact sim.done ⟨value, .after before found, stepScopes, kept⟩
          | _ => exact sim.mismatch
  | .lst body, applied, stream, offset, position, scope, rightScope, inside, scopes => by
      simp only [eval]
      simp only [Expr.references] at applied
      refine sim.andThen (agree.skip inside) ?_
      rintro _ place ⟨rfl, before, within⟩
      simp only [List.getElem?_drop, Nat.add_comm offset place]
      cases found : stream[place + offset]? with
      | none => exact sim.mismatch
      | some value =>
          cases value with
          | list items =>
              refine sim.andThen (agree.onWhole (.items (List.mem_of_getElem? found))
                (eval_related agree body applied items 0 0 scope rightScope
                  (Nat.zero_le _) scopes)) ?_
              rintro step rightStep ⟨value, stepScopes, kept⟩
              exact sim.done ⟨value, .after before found, stepScopes, kept⟩
          | _ => exact sim.mismatch
  | .obj properties lenient, applied, stream, offset, position, scope, rightScope, inside,
      scopes => by
      simp only [eval]
      simp only [Expr.references] at applied
      refine sim.andThen (agree.skip inside) ?_
      rintro _ place ⟨rfl, before, within⟩
      simp only [List.getElem?_drop, Nat.add_comm offset place]
      cases found : stream[place + offset]? with
      | none => exact sim.mismatch
      | some value =>
          cases value with
          | object fields =>
              dsimp only
              split
              · refine sim.andThen (evalProperties_related agree properties applied stream
                  offset fields scope rightScope (List.mem_of_getElem? found) scopes) ?_
                rintro objectScope rightObjectScope ⟨objectScopes, kept⟩
                exact sim.done ⟨sim.alike_refl _, .after before found, objectScopes, kept⟩
              · exact sim.mismatch
          | _ => exact sim.mismatch

theorem evalItems_related
    {sim : Simulation ι}
    {names : String → Prop}
    {left : Context}
    {right : ι → Context}
    (agree : sim.Agree names left right) :
    ∀ (items : List Expr), (∀ rule ∈ Expr.itemReferences items, names rule) →
    ∀ (stream : List Value) (offset position : Nat) (scope rightScope : Bindings)
      (value rightValue : Value),
      position + offset ≤ stream.length → sim.ScopesAlike scope rightScope →
      sim.alike value rightValue →
        sim.Related stream offset (sim.StepsAlike stream offset (position + offset) scope)
          (evalItems left items stream (position + offset) scope value)
          fun index =>
            evalItems (right index) items (stream.drop offset) position rightScope rightValue
  | [], _, stream, offset, position, scope, rightScope, value, rightValue, inside, scopes,
      values => by
      simp only [evalItems]
      exact sim.done ⟨values, ⟨rfl, Nat.le_refl _, inside⟩, scopes, List.prefix_refl scope⟩
  | item :: items, applied, stream, offset, position, scope, rightScope, value, rightValue,
      inside, scopes, values => by
      simp only [evalItems]
      simp only [Expr.itemReferences, List.mem_append] at applied
      refine sim.andThen (eval_related agree item
        (fun rule present => applied rule (.inl present))
        stream offset position scope rightScope inside scopes) ?_
      rintro step rightStep ⟨stepValue, ⟨moved, before, within⟩, stepScopes, kept⟩
      rw [moved] at before within ⊢
      refine sim.weaken (fun _ _ steps => steps.trans before kept)
        (evalItems_related agree items (fun rule present => applied rule (.inr present))
          stream offset rightStep.position step.scope rightStep.scope step.value
          rightStep.value within stepScopes stepValue)

theorem evalProperties_related
    {sim : Simulation ι}
    {names : String → Prop}
    {left : Context}
    {right : ι → Context}
    (agree : sim.Agree names left right) :
    ∀ (properties : List (String × Expr)),
      (∀ rule ∈ Expr.propertyReferences properties, names rule) →
    ∀ (stream : List Value) (offset : Nat) (fields : List (String × Value))
      (scope rightScope : Bindings),
      .object fields ∈ stream → sim.ScopesAlike scope rightScope →
        sim.Related stream offset
          (fun result rightResult => sim.ScopesAlike result rightResult ∧ scope <+: result)
          (evalProperties left properties fields scope)
          fun index => evalProperties (right index) properties fields rightScope
  | [], _, stream, offset, fields, scope, rightScope, present, scopes => by
      simp only [evalProperties]
      exact sim.done ⟨scopes, List.prefix_refl scope⟩
  | (name, body) :: properties, applied, stream, offset, fields, scope, rightScope, present,
      scopes => by
      simp only [evalProperties]
      simp only [Expr.propertyReferences, List.mem_append] at applied
      cases found : fields.find? fun field => field.1 == name with
      | none => exact sim.mismatch
      | some field =>
          refine sim.andThen (agree.onWhole (.field present (List.mem_of_find?_eq_some found))
            (eval_related agree body (fun rule member => applied rule (.inl member))
              [field.2] 0 0 scope rightScope (Nat.zero_le _) scopes)) ?_
          rintro step rightStep ⟨-, stepScopes, kept⟩
          refine sim.weaken (fun _ _ results => ⟨results.1, kept.trans results.2⟩)
            (evalProperties_related agree properties
              (fun rule member => applied rule (.inr member))
              stream offset fields step.scope rightStep.scope present stepScopes)

end

end Simulation
end Matching
end Heirloom
