import Heirloom.Proofs.Building
import Heirloom.Proofs.Task
import Mathlib.Data.List.Dedup

/-!
# Composition

What a sequence of calls to a builder amounts to. A composition is a
super-grammar and a history of installations. The last body installed under a
name is its local one, and names stand in the order of their first
installation. Over them lie the rules of the super-grammar and its ancestors.
Whatever the calls and their order, a builder finds what its composition finds,
refuses the calls that its composition forbids and no others, and is finished
to a grammar with exactly the rules of its composition.
-/

namespace Heirloom

/-- The body of the nearest rule of that name. -/
def Grammar.nearestBody? : Grammar → String → Option Expr
  | ⟨_, _, rules, none⟩, name => (rules.find? fun rule => rule.name == name).map Rule.body
  | ⟨_, _, rules, some parent⟩, name =>
      match rules.find? fun rule => rule.name == name with
      | some rule => some rule.body
      | none => parent.nearestBody? name

theorem Grammar.nearestBody?_eq (grammar : Grammar) (name : String) :
    grammar.nearestBody? name = (grammar.rule? name).map Rule.body := by
  fun_induction nearestBody? grammar name with
  | case1 serial own rules name =>
      rw [rule?_eq, localRule?, Option.bind_none, Option.or_none]
  | case2 serial own rules parent name rule found =>
      rw [rule?_eq, localRule?, found, Option.some_or, Option.map_some]
  | case3 serial own rules parent name absent inductionHypothesis =>
      rw [rule?_eq, localRule?, absent, Option.none_or, Option.bind_some, inductionHypothesis]

namespace Builder

/-! ## Calls -/

/-- The calls that change a builder. -/
inductive Call
  | setName (name : String)
  | setParent (parent : Grammar)
  | beginRule (name : String)
  | define (name : String) (body : Expr)
  | override (name : String) (body : Expr)
  | extend (name : String) (body : Expr)
  | inline (body : Expr)

/-- An operation as a computation that returns nothing. -/
def changing (operation : Builder → Except Error Builder) : BuilderM (Option Expr) := do
  BuilderM.change operation
  return none

/-- A call as a computation on builders. A call for an inline rule returns the
reference to it. -/
def Call.task : Call → BuilderM (Option Expr)
  | .setName name => do
      modify fun builder => builder.setName name
      return none
  | .setParent parent => changing fun builder => builder.setParent parent
  | .beginRule name => do
      modify fun builder => builder.beginRule name
      return none
  | .define name body => changing fun builder => builder.define name body
  | .override name body => changing fun builder => builder.override name body
  | .extend name body => changing fun builder => builder.extend name body
  | .inline body => do
      return some (← BuilderM.inline body)

/-- What a call returns. -/
def outcome (builder : Builder) (call : Call) : Except Error (Option Expr) :=
  (call.task.run.run builder).1

/-- The builder after a call, whether the call fails or not. -/
def perform (builder : Builder) (call : Call) : Builder :=
  (call.task.run.run builder).2

/-- The builder after calls one after the other. -/
def performAll (builder : Builder) (calls : List Call) : Builder :=
  calls.foldl perform builder

/-- The call fails and leaves the builder as it was. -/
def Refuses (builder : Builder) (call : Call) (error : Error) : Prop :=
  builder.outcome call = .error error ∧ builder.perform call = builder

/-- The call succeeds, the body is found under the name afterwards, and nothing
changes under another name. -/
def Puts
    (builder : Builder)
    (call : Call)
    (result : Option Expr)
    (name : String)
    (body : Expr) : Prop :=
  builder.outcome call = .ok result ∧
    (builder.perform call).lookup? = Function.update builder.lookup? name (some body)

end Builder

/-! ## Compositions -/

/-- What calls to a builder add up to. -/
structure Composition where
  /-- The name set last. -/
  name : String := "Anonymous"
  /-- The super-grammar, if it has been set. -/
  parent : Option Grammar := none
  /-- All installations of bodies under names, the last one first. -/
  installed : List (String × Expr) := []

namespace Composition

open Builder (Call)

/-- The local body of a name: the one installed last. -/
def body? (composition : Composition) (name : String) : Option Expr :=
  composition.installed.lookup name

/-- The local body of a name, or else the nearest inherited one. -/
def lookup? (composition : Composition) (name : String) : Option Expr :=
  (composition.body? name).or
    (composition.parent.bind fun parent => parent.nearestBody? name)

/-- The local names in the order of their first installation. -/
def order (composition : Composition) : List String :=
  (composition.installed.map Prod.fst).dedup.reverse

/-- The composition with one more installation. -/
def install (composition : Composition) (name : String) (body : Expr) : Composition :=
  { composition with installed := (name, body) :: composition.installed }

/-- The composition after a call. Calls that are forbidden change nothing. An
inline rule goes by the name in the reference that the call returned. -/
def extended
    (composition : Composition)
    (outcome : Except Error (Option Expr)) : Call → Composition
  | .setName name => { composition with name := name }
  | .setParent parent =>
      if composition.parent.isSome then composition
      else { composition with parent := some parent }
  | .beginRule _ => composition
  | .define name body =>
      if (composition.body? name).isSome then composition
      else composition.install name body
  | .override name body =>
      if (composition.lookup? name).isSome then composition.install name body
      else composition
  | .extend name body =>
      match composition.lookup? name with
      | some existing => composition.install name (.alt existing body)
      | none => composition
  | .inline body =>
      match outcome with
      | .ok (some (.inline name _)) => composition.install name body
      | _ => composition

/-- The composition after calls to a builder one after the other. -/
def extendedBy (composition : Composition) (builder : Builder) : List Call → Composition
  | [] => composition
  | call :: calls =>
      (composition.extended (builder.outcome call) call).extendedBy (builder.perform call) calls

/-- What a call has to do to a builder with this composition. -/
def Prescribes (composition : Composition) (builder : Builder) (call : Call) : Prop :=
  match call with
  | .setName _ | .beginRule _ =>
      builder.outcome call = .ok none ∧ (builder.perform call).lookup? = builder.lookup?
  | .setParent _ =>
      if composition.parent.isSome then
        builder.Refuses call (.superGrammarAlreadySet composition.name)
      else
        builder.outcome call = .ok none
  | .define name body =>
      if (composition.body? name).isSome then
        builder.Refuses call (.duplicateRule composition.name name)
      else
        builder.Puts call none name body
  | .override name body =>
      if (composition.lookup? name).isSome then
        builder.Puts call none name body
      else
        builder.Refuses call (.undefinedRule composition.name name)
  | .extend name body =>
      match composition.lookup? name with
      | some existing => builder.Puts call none name (.alt existing body)
      | none => builder.Refuses call (.undefinedRule composition.name name)
  | .inline body =>
      ∃ name, builder.lookup? name = none ∧
        builder.Puts call (some (.inline name body)) name body

theorem body?_install
    (composition : Composition)
    (name : String)
    (body : Expr)
    (other : String) :
    (composition.install name body).body? other =
      if name = other then some body else composition.body? other := by
  unfold install body?
  rw [List.lookup_cons]
  by_cases same : name = other
  · simp [same]
  · simp [same, beq_false_of_ne (Ne.symm same)]

theorem isSome_body?_iff
    {composition : Composition}
    {name : String} :
    (composition.body? name).isSome ↔ name ∈ composition.order := by
  unfold body? order
  rw [List.mem_reverse, List.mem_dedup]
  induction composition.installed with
  | nil => simp
  | cons head tail inductionHypothesis =>
      rw [List.lookup_cons, List.map_cons, List.mem_cons, ← inductionHypothesis]
      by_cases same : name = head.1
      · simp [same]
      · simp [same, beq_false_of_ne same]

/-- A name keeps its place when it is installed again. -/
theorem order_install
    (composition : Composition)
    (name : String)
    (body : Expr) :
    (composition.install name body).order =
      if name ∈ composition.order then composition.order else composition.order ++ [name] := by
  have listed : name ∈ composition.order ↔ name ∈ composition.installed.map Prod.fst := by
    rw [order, List.mem_reverse, List.mem_dedup]
  unfold install
  split
  · next known =>
      rw [order, List.map_cons, List.dedup_cons_of_mem (listed.mp known), order]
  · next new =>
      rw [order, List.map_cons, List.dedup_cons_of_notMem (new ∘ listed.mpr), List.reverse_cons,
        order]

theorem nodup_order (composition : Composition) : composition.order.Nodup :=
  List.nodup_reverse.mpr (List.nodup_dedup _)

end Composition

/-! ## Builders over compositions -/

/-- The builder holds what the composition says. -/
structure Builder.Realizes (builder : Builder) (composition : Composition) : Prop where
  name : builder.name = composition.name
  parent : builder.parent = composition.parent
  order : builder.rules.map Rule.name = composition.order
  localRule? :
    ∀ name, builder.localRule? name = (composition.body? name).map (Rule.mk name)

namespace Builder.Realizes

variable
  {builder after : Builder}
  {composition : Composition}
  {name : String}
  {body : Expr}

theorem start : Builder.empty.Realizes {} :=
  ⟨rfl, rfl, rfl, fun _ => rfl⟩

/-- The builder finds what the composition finds. -/
theorem lookup?
    (realizes : builder.Realizes composition)
    (name : String) :
    builder.lookup? name = composition.lookup? name := by
  unfold Builder.lookup? Composition.lookup?
  rw [realizes.localRule?, realizes.parent]
  simp only [Grammar.nearestBody?_eq]
  cases composition.body? name with
  | some body => rfl
  | none => cases composition.parent <;> rfl

/-- Installing goes along with one more installation. -/
theorem installs
    (realizes : builder.Realizes composition)
    (installs : builder.Installs name body after) :
    after.Realizes (composition.install name body) where
  name := by
    rw [Builder.name, installs.givenName]
    exact realizes.name
  parent := installs.parent.trans realizes.parent
  order := by
    rw [installs.rules, map_name_installIn, realizes.order, Composition.order_install]
  localRule? other := by
    rw [installs.localRule?, Composition.body?_install, realizes.localRule?]
    split
    · next same => rw [same, Option.map_some]
    · rfl

end Builder.Realizes

/-! ## Runs of calls -/

namespace Builder

variable
  {builder after : Builder}
  {composition : Composition}
  {operation : Builder → Except Error Builder}
  {call : Call}
  {name : String}
  {body : Expr}
  {error : Error}
  {result : Option Expr}

theorem run_changing (operation : Builder → Except Error Builder) (builder : Builder) :
    (changing operation).run.run builder =
      match operation builder with
      | .ok after => (.ok none, after)
      | .error error => (.error error, builder) := by
  rw [changing, run_bind_task, BuilderM.run_change]
  cases operation builder <;> rfl

/-- A call for an inline rule always installs one and refers to it. -/
theorem run_inline (builder : Builder) (body : Expr) :
    ∃ after,
      (Call.inline body).task.run.run builder =
        (.ok (some (.inline builder.freshName body)), after) ∧
      builder.Installs builder.freshName body after := by
  obtain ⟨after, inlines, installs⟩ := builder.inline_installs body
  refine ⟨after, ?_, installs⟩
  rw [Call.task, run_bind_task, BuilderM.run_inline, inlines]
  rfl

/-- A call that fails leaves the builder as it was. -/
theorem perform_of_error
    (fails : builder.outcome call = .error error) :
    builder.perform call = builder := by
  have unchanged : ∀ operation,
      ((changing operation).run.run builder).1 = .error error →
        ((changing operation).run.run builder).2 = builder := by
    intro operation
    rw [run_changing]
    cases operation builder with
    | ok after => nofun
    | error error => exact fun _ => rfl
  cases call with
  | setName name => cases fails
  | beginRule name => cases fails
  | setParent parent => exact unchanged _ fails
  | define name body => exact unchanged _ fails
  | override name body => exact unchanged _ fails
  | extend name body => exact unchanged _ fails
  | inline body =>
      obtain ⟨after, runs, -⟩ := builder.run_inline body
      rw [outcome, runs] at fails
      cases fails

/-- A call refuses what its operation refuses. -/
theorem Refuses.of_error
    (changes : call.task = changing operation)
    (fails : operation builder = .error error) :
    builder.Refuses call error := by
  unfold Refuses outcome perform
  rw [changes, run_changing, fails]
  exact ⟨rfl, rfl⟩

/-- A refused call leaves a builder of the same composition. -/
theorem Refuses.realizes
    (refuses : builder.Refuses call error)
    (realizes : builder.Realizes composition) :
    (builder.perform call).Realizes composition :=
  refuses.2.symm ▸ realizes

/-- A call whose operation installs a body installs it in the composition. -/
theorem Realizes.puts
    (realizes : builder.Realizes composition)
    (changes : call.task = changing operation)
    (installed :
      ∃ after, operation builder = .ok after ∧ builder.Installs name body after) :
    builder.Puts call none name body ∧
      (builder.perform call).Realizes (composition.install name body) := by
  obtain ⟨after, succeeds, installs⟩ := installed
  unfold Puts outcome perform
  rw [changes, run_changing, succeeds]
  exact ⟨⟨rfl, installs.lookup?⟩, realizes.installs installs⟩

/-- One call does what the composition prescribes, and both go on together. -/
theorem Realizes.step
    (realizes : builder.Realizes composition)
    (call : Call) :
    composition.Prescribes builder call ∧
      (builder.perform call).Realizes (composition.extended (builder.outcome call) call) := by
  cases call with
  | setName name =>
      exact ⟨⟨rfl, rfl⟩, rfl, realizes.parent, realizes.order, realizes.localRule?⟩
  | beginRule name =>
      exact ⟨⟨rfl, rfl⟩, realizes.name, realizes.parent, realizes.order, realizes.localRule?⟩
  | setParent parent =>
      dsimp only [Composition.Prescribes, Composition.extended]
      cases sets : composition.parent with
      | some other =>
          have refuses : builder.Refuses (.setParent parent)
              (.superGrammarAlreadySet composition.name) := by
            refine .of_error rfl ?_
            rw [Builder.setParent, realizes.parent, sets, realizes.name]
          exact ⟨refuses, refuses.realizes realizes⟩
      | none =>
          unfold outcome perform Call.task
          rw [run_changing, Builder.setParent, realizes.parent, sets]
          exact ⟨rfl, realizes.name, rfl, realizes.order, realizes.localRule?⟩
  | define name body =>
      dsimp only [Composition.Prescribes, Composition.extended]
      have found := realizes.localRule? name
      cases known : composition.body? name with
      | some existing =>
          rw [known] at found
          have refuses : builder.Refuses (.define name body) _ :=
            .of_error rfl (define_of_local found body)
          exact ⟨realizes.name ▸ refuses, refuses.realizes realizes⟩
      | none =>
          rw [known] at found
          exact realizes.puts rfl (define_of_absent found body)
  | override name body =>
      dsimp only [Composition.Prescribes, Composition.extended]
      have found := realizes.lookup? name
      cases known : composition.lookup? name with
      | some existing => exact realizes.puts rfl (override_of_found (found.trans known) body)
      | none =>
          have refuses : builder.Refuses (.override name body) _ :=
            .of_error rfl (override_of_absent (found.trans known) body)
          exact ⟨realizes.name ▸ refuses, refuses.realizes realizes⟩
  | extend name body =>
      dsimp only [Composition.Prescribes, Composition.extended]
      have found := realizes.lookup? name
      cases known : composition.lookup? name with
      | some existing => exact realizes.puts rfl (extend_of_found (found.trans known) body)
      | none =>
          have refuses : builder.Refuses (.extend name body) _ :=
            .of_error rfl (extend_of_absent (found.trans known) body)
          exact ⟨realizes.name ▸ refuses, refuses.realizes realizes⟩
  | inline body =>
      obtain ⟨after, runs, installs⟩ := builder.run_inline body
      unfold Composition.Prescribes Composition.extended Puts outcome perform
      rw [runs]
      exact ⟨⟨_, builder.lookup?_freshName, rfl, installs.lookup?⟩, realizes.installs installs⟩

/-- Calls one after the other keep builder and composition together. -/
theorem Realizes.run
    (realizes : builder.Realizes composition)
    (calls : List Call) :
    (builder.performAll calls).Realizes (composition.extendedBy builder calls) := by
  induction calls generalizing builder composition with
  | nil => exact realizes
  | cons call calls inductionHypothesis => exact inductionHypothesis (realizes.step call).2

/-- Builders implement composition. After any calls, in any order, a builder
finds what the composition of the calls finds, does with one more call what the
composition prescribes, and is finished to the grammar whose rules are those of
the composition, each under a name of its own. -/
theorem implements_composition (calls : List Call) (serial : Nat) :
    let builder := Builder.empty.performAll calls
    let composition := Composition.extendedBy {} Builder.empty calls
    let grammar := builder.build serial
    (∀ name, builder.lookup? name = composition.lookup? name) ∧
      (∀ call, composition.Prescribes builder call) ∧
      (∀ call error, builder.outcome call = .error error → builder.perform call = builder) ∧
      grammar.name = composition.name ∧
      grammar.parent = composition.parent ∧
      grammar.rules.map Rule.name = composition.order ∧
      composition.order.Nodup ∧
      (∀ name, grammar.localRule? name = (composition.body? name).map (Rule.mk name)) ∧
      (∀ name, grammar.rule? name = (composition.lookup? name).map (Rule.mk name)) ∧
      (∀ name, (grammar.rule? name).map Rule.isSyntactic =
        (composition.lookup? name).map fun _ => isSyntacticName name) := by
  intro builder composition grammar
  have realizes : builder.Realizes composition := Realizes.start.run calls
  have found : ∀ name, grammar.rule? name = (composition.lookup? name).map (Rule.mk name) := by
    intro name
    rw [← realizes.lookup?, lookup?_eq _ _ serial, Option.map_map]
    cases visible : grammar.rule? name with
    | none => rfl
    | some rule =>
        rw [Option.map_some, ← Grammar.name_of_rule? visible]
        rfl
  refine ⟨realizes.lookup?, fun call => (realizes.step call).1, fun _ _ => perform_of_error,
    realizes.name, realizes.parent, realizes.order, composition.nodup_order,
    realizes.localRule?, found, ?_⟩
  intro name
  rw [found, Option.map_map]
  rfl

end Builder
end Heirloom
