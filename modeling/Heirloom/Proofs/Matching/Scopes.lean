import Heirloom.Matching.Matcher
import Heirloom.Proofs.Matching.Report
import Heirloom.Proofs.Validation

/-!
# Scopes

What an evaluation binds can be told from the expression alone. The names that one
evaluation may bind, in order, form a relation, which lets each alternative be taken, each
option be left out and each repetition go on for any number of rounds. Whatever a match
adds to its scope is bound in this order, whichever branches were tried before. So the
static names of an expression cover its scope, and a rule gives its action no other names.
-/

namespace Heirloom
namespace Expr

/-! ## Names bound by one evaluation -/

/-- One evaluation of the expression may bind these names in this order. -/
inductive Binds : Expr → List String → Prop
  | prim {value : Value} : Binds (.prim value) []
  | app {rule : String} : Binds (.app rule) []
  | inline {rule : String} {body : Expr} : Binds (.inline rule body) []
  | not {body : Expr} : Binds (.not body) []
  | any : Binds .any []
  | range {chars : CharRange} : Binds (.range chars) []
  | regex {literal : Regex.Literal} : Binds (.regex literal) []
  | left {left right : Expr} {names : List String}
      (first : Binds left names) :
      Binds (.alt left right) names
  | right {left right : Expr} {names : List String}
      (second : Binds right names) :
      Binds (.alt left right) names
  | noItems : Binds (.seq []) []
  | items {item : Expr} {items : List Expr} {names others : List String}
      (head : Binds item names)
      (tail : Binds (.seq items) others) :
      Binds (.seq (item :: items)) (names ++ others)
  | bind {body : Expr} {name : String} {names : List String}
      (inside : Binds body names) :
      Binds (.bind body name) (names ++ [name])
  | noRounds {body : Expr} {min : Nat} : Binds (.many body min) []
  | rounds {body : Expr} {min : Nat} {names others : List String}
      (round : Binds body names)
      (rest : Binds (.many body min) others) :
      Binds (.many body min) (names ++ others)
  | absent {body : Expr} : Binds (.opt body) []
  | present {body : Expr} {names : List String}
      (inside : Binds body names) :
      Binds (.opt body) names
  | peek {body : Expr} {names : List String}
      (inside : Binds body names) :
      Binds (.peek body) names
  | str {body : Expr} {names : List String}
      (inside : Binds body names) :
      Binds (.str body) names
  | lst {body : Expr} {names : List String}
      (inside : Binds body names) :
      Binds (.lst body) names
  | noProperties {lenient : Bool} : Binds (.obj [] lenient) []
  | properties {key : String} {body : Expr} {properties : List (String × Expr)} {lenient : Bool}
      {names others : List String}
      (head : Binds body names)
      (tail : Binds (.obj properties lenient) others) :
      Binds (.obj ((key, body) :: properties) lenient) (names ++ others)

mutual

/-- Whether nothing is repeated in the scope of the expression. -/
def isUnrepeated : Expr → Bool
  | many _ _ => false
  | alt left right => isUnrepeated left && isUnrepeated right
  | seq items => areUnrepeated items
  | bind body _ => isUnrepeated body
  | opt body => isUnrepeated body
  | peek body => isUnrepeated body
  | str body => isUnrepeated body
  | lst body => isUnrepeated body
  | obj properties _ => propertiesAreUnrepeated properties
  | _ => true

/-- Whether nothing is repeated in the scope of expressions. -/
def areUnrepeated : List Expr → Bool
  | [] => true
  | item :: items => isUnrepeated item && areUnrepeated items

/-- Whether nothing is repeated in the scope of the patterns of properties. -/
def propertiesAreUnrepeated : List (String × Expr) → Bool
  | [] => true
  | (_, body) :: properties => isUnrepeated body && propertiesAreUnrepeated properties

end

namespace Binds

variable
  {expr : Expr}
  {names : List String}

/-- Every name that is bound is one of the names of the expression. -/
theorem subset_bindings
    (binds : expr.Binds names) :
    names ⊆ expr.bindings := by
  induction binds with
  | prim | app | inline | not | any | range | regex | noItems | noRounds | absent
  | noProperties => exact List.nil_subset _
  | left _ inside =>
      rw [bindings]
      exact List.subset_append_of_subset_left _ inside
  | right _ inside =>
      rw [bindings]
      exact List.subset_append_of_subset_right _ inside
  | items _ _ head tail =>
      rw [bindings, itemBindings]
      exact List.append_subset.mpr ⟨List.subset_append_of_subset_left _ head,
        List.subset_append_of_subset_right _ tail⟩
  | bind _ inside =>
      rw [bindings]
      exact List.append_subset.mpr ⟨List.subset_append_of_subset_left _ inside,
        List.subset_append_right _ _⟩
  | rounds _ _ round rest => exact List.append_subset.mpr ⟨round, rest⟩
  | present _ inside | peek _ inside | str _ inside | lst _ inside => exact inside
  | properties _ _ head tail =>
      rw [bindings, propertyBindings]
      exact List.append_subset.mpr ⟨List.subset_append_of_subset_left _ head,
        List.subset_append_of_subset_right _ tail⟩

/-- Without repetitions, names are bound in the order of the expression. -/
theorem sublist_bindings
    (binds : expr.Binds names)
    (unrepeated : expr.isUnrepeated = true) :
    names.Sublist expr.bindings := by
  induction binds with
  | prim | app | inline | not | any | range | regex | noItems | absent
  | noProperties => exact List.nil_sublist _
  | left _ inside =>
      rw [isUnrepeated, Bool.and_eq_true] at unrepeated
      rw [bindings]
      exact (inside unrepeated.1).trans (List.sublist_append_left _ _)
  | right _ inside =>
      rw [isUnrepeated, Bool.and_eq_true] at unrepeated
      rw [bindings]
      exact (inside unrepeated.2).trans (List.sublist_append_right _ _)
  | items _ _ head tail =>
      rw [isUnrepeated, areUnrepeated, Bool.and_eq_true] at unrepeated
      rw [bindings, itemBindings]
      exact (head unrepeated.1).append (tail unrepeated.2)
  | bind _ inside =>
      rw [isUnrepeated] at unrepeated
      rw [bindings]
      exact (inside unrepeated).append (List.Sublist.refl _)
  | noRounds | rounds => cases unrepeated
  | present _ inside | peek _ inside | str _ inside | lst _ inside => exact inside unrepeated
  | properties _ _ head tail =>
      rw [isUnrepeated, propertiesAreUnrepeated, Bool.and_eq_true] at unrepeated
      rw [bindings, propertyBindings]
      exact (head unrepeated.1).append (tail unrepeated.2)

end Binds
end Expr

/-! ## What runs ensure -/

namespace Matching

theorem actionCallsOf_append (actions : Actions) (events others : List Event) :
    actionCallsOf actions (events ++ others) =
      actionCallsOf actions events ++ actionCallsOf actions others := by
  induction events with
  | nil => rw [List.nil_append, actionCallsOf, List.nil_append]
  | cons event events inductionHypothesis =>
      rw [List.cons_append, actionCallsOf, actionCallsOf, inductionHypothesis, List.append_assoc]

theorem actionCallsOf_singleton (actions : Actions) (event : Event) :
    actionCallsOf actions [event] = event.actionCalls actions := by
  rw [actionCallsOf, actionCallsOf, List.append_nil]

/-- The results of a run are good and the action calls on the way are allowed, whatever is
known when it starts. -/
structure Run.Ensures
    (actions : Actions)
    (allowed : ActionCall → Prop)
    (good : α → Prop)
    (run : Run α) : Prop where
  results : ∀ memo result, (run memo).outcome = .matched result → good result
  calls : ∀ memo, ∀ call ∈ actionCallsOf actions (run memo).events, allowed call

namespace Run.Ensures

variable
  {actions : Actions}
  {allowed : ActionCall → Prop}
  {good : α → Prop}
  {better : β → Prop}
  {run : Run α}

theorem mono
    {weaker : α → Prop}
    (ensures : Ensures actions allowed good run)
    (implies : ∀ result, good result → weaker result) :
    Ensures actions allowed weaker run :=
  ⟨fun memo result ends => implies result (ensures.results memo result ends), ensures.calls⟩

/-- A run on which nothing happens. -/
theorem of_still
    (results : ∀ memo result, (run memo).outcome = .matched result → good result)
    (still : ∀ memo, (run memo).events = []) :
    Ensures actions allowed good run := by
  refine ⟨results, fun memo call mem => ?_⟩
  rw [still, actionCallsOf] at mem
  cases mem

protected theorem pure
    {result : α}
    (isGood : good result) :
    Ensures actions allowed good (pure result : Run α) :=
  of_still (by rintro memo _ ⟨⟩; exact isGood) fun _ => rfl

theorem mismatch : Ensures actions allowed good (Run.mismatch : Run α) :=
  of_still nofun fun _ => rfl

theorem fail (fault : Fault) : Ensures actions allowed good (Run.fail fault : Run α) :=
  of_still nofun fun _ => rfl

theorem ofOption
    {answer : Option α}
    (isGood : ∀ result, answer = some result → good result) :
    Ensures actions allowed good (Run.ofOption answer) := by
  cases answer with
  | none => exact mismatch
  | some result => exact .pure (isGood result rfl)

theorem consult (rule : String) (position : Nat) :
    Ensures actions allowed (fun _ => True) (Run.consult rule position) :=
  of_still (fun _ _ _ => trivial) fun _ => rfl

theorem remember (rule : String) (position : Nat) (entry : Entry) :
    Ensures actions allowed (fun _ => True) (Run.remember rule position entry) :=
  of_still (fun _ _ _ => trivial) fun _ => rfl

theorem tell
    {event : Event}
    (isAllowed : ∀ call ∈ event.actionCalls actions, allowed call) :
    Ensures actions allowed (fun _ => True) (Run.tell event) := by
  refine ⟨fun _ _ _ => trivial, fun memo call mem => isAllowed call ?_⟩
  rwa [← actionCallsOf_singleton]

theorem tell_quiet
    {event : Event}
    (quiet : event.actionCalls actions = []) :
    Ensures actions allowed (fun _ => True) (Run.tell event) := by
  refine tell fun call mem => ?_
  rw [quiet] at mem
  cases mem

/-- What follows needs to be looked at only for the results of what comes first. -/
protected theorem bind
    {next : α → Run β}
    (first : Ensures actions allowed good run)
    (rest : ∀ result, good result → Ensures actions allowed better (next result)) :
    Ensures actions allowed better (run >>= next) := by
  constructor
  · intro memo result ends
    cases outcome : (run memo).outcome with
    | matched value =>
        rw [bind_of_matched outcome] at ends
        exact (rest value (first.results memo value outcome)).results _ result ends
    | mismatch =>
        rw [bind_of_mismatch outcome] at ends
        cases ends
    | fault fault =>
        rw [bind_of_fault outcome] at ends
        cases ends
  · intro memo call mem
    cases outcome : (run memo).outcome with
    | matched value =>
        rw [bind_of_matched outcome, Report.events, Journal.entries_append, actionCallsOf_append,
          List.mem_append] at mem
        rcases mem with mem | mem
        · exact first.calls memo call mem
        · exact (rest value (first.results memo value outcome)).calls _ call mem
    | mismatch =>
        rw [bind_of_mismatch outcome] at mem
        exact first.calls memo call mem
    | fault fault =>
        rw [bind_of_fault outcome] at mem
        exact first.calls memo call mem

protected theorem attempt
    (ensures : Ensures actions allowed good run) :
    Ensures actions allowed (fun answer => ∀ result, answer = some result → good result)
      run.attempt := by
  constructor
  · intro memo answer ends
    cases outcome : (run memo).outcome with
    | matched value =>
        rw [attempt_of_matched outcome] at ends
        cases ends
        rintro _ ⟨⟩
        exact ensures.results memo value outcome
    | mismatch =>
        rw [attempt_of_mismatch outcome] at ends
        cases ends
        exact nofun
    | fault fault =>
        rw [attempt_of_fault outcome] at ends
        cases ends
  · intro memo call mem
    rw [events_attempt] at mem
    exact ensures.calls memo call mem

protected theorem within
    (ensures : Ensures actions allowed good run) :
    Ensures actions allowed good (Run.within run) := by
  refine ⟨fun _ result ends => ensures.results Memo.empty result ends, fun memo call mem => ?_⟩
  refine ensures.calls Memo.empty call ?_
  have nested : (Run.within run memo).events = [.nested (run Memo.empty).events] := rfl
  rwa [nested, actionCallsOf_singleton, Event.actionCalls] at mem

end Run.Ensures

/-! ## Evaluations -/

/-- The scope has grown by bindings of these names. -/
def Adds (scope : Bindings) (names : List String → Prop) (after : Bindings) : Prop :=
  ∃ added, after = scope ++ added ∧ names (added.map Prod.fst)

namespace Adds

variable
  {scope middle after : Bindings}
  {names others : List String → Prop}

theorem nothing
    (none : names []) :
    Adds scope names scope :=
  ⟨[], (List.append_nil scope).symm, none⟩

theorem mono
    {more : List String → Prop}
    (adds : Adds scope names after)
    (implies : ∀ bound, names bound → more bound) :
    Adds scope more after := by
  obtain ⟨added, grown, bound⟩ := adds
  exact ⟨added, grown, implies _ bound⟩

/-- What one evaluation adds and what the next one adds to that. -/
theorem append
    {both : List String → Prop}
    (adds : Adds scope names middle)
    (addsMore : Adds middle others after)
    (implies : ∀ bound more, names bound → others more → both (bound ++ more)) :
    Adds scope both after := by
  obtain ⟨added, rfl, bound⟩ := adds
  obtain ⟨more, rfl, boundMore⟩ := addsMore
  refine ⟨added ++ more, List.append_assoc .., ?_⟩
  rw [List.map_append]
  exact implies _ _ bound boundMore

theorem bind
    {both : List String → Prop}
    (adds : Adds scope names after)
    (name : String)
    (value : Value)
    (implies : ∀ bound, names bound → both (bound ++ [name])) :
    Adds scope both (after ++ [(name, value)]) := by
  have one : Adds after (· = [name]) (after ++ [(name, value)]) := ⟨[(name, value)], rfl, rfl⟩
  refine adds.append one ?_
  rintro bound _ isBound rfl
  exact implies bound isBound

end Adds

section Evaluation

variable
  {actions : Actions}
  {allowed : ActionCall → Prop}
  {context : Context}
  {stream : List Value}
  {position : Nat}
  {scope : Bindings}

/-- The action calls of the applications in the context are allowed. -/
def Context.Allows
    (actions : Actions)
    (allowed : ActionCall → Prop)
    (context : Context) : Prop :=
  ∀ stream rule position,
    Run.Ensures actions allowed (fun _ => True) (context.apply stream rule position)

theorem Context.Allows.skip
    (allows : context.Allows actions allowed) :
    Run.Ensures actions allowed (fun _ => True) (context.skip stream position) := by
  unfold Context.skip
  split
  · exact .pure trivial
  · next rule _ =>
      refine (allows stream rule position).attempt.bind fun answer _ => ?_
      split <;> exact .pure trivial

theorem Context.Allows.leaf
    {expr : Expr}
    (allows : context.Allows actions allowed)
    (none : expr.Binds [])
    (matcher : List Value → Nat → Option Hit) :
    Run.Ensures actions allowed (fun step => Adds scope expr.Binds step.scope)
      (context.leaf matcher stream position scope) := by
  unfold Context.leaf
  refine allows.skip.bind fun position _ => ?_
  refine Run.Ensures.bind (.ofOption fun _ _ => trivial) fun hit _ => ?_
  exact .pure (.nothing none)

theorem Context.Allows.onWhole
    {names : List String → Prop}
    {body : List Value → Nat → Bindings → Run Step}
    (allows : context.Allows actions allowed)
    (ensures : Run.Ensures actions allowed (fun step => Adds scope names step.scope)
      (body stream 0 scope)) :
    Run.Ensures actions allowed (fun step => Adds scope names step.scope)
      (context.onWhole body stream scope) := by
  unfold Context.onWhole
  refine Run.Ensures.within (ensures.bind fun step adds => allows.skip.bind fun finish _ => ?_)
  split
  · exact .pure adds
  · exact .mismatch

/-- However many rounds there are, each adds what the body binds. -/
theorem repeatedly_ensures
    {body : Expr}
    {evaluate : Nat → Bindings → Run Step}
    (min : Nat)
    (ensures : ∀ position scope,
      Run.Ensures actions allowed (fun step => Adds scope body.Binds step.scope)
        (evaluate position scope))
    (rounds : Nat)
    (position : Nat)
    (scope : Bindings)
    (values : List Value) :
    Run.Ensures actions allowed (fun last => Adds scope (Expr.many body min).Binds last.2.2)
      (repeatedly evaluate rounds position scope values) := by
  induction rounds generalizing position scope values with
  | zero => exact .fail _
  | succ rounds inductionHypothesis =>
      rw [repeatedly]
      refine (ensures position scope).attempt.bind fun answer adds => ?_
      cases answer with
      | none => exact .pure (.nothing .noRounds)
      | some step =>
          have round := adds step rfl
          dsimp only
          split
          · refine .pure (round.mono fun bound isBound => ?_)
            rw [← List.append_nil bound]
            exact .rounds isBound .noRounds
          · exact (inductionHypothesis ..).mono fun last rest =>
              round.append rest fun _ _ => .rounds

mutual

/-- A match adds to its scope what the expression binds, and the action calls of an
evaluation are those of the applications in it. -/
theorem eval_ensures
    (allows : context.Allows actions allowed) :
    ∀ (expr : Expr) (stream : List Value) (position : Nat) (scope : Bindings),
      Run.Ensures actions allowed (fun step => Adds scope expr.Binds step.scope)
        (eval context expr stream position scope)
  | .any, _, _, _ => by
      rw [eval]
      exact allows.leaf .any _
  | .prim value, _, _, _ => by
      rw [eval]
      exact allows.leaf .prim _
  | .range chars, _, _, _ => by
      rw [eval]
      exact allows.leaf .range _
  | .regex literal, _, _, _ => by
      rw [eval]
      exact allows.leaf .regex _
  | .app rule, stream, position, scope => by
      rw [eval]
      exact allows.skip.bind fun place _ => (allows stream rule place).bind fun hit _ =>
        .pure (.nothing .app)
  | .inline rule _, stream, position, scope => by
      rw [eval]
      exact (allows stream rule position).bind fun hit _ => .pure (.nothing .inline)
  | .alt left right, stream, position, scope => by
      rw [eval]
      refine (eval_ensures allows left stream position scope).attempt.bind fun answer adds => ?_
      cases answer with
      | some step => exact .pure ((adds step rfl).mono fun _ => .left)
      | none =>
          exact (eval_ensures allows right stream position scope).mono fun step adds =>
            adds.mono fun _ => .right
  | .seq items, stream, position, scope => by
      rw [eval]
      exact evalItems_ensures allows items stream position scope _
  | .bind body name, stream, position, scope => by
      rw [eval]
      exact (eval_ensures allows body stream position scope).bind fun step adds =>
        .pure (adds.bind name step.value fun _ => .bind)
  | .many body min, stream, position, scope => by
      rw [eval]
      refine (repeatedly_ensures min (eval_ensures allows body stream) _ position scope []).bind
        fun ⟨values, finish, after⟩ adds => ?_
      dsimp only
      split
      · exact .pure adds
      · exact .mismatch
  | .opt body, stream, position, scope => by
      rw [eval]
      refine (eval_ensures allows body stream position scope).attempt.bind fun answer adds => ?_
      cases answer with
      | some step => exact .pure ((adds step rfl).mono fun _ => .present)
      | none => exact .pure (.nothing .absent)
  | .not body, stream, position, scope => by
      rw [eval]
      refine (eval_ensures allows body stream position scope).attempt.bind fun answer _ => ?_
      cases answer with
      | some step => exact .mismatch
      | none => exact .pure (.nothing .not)
  | .peek body, stream, position, scope => by
      rw [eval]
      exact (eval_ensures allows body stream position scope).bind fun step adds =>
        .pure (adds.mono fun _ => .peek)
  | .str body, stream, position, scope => by
      rw [eval]
      refine allows.skip.bind fun place _ => ?_
      split
      · next text _ =>
          exact (allows.onWhole (eval_ensures allows body (Value.chars text) 0 scope)).bind
            fun step adds => .pure (adds.mono fun _ => .str)
      · exact .mismatch
  | .lst body, stream, position, scope => by
      rw [eval]
      refine allows.skip.bind fun place _ => ?_
      split
      · next items _ =>
          exact (allows.onWhole (eval_ensures allows body items 0 scope)).bind
            fun step adds => .pure (adds.mono fun _ => .lst)
      · exact .mismatch
  | .obj properties lenient, stream, position, scope => by
      rw [eval]
      refine allows.skip.bind fun place _ => ?_
      split
      · next fields _ =>
          split
          · exact (evalProperties_ensures allows properties lenient fields scope).bind
              fun after adds => .pure adds
          · exact .mismatch
      · exact .mismatch

theorem evalItems_ensures
    (allows : context.Allows actions allowed) :
    ∀ (items : List Expr) (stream : List Value) (position : Nat) (scope : Bindings)
      (value : Value),
      Run.Ensures actions allowed (fun step => Adds scope (Expr.seq items).Binds step.scope)
        (evalItems context items stream position scope value)
  | [], _, _, _, _ => by
      rw [evalItems]
      exact .pure (.nothing .noItems)
  | item :: items, stream, position, scope, _ => by
      rw [evalItems]
      exact (eval_ensures allows item stream position scope).bind fun step head =>
        (evalItems_ensures allows items stream step.position step.scope step.value).mono
          fun last tail => head.append tail fun _ _ => .items

theorem evalProperties_ensures
    (allows : context.Allows actions allowed) :
    ∀ (properties : List (String × Expr)) (lenient : Bool) (fields : List (String × Value))
      (scope : Bindings),
      Run.Ensures actions allowed (Adds scope (Expr.obj properties lenient).Binds)
        (evalProperties context properties fields scope)
  | [], _, _, _ => by
      rw [evalProperties]
      exact .pure (.nothing .noProperties)
  | (key, body) :: properties, lenient, fields, scope => by
      rw [evalProperties]
      split
      · next value _ =>
          exact (allows.onWhole (eval_ensures allows body [value] 0 scope)).bind fun step head =>
            (evalProperties_ensures allows properties lenient fields step.scope).mono
              fun after tail => head.append tail fun _ _ => .properties
      · exact .mismatch

end

end Evaluation

/-- Whatever is applied in it, an evaluation that matches adds bindings of the names that
one evaluation may bind. -/
theorem eval_binds
    {context : Context}
    {expr : Expr}
    {stream : List Value}
    {position : Nat}
    {scope : Bindings}
    {memo : Memo}
    {step : Step}
    (matched : (eval context expr stream position scope memo).outcome = .matched step) :
    ∃ added, step.scope = scope ++ added ∧ expr.Binds (added.map Prod.fst) := by
  have allows : context.Allows Actions.none fun _ => True :=
    fun _ _ _ => ⟨fun _ _ _ => trivial, fun _ _ _ => trivial⟩
  exact (eval_ensures allows expr stream position scope).results memo step matched

end Matching

open Matching

namespace Matcher

/-! ## Applications -/

/-- The action is called for a rule that is found, with bindings of its names only. -/
def Covers (grammar : Grammar) (call : ActionCall) : Prop :=
  ∃ rule, grammar.rule? call.rule = some rule ∧
    ∀ binding ∈ call.bindings, binding.1 ∈ rule.body.bindings

variable
  {matcher : Matcher}
  {actions : Actions}
  {apply : Applier}
  {rule : Rule}

/-- The action calls of some applications are for rules that are found, with bindings of
their names only. -/
def CallsCovered (matcher : Matcher) (apply : Applier) : Prop :=
  ∀ stream name position, Run.Ensures matcher.actions (Covers matcher.grammar) (fun _ => True)
    (apply stream name position)

theorem invoke_covered
    (covered : matcher.CallsCovered apply)
    (found : matcher.grammar.rule? rule.name = some rule)
    (stream : List Value)
    (position : Nat) :
    Run.Ensures matcher.actions (Covers matcher.grammar) (fun _ => True)
      (matcher.invoke apply rule stream position) := by
  have allows : (matcher.contextFor apply rule).Allows matcher.actions (Covers matcher.grammar) :=
    covered
  unfold invoke
  refine Run.Ensures.bind (.tell_quiet rfl) fun _ _ =>
    (eval_ensures allows rule.body stream position []).attempt.bind fun answer adds => ?_
  cases answer with
  | none => exact Run.Ensures.bind (.tell_quiet rfl) fun _ _ => .mismatch
  | some step =>
      obtain ⟨added, same, binds⟩ := adds step rfl
      refine Run.Ensures.bind (.tell fun call mem => ?_) fun _ _ => .pure trivial
      rw [Event.actionCalls] at mem
      split at mem
      · obtain rfl := List.mem_singleton.mp mem
        refine ⟨rule, found, fun binding bound => binds.subset_bindings ?_⟩
        rw [same, List.nil_append] at bound
        exact List.mem_map_of_mem bound
      · cases mem

theorem grow_covered
    (covered : matcher.CallsCovered apply)
    (found : matcher.grammar.rule? rule.name = some rule)
    (stream : List Value)
    (position : Nat)
    (rounds : Nat)
    (best : Hit) :
    Run.Ensures matcher.actions (Covers matcher.grammar) (fun _ => True)
      (matcher.grow apply rule stream position rounds best) := by
  induction rounds generalizing best with
  | zero => exact .fail _
  | succ rounds inductionHypothesis =>
      rw [grow]
      refine Run.Ensures.bind (.remember _ _ _) fun _ _ =>
        (invoke_covered covered found stream position).attempt.bind fun answer _ => ?_
      cases answer with
      | none => exact .pure trivial
      | some hit =>
          dsimp only
          split
          · exact inductionHypothesis hit
          · exact .pure trivial

theorem evaluate_covered
    (covered : matcher.CallsCovered apply)
    (found : matcher.grammar.rule? rule.name = some rule)
    (stream : List Value)
    (position : Nat) :
    Run.Ensures matcher.actions (Covers matcher.grammar) (fun _ => True)
      (matcher.evaluate apply rule stream position) := by
  unfold evaluate
  refine Run.Ensures.bind (.remember _ _ _) fun _ _ =>
    (invoke_covered covered found stream position).attempt.bind fun first _ =>
      Run.Ensures.bind (.consult _ _) fun entry _ => ?_
  have notes : ∀ given : Option Hit,
      Run.Ensures matcher.actions (Covers matcher.grammar) (fun _ => True) (do
        let result ← pure given
        Run.remember rule.name position (.done result)
        return result) := by
    intro given
    have nothing : Run.Ensures matcher.actions (Covers matcher.grammar) (fun _ => True)
        (pure given) := .pure trivial
    exact nothing.bind fun result _ => Run.Ensures.bind (.remember _ _ _) fun _ _ => .pure trivial
  dsimp only
  split
  · exact (grow_covered covered found stream position _ _).bind fun best _ => notes (some best)
  · exact notes _

theorem applyWith_covered
    (covered : matcher.CallsCovered apply) :
    matcher.CallsCovered (matcher.applyWith apply) := by
  intro stream name position
  unfold applyWith
  split
  · exact .fail _
  · next rule found =>
      obtain rfl := Grammar.name_of_rule? found
      refine Run.Ensures.bind (.consult _ _) fun entry _ => ?_
      split
      · exact Run.Ensures.bind (.remember _ _ _) fun _ _ =>
          Run.Ensures.bind (.tell_quiet rfl) fun _ _ => .mismatch
      · exact Run.Ensures.bind (.tell_quiet rfl) fun _ _ =>
          .ofOption fun _ _ => trivial
      · exact (evaluate_covered covered found stream position).bind fun _ _ =>
          Run.Ensures.bind (.tell_quiet rfl) fun _ _ =>
            .ofOption fun _ _ => trivial

theorem applyWithin_covered (matcher : Matcher) (depth : Nat) :
    matcher.CallsCovered (matcher.applyWithin depth) := by
  induction depth with
  | zero => exact fun _ _ _ => .fail _
  | succ depth inductionHypothesis => exact applyWith_covered inductionHypothesis

theorem runWith_covered
    (covered : matcher.CallsCovered apply)
    (stream : List Value)
    (name : String) :
    Run.Ensures matcher.actions (Covers matcher.grammar) (fun _ => True)
      (matcher.runWith apply stream name) := by
  unfold runWith
  split
  · exact .fail _
  · next rule _ =>
      have allows :
          (matcher.contextFor apply rule).Allows matcher.actions (Covers matcher.grammar) :=
        covered
      refine allows.skip.bind fun start _ => (covered stream name start).bind fun hit _ =>
        allows.skip.bind fun finish _ => ?_
      split
      · exact .pure trivial
      · exact .mismatch

/-- The names of an expression cover whatever a match of it adds to the scope, in the same
order if nothing is repeated. So every action is called for a rule that is found, with
bindings of names of its body only. -/
theorem static_bindings_cover_scopes
    (matcher : Matcher) :
    (∀ (context : Context) (expr : Expr) (stream : List Value) (position : Nat)
        (scope : Bindings) (memo : Memo) (step : Step),
      (eval context expr stream position scope memo).outcome = .matched step →
        ∃ added, step.scope = scope ++ added ∧
          (∀ binding ∈ added, binding.1 ∈ expr.bindings) ∧
          (expr.isUnrepeated = true → (added.map Prod.fst).Sublist expr.bindings)) ∧
    ∀ (stream : List Value) (name : String),
      ∀ call ∈ actionCallsOf matcher.actions (matcher.run stream name).events,
        ∃ rule, matcher.grammar.rule? call.rule = some rule ∧
          ∀ binding ∈ call.bindings, binding.1 ∈ rule.body.bindings := by
  refine ⟨fun context expr stream position scope memo step matched => ?_,
    fun stream name call mem => ?_⟩
  · obtain ⟨added, grown, binds⟩ := eval_binds matched
    exact ⟨added, grown, fun binding bound => binds.subset_bindings (List.mem_map_of_mem bound),
      binds.sublist_bindings⟩
  · exact (runWith_covered (applyWithin_covered matcher _) stream name).calls Memo.empty call mem

/-- A pair with an optional second half binds both names, in order, and hands them to its
action. -/
theorem pair_scope_is_covered :
    let body := Expr.seq [.bind .any "first", .opt (.bind .any "second")]
    let matcher : Matcher :=
      { grammar := ⟨0, "Pairs", [⟨"pair", body⟩], none⟩,
        actions := Actions.none.on "pair" fun _ value => value }
    (∃ step,
      (eval (matcher.contextFor (matcher.applyWithin 0) ⟨"pair", body⟩) body (Value.chars "ab") 0
        [] Memo.empty).outcome = .matched step ∧
      ∃ added, step.scope = [] ++ added ∧ (added.map Prod.fst).Sublist body.bindings) ∧
    ∃ call ∈ actionCallsOf matcher.actions (matcher.run (Value.chars "ab") "pair").events,
      call.bindings = [("first", .char 'a'), ("second", .char 'b')] ∧
      ∃ rule, matcher.grammar.rule? call.rule = some rule ∧
        ∀ binding ∈ call.bindings, binding.1 ∈ rule.body.bindings := by
  intro body matcher
  obtain ⟨covers, calls⟩ := static_bindings_cover_scopes matcher
  constructor
  · have works :
        (match (eval (matcher.contextFor (matcher.applyWithin 0) ⟨"pair", body⟩) body
            (Value.chars "ab") 0 [] Memo.empty).outcome with
          | .matched _ => true
          | _ => false) = true := by decide +kernel
    split at works
    · next step matched =>
        obtain ⟨added, grown, -, ordered⟩ := covers _ _ _ _ _ _ step matched
        exact ⟨step, matched, added, grown, ordered rfl⟩
    · cases works
  · have called :
        ⟨"pair", [("first", .char 'a'), ("second", .char 'b')], .char 'b'⟩ ∈
          actionCallsOf matcher.actions (matcher.run (Value.chars "ab") "pair").events := by
      decide +kernel
    exact ⟨_, called, rfl, calls (Value.chars "ab") "pair" _ called⟩

end Matcher
end Heirloom
