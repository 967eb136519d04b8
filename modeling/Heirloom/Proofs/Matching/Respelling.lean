import Heirloom.Proofs.Matching.Renamed
import Heirloom.Proofs.Matching.Termination

/-!
# Rules by other names

Where nothing is skipped, a rule is no more than its body and its action: a grammar whose
rules go by other names, each by one of its own, matches what the grammar matches. Only the
faults show the names.
-/

namespace Heirloom
namespace Expr

mutual

/-- Apply rules by other names. -/
def respell (names : String → String) : Expr → Expr
  | prim value => prim value
  | app rule => app (names rule)
  | alt left right => alt (respell names left) (respell names right)
  | seq items => seq (respellItems names items)
  | bind body name => bind (respell names body) name
  | many body min => many (respell names body) min
  | opt body => opt (respell names body)
  | not body => not (respell names body)
  | peek body => peek (respell names body)
  | str body => str (respell names body)
  | lst body => lst (respell names body)
  | obj properties lenient => obj (respellProperties names properties) lenient
  | inline rule body => inline (names rule) (respell names body)
  | any => any
  | range chars => range chars
  | regex literal => regex literal

/-- Apply rules by other names in a list of expressions. -/
def respellItems (names : String → String) : List Expr → List Expr
  | [] => []
  | item :: items => respell names item :: respellItems names items

/-- Apply rules by other names in the patterns of properties. -/
def respellProperties (names : String → String) : List (String × Expr) → List (String × Expr)
  | [] => []
  | (key, body) :: properties => (key, respell names body) :: respellProperties names properties

end

end Expr

/-- The rule by its other name, which applies rules by theirs. -/
def Rule.respell (names : String → String) (rule : Rule) : Rule :=
  ⟨names rule.name, rule.body.respell names⟩

namespace Matching

theorem allNamed_respellProperties
    (names : String → String)
    (properties : List (String × Expr))
    (fields : List (String × Value)) :
    allNamed (Expr.respellProperties names properties) fields = allNamed properties fields := by
  unfold allNamed
  congr 1
  funext field
  induction properties with
  | nil => rfl
  | cons property properties inductionHypothesis =>
      rw [Expr.respellProperties, List.any_cons, List.any_cons, inductionHypothesis]

section Evaluation

variable
  {names : String → String}
  {context : Context}

mutual

/-- An expression that applies rules by other names is evaluated like the expression where
rules go by these names. -/
theorem eval_respell
    (skips : ∀ rule, context.skipRule = some rule → names rule = rule) :
    ∀ expr : Expr, eval context (expr.respell names) = eval (context.renamed names) expr
  | .any | .prim _ | .range _ | .regex _ => by
      funext stream position scope
      simp only [Expr.respell, eval, leaf_renamed skips]
  | .app rule => by
      funext stream position scope
      simp only [Expr.respell, eval, skip_renamed skips]
      rfl
  | .inline rule body => by
      funext stream position scope
      simp only [Expr.respell, eval]
      rfl
  | .alt left right => by
      funext stream position scope
      simp only [Expr.respell, eval, eval_respell skips left, eval_respell skips right]
  | .seq items => by
      funext stream position scope
      simp only [Expr.respell, eval, evalItems_respell skips items]
  | .bind body _ | .many body _ | .opt body | .not body | .peek body => by
      funext stream position scope
      simp only [Expr.respell, eval, eval_respell skips body]
  | .str body | .lst body => by
      funext stream position scope
      simp only [Expr.respell, eval, skip_renamed skips, onWhole_renamed skips,
        eval_respell skips body]
  | .obj properties _ => by
      funext stream position scope
      simp only [Expr.respell, eval, skip_renamed skips, allNamed_respellProperties,
        evalProperties_respell skips properties]

theorem evalItems_respell
    (skips : ∀ rule, context.skipRule = some rule → names rule = rule) :
    ∀ items : List Expr,
      evalItems context (Expr.respellItems names items) = evalItems (context.renamed names) items
  | [] => by
      funext stream position scope value
      simp only [Expr.respellItems, evalItems]
  | item :: items => by
      funext stream position scope value
      simp only [Expr.respellItems, evalItems, eval_respell skips item,
        evalItems_respell skips items]

theorem evalProperties_respell
    (skips : ∀ rule, context.skipRule = some rule → names rule = rule) :
    ∀ properties : List (String × Expr),
      evalProperties context (Expr.respellProperties names properties) =
        evalProperties (context.renamed names) properties
  | [] => by
      funext fields scope
      simp only [Expr.respellProperties, evalProperties]
  | (key, body) :: properties => by
      funext fields scope
      simp only [Expr.respellProperties, evalProperties, onWhole_renamed skips,
        eval_respell skips body, evalProperties_respell skips properties]

end

end Evaluation

/-! ## Faults told in another way -/

/-- The outcome with its fault told in another way. -/
def Outcome.mapFault (faults : Fault → Fault) : Outcome α → Outcome α
  | .matched result => .matched result
  | .mismatch => .mismatch
  | .fault stops => .fault (faults stops)

/-- The run with its fault told in another way. -/
def Run.mapFault (faults : Fault → Fault) (run : Run α) : Run α := fun memo =>
  { run memo with outcome := (run memo).outcome.mapFault faults }

section Faults

variable
  {faults : Fault → Fault}
  {run : Run α}

theorem mapFault_apply (memo : Memo) :
    run.mapFault faults memo =
      ⟨(run memo).outcome.mapFault faults, (run memo).memo, (run memo).journal⟩ := rfl

theorem mapFault_bind (next : α → Run β) :
    (run >>= next).mapFault faults =
      run.mapFault faults >>= fun result => (next result).mapFault faults := by
  funext memo
  cases ends : (run memo).outcome with
  | matched result =>
      have told : (run.mapFault faults memo).outcome = .matched result :=
        congrArg (Outcome.mapFault faults) ends
      rw [mapFault_apply, Run.bind_of_matched ends, Run.bind_of_matched told]
      rfl
  | mismatch =>
      have told : (run.mapFault faults memo).outcome = .mismatch :=
        congrArg (Outcome.mapFault faults) ends
      rw [mapFault_apply, Run.bind_of_mismatch ends, Run.bind_of_mismatch told]
      rfl
  | fault fault =>
      have told : (run.mapFault faults memo).outcome = .fault (faults fault) :=
        congrArg (Outcome.mapFault faults) ends
      rw [mapFault_apply, Run.bind_of_fault ends, Run.bind_of_fault told]
      rfl

theorem mapFault_attempt :
    run.attempt.mapFault faults = (run.mapFault faults).attempt := by
  funext memo
  cases ends : (run memo).outcome with
  | matched result =>
      have told : (run.mapFault faults memo).outcome = .matched result :=
        congrArg (Outcome.mapFault faults) ends
      rw [mapFault_apply, Run.attempt_of_matched ends, Run.attempt_of_matched told]
      rfl
  | mismatch =>
      have told : (run.mapFault faults memo).outcome = .mismatch :=
        congrArg (Outcome.mapFault faults) ends
      rw [mapFault_apply, Run.attempt_of_mismatch ends, Run.attempt_of_mismatch told]
      rfl
  | fault fault =>
      have told : (run.mapFault faults memo).outcome = .fault (faults fault) :=
        congrArg (Outcome.mapFault faults) ends
      rw [mapFault_apply, Run.attempt_of_fault ends, Run.attempt_of_fault told]
      rfl

/-- A fault inside an element is told in the same way. -/
theorem mapFault_within :
    (Run.within run).mapFault faults = Run.within (run.mapFault faults) := rfl

/-- Runs in lockstep with the faults on the left told in another way form a simulation. -/
def Lockstep.telling (lockstep : Lockstep) (faults : Fault → Fault) : Simulation Unit where
  alike := lockstep.alike
  Related stream offset same left right :=
    lockstep.Goes stream offset same (left.mapFault faults) (right ())
  alike_refl := lockstep.simulation.alike_refl
  alike_list := lockstep.simulation.alike_list
  done results := lockstep.simulation.done results
  mismatch := lockstep.simulation.mismatch
  andThen first next := by
    rw [mapFault_bind]
    exact first.bind next
  attempt related := by
    rw [mapFault_attempt]
    exact related.attempt
  within inside related := by
    rw [mapFault_within]
    exact related.within inside

end Faults

/-! ## Runs under other names -/

/-- Runs of which one knows by other names what the other one knows. -/
def respelling (names : String → String) : Lockstep where
  alike := Eq
  memories stream offset memo rightMemo :=
    offset = 0 ∧ memo.Bounded stream ∧
      ∀ rule position, rightMemo.find? (names rule) position = memo.find? rule position
  changed _ _ _ _ := True
  events _ _ := True
  excused _ := False
  rightExcused _ := False
  laws.alike_refl := Eq.refl
  laws.alike_list := Value.list_eq_of_forall₂
  laws.changed_refl _ _ := trivial
  laws.changed_trans _ _ := trivial
  laws.events_nil := trivial
  laws.events_append _ _ := trivial
  laws.events_nested _ := trivial
  laws.inner _ _ := ⟨rfl, .empty _, fun _ _ => by rw [Memo.find?_empty, Memo.find?_empty]⟩

/-- A fault of a grammar where rules go by other names. -/
def Fault.respell (names : String → String) (grammar : String) : Fault → Fault
  | .undefinedRule _ rule => .undefinedRule grammar (names rule)
  | .exhausted => .exhausted

/-- Runs under other names, with the faults told by these. -/
def underNames (names : String → String) (grammar : String) : Simulation Unit :=
  (respelling names).telling (Fault.respell names grammar)

section UnderNames

variable
  {names : String → String}
  {grammar : String}
  {stream : List Value}
  {position : Nat}
  {rule : String}

/-- What is told is told on both sides. -/
theorem underNames_tell
    (event rightEvent : Event) :
    (underNames names grammar).Related stream 0 (fun _ _ => True) (Run.tell event)
      fun _ => Run.tell rightEvent :=
  Lockstep.Goes.tell fun _ => trivial

/-- The same is known of a rule by its other name. -/
theorem underNames_consult (rule : String) (position : Nat) :
    (underNames names grammar).Related stream 0
      (Option.Rel ((underNames names grammar).EntriesAlike stream 0 position))
      (Run.consult rule position) fun _ => Run.consult (names rule) position := by
  rintro memo rightMemo ⟨-, bounded, same⟩
  refine .inr ⟨.matched ?_, trivial, fun _ => ⟨rfl, bounded, same⟩, fun _ => trivial⟩
  rw [same]
  exact (underNames names grammar).entriesAlike_find? bounded rule position

/-- What is noted of a rule is noted by its other name. -/
theorem underNames_remember
    (injective : Function.Injective names)
    (rule : String)
    {entry rightEntry : Entry}
    (entries : (underNames names grammar).EntriesAlike stream 0 position entry rightEntry) :
    (underNames names grammar).Related stream 0 (fun _ _ => True)
      (Run.remember rule position entry)
      fun _ => Run.remember (names rule) position rightEntry := by
  rintro memo rightMemo ⟨-, bounded, same⟩
  obtain rfl := entries.eq id
  refine .inr ⟨.matched trivial, trivial, fun _ => ⟨rfl, entries.bounded_put bounded rule, ?_⟩,
    fun _ => trivial⟩
  intro other place
  change (Memo.put _ _ _ _).find? _ _ = (Memo.put _ _ _ _).find? _ _
  simp only [Memo.find?_put, same, injective.eq_iff]

/-- A rule grows by its other name as it does by its own. -/
theorem underNames_respectsPlace
    (injective : Function.Injective names)
    (rule : String)
    (position : Nat) :
    ((underNames names grammar).sequencing stream 0).RespectsPlace
      ((underNames names grammar).HitsAlike stream 0 position) rule (names rule) position
      position where
  noted answers := underNames_remember injective rule (.done answers)
  met := by
    refine (underNames names grammar).weaken ?_ (underNames_consult rule position)
    rintro _ _ (entries | _)
    · rw [entries.eq id]
    · exact Iff.rfl
  failed := Lockstep.Goes.fail .exhausted
  longer bests hits := by
    have finishes := bests.reaches.eq_add
    have hitFinishes := hits.reaches.eq_add
    omega

end UnderNames
end Matching

open Matching Simulation

namespace Matcher

/-- Another matcher has the rules and the actions of a matcher under other names. -/
structure Respells (matcher other : Matcher) (names : String → String) : Prop where
  /-- Different rules have different names. -/
  injective : Function.Injective names
  /-- The rules are the same but for the names. -/
  rules : ∀ name, other.grammar.rule? (names name) =
    (matcher.grammar.rule? name).map (Rule.respell names)
  /-- The actions are the same. -/
  acts : ∀ name scope value,
    other.actions.apply (names name) scope value = matcher.actions.apply name scope value

/-- A grammar of rules by other names has its rules by these, if its super-grammar has. -/
theorem rule?_respell
    {names : String → String}
    (injective : Function.Injective names)
    {parent otherParent : Grammar}
    (inherited : ∀ name, otherParent.rule? (names name) =
      (parent.rule? name).map (Rule.respell names))
    (serial otherSerial : Nat)
    (grammar otherGrammar : String)
    (rules : List Rule)
    (name : String) :
    (Grammar.mk otherSerial otherGrammar (rules.map (Rule.respell names))
        (some otherParent)).rule? (names name) =
      ((Grammar.mk serial grammar rules (some parent)).rule? name).map (Rule.respell names) := by
  have sameName : (fun rule : Rule => (rule.respell names).name == names name) =
      fun rule => rule.name == name := by
    funext rule
    rw [Rule.respell, Bool.eq_iff_iff, beq_iff_eq, beq_iff_eq, injective.eq_iff]
  have own : (rules.map (Rule.respell names)).find? (fun rule => rule.name == names name) =
      (rules.find? fun rule => rule.name == name).map (Rule.respell names) := by
    rw [List.find?_map, Function.comp_def, sameName]
  rw [Grammar.rule?_eq, Grammar.rule?_eq, Grammar.localRule?, Grammar.localRule?, own,
    Option.bind_some, Option.bind_some, inherited, Option.map_or]

variable
  {matcher other : Matcher}
  {names : String → String}
  {apply otherApply : Applier}
  {rule : Rule}
  {name : String}
  {stream : List Value}
  {position : Nat}

/-- Where nothing is skipped the context of a rule body does not depend on the rule. -/
theorem contextFor_of_unskipped
    (unskipped : matcher.skipRule = none)
    (apply : Applier)
    (rule : Rule) :
    matcher.contextFor apply rule = ⟨apply, none⟩ := by
  rw [contextFor, skipRuleFor, unskipped]
  split <;> rfl

section Unskipped

variable
  (respells : matcher.Respells other names)
  (unskipped : matcher.skipRule = none)
  (otherUnskipped : other.skipRule = none)
  (applied : (underNames names other.grammar.name).AppliersAgree (fun _ => True) apply
    fun _ => Applier.renamed otherApply names)

include respells unskipped otherUnskipped applied

/-- A rule is invoked by its other name as it is by its own. -/
theorem invoke_respelled
    (rule : Rule)
    (inside : position ≤ stream.length) :
    (underNames names other.grammar.name).Related stream 0
      ((underNames names other.grammar.name).HitsAlike stream 0 position)
      (matcher.invoke apply rule stream position)
      fun _ => other.invoke otherApply (rule.respell names) stream position := by
  have contexts : (underNames names other.grammar.name).Agree (fun _ => True)
      (matcher.contextFor apply rule) fun _ => ⟨Applier.renamed otherApply names, none⟩ := by
    rw [contextFor_of_unskipped unskipped]
    exact applied.agree fun _ _ => trivial
  have unskippedContext : ∀ skipped, (Context.mk otherApply none).skipRule = some skipped →
      names skipped = skipped := by
    rintro _ ⟨⟩
  have body : (underNames names other.grammar.name).Related stream 0
      ((underNames names other.grammar.name).StepsAlike stream 0 position [])
      (eval (matcher.contextFor apply rule) rule.body stream position [])
      fun _ => eval (other.contextFor otherApply (rule.respell names)) (rule.respell names).body
        stream position [] := by
    rw [contextFor_of_unskipped otherUnskipped, Rule.respell, eval_respell unskippedContext]
    exact Simulation.eval_related contexts rule.body (fun _ _ => trivial) stream 0 position [] []
      inside .nil
  unfold invoke
  refine andThen _ (underNames_tell _ _) ?_
  rintro _ _ -
  refine andThen _ (attempt _ body) ?_
  rintro _ _ (steps | _)
  · refine andThen _ (underNames_tell _ _) ?_
    rintro _ _ -
    refine done _ ⟨?_, steps.reaches⟩
    rw [Rule.respell, ← steps.scopes.eq id, respells.acts]
    exact congrArg (matcher.actions.apply rule.name _) steps.value
  · refine andThen _ (underNames_tell _ _) ?_
    rintro _ _ -
    exact mismatch _

/-- A rule is evaluated by its other name as it is by its own. -/
theorem evaluate_respelled
    (rule : Rule)
    (inside : position ≤ stream.length) :
    (underNames names other.grammar.name).Related stream 0
      (Option.Rel ((underNames names other.grammar.name).HitsAlike stream 0 position))
      (matcher.evaluate apply rule stream position)
      fun _ => other.evaluate otherApply (rule.respell names) stream position := by
  have invoked : ((underNames names other.grammar.name).sequencing stream 0).Related
      ((underNames names other.grammar.name).HitsAlike stream 0 position)
      (matcher.invoke apply rule stream position)
      fun _ => other.invoke otherApply (rule.respell names) stream position :=
    invoke_respelled respells unskipped otherUnskipped applied rule inside
  have place : ((underNames names other.grammar.name).sequencing stream 0).RespectsPlace _
      rule.name (rule.respell names).name position position :=
    underNames_respectsPlace respells.injective rule.name position
  have completed := complete_related place rfl invoked
  rw [evaluate_eq]
  exact andThen _ (underNames_remember respells.injective rule.name (.pending false))
    fun _ _ _ => completed

/-- A rule is applied by its other name as it is by its own. -/
theorem applyWith_respelled
    (name : String)
    (inside : position ≤ stream.length) :
    (underNames names other.grammar.name).Related stream 0
      ((underNames names other.grammar.name).HitsAlike stream 0 position)
      (matcher.applyWith apply stream name position)
      fun _ => other.applyWith otherApply stream (names name) position := by
  have sameRules := respells.rules name
  cases found : matcher.grammar.rule? name with
  | none =>
      rw [found, Option.map_none] at sameRules
      rw [applyWith_of_undefined found]
      simp only [applyWith_of_undefined sameRules]
      exact Lockstep.Goes.fail (.undefinedRule other.grammar.name (names name))
  | some rule =>
      rw [found, Option.map_some] at sameRules
      simp only [applyWith, found, sameRules]
      refine andThen _ (underNames_consult rule.name position) ?_
      rintro _ _ (entries | _)
      · cases entries with
        | pending reentered =>
            refine andThen _
              (underNames_remember respells.injective rule.name (.pending true)) ?_
            rintro _ _ -
            refine andThen _ (underNames_tell _ _) ?_
            rintro _ _ -
            exact mismatch _
        | done answers =>
            refine andThen _ (underNames_tell _ _) ?_
            rintro _ _ -
            exact ofOption_related _ answers
      · refine andThen _
          (evaluate_respelled respells unskipped otherUnskipped applied rule inside) ?_
        intro answer otherAnswer answers
        refine andThen _ (underNames_tell _ _) ?_
        rintro _ _ -
        exact ofOption_related _ answers

end Unskipped

/-- Applications at the same depth are the same by other names. -/
theorem applyWithin_respelled
    (respells : matcher.Respells other names)
    (unskipped : matcher.skipRule = none)
    (otherUnskipped : other.skipRule = none)
    (depth : Nat) :
    (underNames names other.grammar.name).AppliersAgree (fun _ => True)
      (matcher.applyWithin depth) fun _ => Applier.renamed (other.applyWithin depth) names := by
  induction depth with
  | zero =>
      intro stream offset position name _ _
      exact Lockstep.Goes.fail .exhausted
  | succ depth applied =>
      rintro stream offset position name _ inside memo rightMemo ⟨rfl, memories⟩
      exact applyWith_respelled respells unskipped otherUnskipped applied name inside memo
        rightMemo ⟨rfl, memories⟩

/-- On the whole of a stream a rule matches by its other name what it matches by its own. -/
theorem runWith_respelled
    (respells : matcher.Respells other names)
    (unskipped : matcher.skipRule = none)
    (otherUnskipped : other.skipRule = none)
    (depth : Nat)
    (stream : List Value)
    (name : String) :
    (other.runWith (other.applyWithin depth) stream (names name) Memo.empty).outcome =
      (matcher.runWith (matcher.applyWithin depth) stream name Memo.empty).outcome.mapFault
        (Fault.respell names other.grammar.name) := by
  have sameRules := respells.rules name
  cases found : matcher.grammar.rule? name with
  | none =>
      rw [found, Option.map_none] at sameRules
      simp only [runWith, found, sameRules]
      rfl
  | some rule =>
      rw [found, Option.map_some] at sameRules
      have applied := applyWithin_respelled respells unskipped otherUnskipped depth
      have related : (underNames names other.grammar.name).Related stream 0 Eq
          (matcher.runWith (matcher.applyWithin depth) stream name)
          fun _ => other.runWith (other.applyWithin depth) stream (names name) := by
        simp only [runWith, found, sameRules, contextFor_of_unskipped unskipped,
          contextFor_of_unskipped otherUnskipped]
        simp only [Context.skip, pure_bind]
        have inside : 0 + 0 ≤ stream.length := Nat.zero_le _
        refine andThen _ (applied trivial inside) ?_
        intro hit otherHit hits
        obtain rfl := hits.eq id
        split
        · exact done _ rfl
        · exact mismatch _
      rcases related Memo.empty Memo.empty ⟨rfl, .empty stream, fun _ _ => rfl⟩ with
        (⟨_, excused, _⟩ | ⟨_, excused, _⟩) | report
      · exact excused.elim
      · exact excused.elim
      · exact report.outcomes.eq.symm

/-- Where nothing is skipped a rule matches by its other name what it matches by its own. -/
theorem matchAll_respelled
    (respells : matcher.Respells other names)
    (unskipped : matcher.skipRule = none)
    (otherUnskipped : other.skipRule = none)
    (stream : List Value)
    (name : String) :
    other.matchAll stream (names name) =
      (matcher.matchAll stream name).mapFault (Fault.respell names other.grammar.name) := by
  have deep := Nat.le_max_left (matcher.depthLimit stream) (other.depthLimit stream)
  have otherDeep := Nat.le_max_right (matcher.depthLimit stream) (other.depthLimit stream)
  have run := runWith_deeper deep (matcher.matchAll_ne_exhausted stream name)
  have otherRun := runWith_deeper otherDeep (other.matchAll_ne_exhausted stream (names name))
  calc other.matchAll stream (names name)
      = (other.runWith (other.applyWithin (max (matcher.depthLimit stream)
          (other.depthLimit stream))) stream (names name) Memo.empty).outcome := otherRun.symm
    _ = (matcher.runWith (matcher.applyWithin (max (matcher.depthLimit stream)
          (other.depthLimit stream))) stream name Memo.empty).outcome.mapFault
            (Fault.respell names other.grammar.name) :=
        runWith_respelled respells unskipped otherUnskipped _ stream name
    _ = (matcher.matchAll stream name).mapFault (Fault.respell names other.grammar.name) :=
        congrArg (Outcome.mapFault _) run

end Matcher
end Heirloom
