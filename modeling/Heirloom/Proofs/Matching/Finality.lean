import Heirloom.Proofs.Matching.Discipline
import Heirloom.Proofs.Matching.History
import Heirloom.Proofs.Matching.Stages

/-!
# Final answers

What a run does about a rule at a position follows the stages of an application, and the
memory shows the stage. So a rule is evaluated at a position until it has an answer, and
that answer is final. A rule that is not met while it is evaluated is evaluated once, and
any other one as often as its match grows.
-/

namespace Heirloom
namespace Matching

/-- What is known of an application at a stage, other than between its evaluations. -/
inductive Stage.Shows : Stage → Option Entry → Prop
  /-- Nothing is known of an application that has not been made. -/
  | fresh : Shows .fresh none
  /-- In its first evaluation it is pending. -/
  | pending (count : Nat) (met : Bool) : Shows (.inside count met) (some (.pending met))
  /-- In later ones it has the match that is being grown. -/
  | growing (count : Nat) (answer : Option Hit) :
      Shows (.inside count true) (some (.done answer))
  /-- In the end it has its answer. -/
  | settled (count : Nat) (met : Bool) (answer : Option Hit) :
      Shows (.settled count met answer) (some (.done answer))

/-- Where a rule body is being evaluated, that evaluation goes on. -/
def Stage.Stays (first last : Stage) : Prop :=
  ∀ count met, first = .inside count met → ∃ later, last = .inside count later

theorem Stage.Stays.refl (stage : Stage) : stage.Stays stage :=
  fun _ met inside => ⟨met, inside⟩

theorem Stage.Stays.trans
    {first middle last : Stage}
    (stays : first.Stays middle)
    (further : middle.Stays last) :
    first.Stays last := by
  intro count met inside
  obtain ⟨later, between⟩ := stays count met inside
  exact further count later between

/-- What a report tells about a rule at a position goes from the stage that was shown when
the run started to the one that is shown when it ends. -/
def Report.Follows
    (place : Place)
    (stream : List Value)
    (memo : Memo)
    (report : Report α) : Prop :=
  ∀ first : Stage, first.Shows (memo.find? place.1 place.2) →
    ∃ last, Passes place (roundLimit stream place.2) first report.events last ∧
      ((∀ fault, report.outcome ≠ .fault fault) →
        last.Shows (report.memo.find? place.1 place.2) ∧ first.Stays last)

/-- What a run does about a rule at a position follows the stages of an application. -/
def Run.Follows (place : Place) (stream : List Value) (run : Run α) : Prop :=
  ∀ memo : Memo, memo.Bounded stream → (run memo).Follows place stream memo

section Runs

variable
  {place : Place}
  {stream : List Value}
  {memo : Memo}

/-- A run that does nothing about the rule at the position. -/
theorem Report.Follows.of_apart
    {report : Report α}
    (apart : ∀ event ∈ report.events, event.place? ≠ some place)
    (same : report.memo.find? place.1 place.2 = memo.find? place.1 place.2) :
    report.Follows place stream memo := by
  intro first shows
  exact ⟨first, .of_apart first apart, fun _ => ⟨same ▸ shows, .refl first⟩⟩

/-- How a run ends does not matter to what it does. -/
theorem Report.Follows.congr
    {report : Report α}
    {other : Report β}
    (follows : report.Follows place stream memo)
    (events : other.events = report.events)
    (after : other.memo = report.memo)
    (going : (∀ fault, other.outcome ≠ .fault fault) →
      ∀ fault, report.outcome ≠ .fault fault) :
    other.Follows place stream memo := by
  intro first shows
  obtain ⟨last, passes, goes⟩ := follows first shows
  rw [events, after]
  exact ⟨last, passes, fun goesOn => goes (going goesOn)⟩

namespace Run.Follows

variable {run : Run α}

theorem done (result : α) : Follows place stream (pure result : Run α) :=
  fun _ _ => .of_apart nofun rfl

theorem mismatch : Follows place stream (Run.mismatch : Run α) :=
  fun _ _ => .of_apart nofun rfl

theorem fail (fault : Fault) : Follows place stream (Run.fail fault : Run α) :=
  fun _ _ => .of_apart nofun rfl

theorem tell
    {event : Event}
    (apart : event.place? ≠ some place) :
    Follows place stream (Run.tell event) :=
  fun _ _ => .of_apart (List.forall_mem_singleton.mpr apart) rfl

theorem bind
    {good : α → Prop}
    {next : α → Run β}
    (respects : ∀ memo : Memo, memo.Bounded stream →
      boundedness.Respects stream good memo (run memo))
    (follows : Follows place stream run)
    (rest : ∀ result, good result → Follows place stream (next result)) :
    Follows place stream (run >>= next) := by
  intro memo bounded
  have before := follows memo bounded
  cases ends : (run memo).outcome with
  | matched result =>
      intro first shows
      have going := Outcome.ne_fault_of_matched ends
      obtain ⟨middle, passes, goes⟩ := before first shows
      obtain ⟨between, stays⟩ := goes going
      have after := rest result ((respects memo bounded).matched result ends) _
        ((respects memo bounded).holds going)
      obtain ⟨last, further, goesOn⟩ := after middle between
      rw [Run.bind_of_matched ends]
      refine ⟨last, ?_, fun going => ⟨(goesOn going).1, stays.trans (goesOn going).2⟩⟩
      exact passes.append_entries further
  | mismatch =>
      rw [Run.bind_of_mismatch ends]
      exact before.congr rfl rfl fun _ => Outcome.ne_fault_of_mismatch ends
  | fault fault =>
      rw [Run.bind_of_fault ends]
      exact before.congr rfl rfl fun going => absurd rfl (going fault)

theorem attempt
    (follows : Follows place stream run) :
    Follows place stream run.attempt := by
  intro memo bounded
  have report := follows memo bounded
  cases ends : (run memo).outcome with
  | matched result =>
      rw [Run.attempt_of_matched ends]
      exact report.congr rfl rfl fun _ => Outcome.ne_fault_of_matched ends
  | mismatch =>
      rw [Run.attempt_of_mismatch ends]
      exact report.congr rfl rfl fun _ => Outcome.ne_fault_of_mismatch ends
  | fault fault =>
      rw [Run.attempt_of_fault ends]
      exact report.congr rfl rfl fun going => absurd rfl (going fault)

/-- What happens inside an element is about other applications. -/
theorem within (run : Run α) : Follows place stream (Run.within run) :=
  fun _ _ => .of_apart (List.forall_mem_singleton.mpr nofun) rfl

end Run.Follows

/-- Runs inside their streams that follow the stages of an application form a
simulation. -/
def staging (place : Place) : Simulation Empty where
  alike := Eq
  Related stream offset same left right :=
    boundedness.simulation.Related stream offset same left right ∧
      left.Follows place stream
  alike_refl := @Eq.refl Value
  alike_list := @Value.list_eq_of_forall₂
  done results := ⟨boundedness.simulation.done results, .done _⟩
  mismatch := ⟨boundedness.simulation.mismatch, .mismatch⟩
  andThen first next := by
    refine ⟨boundedness.simulation.andThen first.1 fun result other results =>
      (next result other results).1, first.2.bind first.1 ?_⟩
    rintro result ⟨other, results⟩
    exact (next result other results).2
  attempt related := ⟨boundedness.simulation.attempt related.1, related.2.attempt⟩
  within inside related := ⟨boundedness.simulation.within inside related.1, .within _⟩

end Runs
end Matching

open Matching

namespace Matcher

variable
  {matcher : Matcher}
  {depth : Nat}
  {stream : List Value}
  {name : String}
  {rule : Rule}
  {position : Nat}
  {memo : Memo}
  {place : Place}

/-- A rule body follows the stages, as the applications in it do. -/
theorem staging_agree
    (matcher : Matcher)
    {apply : Applier}
    (applied : (staging place).AppliersAgree (fun _ => True) apply Empty.elim)
    (rule : Rule) :
    (staging place).Agree (fun _ => True) (matcher.contextFor apply rule)
      fun index : Empty => matcher.contextFor index.elim rule :=
  applied.agree fun _ _ => trivial

/-! ## The application itself -/

section Own

variable
  (applied : (staging (rule.name, position)).AppliersAgree (fun _ => True)
    (matcher.applyWithin depth) Empty.elim)

include applied

/-- An evaluation of the rule body goes from where it is entered to where it is left. -/
theorem invoke_passes
    (inside : position ≤ stream.length)
    (bounded : memo.Bounded stream)
    {before : Stage}
    {count : Nat}
    {met : Bool}
    (enters : Moves (rule.name, position) (roundLimit stream position) before
      (.entered rule.name position) (.inside count met))
    (shows : (Stage.inside count met).Shows (memo.find? rule.name position)) :
    ∃ last, Passes (rule.name, position) (roundLimit stream position) before
        (matcher.invoke (matcher.applyWithin depth) rule stream position memo).events last ∧
      ((∀ fault, (matcher.invoke (matcher.applyWithin depth) rule stream position
          memo).outcome ≠ .fault fault) →
        ∃ later, last = .between count later ∧
          (Stage.inside count later).Shows ((matcher.invoke (matcher.applyWithin depth) rule
            stream position memo).memo.find? rule.name position)) := by
  have contexts := matcher.staging_agree applied rule
  have body : (staging (rule.name, position)).Related stream 0
      ((staging (rule.name, position)).StepsAlike stream 0 position [])
      (eval (matcher.contextFor (matcher.applyWithin depth) rule) rule.body stream position [])
      fun index : Empty =>
        eval (matcher.contextFor index.elim rule) rule.body (stream.drop 0) position [] :=
    Simulation.eval_related contexts rule.body (fun _ _ => trivial) stream 0 position [] []
      inside .nil
  obtain ⟨middle, passes, goes⟩ := body.2 memo bounded _ shows
  generalize evaluated : eval (matcher.contextFor (matcher.applyWithin depth) rule) rule.body
    stream position [] memo = report at passes goes
  -- unless it ends with a fault, the body is left where it was entered
  have leaves (result : Option Completion) (going : ∀ fault, report.outcome ≠ .fault fault) :
      ∃ later, Passes (rule.name, position) (roundLimit stream position) before
          (.entered rule.name position ::
            (report.events ++ [.left rule.name position result])) (.between count later) ∧
        (Stage.inside count later).Shows (report.memo.find? rule.name position) := by
    obtain ⟨shown, stays⟩ := goes going
    obtain ⟨later, rfl⟩ := stays count met rfl
    exact ⟨later, .cons enters (passes.append (.single (.leave count later result))), shown⟩
  cases ends : report.outcome with
  | fault fault =>
      rw [invoke_of_fault evaluated ends]
      refine ⟨middle, ?_, fun going => absurd rfl (going fault)⟩
      rw [Report.events, Journal.entries_append, Journal.entries_single]
      exact .cons enters passes
  | mismatch =>
      rw [invoke_of_mismatch evaluated ends]
      obtain ⟨later, left, shown⟩ := leaves none (Outcome.ne_fault_of_mismatch ends)
      refine ⟨_, ?_, fun _ => ⟨later, rfl, shown⟩⟩
      simpa [Report.events] using left
  | matched step =>
      rw [invoke_of_matched evaluated ends]
      obtain ⟨later, left, shown⟩ := leaves (some ⟨step.scope, step.value, step.position⟩)
        (Outcome.ne_fault_of_matched ends)
      refine ⟨_, ?_, fun _ => ⟨later, rfl, shown⟩⟩
      simpa [Report.events] using left

/-- While its match grows the application is evaluated once more for each round. As each
round but the last one goes further, there are no more rounds than are left of the
stream. -/
theorem grow_passes
    (inside : position ≤ stream.length)
    (found : matcher.grammar.rule? name = some rule)
    (rounds : Nat) :
    ∀ (best : Hit) (memo : Memo) (count : Nat), memo.Bounded stream →
      best.Bounded stream position →
      count + (stream.length - best.finish) < roundLimit stream position →
        ∃ last, Passes (rule.name, position) (roundLimit stream position)
            (.between count true)
            (matcher.grow (matcher.applyWithin depth) rule stream position rounds best
              memo).events last ∧
          ((∀ fault, (matcher.grow (matcher.applyWithin depth) rule stream position rounds best
              memo).outcome ≠ .fault fault) →
            ∃ later, last = .between later true) := by
  induction rounds with
  | zero =>
      intro best memo count _ _ _
      exact ⟨_, .nil _, fun going => absurd rfl (going .exhausted)⟩
  | succ rounds inductionHypothesis =>
      intro best memo count bounded fits enough
      have noted : (Memo.put rule.name (.done (some best)) position memo).Bounded stream :=
        bounded.put_done (by rintro _ ⟨⟩; exact fits)
      have shows : (Stage.inside (count + 1) true).Shows
          ((Memo.put rule.name (.done (some best)) position memo).find? rule.name position) := by
        rw [Memo.find?_put_self]
        exact .growing (count + 1) (some best)
      have round := invoke_passes applied inside noted (.again (by omega)) shows
      have respects := invoke_respects (matcher.applyWithin_bounded depth) (Closed.all matcher)
        trivial found inside noted
      generalize again : matcher.invoke (matcher.applyWithin depth) rule stream position
        (Memo.put rule.name (.done (some best)) position memo) = report at round respects
      obtain ⟨last, passes, goes⟩ := round
      have stillMet := passes.met_mono rfl
      cases ends : report.outcome with
      | fault fault =>
          rw [grow_of_fault again ends]
          exact ⟨last, passes, fun going => absurd rfl (going fault)⟩
      | mismatch =>
          obtain ⟨later, rfl, -⟩ := goes (Outcome.ne_fault_of_mismatch ends)
          obtain rfl : later = true := stillMet
          rw [grow_of_mismatch again ends]
          exact ⟨_, passes, fun _ => ⟨count + 1, rfl⟩⟩
      | matched hit =>
          have going := Outcome.ne_fault_of_matched ends
          obtain ⟨later, rfl, -⟩ := goes going
          obtain rfl : later = true := stillMet
          obtain ⟨start, finish⟩ := respects.matched hit ends
          by_cases longer : best.finish < hit.finish
          · rw [grow_of_longer again ends longer rfl]
            obtain ⟨last, further, goesOn⟩ := inductionHypothesis hit report.memo (count + 1)
              (respects.holds going) ⟨start, finish⟩ (by omega)
            refine ⟨last, ?_, goesOn⟩
            exact passes.append_entries further
          · rw [grow_of_not_longer again ends (Nat.not_lt.mp longer)]
            exact ⟨_, passes, fun _ => ⟨count + 1, rfl⟩⟩

/-- The evaluation of a rule of which nothing is known at the position comes to where its
answer is given. -/
theorem evaluate_passes
    (inside : position ≤ stream.length)
    (found : matcher.grammar.rule? name = some rule)
    (bounded : memo.Bounded stream) :
    ∃ last, Passes (rule.name, position) (roundLimit stream position) .fresh
        (matcher.evaluate (matcher.applyWithin depth) rule stream position memo).events last ∧
      ((∀ fault, (matcher.evaluate (matcher.applyWithin depth) rule stream position
          memo).outcome ≠ .fault fault) →
        ∃ count met, last = .between count met) := by
  have noted := bounded.put_pending rule.name position false
  have shows : (Stage.inside 1 false).Shows
      ((Memo.put rule.name (.pending false) position memo).find? rule.name position) := by
    rw [Memo.find?_put_self]
    exact .pending 1 false
  have round := invoke_passes applied inside noted .enter shows
  have respects := invoke_respects (matcher.applyWithin_bounded depth) (Closed.all matcher)
    trivial found inside noted
  generalize first : matcher.invoke (matcher.applyWithin depth) rule stream position
    (Memo.put rule.name (.pending false) position memo) = report at round respects
  obtain ⟨last, passes, goes⟩ := round
  cases ends : report.outcome with
  | fault fault =>
      rw [evaluate_of_fault first ends]
      exact ⟨last, passes, fun going => absurd rfl (going fault)⟩
  | mismatch =>
      obtain ⟨met, rfl, -⟩ := goes (Outcome.ne_fault_of_mismatch ends)
      rw [evaluate_of_mismatch first ends]
      exact ⟨_, passes, fun _ => ⟨1, met, rfl⟩⟩
  | matched hit =>
      have going := Outcome.ne_fault_of_matched ends
      obtain ⟨met, rfl, shown⟩ := goes going
      obtain ⟨start, finish⟩ := respects.matched hit ends
      by_cases wasMet : report.memo.find? rule.name position = some (.pending true)
      · rw [wasMet] at shown
        cases shown
        have enough : 1 + (stream.length - hit.finish) < roundLimit stream position := by
          unfold roundLimit
          omega
        obtain ⟨last, further, goesOn⟩ := grow_passes applied inside found
          (roundLimit stream position) hit report.memo 1 (respects.holds going) ⟨start, finish⟩
          enough
        generalize grows : matcher.grow (matcher.applyWithin depth) rule stream position
          (roundLimit stream position) hit report.memo = grown at further goesOn
        cases grownEnds : grown.outcome with
        | fault fault =>
            rw [evaluate_of_grow_fault first ends wasMet grows grownEnds]
            refine ⟨last, ?_, fun going => absurd rfl (going fault)⟩
            exact passes.append_entries further
        | mismatch => exact absurd (grows ▸ grownEnds) (grow_ne_mismatch _ _ _)
        | matched best =>
            rw [evaluate_of_grown first ends wasMet grows grownEnds]
            obtain ⟨count, rfl⟩ := goesOn (Outcome.ne_fault_of_matched grownEnds)
            refine ⟨_, ?_, fun _ => ⟨count, true, rfl⟩⟩
            exact passes.append_entries further
      · rw [evaluate_of_settled first ends wasMet]
        exact ⟨_, passes, fun _ => ⟨1, met, rfl⟩⟩

/-- An application follows its own stages: it meets itself, it is answered from memory, or
its rule is evaluated and it gets an answer. -/
theorem applyWith_follows_itself
    (inside : position ≤ stream.length)
    (found : matcher.grammar.rule? name = some rule)
    (bounded : memo.Bounded stream) :
    (matcher.applyWith (matcher.applyWithin depth) stream name position memo).Follows
      (rule.name, position) stream memo := by
  intro first shows
  rcases known : memo.find? rule.name position with _ | (reentered | answer)
  · rw [known] at shows
    cases shows
    obtain ⟨last, passes, goes⟩ := evaluate_passes applied inside found bounded
    rcases matcher.evaluate_answers (matcher.applyWithin depth) rule stream position memo with
      ⟨fault, ends⟩ | ⟨answer, ends, noted⟩
    · rw [applyWith_of_fault found known ends]
      exact ⟨last, passes, fun going => absurd rfl (going fault)⟩
    · obtain ⟨count, met, rfl⟩ := goes (Outcome.ne_fault_of_matched ends)
      rw [applyWith_of_evaluated found known ends]
      refine ⟨.settled count met answer, ?_, fun _ => ⟨?_, nofun⟩⟩
      · exact passes.append_entries (.single (.settle count met answer))
      · rw [noted]
        exact .settled count met answer
  · rw [known] at shows
    cases shows with
    | pending count =>
        rw [applyWith_of_pending found known]
        refine ⟨.inside count true, .single (.meet count reentered), fun _ => ⟨?_, ?_⟩⟩
        · rw [Memo.find?_put_self]
          exact .pending count true
        · rintro _ _ ⟨⟩
          exact ⟨true, rfl⟩
  · rw [applyWith_of_done found known]
    rw [known] at shows
    cases shows with
    | growing count =>
        exact ⟨_, .single (.seed count answer), fun _ => ⟨known ▸ .growing count answer, .refl _⟩⟩
    | settled count met =>
        exact ⟨_, .single (.echo count met answer), fun _ =>
          ⟨known ▸ .settled count met answer, .refl _⟩⟩

end Own

/-! ## Other applications -/

section Other

variable (apart : (rule.name, position) ≠ place)

include apart

/-- What is noted of another application is about something else. -/
theorem find?_put_of_apart (entry : Entry) :
    (Memo.put rule.name entry position memo).find? place.1 place.2 =
      memo.find? place.1 place.2 := by
  refine Memo.find?_put_of_ne ?_ _ _
  rintro ⟨sameRule, here⟩
  exact apart (Prod.ext sameRule.symm here.symm)

/-- The evaluation of another rule notes its matches elsewhere. -/
theorem following_respectsPlace :
    ((staging place).sequencing stream 0).RespectsPlace
      ((staging place).HitsAlike stream 0 position) rule.name rule.name position position where
  noted := by
    intro answer rightAnswer answers
    refine ⟨fun memo bounded => ?_, fun memo _ => .of_apart nofun (find?_put_of_apart apart _)⟩
    refine .of_matched rfl (bounded.put_done ?_) trivial ⟨(), trivial⟩
    rintro hit rfl
    cases answers with
    | some hits => exact ⟨hits.reaches.start_le, hits.reaches.le_length⟩
  met :=
    ⟨fun memo bounded => .still bounded (fun entry _ => ⟨entry, Iff.rfl⟩) nofun,
      fun _ _ => .of_apart nofun rfl⟩
  failed := ⟨fun _ _ => .of_fault rfl trivial, .fail .exhausted⟩
  longer bests hits := by
    have finishes := bests.reaches.eq_add
    have hitFinishes := hits.reaches.eq_add
    omega

variable
  (applied : (staging place).AppliersAgree (fun _ => True) (matcher.applyWithin depth)
    Empty.elim)
  (inside : position ≤ stream.length)

include applied inside

/-- The evaluation of another rule follows the stages, as the applications in its body do. -/
theorem evaluate_follows :
    Run.Follows place stream
      (matcher.evaluate (matcher.applyWithin depth) rule stream position) := by
  have contexts := matcher.staging_agree applied rule
  have told (event : Event) (other : event.place? ≠ some place) :
      (staging place).Related stream 0 (fun _ _ => True) (Run.tell event)
        fun _ : Empty => Run.tell event :=
    ⟨Invariant.tell_respects event _, .tell other⟩
  have elsewhere := (Option.some_injective _).ne apart
  have invoked : (staging place).Related stream 0 ((staging place).HitsAlike stream 0 position)
      (matcher.invoke (matcher.applyWithin depth) rule stream position)
      fun index : Empty => matcher.invoke index.elim rule stream position :=
    invoke_related contexts (fun _ _ => trivial) (actions_alike id matcher.actions rule.name)
      inside (told _ elsewhere) fun result _ _ => told (.left rule.name position result) elsewhere
  have completed := complete_related (following_respectsPlace apart) rfl invoked
  have noted : ∀ memo : Memo, memo.Bounded stream →
      boundedness.Respects stream (fun _ => True) memo
        (Run.remember rule.name position (.pending false) memo) :=
    fun _ bounded => .of_matched rfl (bounded.put_pending _ _ _) trivial trivial
  rw [evaluate_eq]
  exact Run.Follows.bind noted (fun _ _ => .of_apart nofun (find?_put_of_apart apart _))
    fun _ _ => completed.2

/-- Another application follows the stages, as those in the body of its rule do. -/
theorem applyWith_follows_elsewhere
    (found : matcher.grammar.rule? name = some rule)
    (bounded : memo.Bounded stream) :
    (matcher.applyWith (matcher.applyWithin depth) stream name position memo).Follows
      place stream memo := by
  have elsewhere := (Option.some_injective _).ne apart
  rcases known : memo.find? rule.name position with _ | (reentered | answer)
  · have follows := evaluate_follows apart applied inside memo bounded
    rcases matcher.evaluate_answers (matcher.applyWithin depth) rule stream position memo with
      ⟨fault, ends⟩ | ⟨answer, ends, -⟩
    · rw [applyWith_of_fault found known ends]
      exact follows.congr rfl rfl fun going => absurd rfl (going fault)
    · rw [applyWith_of_evaluated found known ends]
      intro first shows
      obtain ⟨last, passes, goes⟩ := follows first shows
      refine ⟨last, ?_, fun _ => goes (Outcome.ne_fault_of_matched ends)⟩
      exact passes.append_entries (.single (.elsewhere last elsewhere))
  · rw [applyWith_of_pending found known]
    exact .of_apart (List.forall_mem_singleton.mpr elsewhere) (find?_put_of_apart apart _)
  · rw [applyWith_of_done found known]
    exact .of_apart (List.forall_mem_singleton.mpr elsewhere) rfl

end Other

/-! ## Runs -/

/-- Every application follows the stages of every application. -/
theorem applyWithin_staging
    (matcher : Matcher)
    (place : Place)
    (depth : Nat) :
    (staging place).AppliersAgree (fun _ => True) (matcher.applyWithin depth) Empty.elim := by
  induction depth with
  | zero =>
      intro stream offset position name _ _
      exact ⟨fun _ _ => .of_fault rfl trivial, .fail .exhausted⟩
  | succ depth applied =>
      intro stream offset position name _ inside
      constructor
      · exact boundedness.simulation.weaken (fun _ _ hits => ⟨hits.value, hits.reaches⟩)
          ((matcher.applyWithin_bounded (depth + 1)).agree trivial inside)
      · intro memo bounded
        cases found : matcher.grammar.rule? name with
        | none =>
            rw [applyWithin, applyWith_of_undefined found]
            exact Run.Follows.fail _ memo bounded
        | some rule =>
            by_cases same : (rule.name, position + offset) = place
            · subst same
              exact applyWith_follows_itself applied inside found bounded
            · exact applyWith_follows_elsewhere same applied inside found bounded

/-- What a run does about a rule at a position follows the stages of an application that
has not been made before. -/
theorem Makes.passes
    {events : List Event}
    (made : matcher.Makes stream events)
    (place : Place) :
    ∃ last, Passes place (roundLimit stream place.2) .fresh events last := by
  have unknown : Stage.fresh.Shows (Memo.empty.find? place.1 place.2) := by
    rw [Memo.find?_empty]
    exact .fresh
  cases made with
  | rule start =>
      unfold run
      cases found : matcher.grammar.rule? start with
      | none =>
          refine ⟨.fresh, .of_apart _ ?_⟩
          simp only [runWith, found]
          exact List.forall_mem_nil _
      | some rule =>
          have contexts := matcher.staging_agree
            (matcher.applyWithin_staging place (matcher.depthLimit stream)) rule
          obtain ⟨last, passes, -⟩ := (runWith_related found found contexts trivial).2 Memo.empty
            (.empty stream) .fresh unknown
          exact ⟨last, passes⟩
  | inside nesting rule part scope =>
      have contexts := matcher.staging_agree (matcher.applyWithin_staging place nesting) rule
      have evaluated := Simulation.eval_related contexts part (fun _ _ => trivial) stream 0 0
        scope scope (Nat.zero_le _) (.refl (staging place) scope)
      obtain ⟨last, passes, -⟩ := (contexts.whole evaluated).2 Memo.empty (.empty stream) .fresh
        unknown
      exact ⟨last, passes⟩

/-- Answers are final. Once an application of a rule has returned, other than from inside
the evaluation of the rule body at that position, whatever happens about the rule there is
that it is answered in the same way. Its body is evaluated once if no application was made
while it was pending, and otherwise at most as often as its match can grow. -/
theorem answers_are_final
    {events : List Event}
    (made : matcher.Makes stream events)
    (rule : String)
    (position : Nat) :
    (∀ (before : List Event) (event : Event) (after : List Event) (answer : Option Hit),
      events = before ++ event :: after →
      event.returned? (rule, position) = some answer →
      isOpenAfter (rule, position) before = false →
        ∀ later ∈ after, later.place? = some (rule, position) →
          later = .answered rule position answer) ∧
    ((∃ event ∈ events, event.place? = some (rule, position)) →
      .reentered rule position ∉ events → evaluations (rule, position) events = 1) ∧
    evaluations (rule, position) events ≤ stream.length - position + 2 := by
  obtain ⟨last, passes⟩ := made.passes (rule, position)
  have counts : last.count = evaluations (rule, position) events := by
    rw [passes.count_eq, Stage.count, Nat.zero_add]
  have bounded := passes.bounded (Nat.succ_pos _) (Stage.bounded_fresh _)
  refine ⟨?_, ?_, counts ▸ bounded.le_limit⟩
  · rintro before event after answer rfl returns outside
    obtain ⟨first, earlier, rest⟩ := passes.exists_of_append
    cases rest with
    | cons move later =>
        have notInside : first.isInside = false := by
          rw [earlier.isInside_eq]
          exact outside
        obtain ⟨count, met, rfl⟩ := move.settled_of_returned returns notInside
        exact later.eq_answered
  · rintro ⟨event, mem, about⟩ unmet
    rw [← counts]
    refine bounded.once ?_ ?_
    · rintro rfl
      exact passes.apart_of_fresh.2 event mem about
    · refine Bool.eq_false_iff.mpr fun met => ?_
      rcases passes.met_of_met met with earlier | meets
      · cases earlier
      · exact unmet meets

/-- The first term of a sum is evaluated twice, and answered again while the sum grows. -/
theorem first_term_is_final :
    let events := (marked.run (Value.chars "n+n!") "sum").events
    (∃ (before : List Event) (event : Event) (after : List Event),
      events = before ++ event :: after ∧
      event.returned? ("term", 0) = some (some ⟨.char 'n', 1⟩) ∧
      (∃ later ∈ after, later.place? = some ("term", 0)) ∧
      ∀ later ∈ after, later.place? = some ("term", 0) →
        later = .answered "term" 0 (some ⟨.char 'n', 1⟩)) ∧
    evaluations ("term", 0) events = 2 ∧
    evaluations ("term", 0) events ≤ 4 - 0 + 2 := by
  intro events
  have made : marked.Makes (Value.chars "n+n!") events := .rule "sum"
  have final := answers_are_final made "term" 0
  have ninth : events[8]?.bind (Event.returned? ("term", 0)) = some (some ⟨.char 'n', 1⟩) := by
    decide +kernel
  obtain ⟨event, split, returns⟩ := exists_of_returned 8 ninth
  exact ⟨⟨_, event, _, split, returns, by decide +kernel,
    final.1 _ _ _ _ split returns (by decide +kernel)⟩, by decide +kernel, final.2.2⟩

/-- A rule that takes letters to the left of its own match. -/
def growing : Matcher where
  grammar :=
    ⟨1, "Growing", [⟨"r", .alt (.seq [.app "r", .prim (.str "b")]) (.prim (.str "a"))⟩], none⟩

/-- Inside the evaluation of its rule body an application returns before it has its answer:
at first it does not match, and later it has the match that is being grown. -/
theorem inner_answers_change :
    let events := (growing.run (Value.chars "ab") "r").events
    ∃ before later after, events = before ++ later :: after ∧
      (∃ first ∈ before, first.returned? ("r", 0) = some none) ∧
      isOpenAfter ("r", 0) before = true ∧
      later.returned? ("r", 0) = some (some ⟨.str "a", 1⟩) := by
  intro events
  have fifth : events[4]?.bind (Event.returned? ("r", 0)) = some (some ⟨.str "a", 1⟩) := by
    decide +kernel
  obtain ⟨later, split, returns⟩ := exists_of_returned 4 fifth
  exact ⟨_, later, _, split, by decide +kernel, by decide +kernel, returns⟩

end Matcher
end Heirloom
