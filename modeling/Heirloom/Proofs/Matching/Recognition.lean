import Heirloom.Proofs.Matching.Memoized

/-!
# Recognition without values

Actions make values, and no part of a match looks at a value that was made. So
two runs with the same grammar and different actions go through the same events,
apart from the values in them: they remember matches that end at the same places,
bind the same names and fail alike.
-/

namespace Heirloom
namespace Matching

/-! ## What is left without values -/

/-- A match without its value. -/
def Hit.withoutValue (hit : Hit) : Hit := ⟨.undefined, hit.finish⟩

/-- Matches are the same without their values when they end at the same place. -/
theorem Hit.withoutValue_eq_iff {left right : Hit} :
    left.withoutValue = right.withoutValue ↔ left.finish = right.finish := by
  simp [withoutValue]

/-- What is known about an application, without the value of its answer. -/
def Entry.withoutValue : Entry → Entry
  | .pending reentered => .pending reentered
  | .done answer => .done (answer.map Hit.withoutValue)

/-- What the body of a rule came to, without values. -/
def Completion.withoutValues (completion : Completion) : Completion :=
  ⟨completion.bindings.map fun binding => (binding.1, .undefined), .undefined,
    completion.finish⟩

/-- Evaluations are the same without values when they bound the same names in
order and ended at the same place. -/
theorem Completion.withoutValues_eq_iff {left right : Completion} :
    left.withoutValues = right.withoutValues ↔
      left.bindings.map Prod.fst = right.bindings.map Prod.fst ∧
        left.finish = right.finish := by
  have named : Function.Injective fun name : String => (name, Value.undefined) :=
    fun _ _ same => congrArg Prod.fst same
  have names : ∀ bindings : Bindings,
      (bindings.map fun binding => (binding.1, Value.undefined)) =
        (bindings.map Prod.fst).map fun name => (name, Value.undefined) := by
    simp
  simp only [withoutValues, mk.injEq, true_and, names, (List.map_injective_iff.mpr named).eq_iff]

mutual

/-- Something that happens in a run, without the values in it. -/
def Event.withoutValues : Event → Event
  | .entered rule position => .entered rule position
  | .left rule position result => .left rule position (result.map Completion.withoutValues)
  | .reentered rule position => .reentered rule position
  | .answered rule position answer =>
      .answered rule position (answer.map Hit.withoutValue)
  | .nested events => .nested (eventsWithoutValues events)

/-- What happens in a run, in order, without the values in it. -/
def eventsWithoutValues : List Event → List Event
  | [] => []
  | event :: events => event.withoutValues :: eventsWithoutValues events

end

theorem eventsWithoutValues_append (first second : List Event) :
    eventsWithoutValues (first ++ second) =
      eventsWithoutValues first ++ eventsWithoutValues second := by
  induction first with
  | nil => rfl
  | cons event first inductionHypothesis =>
      simp only [List.cons_append, eventsWithoutValues, inductionHypothesis]

/-! ## Runs that differ in values only -/

/-- Memories that know the same of every application, apart from values. -/
def Memo.SameWithoutValues (memo other : Memo) : Prop :=
  ∀ rule position,
    (memo.find? rule position).map Entry.withoutValue =
      (other.find? rule position).map Entry.withoutValue

/-- Entries that are the same without values may be noted on both sides. -/
theorem Memo.SameWithoutValues.put
    {memo other : Memo}
    (same : memo.SameWithoutValues other)
    {entry otherEntry : Entry}
    (entries : entry.withoutValue = otherEntry.withoutValue)
    (rule : String)
    (position : Nat) :
    (Memo.put rule entry position memo).SameWithoutValues
      (Memo.put rule otherEntry position other) := by
  intro name place
  rw [Memo.find?_put, Memo.find?_put]
  split
  · exact congrArg some entries
  · exact same name place

/-- Runs from memories that are the same without values, in which the same happens
apart from values. -/
def recognizing : Lockstep where
  alike _ _ := True
  memories stream offset memo rightMemo :=
    offset = 0 ∧ memo.Bounded stream ∧ memo.SameWithoutValues rightMemo
  changed _ _ _ _ := True
  events happened rightHappened :=
    eventsWithoutValues happened = eventsWithoutValues rightHappened
  excused _ := False
  rightExcused _ := False
  laws.alike_refl _ := trivial
  laws.alike_list _ := trivial
  laws.changed_refl _ _ := trivial
  laws.changed_trans _ _ := trivial
  laws.events_nil := rfl
  laws.events_append first second := by
    rw [eventsWithoutValues_append, eventsWithoutValues_append, first, second]
  laws.events_nested inner := by simp only [eventsWithoutValues, Event.withoutValues, inner]
  laws.inner _ _ := ⟨rfl, .empty _, fun _ _ => rfl⟩

/-- Matches alike are the same without values. -/
theorem map_withoutValue_eq_of_rel
    {stream : List Value}
    {start : Nat}
    {answer rightAnswer : Option Hit}
    (answers : Option.Rel (recognizing.simulation.HitsAlike stream 0 start) answer rightAnswer) :
    answer.map Hit.withoutValue = rightAnswer.map Hit.withoutValue := by
  cases answers with
  | none => rfl
  | some hits => exact congrArg some (Hit.withoutValue_eq_iff.mpr hits.reaches.eq_add)

/-- Entries alike are the same without values. -/
theorem withoutValue_eq_of_entriesAlike
    {stream : List Value}
    {position : Nat}
    {entry rightEntry : Entry}
    (entries : recognizing.simulation.EntriesAlike stream 0 position entry rightEntry) :
    entry.withoutValue = rightEntry.withoutValue := by
  cases entries with
  | pending reentered => rfl
  | done answers => exact congrArg Entry.done (map_withoutValue_eq_of_rel answers)

/-- Scopes alike bind the same names in order. -/
theorem map_fst_eq_of_scopesAlike
    {scope rightScope : Bindings}
    (scopes : recognizing.simulation.ScopesAlike scope rightScope) :
    scope.map Prod.fst = rightScope.map Prod.fst := by
  induction scopes with
  | nil => rfl
  | cons bound _ inductionHypothesis =>
      rw [List.map_cons, List.map_cons, bound.1, inductionHypothesis]

/-- Memories that are the same without values know alike entries, as long as
matches lie in the stream. -/
theorem entriesAlike_of_sameWithoutValues
    {stream : List Value}
    {memo rightMemo : Memo}
    (bounded : memo.Bounded stream)
    (same : memo.SameWithoutValues rightMemo)
    (rule : String)
    (position : Nat) :
    Option.Rel (recognizing.simulation.EntriesAlike stream 0 position)
      (memo.find? rule position) (rightMemo.find? rule position) := by
  have entries := same rule position
  generalize rightKnown : rightMemo.find? rule position = rightEntry at entries
  rcases known : memo.find? rule position with _ | (reentered | (_ | hit))
  all_goals
    rcases rightEntry with _ | (rightReentered | (_ | rightHit)) <;>
      simp only [known, Option.map_none, Option.map_some, Entry.withoutValue, reduceCtorEq,
        Option.some.injEq, Entry.pending.injEq, Entry.done.injEq,
        Hit.withoutValue_eq_iff] at entries
  · exact .none
  · exact entries ▸ .some (.pending reentered)
  · exact .some (.done .none)
  · obtain ⟨start, finish⟩ := bounded known
    exact .some (.done (.some ⟨trivial, entries, start, finish⟩))

/-- Events that are the same without values may be told on both sides. -/
theorem recognizing_tell
    {stream : List Value}
    {offset : Nat}
    {event rightEvent : Event}
    (same : offset = 0 → event.withoutValues = rightEvent.withoutValues) :
    recognizing.simulation.Related stream offset (fun _ _ => True)
      (Run.tell event) fun _ => Run.tell rightEvent := by
  refine Lockstep.Goes.tell ?_
  rintro _ _ ⟨start, -⟩
  exact congrArg (fun event => [event]) (same start)

/-- On both sides the same is known, noted and told, apart from values. -/
theorem recognizing_respectsMemory :
    recognizing.simulation.RespectsMemory fun _ => True where
  consult := by
    rintro stream offset position rule _ memo rightMemo ⟨rfl, bounded, same⟩
    exact .inr ⟨.matched (entriesAlike_of_sameWithoutValues bounded same rule position), rfl,
      fun _ => ⟨rfl, bounded, same⟩, fun _ => trivial⟩
  remember := by
    rintro stream offset position rule entry rightEntry _ entries memo rightMemo
      ⟨rfl, bounded, same⟩
    exact .inr ⟨.matched trivial, rfl,
      fun _ => ⟨rfl, entries.bounded_put bounded rule,
        same.put (withoutValue_eq_of_entriesAlike entries) rule position⟩,
      fun _ => trivial⟩
  entered rule := recognizing_tell (by rintro rfl; rfl)
  left := by
    intro stream offset position rule result rightResult completions
    refine recognizing_tell ?_
    rintro rfl
    cases completions with
    | none => rfl
    | some alike =>
        have same := Completion.withoutValues_eq_iff.mpr
          ⟨map_fst_eq_of_scopesAlike alike.bindings, alike.reaches.eq_add⟩
        exact congrArg (fun completion => Event.left rule position (some completion)) same
  reentered rule := recognizing_tell (by rintro rfl; rfl)
  answered := by
    intro stream offset position rule answer rightAnswer answers
    refine recognizing_tell ?_
    rintro rfl
    exact congrArg (Event.answered rule position) (map_withoutValue_eq_of_rel answers)
  failed fault := Lockstep.Goes.fail fault

end Matching

open Matching

namespace Matcher

/-! ## Matching with other actions -/

/-- Applications with other actions do the same, apart from values. -/
theorem applyWithin_recognizing
    (matcher : Matcher)
    (first second : Actions)
    (depth : Nat) :
    recognizing.simulation.AppliersAgree (fun _ => True)
      (applyWithin { matcher with actions := first } depth)
      fun _ => applyWithin { matcher with actions := second } depth := by
  induction depth with
  | zero =>
      intro stream offset position name _ _
      exact recognizing_respectsMemory.failed .exhausted
  | succ depth inductionHypothesis =>
      exact applyWith_related recognizing_respectsMemory (fun _ => rfl) (fun _ _ => rfl)
        (fun _ _ _ _ => trivial) (fun _ _ _ _ _ _ _ => trivial)
        fun rule => inductionHypothesis.agree fun _ _ => trivial

/-- A match with other actions ends alike, and the same happens in it apart from
values. -/
theorem run_recognizing
    (matcher : Matcher)
    (first second : Actions)
    (stream : List Value)
    (name : String) :
    Outcome.Rel (fun _ _ => True)
        (matchAll { matcher with actions := first } stream name)
        (matchAll { matcher with actions := second } stream name) ∧
      eventsWithoutValues (run { matcher with actions := first } stream name).events =
        eventsWithoutValues (run { matcher with actions := second } stream name).events := by
  cases found : matcher.grammar.rule? name with
  | none =>
      simp only [matchAll, run, runWith, found]
      exact ⟨.fault _, trivial⟩
  | some rule =>
      let left : Matcher := { matcher with actions := first }
      let right : Matcher := { matcher with actions := second }
      have leftFound : left.grammar.rule? name = some rule := found
      have rightFound : right.grammar.rule? name = some rule := found
      have applied :=
        matcher.applyWithin_recognizing first second (matcher.depthLimit stream)
      have start : recognizing.memories stream 0 Memo.empty Memo.empty :=
        ⟨rfl, .empty stream, fun _ _ => rfl⟩
      rcases runWith_related leftFound rightFound (applied.agree fun _ _ => trivial) trivial
        Memo.empty Memo.empty start with (⟨_, ⟨⟩, _⟩ | ⟨_, ⟨⟩, _⟩) | report
      exact ⟨report.outcomes, report.events⟩

/-- Actions never influence recognition. Whatever the grammar, the rule and the
input, matching with two tables of actions ends with the same fault, with two
mismatches or with two matches, and the two runs go through the same rule
applications: the answers end at the same places and the bodies bind the same names
in the same order. Only the values may differ. -/
theorem actions_never_influence_recognition
    (matcher : Matcher)
    (first second : Actions)
    (name : String) :
    let left := { matcher with actions := first }
    let right := { matcher with actions := second }
    (∀ stream, Outcome.Rel (fun _ _ => True)
      (left.matchAll stream name) (right.matchAll stream name)) ∧
    (∀ value, Outcome.Rel (fun _ _ => True)
      (left.matchValue value name) (right.matchValue value name)) ∧
    (∀ text, Outcome.Rel (fun _ _ => True)
      (left.matchText text name) (right.matchText text name)) ∧
    ∀ stream, eventsWithoutValues (left.run stream name).events =
      eventsWithoutValues (right.run stream name).events := by
  have ends := fun stream => (matcher.run_recognizing first second stream name).1
  exact ⟨ends, fun value => ends [value], fun text => ends (Value.chars text),
    fun stream => (matcher.run_recognizing first second stream name).2⟩

end Matcher
end Heirloom
