import Heirloom.Proofs.Matching.Progress

/-!
# The stages of an application

What a run does about one rule at one position, as a machine that the events of the run
drive. Nothing has happened at first. Then the rule body is entered and left, and if the
application was met in between, it may be entered again. At last the application has an
answer, and from then on it gives that answer and does nothing else.
-/

namespace Heirloom
namespace Matching

/-- The rule and the position that an event is about. -/
def Event.place? : Event → Option Place
  | .entered rule position => some (rule, position)
  | .left rule position _ => some (rule, position)
  | .reentered rule position => some (rule, position)
  | .answered rule position _ => some (rule, position)
  | .nested _ => none

/-- What an application of a rule at a position returns with an event: a match, or that it
does not match. -/
def Event.returned? (place : Place) : Event → Option (Option Hit)
  | .reentered rule position => if (rule, position) = place then some none else none
  | .answered rule position answer => if (rule, position) = place then some answer else none
  | _ => none

/-- Whether the body of a rule is being evaluated at a position after an event. -/
def Event.isOpen (place : Place) (isOpen : Bool) : Event → Bool
  | .entered rule position => (rule, position) == place || isOpen
  | .left rule position _ => (rule, position) != place && isOpen
  | _ => isOpen

/-- Whether the body of a rule is being evaluated at a position after several events: it
has been entered and not left. -/
def isOpenAfter (place : Place) (events : List Event) : Bool :=
  events.foldl (Event.isOpen place) false

/-- Whether an event is the start of the evaluation of a rule body. -/
def Event.enters (place : Place) : Event → Bool
  | .entered rule position => (rule, position) == place
  | _ => false

/-- How often the evaluation of a rule body starts at a position. -/
def evaluations (place : Place) (events : List Event) : Nat :=
  events.countP (Event.enters place)

/-- How far the application of a rule at a position has come. -/
inductive Stage
  /-- It has not been made. -/
  | fresh
  /-- The rule body is being evaluated, for the first time or once more. -/
  | inside (count : Nat) (met : Bool)
  /-- The rule body has been evaluated, and may be evaluated once more. -/
  | between (count : Nat) (met : Bool)
  /-- It has been answered. -/
  | settled (count : Nat) (met : Bool) (answer : Option Hit)

namespace Stage

/-- How often the evaluation of the rule body has started. -/
def count : Stage → Nat
  | fresh => 0
  | inside count _ | between count _ | settled count _ _ => count

/-- Whether the application was met in its first evaluation. -/
def met : Stage → Bool
  | fresh => false
  | inside _ met | between _ met | settled _ met _ => met

/-- Whether the rule body is being evaluated. -/
def isInside : Stage → Bool
  | inside _ _ => true
  | _ => false

end Stage

/-- How one event takes an application from one stage to another, if its rule body may be
evaluated so often. -/
inductive Moves (place : Place) (limit : Nat) : Stage → Event → Stage → Prop
  /-- What is about something else changes nothing. -/
  | elsewhere (stage : Stage) {event : Event} (apart : event.place? ≠ some place) :
      Moves place limit stage event stage
  /-- The rule body is entered for the first time. -/
  | enter : Moves place limit .fresh (.entered place.1 place.2) (.inside 1 false)
  /-- The application finds itself in progress. -/
  | meet (count : Nat) (met : Bool) :
      Moves place limit (.inside count met) (.reentered place.1 place.2) (.inside count true)
  /-- The application is answered by the match that is being grown. -/
  | seed (count : Nat) (answer : Option Hit) :
      Moves place limit (.inside count true) (.answered place.1 place.2 answer)
        (.inside count true)
  /-- The rule body is left. -/
  | leave (count : Nat) (met : Bool) (result : Option Completion) :
      Moves place limit (.inside count met) (.left place.1 place.2 result) (.between count met)
  /-- The rule body is entered once more. -/
  | again {count : Nat} (within : count < limit) :
      Moves place limit (.between count true) (.entered place.1 place.2)
        (.inside (count + 1) true)
  /-- The application is answered. -/
  | settle (count : Nat) (met : Bool) (answer : Option Hit) :
      Moves place limit (.between count met) (.answered place.1 place.2 answer)
        (.settled count met answer)
  /-- The application is answered as before. -/
  | echo (count : Nat) (met : Bool) (answer : Option Hit) :
      Moves place limit (.settled count met answer) (.answered place.1 place.2 answer)
        (.settled count met answer)

/-- How several events take an application from one stage to another. -/
inductive Passes (place : Place) (limit : Nat) : Stage → List Event → Stage → Prop
  | nil (stage : Stage) : Passes place limit stage [] stage
  | cons {first next last : Stage} {event : Event} {events : List Event}
      (move : Moves place limit first event next)
      (rest : Passes place limit next events last) :
      Passes place limit first (event :: events) last

section Apart

variable
  {place : Place}
  {event : Event}

/-- What is about something else starts no evaluation. -/
theorem Event.enters_of_apart
    (apart : event.place? ≠ some place) :
    event.enters place = false := by
  cases event with
  | entered rule position => simpa [place?, enters] using apart
  | left | reentered | answered | nested => rfl

/-- What is about something else neither enters nor leaves the rule body. -/
theorem Event.isOpen_of_apart
    (apart : event.place? ≠ some place)
    (isOpen : Bool) :
    event.isOpen place isOpen = isOpen := by
  cases event with
  | entered rule position =>
      have other : ((rule, position) == place) = false := by simpa [place?] using apart
      rw [Event.isOpen, other, Bool.false_or]
  | left rule position result =>
      have other : ((rule, position) != place) = true := by simpa [place?] using apart
      rw [Event.isOpen, other, Bool.true_and]
  | reentered | answered | nested => rfl

/-- With what is about something else no application returns. -/
theorem Event.returned?_of_apart
    (apart : event.place? ≠ some place) :
    event.returned? place = none := by
  cases event with
  | reentered rule position =>
      have other : (rule, position) ≠ place := by simpa [place?] using apart
      rw [returned?, if_neg other]
  | answered rule position answer =>
      have other : (rule, position) ≠ place := by simpa [place?] using apart
      rw [returned?, if_neg other]
  | entered | left | nested => rfl

/-- Where an application returns, the events are split by its return. -/
theorem exists_of_returned
    {events : List Event}
    {answer : Option Hit}
    (index : Nat)
    (returns : events[index]?.bind (Event.returned? place) = some answer) :
    ∃ event, events = events.take index ++ event :: events.drop (index + 1) ∧
      event.returned? place = some answer := by
  obtain ⟨event, found, answers⟩ := Option.bind_eq_some_iff.mp returns
  obtain ⟨inside, rfl⟩ := List.getElem?_eq_some_iff.mp found
  refine ⟨_, ?_, answers⟩
  rw [← List.drop_eq_getElem_cons inside, List.take_append_drop]

end Apart

namespace Moves

variable
  {place : Place}
  {limit : Nat}
  {first next : Stage}
  {event : Event}

/-- Evaluations are counted when they start. -/
theorem count_eq
    (move : Moves place limit first event next) :
    next.count = first.count + if event.enters place then 1 else 0 := by
  cases move with
  | elsewhere _ apart => simp [Event.enters_of_apart apart]
  | enter | again => simp [Stage.count, Event.enters]
  | meet | seed | leave | settle | echo => rfl

/-- The rule body is being evaluated from when it is entered until it is left. -/
theorem isInside_eq
    (move : Moves place limit first event next) :
    next.isInside = event.isOpen place first.isInside := by
  cases move with
  | elsewhere _ apart => rw [Event.isOpen_of_apart apart]
  | enter | again | leave => simp [Stage.isInside, Event.isOpen]
  | meet | seed | settle | echo => rfl

/-- An application that has been met stays so. -/
theorem met_mono
    (move : Moves place limit first event next)
    (met : first.met = true) :
    next.met = true := by
  cases move with
  | elsewhere | seed | leave | settle | echo => exact met
  | enter => cases met
  | meet | again => rfl

/-- An application that has been met was so before, or it finds itself in progress. -/
theorem met_of_met
    (move : Moves place limit first event next)
    (met : next.met = true) :
    first.met = true ∨ event = .reentered place.1 place.2 := by
  cases move with
  | elsewhere | seed | leave | again | settle | echo => exact .inl met
  | enter => cases met
  | meet => exact .inr rfl

/-- An application that returns while its rule body is not being evaluated has got its
answer. -/
theorem settled_of_returned
    {answer : Option Hit}
    (move : Moves place limit first event next)
    (returns : event.returned? place = some answer)
    (outside : first.isInside = false) :
    ∃ count met, next = .settled count met answer := by
  cases move with
  | elsewhere _ apart =>
      rw [Event.returned?_of_apart apart] at returns
      cases returns
  | enter | leave | again => cases returns
  | meet | seed => cases outside
  | settle count met answered | echo count met answered =>
      obtain rfl : answered = answer := by simpa [Event.returned?] using returns
      exact ⟨count, met, rfl⟩

end Moves

/-- The rule body has been evaluated within the limit, and only once if the application has
not been met. -/
structure Stage.Bounded (limit : Nat) (stage : Stage) : Prop where
  le_limit : stage.count ≤ limit
  once : stage ≠ .fresh → stage.met = false → stage.count = 1

theorem Stage.bounded_fresh (limit : Nat) : Stage.fresh.Bounded limit :=
  ⟨Nat.zero_le limit, fun started => absurd rfl started⟩

theorem Moves.bounded
    {place : Place}
    {limit : Nat}
    {first next : Stage}
    {event : Event}
    (move : Moves place limit first event next)
    (positive : 0 < limit)
    (bounded : first.Bounded limit) :
    next.Bounded limit := by
  cases move with
  | elsewhere | seed | echo => exact bounded
  | enter => exact ⟨positive, fun _ _ => rfl⟩
  | meet => exact ⟨bounded.le_limit, nofun⟩
  | leave | settle => exact ⟨bounded.le_limit, fun _ => bounded.once nofun⟩
  | again within => exact ⟨within, nofun⟩

namespace Passes

variable
  {place : Place}
  {limit : Nat}
  {first middle last : Stage}
  {event : Event}
  {events others : List Event}

theorem single
    (move : Moves place limit first event last) :
    Passes place limit first [event] last :=
  .cons move (.nil last)

theorem append
    (passes : Passes place limit first events middle)
    (further : Passes place limit middle others last) :
    Passes place limit first (events ++ others) last := by
  induction passes with
  | nil => exact further
  | cons move _ inductionHypothesis => exact .cons move (inductionHypothesis further)

/-- Journals that are put together take an application further. -/
theorem append_entries
    {journal other : Journal Event}
    (passes : Passes place limit first journal.entries middle)
    (further : Passes place limit middle other.entries last) :
    Passes place limit first (journal ++ other).entries last := by
  rw [Journal.entries_append]
  exact passes.append further

/-- Events that are about something else change nothing. -/
theorem of_apart
    (stage : Stage)
    (apart : ∀ event ∈ events, event.place? ≠ some place) :
    Passes place limit stage events stage := by
  induction events with
  | nil => exact .nil stage
  | cons event events inductionHypothesis =>
      rw [List.forall_mem_cons] at apart
      exact .cons (.elsewhere stage apart.1) (inductionHypothesis apart.2)

/-- Where events are put together there is a stage in between. -/
theorem exists_of_append
    (passes : Passes place limit first (events ++ others) last) :
    ∃ middle, Passes place limit first events middle ∧ Passes place limit middle others last := by
  induction events generalizing first with
  | nil => exact ⟨first, .nil first, passes⟩
  | cons event events inductionHypothesis =>
      cases passes with
      | cons move rest =>
          obtain ⟨middle, before, after⟩ := inductionHypothesis rest
          exact ⟨middle, .cons move before, after⟩

/-- Evaluations are counted on the way. -/
theorem count_eq
    (passes : Passes place limit first events last) :
    last.count = first.count + evaluations place events := by
  induction passes with
  | nil => rfl
  | cons move _ inductionHypothesis =>
      rw [inductionHypothesis, move.count_eq, evaluations, evaluations, List.countP_cons]
      omega

/-- The stage tells whether the rule body is being evaluated. -/
theorem isInside_eq
    (passes : Passes place limit first events last) :
    last.isInside = events.foldl (Event.isOpen place) first.isInside := by
  induction passes with
  | nil => rfl
  | cons move _ inductionHypothesis => rw [inductionHypothesis, move.isInside_eq, List.foldl_cons]

/-- An application that has been met stays so. -/
theorem met_mono
    (passes : Passes place limit first events last)
    (met : first.met = true) :
    last.met = true := by
  induction passes with
  | nil => exact met
  | cons move _ inductionHypothesis => exact inductionHypothesis (move.met_mono met)

/-- An application that has not been met before is met on the way or not at all. -/
theorem met_of_met
    (passes : Passes place limit first events last)
    (met : last.met = true) :
    first.met = true ∨ .reentered place.1 place.2 ∈ events := by
  induction passes with
  | nil => exact .inl met
  | cons move _ inductionHypothesis =>
      rcases inductionHypothesis met with earlier | later
      · refine (move.met_of_met earlier).imp_right ?_
        rintro rfl
        exact List.mem_cons_self
      · exact .inr (List.mem_cons_of_mem _ later)

theorem bounded
    (passes : Passes place limit first events last)
    (positive : 0 < limit)
    (bounded : first.Bounded limit) :
    last.Bounded limit := by
  induction passes with
  | nil => exact bounded
  | cons move _ inductionHypothesis => exact inductionHypothesis (move.bounded positive bounded)

/-- An application that has been answered only gives its answer. -/
theorem eq_answered
    {count : Nat}
    {met : Bool}
    {answer : Option Hit}
    (passes : Passes place limit (.settled count met answer) events last) :
    ∀ event ∈ events, event.place? = some place → event = .answered place.1 place.2 answer := by
  generalize settled : Stage.settled count met answer = stage at passes
  induction passes with
  | nil => exact nofun
  | cons move _ inductionHypothesis =>
      subst settled
      intro event mem about
      cases move with
      | elsewhere _ apart =>
          rcases List.mem_cons.mp mem with rfl | later
          · exact absurd about apart
          · exact inductionHypothesis rfl event later about
      | echo =>
          rcases List.mem_cons.mp mem with same | later
          · exact same
          · exact inductionHypothesis rfl event later about

/-- While an application has not been made, nothing is about it. -/
theorem apart_of_fresh
    (passes : Passes place limit first events .fresh) :
    first = .fresh ∧ ∀ event ∈ events, event.place? ≠ some place := by
  generalize fresh : Stage.fresh = stage at passes
  induction passes with
  | nil => exact ⟨rfl, nofun⟩
  | cons move _ inductionHypothesis =>
      obtain ⟨unmoved, later⟩ := inductionHypothesis fresh
      subst fresh unmoved
      cases move with
      | elsewhere _ apart => exact ⟨rfl, List.forall_mem_cons.mpr ⟨apart, later⟩⟩

end Passes
end Matching
end Heirloom
