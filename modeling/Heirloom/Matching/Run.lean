import Heirloom.Matching.Bindings
import Heirloom.Matching.Journal
import Heirloom.Matching.Memo

/-!
# Runs

A run works on the memory of one stream. It ends with a match, a mismatch or a
fault, and reports what it did on the way, in order. A mismatch is no fault:
it lets an alternative be tried, with the memory kept. A run inside a string, a
list or an object has a memory of its own, which is forgotten afterwards.
-/

namespace Heirloom
namespace Matching

/-- Why a run could not be carried on. -/
inductive Fault
  /-- A rule was applied that is defined nowhere in the lineage of the grammar. -/
  | undefinedRule (grammar rule : String)
  /-- The bound on nested applications or rounds was too small. -/
  | exhausted
  deriving DecidableEq

/-- How a run ends. -/
inductive Outcome (α : Type)
  | matched (result : α)
  | mismatch
  | fault (fault : Fault)
  deriving DecidableEq

/-- What the body of a rule came to. -/
structure Completion where
  /-- What it bound. -/
  bindings : Bindings
  /-- Its value before any action. -/
  value : Value
  /-- The position after it. -/
  finish : Nat
  deriving DecidableEq

/-- Something that happens in a run. -/
inductive Event
  /-- The evaluation of a rule body starts. -/
  | entered (rule : String) (position : Nat)
  /-- The evaluation of a rule body ends. -/
  | left (rule : String) (position : Nat) (result : Option Completion)
  /-- An application finds itself in progress. -/
  | reentered (rule : String) (position : Nat)
  /-- An application is answered, from memory or by evaluation. -/
  | answered (rule : String) (position : Nat) (result : Option Hit)
  /-- What happens inside an element that is matched as a stream. -/
  | nested (events : List Event)

/-- The end of a run with its memory and what happened. -/
structure Report (α : Type) where
  /-- How the run ended. -/
  outcome : Outcome α
  /-- What is known afterwards. -/
  memo : Memo
  /-- What happened. -/
  journal : Journal Event

/-- What happened, in order. -/
def Report.events (report : Report α) : List Event := report.journal.entries

/-- A computation on the memory of one stream. -/
def Run (α : Type) := Memo → Report α

namespace Run

/-- End with a match. -/
def done (result : α) : Run α := fun memo => ⟨.matched result, memo, .empty⟩

/-- End with a mismatch. -/
def mismatch : Run α := fun memo => ⟨.mismatch, memo, .empty⟩

/-- End with a fault. -/
def fail (fault : Fault) : Run α := fun memo => ⟨.fault fault, memo, .empty⟩

/-- Go on after a match. -/
def andThen (first : Run α) (next : α → Run β) : Run β := fun memo =>
  let report := first memo
  match report.outcome with
  | .matched result =>
      let following := next result report.memo
      ⟨following.outcome, following.memo, report.journal ++ following.journal⟩
  | .mismatch => ⟨.mismatch, report.memo, report.journal⟩
  | .fault fault => ⟨.fault fault, report.memo, report.journal⟩

/-- Going on after an immediate match is just going on. -/
theorem done_andThen
    (result : α)
    (next : α → Run β) :
    andThen (done result) next = next result := rfl

/-- Going on with an immediate match changes nothing. -/
theorem andThen_done (run : Run α) :
    andThen run done = run := by
  funext memo
  unfold andThen done
  rcases run memo with ⟨outcome, after, journal⟩
  cases outcome <;> simp

/-- Going on twice is going on with what goes on. -/
theorem andThen_assoc
    (run : Run α)
    (first : α → Run β)
    (second : β → Run γ) :
    andThen (andThen run first) second =
      andThen run fun result => andThen (first result) second := by
  funext memo
  unfold andThen
  rcases run memo with ⟨outcome, after, journal⟩
  cases outcome with
  | matched result =>
      dsimp only
      rcases first result after with ⟨outcome, after, journal⟩
      cases outcome <;> simp
  | mismatch => rfl
  | fault fault => rfl

instance : Monad Run where
  pure := done
  bind := andThen

instance : LawfulMonad Run :=
  LawfulMonad.mk' Run andThen_done done_andThen andThen_assoc

/-- Turn a mismatch into the absence of a result. -/
def attempt (run : Run α) : Run (Option α) := fun memo =>
  let report := run memo
  match report.outcome with
  | .matched result => ⟨.matched (some result), report.memo, report.journal⟩
  | .mismatch => ⟨.matched none, report.memo, report.journal⟩
  | .fault fault => ⟨.fault fault, report.memo, report.journal⟩

/-- End with a match if there is a result. -/
def ofOption : Option α → Run α
  | some result => done result
  | none => mismatch

/-- What is known about a rule at a position. -/
def consult (rule : String) (position : Nat) : Run (Option Entry) := fun memo =>
  ⟨.matched (memo.find? rule position), memo, .empty⟩

/-- Note what is known about a rule at a position. -/
def remember (rule : String) (position : Nat) (entry : Entry) : Run Unit := fun memo =>
  ⟨.matched (), Memo.put rule entry position memo, .empty⟩

/-- Report that something happened. -/
def tell (event : Event) : Run Unit := fun memo =>
  ⟨.matched (), memo, .single event⟩

/-- Run on another stream, with an empty memory that is forgotten afterwards. -/
def within (run : Run α) : Run α := fun memo =>
  let report := run Memo.empty
  ⟨report.outcome, memo, .single (.nested report.events)⟩

end Run

/-- The call of an action: the rule, its bindings and its default value. -/
structure ActionCall where
  /-- The rule. -/
  rule : String
  /-- What its body bound. -/
  bindings : Bindings
  /-- The value of its body. -/
  value : Value
  deriving DecidableEq

mutual

/-- The action calls that an event stands for. -/
def Event.actionCalls (actions : Actions) : Event → List ActionCall
  | .left rule _ (some completion) =>
      if (actions.get? rule).isSome then [⟨rule, completion.bindings, completion.value⟩] else []
  | .nested events => actionCallsOf actions events
  | _ => []

/-- The action calls that a list of events stands for, in order. -/
def actionCallsOf (actions : Actions) : List Event → List ActionCall
  | [] => []
  | event :: events => event.actionCalls actions ++ actionCallsOf actions events

end

end Matching
end Heirloom
