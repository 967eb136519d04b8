import Heirloom.Proofs.Matching.Invariant
import Heirloom.Proofs.Matching.Progress

/-!
# What runs hold on to

A run notes new entries in the memory and replaces some. What it holds on to can be used
to compare it with a run from a later memory: the later run comes to the same if all that
the first one looked at is still there.
-/

namespace Heirloom
namespace Matching

/-! ## Memories that hold on -/

/-- What is known stays known. What has been answered, or met in progress, stays so,
except perhaps at one place. -/
structure Memo.Holds (but : Option Place) (before after : Memo) : Prop where
  known : ∀ {rule : String} {position : Nat},
    (before.find? rule position).isSome → (after.find? rule position).isSome
  firm : ∀ {rule : String} {position : Nat} {entry : Entry},
    entry ≠ .pending false → but ≠ some (rule, position) →
      before.find? rule position = some entry → after.find? rule position = some entry

namespace Memo.Holds

variable
  {but : Option Place}
  {rule : String}
  {position : Nat}

theorem refl (but : Option Place) (memo : Memo) : Holds but memo memo :=
  ⟨id, fun _ _ => id⟩

theorem trans
    {first second third : Memo}
    (before : Holds but first second)
    (after : Holds but second third) :
    Holds but first third :=
  ⟨fun known => after.known (before.known known),
    fun firm apart known => after.firm firm apart (before.firm firm apart known)⟩

/-- Whatever is noted at the excepted place, the others stay. -/
theorem put_self (entry : Entry) (memo : Memo) :
    Holds (some (rule, position)) memo (Memo.put rule entry position memo) where
  known := isSome_find?_put rule entry position
  firm _ apart known := by
    refine (find?_put_of_ne ?_ entry memo).trans known
    rintro ⟨rfl, rfl⟩
    exact apart rfl

/-- An application in progress may be met. -/
theorem put_met
    {memo : Memo}
    {reentered : Bool}
    (known : memo.find? rule position = some (.pending reentered)) :
    Holds but memo (Memo.put rule (.pending true) position memo) where
  known := isSome_find?_put rule _ position
  firm := by
    intro other place entry firm _ found
    rw [find?_put]
    split
    · next here =>
        obtain ⟨rfl, rfl⟩ := here
        rw [known] at found
        cases found
        cases reentered with
        | false => exact absurd rfl firm
        | true => rfl
    · exact found

/-- What holds on to everything else after a note in an unknown place holds on to
everything that was known before. -/
theorem of_put
    {memo after : Memo}
    {entry : Entry}
    (holds : Holds (some (rule, position)) (Memo.put rule entry position memo) after)
    (unknown : memo.find? rule position = none) :
    Holds but memo after where
  known known := holds.known (isSome_find?_put rule entry position known)
  firm := by
    intro other place found firm _ known
    have apart : ¬ (other = rule ∧ place = position) := by
      rintro ⟨rfl, rfl⟩
      rw [unknown] at known
      cases known
    refine holds.firm firm ?_ ((find?_put_of_ne apart entry memo).trans known)
    rintro ⟨⟩
    exact apart ⟨rfl, rfl⟩

/-- Something may be excepted. -/
theorem except
    {memo after : Memo}
    (holds : Holds none memo after)
    (but : Option Place) :
    Holds but memo after :=
  ⟨holds.known, fun firm _ known => holds.firm firm nofun known⟩

end Memo.Holds

/-- Nothing known has changed. -/
def Memo.Unchanged (memo after : Memo) : Prop :=
  ∀ name position, after.find? name position = memo.find? name position

theorem Memo.Unchanged.trans
    {first second third : Memo}
    (before : Unchanged first second)
    (after : Unchanged second third) :
    Unchanged first third :=
  fun name position => (after name position).trans (before name position)

/-! ## Ends of runs -/

/-- The value and the end of a step, without what it bound. -/
def Step.hit (step : Step) : Hit :=
  ⟨step.value, step.position⟩

/-- The same match on both sides, inside the stream. -/
structure EqualHits (stream : List Value) (start : Nat) (hit other : Hit) : Prop where
  equal : hit = other
  bounded : hit.Bounded stream start

/-- The run has ended like the given outcome and has left a memory with a property,
unless it has reached a bound. Nothing is said of the memory after a fault. -/
def Report.ComesTo
    (same : α → β → Prop)
    (outcome : Outcome α)
    (leaves : Memo → Prop)
    (report : Report β) : Prop :=
  report.outcome = .fault .exhausted ∨
    Outcome.Rel same outcome report.outcome ∧
      ((∀ fault, outcome ≠ .fault fault) → leaves report.memo)

namespace Report.ComesTo

variable
  {α β γ δ : Type}
  {same : α → β → Prop}
  {following : γ → δ → Prop}
  {leaves middle : Memo → Prop}
  {run : Run β}
  {next : β → Run δ}
  {start : Memo}

theorem imp
    {weaker : α → β → Prop}
    {outcome : Outcome α}
    {leavesLess : Memo → Prop}
    {report : Report β}
    (ends : report.ComesTo same outcome leaves)
    (results : ∀ {result other}, same result other → weaker result other)
    (memories : ∀ {memo}, leaves memo → leavesLess memo) :
    report.ComesTo weaker outcome leavesLess :=
  Or.imp_right (fun ends => ⟨ends.1.imp results, fun going => memories (ends.2 going)⟩) ends

/-- Nothing is said of results and memories after a fault. -/
theorem of_fault
    {other : γ → β → Prop}
    {fault : Fault}
    {report : Report β}
    (ends : report.ComesTo same (.fault fault) middle) :
    report.ComesTo other (.fault fault) leaves := by
  refine Or.imp_right (fun ends => ⟨?_, fun going => absurd rfl (going fault)⟩) ends
  generalize report.outcome = outcome at ends
  cases ends.1
  exact .fault fault

theorem bind_matched
    {result : α}
    {outcome : Outcome γ}
    (ends : (run start).ComesTo same (.matched result) middle)
    (rest : ∀ other memo, same result other → middle memo →
      (next other memo).ComesTo following outcome leaves) :
    ((run >>= next) start).ComesTo following outcome leaves := by
  rcases ends with exhausted | ⟨outcomes, left⟩
  · rw [Run.bind_of_fault exhausted]
    exact .inl rfl
  · obtain ⟨other, matched, results⟩ := outcomes.exists_of_matched
    rw [Run.bind_of_matched matched]
    exact rest other _ results (left (Outcome.ne_fault_of_matched rfl))

theorem bind_mismatch
    (ends : (run start).ComesTo same .mismatch leaves) :
    ((run >>= next) start).ComesTo following .mismatch leaves := by
  rcases ends with exhausted | ⟨outcomes, left⟩
  · rw [Run.bind_of_fault exhausted]
    exact .inl rfl
  · generalize stopped : (run start).outcome = outcome at outcomes
    cases outcomes
    rw [Run.bind_of_mismatch stopped]
    exact .inr ⟨.mismatch, fun _ => left (Outcome.ne_fault_of_mismatch rfl)⟩

theorem bind_fault
    {fault : Fault}
    (ends : (run start).ComesTo same (.fault fault) middle) :
    ((run >>= next) start).ComesTo following (.fault fault) leaves := by
  rcases ends with exhausted | ⟨outcomes, -⟩
  · rw [Run.bind_of_fault exhausted]
    exact .inl rfl
  · generalize failed : (run start).outcome = outcome at outcomes
    cases outcomes
    rw [Run.bind_of_fault failed]
    exact .inr ⟨.fault fault, fun going => absurd rfl (going fault)⟩

theorem attempt
    {answer : Option α}
    (ends : (run start).ComesTo same (.ofOption answer) leaves) :
    (run.attempt start).ComesTo (Option.Rel same) (.matched answer) leaves := by
  rcases ends with exhausted | ⟨outcomes, left⟩
  · rw [Run.attempt_of_fault exhausted]
    exact .inl rfl
  · generalize ended : (run start).outcome = outcome at outcomes
    replace left := left (Outcome.ofOption_ne_fault answer)
    cases answer with
    | none =>
        cases outcomes
        rw [Run.attempt_of_mismatch ended]
        exact .inr ⟨.matched .none, fun _ => left⟩
    | some result =>
        cases outcomes with
        | matched results =>
            rw [Run.attempt_of_matched ended]
            exact .inr ⟨.matched (.some results), fun _ => left⟩

theorem attempt_fault
    {fault : Fault}
    (ends : (run start).ComesTo same (.fault fault) middle) :
    (run.attempt start).ComesTo (Option.Rel same) (.fault fault) leaves := by
  rcases ends with exhausted | ⟨outcomes, -⟩
  · rw [Run.attempt_of_fault exhausted]
    exact .inl rfl
  · generalize failed : (run start).outcome = outcome at outcomes
    cases outcomes
    rw [Run.attempt_of_fault failed]
    exact .inr ⟨.fault fault, fun going => absurd rfl (going fault)⟩

/-- A run on a stream of its own leaves the memory outside as it was. -/
theorem within
    {outcome : Outcome α}
    (ends : (run Memo.empty).ComesTo same outcome middle)
    (stays : leaves start) :
    ((Run.within run) start).ComesTo same outcome leaves :=
  Or.imp_right (fun ends => ⟨ends.1, fun _ => stays⟩) ends

end Report.ComesTo
end Matching
end Heirloom
