import Heirloom.Proofs.Matching.Growth
import Heirloom.Proofs.Matching.Memoized
import Heirloom.Proofs.Matching.Renamed
import Heirloom.Proofs.Matching.Retention

/-!
# Wrapping an alternative

One alternative of a rule can be put into an inline rule of its own. The inline rule is
then evaluated once at each position, also where the rule around it is evaluated again
and again because its match is grown. This makes no difference as long as the rule
around it is not applied at the same position while the inline rule is in progress: what
has been remembered of the inline rule is then what the alternative would come to again.

So the run with the inline rule is tracked by the runs without it, at every depth. They
end alike from a memory that shows the same of all other rules, and end so again from
every memory that has held on to what was known at the end.
-/

namespace Heirloom
namespace Matching

/-- Whether an outer rule is never applied at a position while an inner rule is in
progress at the same position of the same stream. -/
def isApart (outer inner : String) : List Place → List Event → Bool :=
  allPass (fun stack place => place.1 != outer || !stack.contains (inner, place.2))
    fun stack place => place.1 != outer || !stack.contains (inner, place.2)

end Matching

open Matching

/-! ## Wrappings -/

/-- A body, and the body with other names for its inline rules in which one of its
alternatives is left to one more inline rule. -/
inductive Encloses (names : String → String) (inner : String) (alternative : Expr) :
    Expr → Expr → Prop
  /-- The body is the alternative. -/
  | here : Encloses names inner alternative alternative
      (.inline inner (alternative.rename names))
  /-- The alternative is among the first ones. -/
  | left {body wrapped other : Expr} (encloses : Encloses names inner alternative body wrapped) :
      Encloses names inner alternative (.alt body other) (.alt wrapped (other.rename names))
  /-- The alternative is among the last ones. -/
  | right {body wrapped other : Expr} (encloses : Encloses names inner alternative body wrapped) :
      Encloses names inner alternative (.alt other body) (.alt (other.rename names) wrapped)

/-- A grammar, and one in which the known rules have other names. In the body of the outer
rule an alternative may be left to the inner rule, which is otherwise not there. -/
structure Wrapping where
  /-- The grammar without the inner rule. -/
  plain : Grammar
  /-- The grammar with the inner rule. -/
  wrapped : Grammar
  /-- The rules that matter. -/
  known : String → Prop
  /-- Their new names. -/
  names : String → String
  /-- The rule with the alternative. -/
  outer : String
  /-- The inline rule that the alternative is left to. -/
  inner : String
  /-- The alternative. -/
  alternative : Expr
  /-- Whether the alternative is left to the inner rule. -/
  enclosed : Prop
  same_name : wrapped.name = plain.name
  known_skip : known skipRuleName
  names_skip : names skipRuleName = skipRuleName
  known_outer : enclosed → known outer
  names_outer : names outer = outer
  injective : ∀ {first second : String}, known first → known second →
    names first = names second → first = second
  apart : ∀ {name : String}, known name → names name ≠ inner
  missing : ∀ {name : String}, known name → plain.rule? name = none →
    wrapped.rule? (names name) = none ∧ names name = name
  found : ∀ {name : String} {rule : Rule}, known name → plain.rule? name = some rule →
    ∃ body, wrapped.rule? (names name) = some ⟨names name, body⟩ ∧
      (body = rule.body.rename names ∨
        name = outer ∧ enclosed ∧ Encloses names inner alternative rule.body body)
  same_class : ∀ {name : String}, known name → (plain.rule? name).isSome →
    isSyntacticName (names name) = isSyntacticName name
  applies : ∀ {name : String} {rule : Rule}, known name → plain.rule? name = some rule →
    ∀ other ∈ rule.body.references, known other
  calls : ∀ {name : String} {rule : Rule}, known name → plain.rule? name = some rule →
    ∀ other ∈ rule.body.calls, names other = other
  inner_found : enclosed → wrapped.rule? inner = some ⟨inner, alternative.rename names⟩
  inner_class : enclosed → isSyntacticName inner = isSyntacticName outer

namespace Wrapping

variable (wrapping : Wrapping)

/-- A matcher for the grammar without the inner rule. -/
def plainMatcher : Matcher := { grammar := wrapping.plain }

/-- A matcher for the grammar with the inner rule. -/
def wrappedMatcher : Matcher := { grammar := wrapping.wrapped }

/-- The alternative, evaluated in the outer rule without the inner one. -/
def alternativeWithin
    (depth : Nat)
    (stream : List Value)
    (position : Nat) : Run Step :=
  eval (wrapping.plainMatcher.contextFor (wrapping.plainMatcher.applyWithin depth)
    ⟨wrapping.outer, wrapping.alternative⟩) wrapping.alternative stream position []

/-! ## Memories -/

/-- A memory of the plain grammar that shows what another one knows of the known rules. -/
def Shadows (memo shadow : Memo) : Prop :=
  ∀ {name : String}, wrapping.known name → ∀ position,
    shadow.find? name position = memo.find? (wrapping.names name) position

/-- A memory of the plain grammar that has held on to what another one knows of the known
rules, except perhaps at one place. -/
def Retains (barred : Option Place) (memo later : Memo) : Prop :=
  ∀ {name : String} {position : Nat} {entry : Entry}, wrapping.known name →
    entry ≠ .pending false → barred ≠ some (name, position) →
      memo.find? (wrapping.names name) position = some entry →
        later.find? name position = some entry

/-- The place that an alternative must not depend on: the outer rule, where the inner
one is the innermost in progress. -/
def barred : Option Place → Option Place
  | some (rule, position) =>
      if rule = wrapping.inner then some (wrapping.outer, position) else none
  | none => none

/-- The alternative comes to an answer from every memory that has held on, except to what
is known of the outer rule, and leaves it as it is. -/
def Reruns
    (stream : List Value)
    (position : Nat)
    (answer : Option Hit)
    (memo : Memo) : Prop :=
  ∀ depth later, wrapping.Retains (some (wrapping.outer, position)) memo later →
    (wrapping.alternativeWithin depth stream position later).ComesTo
      (fun hit step => EqualHits stream position hit step.hit) (.ofOption answer)
      (Memo.Unchanged later)

/-- A memory of the wrapped grammar while some applications are in progress, of which one
is the innermost. What is remembered of the inner rule there is what the alternative
comes to again. -/
structure Sound
    (stream : List Value)
    (stack : List Place)
    (own : Option Place)
    (memo : Memo) : Prop where
  bounded : memo.Bounded stream
  pending : ∀ {position : Nat} {reentered : Bool},
    memo.find? wrapping.inner position = some (.pending reentered) ↔
      (wrapping.inner, position) ∈ stack ∧ reentered = false
  known : ∀ {position : Nat}, (memo.find? wrapping.inner position).isSome →
    wrapping.enclosed ∧ (memo.find? wrapping.outer position).isSome
  innermost : ∀ {rule : String} {position : Nat}, own = some (rule, position) →
    (memo.find? rule position).isSome
  answered : ∀ {position : Nat} {answer : Option Hit},
    own = some (wrapping.outer, position) →
      memo.find? wrapping.inner position = some (.done answer) →
        wrapping.Reruns stream position answer memo

/-! ## Runs that are shadowed -/

/-- How a run of the wrapped grammar goes on: it leaves in progress what was in progress,
holds on to what was known, and looks at the inner rule only where the outer one is the
innermost in progress or not known yet. -/
structure GoesOn
    (stream : List Value)
    (stack : List Place)
    (own but : Option Place)
    (same : α → β → Prop)
    (memo : Memo)
    (report : Report α) : Prop where
  outcomes : ∃ outcome : Outcome β, Outcome.Rel same report.outcome outcome
  balanced : inProgressAfter stack report.events = stack
  sound : wrapping.Sound stream stack own report.memo
  holds : memo.Holds but report.memo
  kept : ∀ {position : Nat}, (memo.find? wrapping.outer position).isSome →
    own ≠ some (wrapping.outer, position) →
      report.memo.find? wrapping.inner position = memo.find? wrapping.inner position

/-- A run of the wrapped grammar with runs of the plain one. They end alike from memories
that show the same. If nothing is excepted from what the run holds on to, they end so
again from memories that have held on to it, and leave those as they are. -/
structure Tracked
    (stream : List Value)
    (stack : List Place)
    (own but : Option Place)
    (same : α → β → Prop)
    (memo : Memo)
    (report : Report α)
    (runs : Nat → Run β) : Prop where
  alongside : ∀ depth shadow, wrapping.Shadows memo shadow →
    (runs depth shadow).ComesTo same report.outcome (wrapping.Shadows report.memo)
  goes : (∀ fault, report.outcome ≠ .fault fault) →
    wrapping.GoesOn stream stack own but same memo report
  again : but = none → (∀ fault, report.outcome ≠ .fault fault) →
    ∀ depth later, wrapping.Retains (wrapping.barred own) report.memo later →
      (runs depth later).ComesTo same report.outcome (Memo.Unchanged later)

/-- Runs of the plain grammar track a run of the wrapped one wherever the inner rule is
apart from the outer one, up to a bound on the run. -/
def Tracks
    (stream : List Value)
    (stack : List Place)
    (own but : Option Place)
    (same : α → β → Prop)
    (left : Run α)
    (right : Nat → Run β) : Prop :=
  ∀ memo, wrapping.Sound stream stack own memo →
    (wrapping.enclosed →
      isApart wrapping.outer wrapping.inner stack (left memo).events = true) →
      (left memo).outcome = .fault .exhausted ∨
        wrapping.Tracked stream stack own but same memo (left memo) right

section Memories

variable
  {wrapping : Wrapping}
  {stream : List Value}
  {stack : List Place}
  {own barred but : Option Place}
  {memo after later : Memo}

/-- Nothing is known before anything has happened. -/
theorem Sound.empty (wrapping : Wrapping) (stream : List Value) :
    wrapping.Sound stream [] none Memo.empty where
  bounded := .empty stream
  pending := by simp [Memo.find?_empty]
  known := by simp [Memo.find?_empty]
  innermost := nofun
  answered here := by cases here

theorem Shadows.empty (wrapping : Wrapping) :
    wrapping.Shadows Memo.empty Memo.empty := by
  intro name _ position
  rw [Memo.find?_empty, Memo.find?_empty]

/-- What has held on to what is known later has held on to what was known before. -/
theorem Retains.of_holds
    (retains : wrapping.Retains barred after later)
    (holds : memo.Holds none after) :
    wrapping.Retains barred memo later :=
  fun named firm apart found =>
    retains named firm apart (holds.firm firm nofun found)

theorem Retains.of_unchanged
    (retains : wrapping.Retains barred memo after)
    (same : Memo.Unchanged after later) :
    wrapping.Retains barred memo later :=
  fun {name position} _ named firm apart found =>
    (same name position).trans (retains named firm apart found)

/-- A run that ends with a fault is tracked by runs that end with it alongside. -/
theorem Tracked.of_fault
    {same : α → β → Prop}
    {report : Report α}
    {runs : Nat → Run β}
    {fault : Fault}
    (ends : report.outcome = .fault fault)
    (alongside : ∀ depth shadow, wrapping.Shadows memo shadow →
      (runs depth shadow).ComesTo same report.outcome (wrapping.Shadows report.memo)) :
    wrapping.Tracked stream stack own but same memo report runs :=
  ⟨alongside, fun going => absurd ends (going fault), fun _ going => absurd ends (going fault)⟩

/-- What goes on after what has gone on does so as one. -/
theorem GoesOn.trans
    {same : α → β → Prop}
    {following : γ → δ → Prop}
    {first : Report α}
    {rest : Report γ}
    (goes : wrapping.GoesOn stream stack own but same memo first)
    (restGoes : wrapping.GoesOn stream stack own but following first.memo rest) :
    wrapping.GoesOn stream stack own but following memo
      ⟨rest.outcome, rest.memo, first.journal ++ rest.journal⟩ where
  outcomes := restGoes.outcomes
  balanced := by
    simp only [Report.events, Journal.entries_append, inProgressAfter_append]
    rw [← Report.events, goes.balanced]
    exact restGoes.balanced
  sound := restGoes.sound
  holds := goes.holds.trans restGoes.holds
  kept known other :=
    (restGoes.kept (goes.holds.known known) other).trans (goes.kept known other)

end Memories

/-! ## Parts of evaluation -/

namespace Tracks

variable
  {wrapping : Wrapping}
  {stream : List Value}
  {stack : List Place}
  {own but : Option Place}
  {same : α → β → Prop}
  {left : Run α}
  {right : Nat → Run β}

/-- A run in which nothing happens is tracked by one that ends alike. -/
theorem still
    {outcome : Outcome α}
    {other : Outcome β}
    (outcomes : Outcome.Rel same outcome other)
    (ends : ∀ memo, left memo = ⟨outcome, memo, .empty⟩)
    (rightEnds : ∀ depth memo, right depth memo = ⟨other, memo, .empty⟩) :
    wrapping.Tracks stream stack own but same left right := by
  intro memo sound _
  right
  rw [ends]
  refine ⟨?_, fun _ => ⟨⟨other, outcomes⟩, rfl, sound, .refl but memo, fun _ _ => rfl⟩, ?_⟩
  · intro depth shadow shadows
    rw [rightEnds]
    exact .inr ⟨outcomes, fun _ => shadows⟩
  · intro _ _ depth later _
    rw [rightEnds]
    exact .inr ⟨outcomes, fun _ _ _ => rfl⟩

theorem done
    {result : α}
    {other : β}
    (results : same result other) :
    wrapping.Tracks stream stack own but same (pure result) fun _ => pure other :=
  still (.matched results) (fun _ => rfl) fun _ _ => rfl

theorem mismatch :
    wrapping.Tracks stream stack own but same Run.mismatch fun _ => Run.mismatch :=
  still .mismatch (fun _ => rfl) fun _ _ => rfl

theorem fail (fault : Fault) :
    wrapping.Tracks stream stack own but same (Run.fail fault) fun _ => Run.fail fault :=
  still (.fault fault) (fun _ => rfl) fun _ _ => rfl

theorem imp
    {weaker : α → β → Prop}
    (tracks : wrapping.Tracks stream stack own but same left right)
    (results : ∀ {result other}, same result other → weaker result other) :
    wrapping.Tracks stream stack own but weaker left right := by
  intro memo sound apart
  refine (tracks memo sound apart).imp_right fun tracked => ⟨?_, ?_, ?_⟩
  · exact fun depth shadow shadows => (tracked.alongside depth shadow shadows).imp results id
  · intro going
    obtain ⟨⟨outcome, outcomes⟩, balanced, sound, holds, kept⟩ := tracked.goes going
    exact ⟨⟨outcome, outcomes.imp results⟩, balanced, sound, holds, kept⟩
  · exact fun whole going depth later retains =>
      (tracked.again whole going depth later retains).imp results id

theorem bind
    {following : γ → δ → Prop}
    {leftNext : α → Run γ}
    {rightNext : Nat → β → Run δ}
    (first : wrapping.Tracks stream stack own but same left right)
    (next : ∀ result other, same result other →
      wrapping.Tracks stream stack own but following (leftNext result)
        fun depth => rightNext depth other) :
    wrapping.Tracks stream stack own but following (left >>= leftNext)
      fun depth => right depth >>= rightNext depth := by
  intro memo sound apart
  have before := first memo sound fun enclosed =>
    allPass_of_extended (Run.events_bind left leftNext memo) (apart enclosed)
  rcases before with exhausted | before
  · rw [Run.bind_of_fault exhausted]
    exact .inl rfl
  cases ends : (left memo).outcome with
  | fault fault =>
      right
      rw [Run.bind_of_fault ends]
      refine .of_fault rfl fun depth shadow shadows => ?_
      have ended := before.alongside depth shadow shadows
      rw [ends] at ended
      exact ended.bind_fault
  | mismatch =>
      right
      obtain ⟨-, balanced, stillSound, holds, kept⟩ :=
        before.goes (Outcome.ne_fault_of_mismatch ends)
      rw [Run.bind_of_mismatch ends]
      refine ⟨fun depth shadow shadows => ?_,
        fun _ => ⟨⟨.mismatch, .mismatch⟩, balanced, stillSound, holds, kept⟩,
        fun whole _ depth later retains => ?_⟩
      · have ended := before.alongside depth shadow shadows
        rw [ends] at ended
        exact ended.bind_mismatch
      · have ended := before.again whole (Outcome.ne_fault_of_mismatch ends) depth later retains
        rw [ends] at ended
        exact ended.bind_mismatch
  | matched result =>
      have goes := before.goes (Outcome.ne_fault_of_matched ends)
      obtain ⟨outcome, outcomes⟩ := goes.outcomes
      rw [ends] at outcomes
      obtain ⟨other, -, results⟩ := outcomes.exists_of_matched
      rw [Run.bind_of_matched ends] at apart ⊢
      have restApart : wrapping.enclosed → isApart wrapping.outer wrapping.inner stack
          (leftNext result (left memo).memo).events = true := by
        intro enclosed
        have passes := apart enclosed
        simp only [isApart, Report.events, Journal.entries_append, allPass_append,
          Bool.and_eq_true] at passes
        rw [← Report.events, goes.balanced] at passes
        exact passes.2
      have rest := fun {other} (results : same result other) =>
        next result other results _ goes.sound restApart
      -- Whether the rest reaches the bound does not depend on the result on the right.
      refine or_iff_not_imp_left.mpr fun unexhausted => ?_
      replace rest := fun {other} (results : same result other) =>
        (rest results).resolve_left unexhausted
      refine ⟨fun depth shadow shadows => ?_, fun restGoing => goes.trans ((rest results).goes
        restGoing), fun whole restGoing depth later retains => ?_⟩
      · have ended := before.alongside depth shadow shadows
        rw [ends] at ended
        exact ended.bind_matched fun other after results shadowed =>
          (rest results).alongside depth after shadowed
      · subst whole
        have restHolds := ((rest results).goes restGoing).holds
        have ended := before.again rfl (Outcome.ne_fault_of_matched ends) depth later
          (retains.of_holds restHolds)
        rw [ends] at ended
        refine ended.bind_matched fun other after results unchanged => ?_
        exact ((rest results).again rfl restGoing depth after
          (retains.of_unchanged unchanged)).imp id fun stays => unchanged.trans stays

theorem attempt
    (tracks : wrapping.Tracks stream stack own but same left right) :
    wrapping.Tracks stream stack own but (Option.Rel same) left.attempt
      fun depth => (right depth).attempt := by
  intro memo sound apart
  rw [Run.events_attempt] at apart
  rcases tracks memo sound apart with exhausted | tracked
  · rw [Run.attempt_of_fault exhausted]
    exact .inl rfl
  right
  rcases (left memo).outcome.fault_or_ofOption with ⟨fault, ends⟩ | ⟨answer, ends⟩
  · rw [Run.attempt_of_fault ends]
    refine .of_fault rfl fun depth shadow shadows => ?_
    have ended := tracked.alongside depth shadow shadows
    rw [ends] at ended
    exact ended.attempt_fault
  · have going : ∀ fault, (left memo).outcome ≠ .fault fault := by
      rw [ends]
      exact Outcome.ofOption_ne_fault answer
    have attempted :
        left.attempt memo = ⟨.matched answer, (left memo).memo, (left memo).journal⟩ := by
      cases answer with
      | none => exact Run.attempt_of_mismatch ends
      | some result => exact Run.attempt_of_matched ends
    obtain ⟨⟨outcome, outcomes⟩, balanced, stillSound, holds, kept⟩ := tracked.goes going
    rw [attempted]
    refine ⟨fun depth shadow shadows => ?_,
      fun _ => ⟨?_, balanced, stillSound, holds, kept⟩, fun whole _ depth later retains => ?_⟩
    · have ended := tracked.alongside depth shadow shadows
      rw [ends] at ended
      exact ended.attempt
    · rw [ends] at outcomes
      cases answer with
      | none => exact ⟨.matched none, .matched .none⟩
      | some result =>
          obtain ⟨other, -, results⟩ := outcomes.exists_of_matched
          exact ⟨.matched (some other), .matched (.some results)⟩
    · have ended := tracked.again whole going depth later retains
      rw [ends] at ended
      exact ended.attempt

theorem within
    {inner : List Value}
    (tracks : wrapping.Tracks inner [] none none same left right) :
    wrapping.Tracks stream stack own but same (Run.within left)
      fun depth => Run.within (right depth) := by
  intro memo sound apart
  have events : (Run.within left memo).events = [.nested (left Memo.empty).events] := rfl
  have innerApart : wrapping.enclosed → isApart wrapping.outer wrapping.inner []
      (left Memo.empty).events = true := by
    intro enclosed
    have passes := apart enclosed
    rwa [events, isApart, allPass, Event.passes, allPass, Bool.and_true] at passes
  refine (tracks Memo.empty (.empty wrapping inner) innerApart).imp_right fun tracked => ?_
  have ended := fun depth => tracked.alongside depth Memo.empty (Shadows.empty wrapping)
  exact ⟨fun depth shadow shadows => (ended depth).within shadows,
    fun going => ⟨(tracked.goes going).outcomes, rfl, sound, .refl but memo, fun _ _ => rfl⟩,
    fun _ _ depth later _ => (ended depth).within fun _ _ => rfl⟩

end Tracks

/-- Runs that are tracked at one place of a stream can be put together. -/
def tracking
    (stream : List Value)
    (stack : List Place)
    (own but : Option Place) : Sequencing Nat where
  Related := wrapping.Tracks stream stack own but
  done := Tracks.done
  andThen := Tracks.bind
  attempt := Tracks.attempt

/-- Runs of the plain grammar that track those of the wrapped one form a simulation. -/
def shadowing : Simulation Nat where
  alike := Eq
  Related stream offset same left right :=
    offset = 0 → ∀ stack, wrapping.Tracks stream stack stack.head? none same left right
  alike_refl := @Eq.refl Value
  alike_list := @Value.list_eq_of_forall₂
  done results _ _ := .done results
  mismatch _ _ := .mismatch
  andThen first next start stack :=
    (first start stack).bind fun result other results => next result other results start stack
  attempt related start stack := (related start stack).attempt
  within _ related _ _ := (related rfl []).within

end Wrapping
end Heirloom
