import Heirloom.Proofs.Regex.Program
import Mathlib.Data.List.TakeWhile
import Mathlib.Logic.Relation

/-!
# Finding matches

A program follows all its ways at once. What it follows without consuming anything
are exactly the instructions that control can reach, since none is passed over before
it has been followed once. So a search finds a match if and only if the expression
matches somewhere, and what it finds is a match of the expression.
-/

namespace Heirloom
namespace Regex
namespace Program

open Relation

variable
  {program : Program}
  {before after : List Char}
  {address target fuel : Nat}
  {pending : List Nat}
  {seen : Array Bool}

/-! ## Following what consumes nothing -/

/-- Control stops at an instruction that consumes or accepts. -/
def Stops (program : Program) (address : Nat) : Prop :=
  (∃ members, program[address]? = some (.consume members)) ∨
    program[address]? = some .accept

/-- Where control goes from an address without consuming anything. -/
def onward (program : Program) (before after : List Char) (address : Nat) : List Nat :=
  match program[address]? with
  | some (.jump target) => [target]
  | some (.fork first second) => [first, second]
  | some (.assert assertion) => if assertion.holds before after then [address + 1] else []
  | _ => []

theorem mem_onward_iff {next : Nat} :
    next ∈ program.onward before after address ↔ program.Hops before after address next := by
  refine ⟨fun member => ?_, ?_⟩
  · unfold onward at member
    split at member
    · next code =>
        obtain rfl := List.mem_singleton.mp member
        exact .jump code
    · next code =>
        rcases List.mem_pair.mp member with rfl | rfl
        · exact .first code
        · exact .second code
    · next code =>
        split at member
        · next holds =>
            obtain rfl := List.mem_singleton.mp member
            exact .assert code holds
        · cases member
    · cases member
  · intro hops
    cases hops with
    | jump code | first code | second code => simp [onward, code]
    | assert code holds => simp [onward, code, holds]

/-- Control does not go on where it stops. -/
theorem Stops.not_hops
    {next : Nat}
    (stops : program.Stops address) :
    ¬ program.Hops before after address next := by
  intro hops
  rcases stops with ⟨members, code⟩ | code <;> cases hops <;> simp_all

/-- What accepts stops control. -/
theorem stops_of_acceptsAt (accepts : program.acceptsAt address = true) :
    program.Stops address := by
  unfold acceptsAt at accepts
  split at accepts
  · next code => exact .inr code
  · cases accepts

/-- Where control stops has not been followed before, it is followed. -/
theorem follow_of_stops
    (unseen : seen.getD address true = false)
    (stops : program.Stops address) :
    program.follow before after (fuel + 1) (address :: pending) seen =
      address :: program.follow before after fuel pending (seen.setIfInBounds address true) := by
  rw [follow]
  rcases stops with ⟨members, code⟩ | code <;>
    simp only [unseen, code, Bool.false_eq_true, if_false]

/-- Where control goes on is followed instead of an address that it does not stop at. -/
theorem follow_of_not_stops
    (unseen : seen.getD address true = false)
    (goes : ¬ program.Stops address) :
    program.follow before after (fuel + 1) (address :: pending) seen =
      program.follow before after fuel (program.onward before after address ++ pending)
        (seen.setIfInBounds address true) := by
  rw [follow, onward]
  simp only [unseen, Bool.false_eq_true, if_false]
  split
  · next code => simp [code]
  · next code => simp [code]
  · next code => simp [code]
  · next code => split <;> simp [*]
  · next members code => exact absurd (.inl ⟨members, code⟩) goes
  · next code => exact absurd (.inr code) goes

/-- What has been followed before is passed over. -/
theorem follow_of_seen (known : seen.getD address true = true) :
    program.follow before after (fuel + 1) (address :: pending) seen =
      program.follow before after fuel pending seen := by
  rw [follow, if_pos known]

/-- What is followed is reached from something pending. -/
theorem of_mem_follow (fuel : Nat) :
    ∀ (pending : List Nat) (seen : Array Bool),
      target ∈ program.follow before after fuel pending seen →
        program.Stops target ∧
          ∃ start ∈ pending, ReflTransGen (program.Hops before after) start target := by
  induction fuel with
  | zero => exact fun _ _ => nofun
  | succ fuel inductionHypothesis =>
      intro pending seen
      match pending with
      | [] => exact nofun
      | address :: pending =>
          have later {seen : Array Bool}
              (member : target ∈ program.follow before after fuel pending seen) :
              program.Stops target ∧
                ∃ start ∈ address :: pending,
                  ReflTransGen (program.Hops before after) start target := by
            obtain ⟨stops, start, listed, hops⟩ := inductionHypothesis _ _ member
            exact ⟨stops, start, List.mem_cons_of_mem _ listed, hops⟩
          intro member
          cases known : seen.getD address true with
          | true =>
              rw [follow_of_seen known] at member
              exact later member
          | false =>
              by_cases stops : program.Stops address
              · rw [follow_of_stops known stops] at member
                rcases List.mem_cons.mp member with rfl | member
                · exact ⟨stops, target, List.mem_cons_self, .refl⟩
                · exact later member
              · rw [follow_of_not_stops known stops] at member
                obtain ⟨stops, start, listed, hops⟩ := inductionHypothesis _ _ member
                rcases List.mem_append.mp listed with goes | listed
                · exact ⟨stops, address, List.mem_cons_self, .head (mem_onward_iff.mp goes) hops⟩
                · exact ⟨stops, start, List.mem_cons_of_mem _ listed, hops⟩

/-- Control goes to the target through addresses that have not been followed before. -/
inductive Open (program : Program) (before after : List Char) (seen : Array Bool) (target : Nat) :
    Nat → Prop
  | here
      (unseen : seen.getD target true = false) :
      Open program before after seen target target
  | hop {address next : Nat}
      (unseen : seen.getD address true = false)
      (hops : program.Hops before after address next)
      (rest : Open program before after seen target next) :
      Open program before after seen target address

/-- A way through an address can start behind it instead, where it does not come back to
it. -/
theorem Open.split
    {start : Nat}
    (opens : Open program before after seen target start)
    (address : Nat) :
    Open program before after (seen.setIfInBounds address true) target start ∨
      target = address ∨
        ∃ next, program.Hops before after address next ∧
          Open program before after (seen.setIfInBounds address true) target next := by
  have still {other : Nat} (unseen : seen.getD other true = false) (apart : other ≠ address) :
      (seen.setIfInBounds address true).getD other true = false := by
    rw [Array.getD_eq_getD_getElem?, Array.getElem?_setIfInBounds_ne apart.symm,
      ← Array.getD_eq_getD_getElem?]
    exact unseen
  induction opens with
  | here unseen =>
      by_cases same : target = address
      · exact .inr (.inl same)
      · exact .inl (.here (still unseen same))
  | @hop other next unseen hops rest inductionHypothesis =>
      rcases inductionHypothesis with ahead | found
      · by_cases same : other = address
        · exact .inr (.inr ⟨next, same ▸ hops, ahead⟩)
        · exact .inl (.hop (still unseen same) hops ahead)
      · exact .inr found

/-- A way that is open starts at an address that has not been followed. -/
theorem Open.unseen
    {start : Nat}
    (opens : Open program before after seen target start) :
    seen.getD start true = false := by
  cases opens with
  | here unseen | hop unseen => exact unseen

/-- The number of addresses that have not been followed. -/
def unseenCount (seen : Array Bool) : Nat := seen.toList.count false

/-- Following an address leaves one fewer. -/
theorem unseenCount_setIfInBounds (unseen : seen.getD address true = false) :
    unseenCount (seen.setIfInBounds address true) + 1 = unseenCount seen := by
  have inside : address < seen.size := by
    refine Nat.lt_of_not_le fun outside => ?_
    rw [Array.getD_eq_getD_getElem?, Array.getElem?_eq_none outside] at unseen
    cases unseen
  have here : seen[address] = false := by simpa [inside] using unseen
  have listed : false ∈ seen.toList := Array.mem_toList_iff.mpr (here ▸ Array.getElem_mem inside)
  have positive := List.count_pos_iff.mpr listed
  rw [unseenCount, unseenCount, Array.toList_setIfInBounds, List.count_set (by simpa using inside)]
  simp only [Array.getElem_toList, here, BEq.rfl, if_true, Bool.true_beq, Bool.false_eq_true,
    if_false, Nat.add_zero]
  exact Nat.sub_add_cancel positive

/-- Control goes on to two addresses at most. -/
theorem length_onward_le : (program.onward before after address).length ≤ 2 := by
  unfold onward
  split
  · simp
  · simp
  · split <;> simp
  · simp

/-- What control reaches is followed. -/
theorem mem_follow (stops : program.Stops target) (fuel : Nat) :
    ∀ (pending : List Nat) (seen : Array Bool),
      3 * unseenCount seen + pending.length < fuel →
      (∃ start ∈ pending, Open program before after seen target start) →
        target ∈ program.follow before after fuel pending seen := by
  induction fuel with
  | zero => exact fun _ _ enough => absurd enough (Nat.not_lt_zero _)
  | succ fuel inductionHypothesis =>
      rintro pending seen enough ⟨start, listed, opens⟩
      match pending with
      | [] => cases listed
      | address :: pending =>
          rw [List.length_cons] at enough
          have elsewhere {seen : Array Bool}
              (known : seen.getD address true = true)
              (opens : Open program before after seen target start) :
              start ∈ pending := by
            refine (List.mem_cons.mp listed).resolve_left ?_
            rintro rfl
            exact absurd (known.symm.trans opens.unseen) nofun
          cases known : seen.getD address true with
          | true =>
              rw [follow_of_seen known]
              exact inductionHypothesis _ _ (by omega) ⟨start, elsewhere known opens, opens⟩
          | false =>
              have fewer := unseenCount_setIfInBounds known
              have few := @length_onward_le program before after address
              have noted : (seen.setIfInBounds address true).getD address true = true := by
                simp
              by_cases stopped : program.Stops address
              · rw [follow_of_stops known stopped]
                rcases opens.split address with ahead | rfl | ⟨next, hops, -⟩
                · exact List.mem_cons_of_mem _
                    (inductionHypothesis _ _ (by omega) ⟨start, elsewhere noted ahead, ahead⟩)
                · exact List.mem_cons_self
                · exact absurd hops stopped.not_hops
              · rw [follow_of_not_stops known stopped]
                refine inductionHypothesis _ _ (by rw [List.length_append]; omega) ?_
                rcases opens.split address with ahead | rfl | ⟨next, hops, ahead⟩
                · exact ⟨start, List.mem_append_right _ (elsewhere noted ahead), ahead⟩
                · exact absurd stops stopped
                · exact ⟨next, List.mem_append_left _ (mem_onward_iff.mpr hops), ahead⟩

/-- The threads at a position are where control stops on its way from the starts. -/
theorem mem_threadsFrom_iff {starts : List Nat} :
    target ∈ program.threadsFrom before after starts ↔
      program.Stops target ∧
        ∃ start ∈ starts, ReflTransGen (program.Hops before after) start target := by
  refine ⟨of_mem_follow _ _ _, ?_⟩
  rintro ⟨stops, start, listed, reaches⟩
  refine mem_follow stops _ _ _ (by simp [unseenCount]) ⟨start, listed, ?_⟩
  clear listed
  have unseen {address : Nat} (coded : program[address]? ≠ none) :
      (Array.replicate program.size false).getD address true = false := by
    have inside : address < program.size := by
      refine Nat.lt_of_not_le fun outside => coded (Array.getElem?_eq_none outside)
    simp [inside]
  induction reaches using ReflTransGen.head_induction_on with
  | refl =>
      refine .here (unseen ?_)
      rcases stops with ⟨members, code⟩ | code <;> rw [code] <;> exact nofun
  | head hops rest inductionHypothesis =>
      refine .hop (unseen ?_) hops inductionHypothesis
      cases hops with
      | jump code | first code | second code | assert code => rw [code]; exact nofun

/-! ## Running threads -/

/-- The program accepts after a text, on its way from an address. -/
def Accepts
    (program : Program)
    (address : Nat)
    (before text after : List Char) : Prop :=
  ∃ target length, program.acceptsAt target = true ∧
    program.Path target after length address before text

variable {text : List Char}

/-- Where control goes on, acceptance comes later. -/
theorem Accepts.of_reaches
    {start : Nat}
    (reaches : ReflTransGen (program.Hops before (text ++ after)) start address)
    (accepts : program.Accepts address before text after) :
    program.Accepts start before text after := by
  induction reaches using ReflTransGen.head_induction_on with
  | refl => exact accepts
  | head hops rest inductionHypothesis =>
      obtain ⟨target, length, accepted, path⟩ := inductionHypothesis
      exact ⟨target, length + 1, accepted, .hop hops path⟩

/-- Before acceptance control stops. -/
theorem Accepts.exists_stop (accepts : program.Accepts address before text after) :
    ∃ stop, program.Stops stop ∧
      ReflTransGen (program.Hops before (text ++ after)) address stop ∧
      program.Accepts stop before text after := by
  obtain ⟨target, length, accepted, path⟩ := accepts
  induction path with
  | stay before => exact ⟨target, stops_of_acceptsAt accepted, .refl, target, 0, accepted, .stay _⟩
  | hop hops path inductionHypothesis =>
      obtain ⟨stop, stops, reaches, accepts⟩ := inductionHypothesis
      exact ⟨stop, stops, .head hops reaches, accepts⟩
  | consume code member path =>
      exact ⟨_, .inl ⟨_, code⟩, .refl, target, _, accepted, .consume code member path⟩

/-- Where control stops, it accepts or it consumes the next character. -/
theorem Accepts.of_stops
    (accepts : program.Accepts address before text after)
    (stops : program.Stops address) :
    program.acceptsAt address = true ∧ text = [] ∨
      ∃ c rest, text = c :: rest ∧ program.consumesAt c address = true ∧
        program.Accepts (address + 1) (c :: before) rest after := by
  obtain ⟨target, length, accepted, path⟩ := accepts
  cases path with
  | stay => exact .inl ⟨accepted, rfl⟩
  | hop hops => exact absurd hops stops.not_hops
  | @consume length _ members c _ rest code member path =>
      refine .inr ⟨c, rest, rfl, ?_, target, length, accepted, path⟩
      rw [consumesAt, code]
      exact member

/-- An address that consumes the next character accepts if the next one does. -/
theorem Accepts.of_consumesAt
    {c : Char}
    (consumes : program.consumesAt c address = true)
    (accepts : program.Accepts (address + 1) (c :: before) text after) :
    program.Accepts address before (c :: text) after := by
  obtain ⟨target, length, accepted, path⟩ := accepts
  unfold consumesAt at consumes
  split at consumes
  · next code => exact ⟨target, length + 1, accepted, .consume code consumes path⟩
  · cases consumes

/-- What a run finds is accepted from one of its threads. -/
theorem run_sound (after : List Char) :
    ∀ (before : List Char) (threads : List Nat) (consumed : Nat) (best : Option Nat) (length : Nat),
      program.run before after threads consumed best = some length →
        best = some length ∨
          ∃ text rest, after = text ++ rest ∧ length = consumed + text.length ∧
            ∃ thread ∈ threads, program.Accepts thread before text rest := by
  induction after with
  | nil =>
      intro before threads consumed best length found
      rw [run] at found
      split at found
      · next accepted =>
          obtain ⟨thread, listed, accepts⟩ := List.any_eq_true.mp accepted
          exact .inr ⟨[], [], rfl, (Option.some.inj found).symm, thread, listed, thread, 0, accepts,
            .stay _⟩
      · exact .inl found
  | cons c after inductionHypothesis =>
      intro before threads consumed best length found
      have improved {length : Nat}
          (found : (if threads.any program.acceptsAt then some consumed else best) = some length) :
          best = some length ∨
            ∃ text rest, c :: after = text ++ rest ∧ length = consumed + text.length ∧
              ∃ thread ∈ threads, program.Accepts thread before text rest := by
        split at found
        · next accepted =>
            obtain ⟨thread, listed, accepts⟩ := List.any_eq_true.mp accepted
            exact .inr ⟨[], c :: after, rfl, (Option.some.inj found).symm, thread, listed, thread,
              0, accepts, .stay _⟩
        · exact .inl found
      rw [run] at found
      split at found
      · exact improved found
      · rcases inductionHypothesis _ _ _ _ _ found with found | ⟨text, rest, rfl, sum, later⟩
        · exact improved found
        · obtain ⟨thread, listed, accepts⟩ := later
          obtain ⟨-, start, started, reaches⟩ := mem_threadsFrom_iff.mp listed
          obtain ⟨live, consuming, rfl⟩ := List.mem_map.mp started
          obtain ⟨listed, consumes⟩ := List.mem_filter.mp consuming
          refine .inr ⟨c :: text, rest, rfl, by rw [sum, List.length_cons]; omega, live, ?_, ?_⟩
          · exact (List.takeWhile_sublist _).subset listed
          · exact .of_consumesAt consumes (.of_reaches reaches accepts)

/-- A run from threads of which one accepts finds something. -/
theorem run_complete (after : List Char) :
    ∀ (before : List Char) (threads : List Nat) (consumed : Nat) (best : Option Nat),
      (∀ thread ∈ threads, program.Stops thread) →
      (best.isSome = true ∨
        ∃ text rest, after = text ++ rest ∧
          ∃ thread ∈ threads, program.Accepts thread before text rest) →
        (program.run before after threads consumed best).isSome = true := by
  induction after with
  | nil =>
      rintro before threads consumed best stop known
      rw [run]
      split
      · rfl
      · next none =>
          refine known.resolve_right ?_
          rintro ⟨text, rest, nothing, thread, listed, accepts⟩
          rcases accepts.of_stops (stop thread listed) with ⟨accepted, -⟩ | ⟨c, more, rfl, -⟩
          · exact none (List.any_eq_true.mpr ⟨thread, listed, accepted⟩)
          · cases nothing
  | cons c after inductionHypothesis =>
      rintro before threads consumed best stop known
      have stopped {starts : List Nat} :
          ∀ thread ∈ program.threadsFrom (c :: before) after starts, program.Stops thread :=
        fun thread listed => (mem_threadsFrom_iff.mp listed).1
      rw [run]
      cases accepted : threads.any program.acceptsAt with
      | true =>
          rw [if_pos rfl]
          split
          · rfl
          · exact inductionHypothesis _ _ _ _ stopped (.inl rfl)
      | false =>
          have unaccepted {thread : Nat} (listed : thread ∈ threads) :
              program.acceptsAt thread = false := by
            simpa using List.any_eq_false.mp accepted thread listed
          have live : threads.takeWhile (fun address => !program.acceptsAt address) = threads :=
            List.takeWhile_eq_self_iff.mpr fun thread listed => by simp [unaccepted listed]
          rw [if_neg Bool.false_ne_true, live]
          rcases known with known | ⟨text, rest, split, thread, listed, accepts⟩
          · split
            · exact known
            · exact inductionHypothesis _ _ _ _ stopped (.inl known)
          · rcases accepts.of_stops (stop thread listed) with
              ⟨accepts, -⟩ | ⟨d, more, rfl, consumes, accepts⟩
            · rw [unaccepted listed] at accepts
              cases accepts
            · obtain ⟨rfl, rfl⟩ := List.cons.inj split
              have started : thread + 1 ∈
                  (threads.filter (program.consumesAt c)).map (· + 1) :=
                List.mem_map_of_mem (List.mem_filter.mpr ⟨listed, consumes⟩)
              rw [if_neg (by simpa using List.ne_nil_of_mem started)]
              obtain ⟨stop, stops, reaches, accepts⟩ := accepts.exists_stop
              exact inductionHypothesis _ _ _ _ stopped (.inr ⟨more, rest, rfl, stop,
                mem_threadsFrom_iff.mpr ⟨stops, _, started, reaches⟩, accepts⟩)

/-! ## Searching -/

/-- A match that is found is accepted. -/
theorem matchHere?_sound
    {length : Nat}
    (found : program.matchHere? before after = some length) :
    ∃ text rest, after = text ++ rest ∧ length = text.length ∧
      program.Accepts 0 before text rest := by
  rcases run_sound after before _ 0 none length found with
    nothing | ⟨text, rest, rfl, sum, thread, listed, accepts⟩
  · cases nothing
  · obtain ⟨-, start, started, reaches⟩ := mem_threadsFrom_iff.mp listed
    obtain rfl := List.mem_singleton.mp started
    exact ⟨text, rest, rfl, by omega, accepts.of_reaches reaches⟩

/-- Where something is accepted, a match is found. -/
theorem matchHere?_complete
    {rest : List Char}
    (accepts : program.Accepts 0 before text rest) :
    (program.matchHere? before (text ++ rest)).isSome = true := by
  obtain ⟨stop, stops, reaches, accepts⟩ := accepts.exists_stop
  refine run_complete _ _ _ _ _ (fun thread listed => (mem_threadsFrom_iff.mp listed).1) (.inr ?_)
  exact ⟨text, rest, rfl, stop,
    mem_threadsFrom_iff.mpr ⟨stops, 0, List.mem_singleton_self 0, reaches⟩, accepts⟩

/-- What a search finds is accepted where it is found. -/
theorem search?_sound (after : List Char) :
    ∀ (before : List Char) (offset : Nat) (bounds : Nat × Nat),
      program.search? before after offset = some bounds →
        ∃ skipped text rest, after = skipped ++ text ++ rest ∧
          bounds = (offset + skipped.length, offset + skipped.length + text.length) ∧
          program.Accepts 0 (skipped.reverse ++ before) text rest := by
  induction after with
  | nil =>
      intro before offset bounds found
      obtain ⟨length, here, rfl⟩ := Option.map_eq_some_iff.mp found
      obtain ⟨text, rest, split, rfl, accepts⟩ := matchHere?_sound here
      exact ⟨[], text, rest, split, rfl, accepts⟩
  | cons c after inductionHypothesis =>
      intro before offset bounds found
      rw [search?] at found
      split at found
      · next length here =>
          obtain ⟨text, rest, split, rfl, accepts⟩ := matchHere?_sound here
          exact ⟨[], text, rest, split, (Option.some.inj found).symm, accepts⟩
      · obtain ⟨skipped, text, rest, rfl, rfl, accepts⟩ := inductionHypothesis _ _ _ found
        refine ⟨c :: skipped, text, rest, rfl, ?_, by simpa using accepts⟩
        rw [List.length_cons, Nat.add_right_comm, Nat.add_assoc offset]

/-- A search finds something if something is accepted anywhere. -/
theorem search?_complete
    {rest : List Char}
    (skipped : List Char) :
    ∀ (before : List Char) (offset : Nat),
      program.Accepts 0 (skipped.reverse ++ before) text rest →
        (program.search? before (skipped ++ text ++ rest) offset).isSome = true := by
  induction skipped with
  | nil =>
      intro before offset accepts
      have here : (program.matchHere? before (text ++ rest)).isSome = true :=
        matchHere?_complete accepts
      rw [List.nil_append]
      cases ahead : text ++ rest with
      | nil =>
          rw [ahead] at here
          rw [search?, Option.isSome_map]
          exact here
      | cons c more =>
          rw [ahead] at here
          obtain ⟨length, found⟩ := Option.isSome_iff_exists.mp here
          rw [search?, found]
          rfl
  | cons c skipped inductionHypothesis =>
      intro before offset accepts
      rw [List.cons_append, List.cons_append, search?]
      split
      · rfl
      · exact inductionHypothesis _ _ (by simpa using accepts)

end Program

/-! ## Searching with expressions -/

/-- The program of an expression accepts what the expression matches. -/
theorem accepts_compile_iff
    (regex : Regex)
    (before text after : List Char) :
    Program.Accepts regex.compile 0 before text after ↔ regex.language before text after := by
  rw [← exists_path_compile_iff]
  refine ⟨?_, ?_⟩
  · rintro ⟨target, length, accepted, path⟩
    obtain rfl := (regex.acceptsAt_compile_iff target).mp accepted
    exact ⟨length, path⟩
  · rintro ⟨length, path⟩
    exact ⟨_, length, (regex.acceptsAt_compile_iff _).mpr rfl, path⟩

/-- What a search finds is what the expression matches there. -/
theorem language_of_search?
    {regex : Regex}
    {chars : List Char}
    {bounds : Nat × Nat}
    (found : Program.search? regex.compile [] chars 0 = some bounds) :
    ∃ skipped text rest, chars = skipped ++ text ++ rest ∧
      bounds = (skipped.length, skipped.length + text.length) ∧
      regex.language skipped.reverse text rest := by
  obtain ⟨skipped, text, rest, split, limits, accepts⟩ :=
    Program.search?_sound _ _ _ _ found
  refine ⟨skipped, text, rest, split, by simpa using limits, ?_⟩
  rw [← accepts_compile_iff]
  simpa using accepts

/-- A search finds a match if and only if the expression matches somewhere. -/
theorem search?_compile_isSome_iff
    (regex : Regex)
    (chars : List Char) :
    (Program.search? regex.compile [] chars 0).isSome = true ↔
      ∃ skipped text rest, chars = skipped ++ text ++ rest ∧
        regex.language skipped.reverse text rest := by
  refine ⟨fun isSome => ?_, ?_⟩
  · obtain ⟨bounds, found⟩ := Option.isSome_iff_exists.mp isSome
    obtain ⟨skipped, text, rest, split, -, matched⟩ := language_of_search? found
    exact ⟨skipped, text, rest, split, matched⟩
  · rintro ⟨skipped, text, rest, rfl, matched⟩
    refine Program.search?_complete skipped [] 0 ?_
    rw [List.append_nil]
    exact (accepts_compile_iff ..).mpr matched

end Regex
end Heirloom
