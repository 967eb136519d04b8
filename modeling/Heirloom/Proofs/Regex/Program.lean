import Heirloom.Proofs.Regex.Language
import Heirloom.Regex.Program

/-!
# What programs run

A way through a program goes from instruction to instruction and consumes the
characters of a text. The code of an expression runs its language: the ways through
it consume the texts that the expression matches.
-/

namespace Heirloom
namespace Regex

open Text (CharSet)

namespace Program

/-- Where control goes from an instruction that consumes nothing. -/
inductive Hops (program : Program) (before after : List Char) : Nat → Nat → Prop
  | jump {address target : Nat}
      (code : program[address]? = some (.jump target)) :
      Hops program before after address target
  | first {address first second : Nat}
      (code : program[address]? = some (.fork first second)) :
      Hops program before after address first
  | second {address first second : Nat}
      (code : program[address]? = some (.fork first second)) :
      Hops program before after address second
  | assert {address : Nat} {assertion : Look}
      (code : program[address]? = some (.assert assertion))
      (holds : assertion.holds before after = true) :
      Hops program before after address (address + 1)

/-- A way to a target, in a number of steps, that consumes a text in front of what is
after it. -/
inductive Path (program : Program) (target : Nat) (after : List Char) :
    Nat → Nat → List Char → List Char → Prop
  | stay (before : List Char) : Path program target after 0 target before []
  | hop {length address next : Nat} {before text : List Char}
      (hops : program.Hops before (text ++ after) address next)
      (path : Path program target after length next before text) :
      Path program target after (length + 1) address before text
  | consume {length address : Nat} {members : CharSet} {c : Char} {before text : List Char}
      (code : program[address]? = some (.consume members))
      (member : members.contains c = true)
      (path : Path program target after length (address + 1) (c :: before) text) :
      Path program target after (length + 1) address before (c :: text)

variable
  {program : Program}
  {start middle finish target length : Nat}
  {before text after : List Char}

/-- One way after the other. -/
theorem Path.trans
    {rest : List Char}
    (leads : program.Path middle (rest ++ after) length start before text)
    {more : Nat}
    (follows : program.Path target after more middle (text.reverse ++ before) rest) :
    ∃ total, program.Path target after total start before (text ++ rest) := by
  induction leads with
  | stay before => exact ⟨more, follows⟩
  | hop hops path inductionHypothesis =>
      obtain ⟨total, path⟩ := inductionHypothesis follows
      exact ⟨total + 1, .hop (by rwa [List.append_assoc]) path⟩
  | consume code member path inductionHypothesis =>
      obtain ⟨total, path⟩ := inductionHypothesis (by simpa using follows)
      exact ⟨total + 1, .consume code member path⟩

/-- A way from a fork goes on from one of its targets. -/
theorem Path.of_fork
    {greedy : Bool}
    {other : Nat}
    (path : program.Path target after length start before text)
    (code : program[start]? = some (preferring greedy middle other))
    (apart : start ≠ target) :
    ∃ next shorter, length = shorter + 1 ∧ (next = middle ∨ next = other) ∧
      program.Path target after shorter next before text := by
  cases path with
  | stay => exact absurd rfl apart
  | consume same => cases greedy <;> simp [code, preferring] at same
  | @hop shorter _ next _ _ hops path =>
      refine ⟨next, shorter, rfl, ?_, path⟩
      cases greedy <;> cases hops <;> simp_all [preferring]

/-- Some addresses of a program run a language: from the start to the finish they
consume its texts, and a way from the start that goes on elsewhere passes the finish
after such a text. -/
structure Runs
    (program : Program)
    (inside : Nat → Prop)
    (language : Language)
    (start finish : Nat) : Prop where
  complete : ∀ {before text after : List Char}, language before text after →
    ∃ length, program.Path finish after length start before text
  sound : ∀ {target length : Nat} {before text after : List Char}, ¬ inside target →
    program.Path target after length start before text →
    ∃ first rest shorter, text = first ++ rest ∧ shorter ≤ length ∧
      language before first (rest ++ after) ∧
      program.Path target after shorter finish (first.reverse ++ before) rest

namespace Runs

variable
  {inside : Nat → Prop}
  {language left right : Language}

/-- More addresses run the language as well. -/
theorem mono
    {larger : Nat → Prop}
    (runs : program.Runs inside language start finish)
    (more : ∀ address, inside address → larger address) :
    program.Runs larger language start finish where
  complete := runs.complete
  sound outside := runs.sound fun within => outside (more _ within)

/-- Nothing is run by staying. -/
theorem nothing (inside : Nat → Prop) (start : Nat) :
    program.Runs inside .nothing start start where
  complete := by
    rintro before _ after rfl
    exact ⟨0, .stay before⟩
  sound _ path := ⟨[], _, _, rfl, Nat.le_refl _, rfl, path⟩

/-- One language is run after the other. -/
theorem followedBy
    (first : program.Runs inside left start middle)
    (second : program.Runs inside right middle finish) :
    program.Runs inside (left.followedBy right) start finish where
  complete := by
    rintro before _ after ⟨lead, rest, rfl, leads, follows⟩
    obtain ⟨_, leads⟩ := first.complete leads
    obtain ⟨_, follows⟩ := second.complete follows
    exact leads.trans follows
  sound := by
    intro target length before text after outside path
    obtain ⟨lead, rest, short, rfl, less, leads, path⟩ := first.sound outside path
    obtain ⟨next, rest, shorter, rfl, lesser, follows, path⟩ := second.sound outside path
    refine ⟨lead ++ next, rest, shorter, by simp, Nat.le_trans lesser less,
      ⟨lead, next, rfl, by simpa using leads, follows⟩, by simpa using path⟩

/-- An instruction that consumes runs its set. -/
theorem consume
    {members : CharSet}
    (within : inside start)
    (code : program[start]? = some (.consume members)) :
    program.Runs inside (set members).language start (start + 1) where
  complete := by
    rintro before _ after ⟨c, rfl, member⟩
    exact ⟨1, .consume code member (.stay _)⟩
  sound := by
    intro target length before text after outside path
    cases path with
    | stay => exact absurd within outside
    | hop hops path => cases hops <;> simp_all
    | @consume length _ others c _ text other member path =>
        obtain rfl : members = others := by simpa [code] using other
        exact ⟨[c], text, length, rfl, Nat.le_succ _, ⟨c, rfl, member⟩, path⟩

/-- An assertion runs as such. -/
theorem assert
    {assertion : Look}
    (within : inside start)
    (code : program[start]? = some (.assert assertion)) :
    program.Runs inside (look assertion).language start (start + 1) where
  complete := by
    rintro before _ after ⟨rfl, holds⟩
    exact ⟨1, .hop (.assert code holds) (.stay _)⟩
  sound := by
    intro target length before text after outside path
    cases path with
    | stay => exact absurd within outside
    | consume other => simp [code] at other
    | @hop length _ _ _ _ hops path =>
        cases hops with
        | jump other | first other | second other => simp [code] at other
        | @assert other same holds =>
            obtain rfl : assertion = other := by simpa [code] using same
            exact ⟨[], text, length, rfl, Nat.le_succ _, ⟨rfl, holds⟩, path⟩

/-- A jump runs nothing. -/
theorem jump
    (within : inside start)
    (code : program[start]? = some (.jump finish)) :
    program.Runs inside .nothing start finish where
  complete := by
    rintro before _ after rfl
    exact ⟨1, .hop (.jump code) (.stay _)⟩
  sound := by
    intro target length before text after outside path
    cases path with
    | stay => exact absurd within outside
    | consume other => simp [code] at other
    | @hop length _ _ _ _ hops path =>
        cases hops with
        | first other | second other | assert other => simp [code] at other
        | jump other =>
            obtain rfl : finish = _ := by simpa [code] using other
            exact ⟨[], text, length, rfl, Nat.le_succ _, rfl, path⟩

/-- A fork runs what either of its targets runs. -/
theorem fork
    {greedy : Bool}
    {other : Nat}
    (within : inside start)
    (code : program[start]? = some (preferring greedy middle other))
    (first : program.Runs inside left middle finish)
    (second : program.Runs inside right other finish) :
    program.Runs inside (left.either right) start finish where
  complete := by
    have hops (before after : List Char) :
        program.Hops before after start middle ∧ program.Hops before after start other := by
      cases greedy with
      | true => exact ⟨.first code, .second code⟩
      | false => exact ⟨.second code, .first code⟩
    rintro before text after (matched | matched)
    · obtain ⟨length, path⟩ := first.complete matched
      exact ⟨length + 1, .hop (hops _ _).1 path⟩
    · obtain ⟨length, path⟩ := second.complete matched
      exact ⟨length + 1, .hop (hops _ _).2 path⟩
  sound := by
    intro target length before text after outside path
    obtain ⟨next, shorter, rfl, which, path⟩ :=
      path.of_fork code fun same => outside (same ▸ within)
    rcases which with rfl | rfl
    · obtain ⟨lead, rest, less, rfl, short, leads, path⟩ := first.sound outside path
      exact ⟨lead, rest, less, rfl, Nat.le_succ_of_le short, .inl leads, path⟩
    · obtain ⟨lead, rest, less, rfl, short, leads, path⟩ := second.sound outside path
      exact ⟨lead, rest, less, rfl, Nat.le_succ_of_le short, .inr leads, path⟩

/-- A fork to a body that returns to it runs any number of rounds of the body. -/
theorem loop
    {greedy : Bool}
    (within : inside start)
    (code : program[start]? = some (preferring greedy middle finish))
    (body : program.Runs inside language middle start) :
    program.Runs inside language.star start finish where
  complete := by
    have hops (before after : List Char) :
        program.Hops before after start middle ∧ program.Hops before after start finish := by
      cases greedy with
      | true => exact ⟨.first code, .second code⟩
      | false => exact ⟨.second code, .first code⟩
    rintro before text after ⟨count, matched⟩
    induction count generalizing before text with
    | zero =>
        obtain rfl := matched
        exact ⟨1, .hop (hops _ _).2 (.stay _)⟩
    | succ count inductionHypothesis =>
        obtain ⟨first, second, rfl, leads, follows⟩ := matched
        obtain ⟨length, leads⟩ := body.complete leads
        obtain ⟨more, follows⟩ := inductionHypothesis follows
        obtain ⟨total, path⟩ := leads.trans follows
        exact ⟨total + 1, .hop (hops _ _).1 path⟩
  sound := by
    intro target length before text after outside path
    induction length using Nat.strongRecOn generalizing before text with
    | ind length inductionHypothesis =>
        obtain ⟨next, shorter, rfl, which, path⟩ :=
          path.of_fork code fun same => outside (same ▸ within)
        rcases which with rfl | rfl
        · obtain ⟨lead, rest, less, rfl, short, leads, path⟩ := body.sound outside path
          obtain ⟨more, rest, least, rfl, lesser, ⟨count, follows⟩, path⟩ :=
            inductionHypothesis less (Nat.lt_succ_of_le short) path
          refine ⟨lead ++ more, rest, least, by simp, by omega,
            ⟨count + 1, lead, more, rfl, ?_, ?_⟩, by simpa using path⟩
          · simpa using leads
          · exact follows
        · exact ⟨[], text, shorter, rfl, Nat.le_succ _, ⟨0, rfl⟩, path⟩

end Runs
end Program

/-! ## Code -/

/-- The code stands in the program from the given address on. -/
def Placed (program : Program) (start : Nat) (code : List Instruction) : Prop :=
  ∀ index instruction, code[index]? = some instruction → program[start + index]? = some instruction

namespace Placed

variable
  {program : Program}
  {start : Nat}

theorem head
    {instruction : Instruction}
    {code : List Instruction}
    (placed : Placed program start (instruction :: code)) :
    program[start]? = some instruction :=
  placed 0 instruction rfl

theorem tail
    {instruction : Instruction}
    {code : List Instruction}
    (placed : Placed program start (instruction :: code)) :
    Placed program (start + 1) code := by
  intro index other found
  rw [Nat.add_assoc, Nat.add_comm 1]
  exact placed (index + 1) other found

theorem left
    {code rest : List Instruction}
    (placed : Placed program start (code ++ rest)) :
    Placed program start code := by
  intro index instruction found
  have inside := (List.getElem?_eq_some_iff.mp found).1
  exact placed index instruction (by rwa [List.getElem?_append_left inside])

theorem right
    {code rest : List Instruction}
    (placed : Placed program start (code ++ rest)) :
    Placed program (start + code.length) rest := by
  intro index instruction found
  rw [Nat.add_assoc]
  refine placed _ instruction ?_
  rw [List.getElem?_append_right (Nat.le_add_right _ _), Nat.add_sub_cancel_left]
  exact found

end Placed

/-- Copies of code are as long as the code, again and again. -/
theorem length_copies
    {codeAt : Nat → List Instruction}
    {size : Nat}
    (sized : ∀ start, (codeAt start).length = size)
    (count : Nat) :
    ∀ start, (copies codeAt size count start).length = count * size := by
  induction count with
  | zero => simp [copies]
  | succ count inductionHypothesis =>
      intro start
      rw [copies, List.length_append, sized, inductionHypothesis, Nat.succ_mul, Nat.add_comm]

/-- Every optional copy has a fork of its own. -/
theorem length_optionalCopies
    {codeAt : Nat → List Instruction}
    {size : Nat}
    (sized : ∀ start, (codeAt start).length = size)
    (greedy : Bool)
    (exit count : Nat) :
    ∀ start, (optionalCopies codeAt size greedy exit count start).length = count * (size + 1) := by
  induction count with
  | zero => simp [optionalCopies]
  | succ count inductionHypothesis =>
      intro start
      rw [optionalCopies, List.length_cons, List.length_append, sized, inductionHypothesis,
        Nat.succ_mul]
      omega

/-- The code of an expression has the size that is known of it. -/
theorem length_codeAt (regex : Regex) : ∀ start, (regex.codeAt start).length = regex.codeSize := by
  induction regex with
  | empty => exact fun _ => rfl
  | literal chars => exact fun _ => List.length_map ..
  | set | look => exact fun _ => rfl
  | seq left right leftSized rightSized =>
      intro start
      rw [codeAt, List.length_append, leftSized, rightSized, codeSize]
  | alt left right leftSized rightSized =>
      intro start
      simp only [codeAt, List.length_cons, List.length_append, leftSized, rightSized, codeSize]
      omega
  | rep min max greedy body sized =>
      intro start
      match min, max with
      | 0, none => simp [codeAt, sized, codeSize]
      | min + 1, none => simp [codeAt, length_copies sized, codeSize]
      | min, some max =>
          simp [codeAt, length_copies sized, length_optionalCopies sized, codeSize]
  | capture index body sized => exact fun start => sized start

/-- The addresses from one on, up to another. -/
def Between (start finish address : Nat) : Prop :=
  start ≤ address ∧ address < finish

section Code

variable {program : Program}

/-- Consuming a text character by character runs it. -/
theorem runs_literal (chars : List Char) :
    ∀ start, Placed program start (chars.map fun c => .consume (.single c)) →
      program.Runs (Between start (start + chars.length)) (literal chars).language start
        (start + chars.length) := by
  induction chars with
  | nil => exact fun start _ => .nothing _ start
  | cons c chars inductionHypothesis =>
      intro start placed
      have first : program.Runs (Between start (start + (c :: chars).length))
          (set (.single c)).language start (start + 1) :=
        .consume ⟨Nat.le_refl _, by simp⟩ placed.head
      have rest : program.Runs (Between start (start + (c :: chars).length))
          (literal chars).language (start + 1) (start + (c :: chars).length) := by
        have finish : start + 1 + chars.length = start + (c :: chars).length := by
          simp only [List.length_cons]
          omega
        rw [← finish]
        exact (inductionHypothesis _ placed.tail).mono fun address within =>
          ⟨by have := within.1; omega, within.2⟩
      have joined : (literal (c :: chars)).language =
          (set (.single c)).language.followedBy (literal chars).language := by
        funext before text after
        simp [language, Language.followedBy]
      rw [joined]
      exact first.followedBy rest

section Copies

variable
  {codeAt : Nat → List Instruction}
  {size : Nat}
  {body : Language}
  (sized : ∀ start, (codeAt start).length = size)
  (runs : ∀ start, Placed program start (codeAt start) →
    program.Runs (Between start (start + size)) body start (start + size))

include sized

/-- The last of some copies stands after the others. -/
theorem placed_last (count : Nat) :
    ∀ start, Placed program start (copies codeAt size (count + 1) start) →
      Placed program (start + count * size) (codeAt (start + count * size)) := by
  induction count with
  | zero =>
      intro start placed
      rw [Nat.zero_mul, Nat.add_zero]
      exact placed.left
  | succ count inductionHypothesis =>
      intro start placed
      have placedRest := placed.right
      rw [sized] at placedRest
      have last := inductionHypothesis _ placedRest
      have same : start + size + count * size = start + (count + 1) * size := by
        rw [Nat.succ_mul]
        omega
      rwa [same] at last

include runs

/-- Copies of code run as many rounds. -/
theorem runs_copies (count : Nat) :
    ∀ start, Placed program start (copies codeAt size count start) →
      program.Runs (Between start (start + count * size)) (body.rounds count) start
        (start + count * size) := by
  induction count with
  | zero =>
      intro start _
      rw [Nat.zero_mul, Nat.add_zero]
      exact .nothing _ start
  | succ count inductionHypothesis =>
      intro start placed
      have finish : start + size + count * size = start + (count + 1) * size := by
        rw [Nat.succ_mul]
        omega
      have placedRest := placed.right
      rw [sized] at placedRest
      have first := runs start placed.left
      have rest := inductionHypothesis _ placedRest
      rw [finish] at rest
      refine .followedBy (first.mono ?_) (rest.mono ?_)
      · exact fun address within => ⟨within.1, by have := within.2; omega⟩
      · exact fun address within => ⟨by have := within.1; omega, within.2⟩

/-- Optional copies of code run up to as many rounds. -/
theorem runs_optionalCopies (greedy : Bool) (exit count : Nat) :
    ∀ start, start + count * (size + 1) = exit →
      Placed program start (optionalCopies codeAt size greedy exit count start) →
        program.Runs (Between start exit) (body.upTo count) start exit := by
  induction count with
  | zero =>
      intro start atExit _
      rw [Nat.zero_mul, Nat.add_zero] at atExit
      rw [atExit, Language.upTo_zero]
      exact .nothing _ exit
  | succ count inductionHypothesis =>
      intro start atExit placed
      rw [Nat.succ_mul] at atExit
      have placedRest := placed.tail.right
      rw [sized] at placedRest
      have first := runs (start + 1) placed.tail.left
      have rest := inductionHypothesis _ (by omega) placedRest
      rw [Language.upTo_succ]
      refine .fork ⟨Nat.le_refl _, by omega⟩ placed.head
        (.followedBy (first.mono ?_) (rest.mono ?_)) (.nothing _ exit)
      · exact fun address within => ⟨by have := within.1; omega, by have := within.2; omega⟩
      · exact fun address within => ⟨by have := within.1; omega, within.2⟩

end Copies

/-- The code of an expression runs its language. -/
theorem runs_codeAt (regex : Regex) :
    ∀ start, Placed program start (regex.codeAt start) →
      program.Runs (Between start (start + regex.codeSize)) regex.language start
        (start + regex.codeSize) := by
  induction regex with
  | empty => exact fun start _ => .nothing _ start
  | literal chars => exact fun start placed => runs_literal chars start placed
  | set members =>
      exact fun start placed => .consume ⟨Nat.le_refl _, Nat.lt_succ_self _⟩ placed.head
  | look assertion =>
      exact fun start placed => .assert ⟨Nat.le_refl _, Nat.lt_succ_self _⟩ placed.head
  | seq left right leftRuns rightRuns =>
      intro start placed
      have placedRight := placed.right
      rw [length_codeAt] at placedRight
      have first := leftRuns start placed.left
      have second := rightRuns _ placedRight
      rw [codeSize, ← Nat.add_assoc]
      refine .followedBy (first.mono ?_) (second.mono ?_)
      · exact fun address within => ⟨within.1, by have := within.2; omega⟩
      · exact fun address within => ⟨by have := within.1; omega, within.2⟩
  | alt left right leftRuns rightRuns =>
      intro start placed
      have placedJump := placed.tail.right
      rw [length_codeAt] at placedJump
      have finish : start + 1 + left.codeSize + 1 + right.codeSize =
          start + (alt left right).codeSize := by
        rw [codeSize]
        omega
      have first := leftRuns (start + 1) placed.tail.left
      have second := rightRuns _ placedJump.tail
      have leaves := placedJump.head
      rw [finish] at second leaves
      have left : program.Runs (Between start (start + (alt left right).codeSize)) left.language
          (start + 1) (start + (alt left right).codeSize) := by
        rw [← Language.followedBy_nothing left.language]
        refine .followedBy (first.mono ?_) (.jump ⟨by omega, by omega⟩ leaves)
        exact fun address within => ⟨by have := within.1; omega, by have := within.2; omega⟩
      have enters : program[start]? =
          some (preferring true (start + 1) (start + 1 + _ + 1)) := placed.head
      refine .fork ⟨Nat.le_refl _, by omega⟩ enters left (second.mono ?_)
      exact fun address within => ⟨by have := within.1; omega, within.2⟩
  | rep min max greedy body runs =>
      intro start placed
      match min, max with
      | 0, none =>
          have placedBack := placed.tail.right
          rw [length_codeAt] at placedBack
          have round := runs (start + 1) placed.tail.left
          have finish : start + 2 + body.codeSize = start + (rep 0 none greedy body).codeSize := by
            rw [codeSize]
            omega
          have enters := placed.head
          have returns := placedBack.head
          rw [finish] at enters returns
          rw [language_rep_none, Language.rounds, Language.nothing_followedBy]
          have round : program.Runs
              (Between start (start + (rep 0 none greedy body).codeSize)) body.language (start + 1)
              (start + 1 + body.codeSize) :=
            round.mono fun address within =>
              ⟨by have := within.1; omega, by have := within.2; omega⟩
          split at returns
          · -- The end of a round goes back to the only fork.
            refine .loop ⟨Nat.le_refl _, by omega⟩ enters ?_
            rw [← Language.followedBy_nothing body.language]
            exact round.followedBy (.jump ⟨by omega, by omega⟩ returns)
          · -- The end of a round is a fork of its own.
            have more : program.Runs
                (Between start (start + (rep 0 none greedy body).codeSize)) body.language.star
                (start + 1 + body.codeSize) (start + (rep 0 none greedy body).codeSize) :=
              .loop ⟨by omega, by omega⟩ returns round
            rw [Language.star_eq]
            exact .fork ⟨Nat.le_refl _, by omega⟩ enters (round.followedBy more) (.nothing _ _)
      | min + 1, none =>
          have sized := length_codeAt body
          have placedBack := placed.right
          rw [length_copies sized] at placedBack
          have finish : start + min * body.codeSize + body.codeSize + 1 =
              start + (rep (min + 1) none greedy body).codeSize := by
            rw [codeSize, Nat.succ_mul]
            omega
          have back : start + (min + 1) * body.codeSize =
              start + min * body.codeSize + body.codeSize := by
            rw [Nat.succ_mul]
            omega
          have rounds := runs_copies sized runs (min + 1) start placed.left
          have last := runs _ (placed_last sized min start placed.left)
          have returns := placedBack.head
          rw [finish, back] at returns
          rw [back] at rounds
          rw [language_rep_none]
          refine .followedBy (rounds.mono ?_) (.loop ⟨by omega, by omega⟩ returns (last.mono ?_))
          · exact fun address within => ⟨within.1, by have := within.2; omega⟩
          · exact fun address within => ⟨by have := within.1; omega, by have := within.2; omega⟩
      | min, some max =>
          rw [codeAt] at placed
          have sized := length_codeAt body
          have placedOptional := placed.right
          rw [length_copies sized] at placedOptional
          have finish : start + min * body.codeSize + (max - min) * (body.codeSize + 1) =
              start + (rep min (some max) greedy body).codeSize := by
            rw [codeSize]
            omega
          have rounds := runs_copies sized runs min start placed.left
          have more := runs_optionalCopies sized runs greedy _ (max - min) _ rfl placedOptional
          rw [finish] at more
          rw [language_rep_some]
          refine .followedBy (rounds.mono ?_) (more.mono ?_)
          · exact fun address within => ⟨within.1, by have := within.2; omega⟩
          · exact fun address within => ⟨by have := within.1; omega, within.2⟩
  | capture index body runs => exact fun start placed => runs start placed

end Code
/-! ## Programs of expressions -/

/-- The code of an expression does not accept. -/
theorem ne_accept_of_mem_codeAt
    (regex : Regex)
    {instruction : Instruction} :
    ∀ {start : Nat}, instruction ∈ regex.codeAt start → instruction ≠ .accept := by
  have choice (greedy : Bool) (first second : Nat) :
      preferring greedy first second ≠ .accept := by
    cases greedy <;> exact nofun
  induction regex with
  | empty => exact nofun
  | literal chars =>
      intro start member
      obtain ⟨c, -, rfl⟩ := List.mem_map.mp member
      exact nofun
  | set | look =>
      intro start member
      obtain rfl := List.mem_singleton.mp member
      exact nofun
  | seq left right leftHypothesis rightHypothesis =>
      intro start member
      rcases List.mem_append.mp member with member | member
      · exact leftHypothesis member
      · exact rightHypothesis member
  | alt left right leftHypothesis rightHypothesis =>
      intro start member
      simp only [codeAt, List.mem_cons, List.mem_append] at member
      rcases member with rfl | member | rfl | member
      · exact nofun
      · exact leftHypothesis member
      · exact nofun
      · exact rightHypothesis member
  | rep min max greedy body inductionHypothesis =>
      have copied (count : Nat) : ∀ {start : Nat},
          instruction ∈ copies body.codeAt body.codeSize count start → instruction ≠ .accept := by
        induction count with
        | zero => exact nofun
        | succ count copied =>
            intro start member
            rcases List.mem_append.mp member with member | member
            · exact inductionHypothesis member
            · exact copied member
      have optional (exit count : Nat) : ∀ {start : Nat},
          instruction ∈ optionalCopies body.codeAt body.codeSize greedy exit count start →
            instruction ≠ .accept := by
        induction count with
        | zero => exact nofun
        | succ count optional =>
            intro start member
            simp only [optionalCopies, List.mem_cons, List.mem_append] at member
            rcases member with rfl | member | member
            · exact choice _ _ _
            · exact inductionHypothesis member
            · exact optional member
      intro start member
      match min, max with
      | 0, none =>
          simp only [codeAt, List.mem_cons, List.mem_append, List.not_mem_nil, or_false] at member
          rcases member with rfl | member | rfl
          · exact choice _ _ _
          · exact inductionHypothesis member
          · split
            · exact nofun
            · exact choice _ _ _
      | min + 1, none =>
          simp only [codeAt, List.mem_cons, List.mem_append, List.not_mem_nil, or_false] at member
          rcases member with member | rfl
          · exact copied _ member
          · exact choice _ _ _
      | min, some max =>
          rw [codeAt, List.mem_append] at member
          rcases member with member | member
          · exact copied _ member
          · exact optional _ _ member
  | capture index body inductionHypothesis => exact inductionHypothesis

/-- The program of an expression starts with its code. -/
theorem getElem?_compile_of_lt
    (regex : Regex)
    {address : Nat}
    (inside : address < regex.codeSize) :
    regex.compile[address]? = (regex.codeAt 0)[address]? := by
  rw [compile, List.getElem?_toArray, List.getElem?_append_left]
  rwa [length_codeAt]

/-- The program of an expression accepts after its code. -/
theorem getElem?_compile_self (regex : Regex) :
    regex.compile[regex.codeSize]? = some .accept := by
  rw [compile, List.getElem?_toArray, List.getElem?_append_right, length_codeAt, Nat.sub_self]
  · rfl
  · exact Nat.le_of_eq (regex.length_codeAt 0)

/-- The program of an expression accepts nowhere else. -/
theorem acceptsAt_compile_iff (regex : Regex) (address : Nat) :
    Program.acceptsAt regex.compile address = true ↔ address = regex.codeSize := by
  refine ⟨fun accepts => ?_, ?_⟩
  · unfold Program.acceptsAt at accepts
    split at accepts
    · next code =>
        rcases Nat.lt_trichotomy address regex.codeSize with inside | same | outside
        · rw [getElem?_compile_of_lt regex inside] at code
          exact absurd rfl (regex.ne_accept_of_mem_codeAt (List.mem_of_getElem? code))
        · exact same
        · have size : regex.compile.size = regex.codeSize + 1 := by
            simp [compile, length_codeAt]
          rw [Array.getElem?_eq_none (by omega)] at code
          cases code
    · cases accepts
  · rintro rfl
    rw [Program.acceptsAt, getElem?_compile_self]

/-- The ways through the program of an expression consume what the expression
matches. -/
theorem exists_path_compile_iff
    (regex : Regex)
    (before text after : List Char) :
    (∃ length, Program.Path regex.compile regex.codeSize after length 0 before text) ↔
      regex.language before text after := by
  have placed : Placed regex.compile 0 (regex.codeAt 0) := by
    intro index instruction found
    have inside := (List.getElem?_eq_some_iff.mp found).1
    rw [length_codeAt] at inside
    rwa [Nat.zero_add, getElem?_compile_of_lt regex inside]
  have runs := regex.runs_codeAt 0 placed
  rw [Nat.zero_add] at runs
  refine ⟨?_, runs.complete⟩
  rintro ⟨length, path⟩
  obtain ⟨first, rest, _, rfl, -, matched, path⟩ :=
    runs.sound (fun within => Nat.lt_irrefl _ within.2) path
  -- Nothing goes on from where the program accepts.
  cases path with
  | stay => simpa using matched
  | hop hops path => cases hops <;> simp_all [getElem?_compile_self]
  | consume code => simp [getElem?_compile_self] at code

end Regex
end Heirloom
