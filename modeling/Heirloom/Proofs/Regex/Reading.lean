import Heirloom.Proofs.Regex.Classes

/-!
# Expressions are read round by round

An expression is read in rounds, which keep the groups that are open on a stack. A round
does the same whatever stands below these groups, unless it closes the last of them. So a
text in parentheses is read as a group if and only if it begins with a text that leaves no
group open, and that group is what the text is read as by itself.
-/

namespace Heirloom
namespace Regex

open Reader

/-- The piece that a group makes with the anchor after it. -/
def OpenGroup.anchoredClose (group : OpenGroup) (flags : Flags) : Piece :=
  (group.add { regex := .look flags.endAnchor }).close

/-! ## Rounds -/

/-- Where reading an expression stands. -/
structure GroupState where
  /-- The groups around the one being read, the nearest first. -/
  outer : List OpenGroup := []
  /-- The group being read. -/
  group : OpenGroup := {}
  /-- The flags in force. -/
  flags : Flags := {}
  /-- The groups seen so far. -/
  seen : SeenGroups := {}

namespace GroupState

/-- Go on after a part. -/
def add (state : GroupState) (piece : Piece) : GroupState :=
  { state with group := state.group.add piece }

/-- Go on with the next alternative. -/
def alternate (state : GroupState) : GroupState :=
  { state with group := state.group.alternate }

/-- Go on after a repetition of the last part. -/
def repeatLast?
    (state : GroupState)
    (min : Nat)
    (max : Option Nat)
    (isLazy : Bool) : Option GroupState :=
  (state.group.repeatLast? min max (isLazy == state.flags.swapGreed)).map fun group =>
    { state with group := group }

/-- Go on in a group. -/
def enter
    (state : GroupState)
    (flags : Flags)
    (index : Option Nat)
    (seen : SeenGroups) : GroupState :=
  ⟨state.group :: state.outer, { outerFlags := state.flags, index := index }, flags, seen⟩

/-- Go on after an opening. -/
def open? (state : GroupState) : Opening → Option GroupState
  | .setFlags updated =>
      some { state.add { regex := .empty, repeatable := false } with flags := updated }
  | .plain inner => some (state.enter inner none state.seen)
  | .numbered name =>
      (state.seen.next? name).map fun seen => state.enter state.flags (some seen.count) seen

/-- Go on after the end of a group, if it stands in another one. -/
def leave? (state : GroupState) : Option GroupState :=
  match state.outer with
  | [] => none
  | enclosing :: outer =>
      some ⟨outer, enclosing.add state.group.enclosed, state.group.outerFlags, state.seen⟩

/-- The rest of a group, after its parenthesis. -/
def opening? (state : GroupState) : Reader GroupState := fun chars =>
  andThen (Regex.opening? state.flags) (fun opening => offer (state.open? opening))
    (skipIgnored state.flags chars)

/-- The rest of a class, after its bracket. -/
def class? (state : GroupState) : Reader GroupState :=
  andThen (wholeClass? state.flags) fun found =>
    give (state.add { regex := .ofSet found.1, depth := found.2 })

/-- The rest of a repetition. -/
def repetition? (state : GroupState) (min : Nat) (max : Option Nat) : Reader GroupState :=
  andThen (fun chars => some (takeLazy chars)) fun isLazy =>
    offer (state.repeatLast? min max isLazy)

/-- The rest of a counted repetition, after its brace. -/
def counted? (state : GroupState) : Reader GroupState :=
  andThen (counts? state.flags) fun bounds chars =>
    state.repetition? bounds.1 bounds.2 (skipIgnored state.flags chars)

/-- The rest of an escape, after its backslash. -/
def escaped? (state : GroupState) : Reader GroupState :=
  andThen (escape? state.flags) fun primitive =>
    offer ((primitive.piece? state.flags).map state.add)

/-- A character that stands for itself. -/
def literal? (state : GroupState) : Reader GroupState :=
  onFirst fun c => offer (((Primitive.literal c false).piece? state.flags).map state.add)

/-- One round of reading an expression. -/
def round? (state : GroupState) : Reader GroupState :=
  onChar '(' state.opening? <|
  onChar ')' (offer state.leave?) <|
  onChar '|' (give state.alternate) <|
  onChar '[' state.class? <|
  onChar '?' (state.repetition? 0 (some 1)) <|
  onChar '*' (state.repetition? 0 none) <|
  onChar '+' (state.repetition? 1 none) <|
  onChar '\x7b' state.counted? <|
  onChar '.' (offer (state.flags.dot?.map fun members => state.add { regex := .ofSet members })) <|
  onChar '^' (give (state.add { regex := .look state.flags.startAnchor })) <|
  onChar '$' (give (state.add { regex := .look state.flags.endAnchor })) <|
  onChar '\\' state.escaped? <|
  state.literal?

/-- Reading an expression goes round by round. -/
theorem readGroups?_succ (fuel : Nat) (state : GroupState) (chars : List Char) :
    readGroups? (fuel + 1) state.outer state.group state.flags state.seen chars =
      match skipIgnored state.flags chars with
      | [] => if state.outer.isEmpty then some state.group.close else none
      | c :: rest => (state.round? (c :: rest)).bind fun found =>
          readGroups? fuel found.1.outer found.1.group found.1.flags found.1.seen found.2 := by
  obtain ⟨outer, group, flags, seen⟩ := state
  conv => lhs; unfold readGroups?
  dsimp only
  generalize skipIgnored flags chars = chars
  have uncounted (min : Nat) (max : Option Nat) (rest : List Char) :
      ((group.repeatLast? min max ((takeLazy rest).1 == flags.swapGreed)).bind fun group =>
          readGroups? fuel outer group flags seen (takeLazy rest).2) =
        (repetition? ⟨outer, group, flags, seen⟩ min max rest).bind fun found =>
          readGroups? fuel found.1.outer found.1.group found.1.flags found.1.seen found.2 := by
    rw [repetition?, Reader.andThen, Option.bind_some, offer, repeatLast?]
    cases group.repeatLast? min max ((takeLazy rest).1 == flags.swapGreed) <;> rfl
  split
  · rfl
  · next rest =>
      have round : round? ⟨outer, group, flags, seen⟩ ('(' :: rest) =
          opening? ⟨outer, group, flags, seen⟩ rest := rfl
      dsimp only
      rw [round, opening?, Reader.andThen]
      cases Regex.opening? flags (skipIgnored flags rest) with
      | none => rfl
      | some found =>
          obtain ⟨opening, rest⟩ := found
          cases opening with
          | setFlags updated => rfl
          | plain inner => rfl
          | numbered name =>
              dsimp only [Option.bind_eq_bind, Option.bind_some, offer, open?]
              cases seen.next? name <;> rfl
  · cases outer <;> rfl
  · rfl
  · next rest =>
      have round : round? ⟨outer, group, flags, seen⟩ ('[' :: rest) =
          class? ⟨outer, group, flags, seen⟩ rest := rfl
      dsimp only
      rw [round, class?, Reader.andThen, Regex.class?_eq]
      cases wholeClass? flags rest <;> rfl
  · next rest => exact uncounted 0 (some 1) rest
  · next rest => exact uncounted 0 none rest
  · next rest => exact uncounted 1 none rest
  · next rest =>
      have round : round? ⟨outer, group, flags, seen⟩ ('\x7b' :: rest) =
          counted? ⟨outer, group, flags, seen⟩ rest := rfl
      dsimp only
      rw [round, counted?, Reader.andThen]
      cases counts? flags rest with
      | none => rfl
      | some found => exact uncounted found.1.1 found.1.2 (skipIgnored flags found.2)
  · next rest =>
      have round : round? ⟨outer, group, flags, seen⟩ ('.' :: rest) =
          offer (flags.dot?.map fun members =>
            add ⟨outer, group, flags, seen⟩ { regex := .ofSet members }) rest := rfl
      dsimp only
      rw [round, offer]
      cases flags.dot? <;> rfl
  · rfl
  · rfl
  · next rest =>
      have round : round? ⟨outer, group, flags, seen⟩ ('\\' :: rest) =
          escaped? ⟨outer, group, flags, seen⟩ rest := rfl
      dsimp only
      rw [round, escaped?, Reader.andThen]
      cases escape? flags rest with
      | none => rfl
      | some found =>
          dsimp only [Option.bind_eq_bind, Option.bind_some, offer]
          cases found.1.piece? flags <;> rfl
  · next c rest opens closes alternates bracket optional star plus counted dot start final escape =>
      have round : round? ⟨outer, group, flags, seen⟩ (c :: rest) =
          literal? ⟨outer, group, flags, seen⟩ (c :: rest) := by
        simp only [round?, onChar, if_neg opens, if_neg closes, if_neg alternates, if_neg bracket,
          if_neg optional, if_neg star, if_neg plus, if_neg counted, if_neg dot, if_neg start,
          if_neg final, if_neg escape]
      dsimp only
      rw [round, literal?, onFirst, offer]
      cases (Primitive.literal c false).piece? flags <;> rfl

/-! ## What a round takes -/

variable (state : GroupState)

theorem local_opening? : Local state.opening? :=
  .skip ((Regex.local_opening? state.flags).andThen fun _ => .offer _) state.flags

theorem local_class? : Local state.class? :=
  (local_wholeClass? state.flags).andThen fun _ => .give _

theorem local_repetition? (min : Nat) (max : Option Nat) : Local (state.repetition? min max) :=
  local_takeLazy.andThen fun _ => .offer _

theorem local_counted? : Local state.counted? :=
  (local_counts? state.flags).andThen fun _ => .skip (state.local_repetition? _ _) state.flags

theorem takes_round? : Takes state.round? := by
  have escaped : Shortens state.escaped? :=
    (shortens_escape? state.flags).andThen fun _ => (Local.offer _).shortens
  exact .onChar state.local_opening?.shortens <|
    .onChar (Local.offer _).shortens <|
    .onChar (Local.give _).shortens <|
    .onChar state.local_class?.shortens <|
    .onChar (state.local_repetition? _ _).shortens <|
    .onChar (state.local_repetition? _ _).shortens <|
    .onChar (state.local_repetition? _ _).shortens <|
    .onChar state.local_counted?.shortens <|
    .onChar (Local.offer _).shortens <|
    .onChar (Local.give _).shortens <|
    .onChar (Local.give _).shortens <|
    .onChar escaped <|
    .onFirst fun _ => (Local.offer _).shortens

/-- A brace dangles from where reading goes on. -/
def Dangles (next : GroupState) (more : List Char) : Prop :=
  Regex.Dangles next.flags '\x7b' more

theorem settles_escaped? (chars : List Char) : Settles Dangles state.escaped? chars := by
  refine (settles_escape? state.flags chars).map
    (fun primitive => (primitive.piece? state.flags).map state.add) fun dangles isNext => ?_
  obtain ⟨piece, -, rfl⟩ := Option.map_eq_some_iff.mp isNext
  exact dangles

variable {state} in
/-- What a round leaves is shorter than the text. -/
theorem length_lt_of_round?
    {next : GroupState}
    {chars rest left : List Char}
    {c : Char}
    (ahead : skipIgnored state.flags chars = c :: rest)
    (isRound : state.round? (c :: rest) = some (next, left)) :
    left.length < chars.length := by
  have taken := (state.takes_round? isRound).2
  have skipped := (skipIgnored_suffix state.flags chars).length_le
  rw [ahead] at skipped
  exact Nat.lt_of_lt_of_le taken skipped

/-- Where there is a character, a round ends or leaves a brace that dangles. -/
theorem settles_round? (c : Char) (rest : List Char) :
    Settles Dangles state.round? (c :: rest) := by
  have ends {read : Reader GroupState} (isLocal : Local read) (chars : List Char) :
      Settles Dangles read chars := .inl (isLocal.ends chars)
  refine .onChar_cons (ends state.local_opening? rest) ?_
  refine .onChar_cons (ends (.offer _) rest) ?_
  refine .onChar_cons (ends (.give _) rest) ?_
  refine .onChar_cons (ends state.local_class? rest) ?_
  refine .onChar_cons (ends (state.local_repetition? _ _) rest) ?_
  refine .onChar_cons (ends (state.local_repetition? _ _) rest) ?_
  refine .onChar_cons (ends (state.local_repetition? _ _) rest) ?_
  refine .onChar_cons (ends state.local_counted? rest) ?_
  refine .onChar_cons (ends (.offer _) rest) ?_
  refine .onChar_cons (ends (.give _) rest) ?_
  refine .onChar_cons (ends (.give _) rest) ?_
  refine .onChar_cons (state.settles_escaped? rest) ?_
  exact ends (.onFirst fun _ => .offer _) (c :: rest)

/-- A bound on the rounds that is larger than the text does not matter. -/
theorem readGroups?_congr
    {fuel more : Nat}
    {chars : List Char}
    (enough : chars.length < fuel)
    (others : chars.length < more) :
    readGroups? fuel state.outer state.group state.flags state.seen chars =
      readGroups? more state.outer state.group state.flags state.seen chars := by
  induction fuel generalizing more state chars with
  | zero => exact absurd enough (Nat.not_lt_zero _)
  | succ fuel inductionHypothesis =>
      cases more with
      | zero => exact absurd others (Nat.not_lt_zero _)
      | succ more =>
          rw [readGroups?_succ, readGroups?_succ]
          split
          · rfl
          · next ahead =>
              refine Option.bind_congr fun found isRound => ?_
              have fewer := length_lt_of_round? ahead isRound
              exact inductionHypothesis found.1 (by omega) (by omega)

/-- Read the rest of an expression to the end of the text. -/
def read? (chars : List Char) : Option Piece :=
  readGroups? (chars.length + 1) state.outer state.group state.flags state.seen chars

theorem read?_of_nil
    {state : GroupState}
    {chars : List Char}
    (nothing : skipIgnored state.flags chars = []) :
    state.read? chars = if state.outer.isEmpty then some state.group.close else none := by
  rw [read?, readGroups?_succ, nothing]

theorem read?_of_cons
    {state : GroupState}
    {chars rest : List Char}
    {c : Char}
    (ahead : skipIgnored state.flags chars = c :: rest) :
    state.read? chars = (state.round? (c :: rest)).bind fun found => found.1.read? found.2 := by
  rw [read?, readGroups?_succ, ahead]
  refine Option.bind_congr fun found isRound => ?_
  exact found.1.readGroups?_congr (length_lt_of_round? ahead isRound) (Nat.lt_succ_self _)

theorem read?_of_round
    {state next : GroupState}
    {chars rest left : List Char}
    {c : Char}
    (ahead : skipIgnored state.flags chars = c :: rest)
    (isRound : state.round? (c :: rest) = some (next, left)) :
    state.read? chars = next.read? left := by
  rw [read?_of_cons ahead, isRound, Option.bind_some]

/-! ## Other groups around -/

/-- The state with other groups around all that are open. -/
def inside (frames : List OpenGroup) : GroupState :=
  { state with outer := state.outer ++ frames }

theorem inside_nil : state.inside [] = state := by
  rw [inside, List.append_nil]

variable {state}

/-- A round does the same whatever stands below the open groups, unless it closes the
last of them. -/
theorem round?_inside
    {chars : List Char}
    (stays : state.outer = [] → ∀ rest, chars ≠ ')' :: rest)
    (frames : List OpenGroup) :
    (state.inside frames).round? chars =
      (state.round? chars).map fun found => (found.1.inside frames, found.2) := by
  have repeatedLast (min : Nat) (max : Option Nat) (isLazy : Bool) :
      (state.inside frames).repeatLast? min max isLazy =
        (state.repeatLast? min max isLazy).map fun next => next.inside frames := by
    rw [repeatLast?, repeatLast?, Option.map_map]
    rfl
  have repeated (min : Nat) (max : Option Nat) (rest : List Char) :
      Turns (inside · frames) (state.repetition? min max)
        ((state.inside frames).repetition? min max) rest := by
    refine .andThen fun isLazy rest => ?_
    rw [repeatedLast]
    exact .offer _ rest
  have added {α : Type} (found : Option α) (part : α → Piece) (rest : List Char) :
      Turns (inside · frames) (offer (found.map fun result => state.add (part result)))
        (offer (found.map fun result => (state.inside frames).add (part result))) rest := by
    cases found <;> rfl
  have opened (opening : Opening) :
      (state.inside frames).open? opening =
        (state.open? opening).map fun next => next.inside frames := by
    cases opening with
    | setFlags | plain => rfl
    | numbered name =>
        rw [open?, open?, Option.map_map]
        rfl
  change Turns (inside · frames) state.round? (state.inside frames).round? chars
  refine .onChar (fun rest _ => ?_) ?_
  · change Turns (inside · frames)
      (andThen (Regex.opening? state.flags) fun opening => offer (state.open? opening))
      (andThen (Regex.opening? state.flags) fun opening =>
        offer ((state.inside frames).open? opening))
      (skipIgnored state.flags rest)
    refine .andThen fun opening rest => ?_
    rw [opened]
    exact .offer _ rest
  refine .onChar (fun rest closes => ?_) ?_
  · obtain ⟨enclosing, outer, isOuter⟩ :=
      List.exists_cons_of_ne_nil fun nothing => stays nothing rest closes
    have left : (state.inside frames).leave? = state.leave?.map fun next => next.inside frames := by
      rw [leave?, leave?, inside, isOuter]
      rfl
    rw [left]
    exact .offer _ rest
  refine .onChar (fun rest _ => rfl) ?_
  refine .onChar (fun rest _ => .andThen fun found rest => rfl) ?_
  refine .onChar (fun rest _ => repeated _ _ rest) ?_
  refine .onChar (fun rest _ => repeated _ _ rest) ?_
  refine .onChar (fun rest _ => repeated _ _ rest) ?_
  refine .onChar (fun rest _ => .andThen fun bounds rest => repeated _ _ _) ?_
  refine .onChar (fun rest _ => added state.flags.dot? (fun members => { regex := .ofSet members })
    rest) ?_
  refine .onChar (fun rest _ => rfl) ?_
  refine .onChar (fun rest _ => rfl) ?_
  refine .onChar (fun rest _ => .andThen fun primitive rest => added _ id rest) ?_
  exact .onFirst fun c rest => added _ id rest

/-- What a round makes of a state, it makes of it inside other groups. -/
theorem round?_inside_of_some
    {next : GroupState}
    {chars left : List Char}
    (isRound : state.round? chars = some (next, left))
    (frames : List OpenGroup) :
    (state.inside frames).round? chars = some (next.inside frames, left) := by
  have stays (nothing : state.outer = []) (rest : List Char) : chars ≠ ')' :: rest := by
    rintro rfl
    have closes : state.round? (')' :: rest) = offer state.leave? rest := rfl
    rw [closes, leave?, nothing] at isRound
    cases isRound
  rw [round?_inside stays, isRound, Option.map_some]

variable (state) in
/-- The flags around the group that was opened first, and its number. -/
def origin : Flags × Option Nat :=
  ((state.outer.getLastD state.group).outerFlags, (state.outer.getLastD state.group).index)

/-- A change of the group being read leaves its flags and its number. -/
theorem origin_congr
    {next : GroupState}
    (outer : next.outer = state.outer)
    (outerFlags : next.group.outerFlags = state.group.outerFlags)
    (index : next.group.index = state.group.index) :
    next.origin = state.origin := by
  rw [origin, origin, outer]
  cases state.outer with
  | nil => exact Prod.ext outerFlags index
  | cons enclosing outer => rfl

theorem origin_enter (flags : Flags) (index : Option Nat) (seen : SeenGroups) :
    (state.enter flags index seen).origin = state.origin := by
  rw [origin, enter, List.getLastD_cons]
  rfl

theorem origin_of_open?
    {next : GroupState}
    {opening : Opening}
    (opens : state.open? opening = some next) :
    next.origin = state.origin := by
  cases opening with
  | setFlags updated =>
      cases opens
      exact origin_congr rfl rfl rfl
  | plain inner =>
      cases opens
      exact origin_enter _ _ _
  | numbered name =>
      obtain ⟨seen, -, rfl⟩ := Option.map_eq_some_iff.mp opens
      exact origin_enter _ _ _

theorem origin_of_leave?
    {next : GroupState}
    (leaves : state.leave? = some next) :
    next.origin = state.origin := by
  unfold leave? at leaves
  split at leaves
  · cases leaves
  · next enclosing outer isOuter =>
      cases leaves
      have around : state.origin = origin ⟨outer, enclosing, state.flags, state.seen⟩ := by
        rw [origin, isOuter, List.getLastD_cons]
        rfl
      rw [around]
      exact origin_congr rfl rfl rfl

theorem origin_of_repeatLast?
    {next : GroupState}
    {min : Nat}
    {max : Option Nat}
    {isLazy : Bool}
    (repeats : state.repeatLast? min max isLazy = some next) :
    next.origin = state.origin := by
  obtain ⟨group, isGroup, rfl⟩ := Option.map_eq_some_iff.mp repeats
  unfold OpenGroup.repeatLast? at isGroup
  split at isGroup
  · cases isGroup
  · split at isGroup
    · cases isGroup
      exact origin_congr rfl rfl rfl
    · cases isGroup

/-- No round changes what was fixed when the first group was opened. -/
theorem origin_of_round?
    {next : GroupState}
    {chars left : List Char}
    (isRound : state.round? chars = some (next, left)) :
    next.origin = state.origin := by
  have added {α : Type} (found : Option α) (part : α → Piece) :
      Gives (fun next => next.origin = state.origin)
        (offer (found.map fun result => state.add (part result))) := by
    refine .offer fun next isNext => ?_
    obtain ⟨result, -, rfl⟩ := Option.map_eq_some_iff.mp isNext
    exact origin_congr rfl rfl rfl
  have repeated (min : Nat) (max : Option Nat) :
      Gives (fun next => next.origin = state.origin) (state.repetition? min max) :=
    .andThen fun isLazy => .offer fun next => origin_of_repeatLast?
  have opened : Gives (fun next => next.origin = state.origin)
      (andThen (Regex.opening? state.flags) fun opening => offer (state.open? opening)) :=
    .andThen fun opening => .offer fun next => origin_of_open?
  refine Gives.onChar (fun _ _ _ found => opened found) ?_ isRound
  refine .onChar (.offer fun next => origin_of_leave?) ?_
  refine .onChar (.give (origin_congr rfl rfl rfl)) ?_
  refine .onChar (.andThen fun found => .give (origin_congr rfl rfl rfl)) ?_
  refine .onChar (repeated _ _) (.onChar (repeated _ _) (.onChar (repeated _ _) ?_))
  refine .onChar (.andThen fun bounds _ _ _ found => repeated _ _ found) ?_
  refine .onChar (added _ _) ?_
  refine .onChar (.give (origin_congr rfl rfl rfl)) ?_
  refine .onChar (.give (origin_congr rfl rfl rfl)) ?_
  refine .onChar (.andThen fun primitive => added _ id) ?_
  exact .onFirst fun c => added _ id

/-! ## Texts that leave no group open -/

/-- A text is read to where no group is open but the first one, and what follows it goes
on from there, whatever stands around. -/
structure Completes (state : GroupState) (chars : List Char) (last : GroupState) : Prop where
  closed : last.outer = []
  origin : last.origin = state.origin
  reads : state.read? chars = some last.group.close
  goesOn : ∀ {mark} frames tail, IsMark mark →
    (state.inside frames).read? (chars ++ mark :: tail) = (last.inside frames).read? (mark :: tail)

/-- Where no text counts, no group is open after it. -/
theorem Completes.of_nil
    {chars : List Char}
    (closed : state.outer = [])
    (nothing : skipIgnored state.flags chars = [])
    (stays : ∀ {mark} tail, IsMark mark →
      skipIgnored state.flags (chars ++ mark :: tail) = mark :: tail) :
    Completes state chars state where
  closed := closed
  origin := rfl
  reads := by simp [read?_of_nil nothing, closed]
  goesOn frames tail isMark := by
    have marked : skipIgnored (state.inside frames).flags (chars ++ _ :: tail) = _ :: tail :=
      stays tail isMark
    have ahead : skipIgnored (state.inside frames).flags (_ :: tail) = _ :: tail :=
      skipIgnored_cons _ isMark.not_blank (isMark.ne_of_mem (by decide)) tail
    rw [read?_of_cons marked, read?_of_cons ahead]

/-- A text leaves no group open if what is left of it after a round leaves none open. -/
theorem Completes.of_round
    {next last : GroupState}
    {chars rest left : List Char}
    {c : Char}
    (completes : Completes next left last)
    (ahead : skipIgnored state.flags chars = c :: rest)
    (isRound : state.round? (c :: rest) = some (next, left))
    (stays : ∀ {mark} tail, IsMark mark →
      state.round? (c :: rest ++ mark :: tail) = some (next, left ++ mark :: tail)) :
    Completes state chars last where
  closed := completes.closed
  origin := completes.origin.trans (origin_of_round? isRound)
  reads := (read?_of_round ahead isRound).trans completes.reads
  goesOn {mark} frames tail isMark := by
    have marked : skipIgnored (state.inside frames).flags (chars ++ mark :: tail) =
        c :: (rest ++ mark :: tail) := skipIgnored_append_cons ahead isMark tail
    rw [read?_of_round marked (round?_inside_of_some (stays tail isMark) frames)]
    exact completes.goesOn frames tail isMark

/-- A text that is read leaves no group open, or what it ends in goes over a mark. -/
theorem passes_or_completes
    {chars : List Char}
    {piece : Piece}
    (reads : state.read? chars = some piece) :
    (∀ {mark}, IsMark mark → state.read? (chars ++ [mark]) = some piece) ∨
      ∃ last, Completes state chars last ∧ piece = last.group.close := by
  induction size : chars.length using Nat.strongRecOn generalizing state chars with
  | _ bound inductionHypothesis =>
      cases ahead : skipIgnored state.flags chars with
      | nil =>
          have closes := reads
          rw [read?_of_nil ahead] at closes
          split at closes
          · next closed =>
              cases closes
              rcases skipIgnored_ends state.flags chars with stays | ⟨-, beyond⟩
              · rw [ahead] at stays
                exact .inr ⟨state, .of_nil (List.isEmpty_iff.mp closed) ahead stays, rfl⟩
              · refine .inl fun isMark => ?_
                have nothing := List.eq_nil_of_length_eq_zero (Nat.le_zero.mp (beyond [] isMark))
                rw [read?_of_nil nothing, if_pos closed]
          · cases closes
      | cons c rest =>
          have marked {mark : Char} (isMark : IsMark mark) :=
            skipIgnored_append_cons ahead isMark []
          rw [read?_of_cons ahead] at reads
          obtain ⟨⟨next, left⟩, isRound, isNext⟩ := Option.bind_eq_some_iff.mp reads
          rcases state.settles_round? c rest with (⟨_, _, found, stays⟩ | passes) | strays
          · cases isRound.symm.trans found
            have fewer := size ▸ length_lt_of_round? ahead isRound
            rcases inductionHypothesis _ fewer isNext rfl with passes | ⟨last, completes, same⟩
            · exact .inl fun isMark =>
                (read?_of_round (marked isMark) (stays [] isMark)).trans (passes isMark)
            · exact .inr ⟨last, completes.of_round ahead isRound stays, same⟩
          · exact .inl fun isMark =>
              (read?_of_round (marked isMark) (passes.alike isMark isRound)).trans isNext
          · cases strays.nothing.symm.trans isRound

/-- Where no group but one more is open, a parenthesis closes that one. -/
theorem read?_close
    {frame : OpenGroup}
    (closed : state.outer = [])
    (tail : List Char) :
    (state.inside [frame]).read? (')' :: tail) =
      read? ⟨[], frame.add state.group.enclosed, state.group.outerFlags, state.seen⟩ tail := by
  have ahead : skipIgnored (state.inside [frame]).flags (')' :: tail) = ')' :: tail :=
    skipIgnored_cons _ (by decide) (by decide) tail
  refine read?_of_round ahead ?_
  have closes : (state.inside [frame]).round? (')' :: tail) =
      offer (state.inside [frame]).leave? tail := rfl
  rw [closes, leave?, inside, closed]
  rfl

/-- A brace that dangles is not read. -/
theorem read?_of_dangles
    {chars : List Char}
    (dangles : Dangles state chars) :
    state.read? chars = none := by
  obtain ⟨rest, rfl, nothing⟩ := dangles
  have ahead := skipIgnored_cons state.flags (c := '\x7b') (by decide) (by decide) rest
  have round : state.round? ('\x7b' :: rest) = state.counted? rest := rfl
  rw [read?_of_cons ahead, round, counted?, Reader.andThen, counts?_of_skipIgnored nothing]
  rfl

/-- A text in front of a parenthesis leaves no group open if what a round leaves in front
of it leaves none open. -/
theorem Completes.of_round_append
    {next last : GroupState}
    {chars rest left tail : List Char}
    {c : Char}
    (completes : Completes next left last)
    (ahead : skipIgnored state.flags chars = c :: rest)
    (isRound : state.round? (c :: rest ++ ')' :: tail) = some (next, left ++ ')' :: tail)) :
    Completes state chars last := by
  have longer : ¬ (left ++ ')' :: tail).length ≤ tail.length := by simp; omega
  rcases state.settles_round? c rest with (⟨_, _, found, stays⟩ | passes) | strays
  · have both := (stays tail .parenthesis).symm.trans isRound
    obtain ⟨rfl, same⟩ := Prod.mk.inj (Option.some.inj both)
    obtain rfl := List.append_cancel_right same
    exact completes.of_round ahead found stays
  · exact absurd (passes.beyond .parenthesis isRound) longer
  · rcases strays.onward .parenthesis isRound with short | ⟨more, same, dangles⟩
    · exact absurd short longer
    · obtain rfl := List.append_cancel_right same
      have nothing := read?_of_dangles dangles
      rw [completes.reads] at nothing
      cases nothing

/-- What a round took stands in front of what it left. -/
theorem Completes.exists_append
    {next last : GroupState}
    {chars rest left tail : List Char}
    {c : Char}
    (completes : Completes next left last)
    (ahead : skipIgnored state.flags chars = c :: rest)
    (isRound : state.round? (c :: rest) = some (next, left ++ ')' :: tail)) :
    ∃ inner, chars = inner ++ ')' :: tail ∧ Completes state inner last := by
  obtain ⟨⟨taken, took⟩, less⟩ := state.takes_round? isRound
  obtain ⟨skipped, rfl⟩ := ahead ▸ skipIgnored_suffix state.flags chars
  cases taken with
  | nil => exact absurd (congrArg List.length took) (Nat.ne_of_lt less)
  | cons d taken =>
      rw [List.cons_append] at took
      obtain ⟨rfl, rfl⟩ := List.cons.inj took
      have inFront : d :: (taken ++ (left ++ ')' :: tail)) =
          d :: (taken ++ left) ++ ')' :: tail := by simp
      rw [inFront, ← List.append_assoc] at ahead
      rw [inFront] at isRound
      refine ⟨skipped ++ d :: (taken ++ left), by simp, ?_⟩
      exact completes.of_round_append (skipIgnored_of_append .parenthesis ahead).1 isRound

/-- A text that is read in another group begins with a text that leaves no group open and
a parenthesis. -/
theorem exists_completes_of_read?_inside
    {frame : OpenGroup}
    {chars : List Char}
    {piece : Piece}
    (reads : (state.inside [frame]).read? chars = some piece) :
    ∃ inner tail last, chars = inner ++ ')' :: tail ∧ Completes state inner last ∧
      read? ⟨[], frame.add last.group.enclosed, last.group.outerFlags, last.seen⟩ tail =
        some piece := by
  induction size : chars.length using Nat.strongRecOn generalizing state chars with
  | _ bound inductionHypothesis =>
      cases ahead : skipIgnored state.flags chars with
      | nil =>
          have nothing : skipIgnored (state.inside [frame]).flags chars = [] := ahead
          rw [read?_of_nil nothing] at reads
          simp [inside] at reads
      | cons c rest =>
          have begins : skipIgnored (state.inside [frame]).flags chars = c :: rest := ahead
          by_cases leaves : state.outer = [] ∧ c = ')'
          · -- The round closes the group around, so the text ends in front of it.
            obtain ⟨closed, rfl⟩ := leaves
            obtain ⟨inner, rfl⟩ := ahead ▸ skipIgnored_suffix state.flags chars
            have reached : skipIgnored state.flags (inner ++ ')' :: rest) = [] ++ ')' :: rest :=
              ahead
            obtain ⟨nothing, stays⟩ := skipIgnored_of_append .parenthesis reached
            have completes : Completes state inner state := .of_nil closed nothing stays
            rw [completes.goesOn [frame] rest .parenthesis, read?_close closed] at reads
            exact ⟨inner, rest, state, rfl, completes, reads⟩
          · -- Any other round is one of the state by itself.
            rw [read?_of_cons begins] at reads
            obtain ⟨⟨above, left⟩, isAbove, isNext⟩ := Option.bind_eq_some_iff.mp reads
            have stays (closed : state.outer = []) (others : List Char) :
                c :: rest ≠ ')' :: others :=
              fun same => leaves ⟨closed, (List.cons.inj same).1⟩
            rw [round?_inside stays] at isAbove
            obtain ⟨⟨next, left⟩, isRound, same⟩ := Option.map_eq_some_iff.mp isAbove
            cases same
            have fewer := size ▸ length_lt_of_round? ahead isRound
            obtain ⟨inner, tail, last, rfl, completes, closes⟩ :=
              inductionHypothesis _ fewer isNext rfl
            obtain ⟨whole, rfl, completes⟩ := completes.exists_append ahead isRound
            exact ⟨whole, tail, last, rfl, completes, closes⟩

/-- With the anchor after it an expression is read as without it, and then the anchor is
the last part of its last branch, unless the expression goes over the anchor. -/
theorem read?_anchored
    {chars : List Char}
    {piece : Piece}
    (reads : state.read? chars = some piece) :
    state.read? (chars ++ ['$']) = some piece ∨
      ∃ (last : OpenGroup) (final : Flags), piece = last.close ∧
        state.read? (chars ++ ['$']) = some (last.anchoredClose final) := by
  rcases passes_or_completes reads with passes | ⟨last, completes, same⟩
  · exact .inl (passes .anchor)
  · refine .inr ⟨last.group, last.flags, same, ?_⟩
    have onward := completes.goesOn [] [] .anchor
    rw [inside_nil, inside_nil] at onward
    have ahead := skipIgnored_cons last.flags (c := '$') (by decide) (by decide) []
    have round : last.round? ['$'] =
        some (last.add { regex := .look last.flags.endAnchor }, []) := rfl
    rw [onward, read?_of_round ahead round, read?_of_nil (skipIgnored_nil _)]
    have closed : (last.add { regex := .look last.flags.endAnchor }).outer = [] := completes.closed
    rw [closed]
    rfl

end GroupState
end Regex
end Heirloom
