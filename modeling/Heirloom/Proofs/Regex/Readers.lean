import Heirloom.Regex.Parser

/-!
# Readers

A reader takes something from the start of a text. A mark may follow the text, and
anything after the mark: the anchor at the end, or a parenthesis that closes a group.
What a local reader takes from the text alone it then takes as well, and what it takes
in front of the mark it takes from the text alone. Otherwise it has passed the mark: in
a comment, or because it takes the mark itself or does not stop before it.
-/

namespace Heirloom
namespace Regex

/-- A way to take something from the start of a text: what is taken, and the rest. -/
abbrev Reader (α : Type) := List Char → Option (α × List Char)

/-- The marks that may follow a text. -/
inductive IsMark : Char → Prop
  | anchor : IsMark '$'
  | parenthesis : IsMark ')'

namespace Reader

variable {α β γ : Type}

/-- A text is read alike with a mark after it, and the mark is left. -/
def Stays (read : Reader α) (chars : List Char) : Prop :=
  ∃ result rest, read chars = some (result, rest) ∧
    ∀ {mark} tail, IsMark mark →
      read (chars ++ mark :: tail) = some (result, rest ++ mark :: tail)

/-- Reading goes over the end of a text: nothing is left of it, nor of a mark after it. -/
structure Passes (read : Reader α) (chars : List Char) : Prop where
  rest : ∀ {result rest}, read chars = some (result, rest) → rest = []
  beyond : ∀ {mark tail result rest}, IsMark mark →
    read (chars ++ mark :: tail) = some (result, rest) → rest.length ≤ tail.length
  alike : ∀ {mark found}, IsMark mark →
    read chars = some found → read (chars ++ [mark]) = some found

/-- Reading a text leaves a mark after it, or passes it. -/
def Ends (read : Reader α) (chars : List Char) : Prop :=
  Stays read chars ∨ Passes read chars

/-- What a reader leaves is what the text ends with. -/
def Shortens (read : Reader α) : Prop :=
  ∀ ⦃chars result rest⦄, read chars = some (result, rest) → rest <:+ chars

/-- A reader takes a character at least. -/
def Takes (read : Reader α) : Prop :=
  ∀ ⦃chars result rest⦄, read chars = some (result, rest) →
    rest <:+ chars ∧ rest.length < chars.length

/-- A reader that depends on a text only as far as it reads. -/
structure Local (read : Reader α) : Prop where
  shortens : Shortens read
  ends : ∀ chars, Ends read chars

/-! ## Making readers -/

/-- Take nothing. -/
def give (result : α) : Reader α := fun chars => some (result, chars)

/-- Take nothing, and fail where there is no result. -/
def offer (result : Option α) : Reader α := fun chars =>
  result.bind fun result => some (result, chars)

/-- Go on after what has been taken. -/
def andThen (read : Reader α) (next : α → Reader β) : Reader β := fun chars =>
  (read chars).bind fun found => next found.1 found.2

/-- Take the first character and go on. -/
def onFirst (next : Char → Reader α) : Reader α
  | [] => none
  | c :: rest => next c rest

/-- Take a certain character and go on, or read in another way if the text does not start
with it. -/
def onChar (c : Char) (next other : Reader α) : Reader α
  | d :: rest => if d = c then next rest else other (d :: rest)
  | [] => other []

/-- Take a certain character twice and go on, or read in another way. -/
def onPair (c : Char) (next other : Reader α) : Reader α
  | d :: e :: rest => if d = c ∧ e = c then next rest else other (d :: e :: rest)
  | chars => other chars

section Making

variable
  {read other : Reader α}
  {next : α → Reader β}
  {chars : List Char}

theorem Local.fail : Local (fun _ => none : Reader α) where
  shortens := nofun
  ends _ := .inr ⟨nofun, nofun, nofun⟩

theorem Local.give (result : α) : Local (Reader.give result) where
  shortens _ _ _ found := by
    cases found
    exact List.suffix_refl _
  ends chars := .inl ⟨result, chars, rfl, fun _ _ => rfl⟩

theorem Local.ite
    {condition : Prop}
    [Decidable condition]
    (first : Local read)
    (second : Local other) :
    Local fun chars => if condition then read chars else other chars := by
  by_cases holds : condition
  · simpa only [holds, if_true] using first
  · simpa only [holds, if_false] using second

/-- Reading may depend on something that there may be or not. -/
theorem Local.ofOption
    (found : Option β)
    {next : β → Reader α}
    (following : ∀ result, Local (next result)) :
    Local fun chars => found.bind fun result => next result chars := by
  cases found with
  | none => exact .fail
  | some result => exact following result

theorem Local.offer (result : Option α) : Local (Reader.offer result) :=
  .ofOption result fun _ => .give _

/-- Where readers do the same, whatever follows, one ends as the other does. -/
theorem Ends.transfer
    {rest : List Char}
    (ends : Ends other rest)
    (alone : read chars = other rest)
    (marked : ∀ {mark} tail, IsMark mark →
      read (chars ++ mark :: tail) = other (rest ++ mark :: tail)) :
    Ends read chars := by
  rcases ends with ⟨result, left, found, stays⟩ | ⟨nothing, beyond, alike⟩
  · exact .inl ⟨result, left, alone.trans found, fun tail mark =>
      (marked tail mark).trans (stays tail mark)⟩
  · exact .inr ⟨fun found => nothing (alone.symm.trans found), fun mark found =>
      beyond mark ((marked _ mark).symm.trans found), fun mark found =>
        (marked [] mark).trans (alike mark (alone.symm.trans found))⟩

/-- A text that goes on with its rest ends as the rest does. -/
theorem Ends.cons
    {c : Char}
    (ends : Ends other chars)
    (same : ∀ rest, read (c :: rest) = other rest) :
    Ends read (c :: chars) :=
  ends.transfer (same chars) fun tail _ => same (chars ++ _ :: tail)

/-- At the end of a text nothing can be taken that starts with a character. -/
theorem Passes.nil
    (nothing : read [] = none)
    (shorter : ∀ {c rest result left}, IsMark c →
      read (c :: rest) = some (result, left) → left <:+ rest) :
    Passes read [] where
  rest found := by simp [nothing] at found
  beyond mark found := (shorter mark found).length_le
  alike _ found := by simp [nothing] at found

theorem Shortens.andThen
    (first : Shortens read)
    (following : ∀ result, Shortens (next result)) :
    Shortens (read.andThen next) := by
  intro chars result rest found
  obtain ⟨⟨taken, left⟩, isFirst, found⟩ := Option.bind_eq_some_iff.mp found
  exact (following taken found).trans (first isFirst)

theorem andThen_of_some
    {result : α}
    {rest : List Char}
    (found : read chars = some (result, rest)) :
    read.andThen next chars = next result rest := by
  rw [Reader.andThen, found, Option.bind_some]

/-- What goes on after the mark has been passed does not come back. -/
theorem Passes.andThen
    (passes : Passes read chars)
    (shortens : ∀ result, Shortens (next result)) :
    Passes (read.andThen next) chars := by
  refine ⟨fun found => ?_, fun isMark found => ?_, fun isMark found => ?_⟩
  all_goals obtain ⟨⟨taken, left⟩, isFirst, isNext⟩ := Option.bind_eq_some_iff.mp found
  · obtain rfl := passes.rest isFirst
    exact List.suffix_nil.mp (shortens taken isNext)
  · exact Nat.le_trans (shortens taken isNext).length_le (passes.beyond isMark isFirst)
  · exact (andThen_of_some (passes.alike isMark isFirst)).trans isNext

/-- Going on after a reader ends as what goes on does, unless the mark is passed before. -/
theorem Ends.andThen
    (first : Ends read chars)
    (shortens : ∀ result, Shortens (next result))
    (following : ∀ {result rest}, read chars = some (result, rest) → Ends (next result) rest) :
    Ends (read.andThen next) chars := by
  rcases first with ⟨taken, left, found, stays⟩ | passes
  · exact (following found).transfer (andThen_of_some found) fun tail isMark =>
      andThen_of_some (stays tail isMark)
  · exact .inr (passes.andThen shortens)

theorem Local.andThen
    (first : Local read)
    (following : ∀ result, Local (next result)) :
    Local (read.andThen next) where
  shortens := first.shortens.andThen fun result => (following result).shortens
  ends chars := (first.ends chars).andThen (fun result => (following result).shortens)
    fun _ => (following _).ends _

theorem Shortens.onFirst
    {next : Char → Reader α}
    (shortens : ∀ c, Shortens (next c)) :
    Shortens (Reader.onFirst next) := by
  intro chars result rest found
  cases chars with
  | nil => cases found
  | cons c chars => exact (shortens c found).trans (List.suffix_cons c chars)

theorem Local.onFirst
    {next : Char → Reader α}
    (following : ∀ c, Local (next c)) :
    Local (Reader.onFirst next) where
  shortens := Shortens.onFirst fun c => (following c).shortens
  ends chars := by
    cases chars with
    | nil => exact .inr (.nil rfl fun _ found => (following _).shortens found)
    | cons c chars => exact ((following c).ends chars).cons fun _ => rfl

theorem Local.onChar
    {c : Char}
    (noMark : ∀ {mark}, IsMark mark → mark ≠ c)
    (isFirst : Local read)
    (isOther : Local other) :
    Local (Reader.onChar c read other) where
  shortens := by
    intro chars result rest found
    cases chars with
    | nil => exact isOther.shortens found
    | cons d chars =>
        simp only [Reader.onChar] at found
        split at found
        · exact (isFirst.shortens found).trans (List.suffix_cons d chars)
        · exact isOther.shortens found
  ends := by
    intro chars
    cases chars with
    | nil =>
        refine (isOther.ends []).transfer rfl fun tail isMark => ?_
        exact if_neg (noMark isMark)
    | cons d chars =>
        by_cases same : d = c
        · exact (isFirst.ends chars).cons fun rest => if_pos same
        · exact (isOther.ends (d :: chars)).transfer (if_neg same) fun tail _ => if_neg same

theorem onChar_self
    (c : Char)
    (first other : Reader α)
    (rest : List Char) :
    Reader.onChar c first other (c :: rest) = first rest :=
  if_pos rfl

theorem onChar_of_ne
    {c : Char}
    {first : Reader α}
    (differs : ∀ rest, chars ≠ c :: rest) :
    Reader.onChar c first other chars = other chars := by
  cases chars with
  | nil => rfl
  | cons d chars => exact if_neg fun same => differs chars (by rw [same])

theorem onPair_of_ne
    {c : Char}
    {first : Reader α}
    (differs : ∀ rest, chars ≠ c :: c :: rest) :
    Reader.onPair c first other chars = other chars := by
  match chars with
  | [] | [d] => rfl
  | d :: e :: chars => exact if_neg fun same => differs chars (by rw [same.1, same.2])

theorem Takes.andThen
    (first : Takes read)
    (following : ∀ result, Shortens (next result)) :
    Takes (read.andThen next) := by
  intro chars result rest found
  obtain ⟨⟨taken, left⟩, isFirst, isNext⟩ := Option.bind_eq_some_iff.mp found
  have shorter := following taken isNext
  exact ⟨shorter.trans (first isFirst).1,
    Nat.lt_of_le_of_lt shorter.length_le (first isFirst).2⟩

theorem Takes.onFirst
    {next : Char → Reader α}
    (shortens : ∀ c, Shortens (next c)) :
    Takes (Reader.onFirst next) := by
  intro chars result rest found
  cases chars with
  | nil => cases found
  | cons c chars =>
      have shorter := shortens c found
      exact ⟨shorter.trans (List.suffix_cons c chars), Nat.lt_succ_of_le shorter.length_le⟩

theorem Takes.onChar
    {c : Char}
    {first : Reader α}
    (isFirst : Shortens first)
    (isOther : Takes other) :
    Takes (Reader.onChar c first other) := by
  intro chars result rest found
  cases chars with
  | nil => exact isOther found
  | cons d chars =>
      simp only [Reader.onChar] at found
      split at found
      · have shorter := isFirst found
        exact ⟨shorter.trans (List.suffix_cons d chars), Nat.lt_succ_of_le shorter.length_le⟩
      · exact isOther found

theorem Takes.onPair
    {c : Char}
    {first : Reader α}
    (isFirst : Shortens first)
    (isOther : Takes other) :
    Takes (Reader.onPair c first other) := by
  intro chars result rest found
  match chars with
  | [] | [d] => exact isOther found
  | d :: e :: chars =>
      simp only [Reader.onPair] at found
      split at found
      · have shorter := (isFirst found).trans (List.suffix_cons e chars)
        exact ⟨shorter.trans (List.suffix_cons d _), Nat.lt_succ_of_le shorter.length_le⟩
      · exact isOther found

/-- A reader of a text that starts with a certain character. -/
theorem Local.prepend
    (isLocal : Local read)
    (takes : Takes read)
    (c : Char) :
    Local fun chars => read (c :: chars) where
  shortens chars result rest found := by
    have shorter := takes found
    rcases List.suffix_cons_iff.mp shorter.1 with rfl | suffix
    · exact absurd shorter.2 (Nat.lt_irrefl _)
    · exact suffix
  ends chars := (isLocal.ends (c :: chars)).transfer rfl fun _ _ => rfl

theorem eq_onChar
    {c : Char}
    {first : Reader α}
    (starts : ∀ rest, read (c :: rest) = first rest)
    (differs : ∀ chars, (∀ rest, chars ≠ c :: rest) → read chars = other chars) :
    read = Reader.onChar c first other := by
  funext chars
  cases chars with
  | nil => exact differs [] fun rest => nofun
  | cons d chars =>
      by_cases same : d = c
      · subst same
        exact (starts chars).trans (if_pos rfl).symm
      · refine (differs _ fun rest equal => same (List.cons.inj equal).1).trans ?_
        exact (if_neg same).symm

/-- What is taken may be turned into something else. -/
theorem Ends.map
    (ends : Ends read chars)
    (turn : α → β) :
    Ends (fun chars => (read chars).map fun found => (turn found.1, found.2)) chars := by
  have same (chars : List Char) :
      (read chars).map (fun found => (turn found.1, found.2)) =
        read.andThen (fun taken => Reader.give (turn taken)) chars := by
    unfold Reader.andThen
    cases read chars <;> rfl
  exact (ends.andThen (fun _ => (Local.give _).shortens) fun _ => (Local.give _).ends _).transfer
    (same _) fun tail _ => same _

end Making

/-! ## Turning what is taken -/

/-- A reader takes from a text what another one takes, turned into something else. -/
def Turns (turn : α → β) (read : Reader α) (other : Reader β) (chars : List Char) : Prop :=
  other chars = (read chars).map fun found => (turn found.1, found.2)

section Turning

variable
  {turn : α → β}
  {read : Reader α}
  {other : Reader β}
  {chars : List Char}

theorem Turns.offer (result : Option α) (chars : List Char) :
    Turns turn (Reader.offer result) (Reader.offer (result.map turn)) chars := by
  cases result <;> rfl

theorem Turns.andThen
    {read : Reader γ}
    {next : γ → Reader α}
    {nextOther : γ → Reader β}
    (following : ∀ result rest, Turns turn (next result) (nextOther result) rest) :
    Turns turn (read.andThen next) (read.andThen nextOther) chars := by
  rw [Turns, Reader.andThen, Reader.andThen, Option.map_bind]
  exact Option.bind_congr fun found _ => following found.1 found.2

theorem Turns.onFirst
    {next : Char → Reader α}
    {nextOther : Char → Reader β}
    (following : ∀ c rest, Turns turn (next c) (nextOther c) rest) :
    Turns turn (Reader.onFirst next) (Reader.onFirst nextOther) chars := by
  cases chars with
  | nil => rfl
  | cons c chars => exact following c chars

theorem Turns.onChar
    {c : Char}
    {first : Reader α}
    {firstOther : Reader β}
    (isFirst : ∀ rest, chars = c :: rest → Turns turn first firstOther rest)
    (isOther : Turns turn read other chars) :
    Turns turn (Reader.onChar c first read) (Reader.onChar c firstOther other) chars := by
  cases chars with
  | nil => exact isOther
  | cons d chars =>
      by_cases same : d = c
      · subst same
        rw [Turns, onChar_self, onChar_self]
        exact isFirst chars rfl
      · rw [Turns, Reader.onChar, if_neg same, Reader.onChar, if_neg same]
        exact isOther

end Turning

/-- Whatever is taken has a property. -/
def Gives (holds : α → Prop) (read : Reader α) : Prop :=
  ∀ ⦃chars result rest⦄, read chars = some (result, rest) → holds result

section Giving

variable
  {holds : α → Prop}
  {read other : Reader α}

theorem Gives.offer
    {result : Option α}
    (isResult : ∀ found, result = some found → holds found) :
    Gives holds (Reader.offer result) := by
  intro chars found rest isFound
  obtain ⟨_, isSome, same⟩ := Option.bind_eq_some_iff.mp isFound
  cases same
  exact isResult found isSome

theorem Gives.give
    {result : α}
    (isResult : holds result) :
    Gives holds (Reader.give result) := by
  intro chars found rest isFound
  cases isFound
  exact isResult

theorem Gives.andThen
    {read : Reader β}
    {next : β → Reader α}
    (following : ∀ result, Gives holds (next result)) :
    Gives holds (read.andThen next) := by
  intro chars found rest isFound
  obtain ⟨⟨taken, left⟩, -, isNext⟩ := Option.bind_eq_some_iff.mp isFound
  exact following taken isNext

theorem Gives.onFirst
    {next : Char → Reader α}
    (following : ∀ c, Gives holds (next c)) :
    Gives holds (Reader.onFirst next) := by
  intro chars found rest isFound
  cases chars with
  | nil => cases isFound
  | cons c chars => exact following c isFound

theorem Gives.onChar
    {c : Char}
    (isFirst : Gives holds read)
    (isOther : Gives holds other) :
    Gives holds (Reader.onChar c read other) := by
  intro chars found rest isFound
  cases chars with
  | nil => exact isOther isFound
  | cons d chars =>
      simp only [Reader.onChar] at isFound
      split at isFound
      · exact isFirst isFound
      · exact isOther isFound

end Giving

/-! ## Going astray -/

/-- Nothing is read from a text alone. With a mark after it the mark is passed, or what is
left begins with a text that comes to nothing. -/
structure Strays (dead : α → List Char → Prop) (read : Reader α) (chars : List Char) : Prop where
  nothing : read chars = none
  onward : ∀ {mark tail result rest}, IsMark mark →
    read (chars ++ mark :: tail) = some (result, rest) →
      rest.length ≤ tail.length ∨ ∃ more, rest = more ++ mark :: tail ∧ dead result more

section Straying

variable
  {dead : α → List Char → Prop}
  {read other : Reader α}
  {next : α → Reader β}
  {chars rest : List Char}

theorem Strays.transfer
    (strays : Strays dead other rest)
    (alone : read chars = other rest)
    (marked : ∀ {mark} tail, IsMark mark →
      read (chars ++ mark :: tail) = other (rest ++ mark :: tail)) :
    Strays dead read chars :=
  ⟨alone.trans strays.nothing, fun isMark found =>
    strays.onward isMark ((marked _ isMark).symm.trans found)⟩

/-- What goes on from a text that comes to nothing passes the mark. -/
theorem Strays.andThen
    (strays : Strays dead read chars)
    (takes : Takes read)
    (shortens : ∀ result, Shortens (next result))
    (fails : ∀ {result more}, dead result more → more.length < chars.length →
      Ends (next result) more ∧ next result more = none) :
    Passes (read.andThen next) chars := by
  have nothing : read.andThen next chars = none := by
    rw [Reader.andThen, strays.nothing]
    rfl
  refine ⟨fun found => ?_, fun isMark found => ?_, fun _ found => ?_⟩
  · simp [nothing] at found
  · obtain ⟨⟨taken, left⟩, isFirst, isNext⟩ := Option.bind_eq_some_iff.mp found
    rcases strays.onward isMark isFirst with short | ⟨more, rfl, comesToNothing⟩
    · exact Nat.le_trans (shortens taken isNext).length_le short
    · have fewer : more.length < chars.length := by
        simpa using (takes isFirst).2
      obtain ⟨⟨result, rest, isSome, -⟩ | passes, isNone⟩ := fails comesToNothing fewer
      · simp [isNone] at isSome
      · exact passes.beyond isMark isNext
  · simp [nothing] at found

/-- Reading ends, or it strays to a text that comes to nothing. -/
def Settles (dead : α → List Char → Prop) (read : Reader α) (chars : List Char) : Prop :=
  Ends read chars ∨ Strays dead read chars

theorem Settles.transfer
    (settles : Settles dead other rest)
    (alone : read chars = other rest)
    (marked : ∀ {mark} tail, IsMark mark →
      read (chars ++ mark :: tail) = other (rest ++ mark :: tail)) :
    Settles dead read chars :=
  settles.imp (fun ends => ends.transfer alone marked) fun strays => strays.transfer alone marked

theorem Settles.andThen
    {dead : β → List Char → Prop}
    (first : Ends read chars)
    (shortens : ∀ result, Shortens (next result))
    (following : ∀ {result rest}, read chars = some (result, rest) →
      Settles dead (next result) rest) :
    Settles dead (read.andThen next) chars := by
  rcases first with ⟨taken, left, found, stays⟩ | passes
  · exact (following found).transfer (andThen_of_some found) fun tail isMark =>
      andThen_of_some (stays tail isMark)
  · exact .inl (.inr (passes.andThen shortens))

/-- What is read astray may be turned into something else, or be refused. -/
theorem Settles.map
    {deadNext : β → List Char → Prop}
    (settles : Settles dead read chars)
    (turn : α → Option β)
    (fails : ∀ {result turned more}, dead result more → turn result = some turned →
      deadNext turned more) :
    Settles deadNext (read.andThen fun result => offer (turn result)) chars := by
  rcases settles with ends | ⟨nothing, onward⟩
  · exact .inl (ends.andThen (fun _ => (Local.offer _).shortens) fun _ => (Local.offer _).ends _)
  · refine .inr ⟨by rw [Reader.andThen, nothing, Option.bind_none], fun isMark found => ?_⟩
    obtain ⟨⟨taken, left⟩, isFirst, turned⟩ := Option.bind_eq_some_iff.mp found
    obtain ⟨result, isTurned, same⟩ := Option.bind_eq_some_iff.mp turned
    cases same
    exact (onward isMark isFirst).imp_right fun ⟨more, same, comesToNothing⟩ =>
      ⟨more, same, fails comesToNothing isTurned⟩

/-- Where there is a character, a certain one may be a mark. -/
theorem Settles.onChar_cons
    {c d : Char}
    {first : Reader α}
    (isFirst : Settles dead first chars)
    (isOther : Settles dead other (d :: chars)) :
    Settles dead (Reader.onChar c first other) (d :: chars) := by
  by_cases same : d = c
  · exact isFirst.transfer (if_pos same) fun tail _ => if_pos same
  · exact isOther.transfer (if_neg same) fun tail _ => if_neg same

theorem Settles.onChar
    {c : Char}
    {first : Reader α}
    (noMark : ∀ {mark}, IsMark mark → mark ≠ c)
    (isFirst : Local first)
    (isOther : Settles dead other chars) :
    Settles dead (Reader.onChar c first other) chars := by
  cases chars with
  | nil => exact isOther.transfer rfl fun tail isMark => if_neg (noMark isMark)
  | cons d chars => exact .onChar_cons (.inl (isFirst.ends chars)) isOther

theorem Settles.onPair
    {c : Char}
    {first : Reader α}
    (noMark : ∀ {mark}, IsMark mark → mark ≠ c)
    (isFirst : Local first)
    (isOther : Settles dead other chars) :
    Settles dead (Reader.onPair c first other) chars := by
  match chars with
  | [] =>
      refine isOther.transfer rfl fun {mark} tail isMark => ?_
      cases tail with
      | nil => rfl
      | cons e tail => exact if_neg fun pair => noMark isMark pair.1
  | [d] =>
      refine isOther.transfer rfl fun tail isMark => if_neg fun pair => noMark isMark pair.2
  | d :: e :: chars =>
      by_cases same : d = c ∧ e = c
      · exact .inl ((isFirst.ends chars).transfer (if_pos same) fun tail _ => if_pos same)
      · exact isOther.transfer (if_neg same) fun tail _ => if_neg same

end Straying
end Reader
end Regex
end Heirloom
