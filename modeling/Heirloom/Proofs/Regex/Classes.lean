import Heirloom.Proofs.Regex.Locality

/-!
# Reading classes

A class is read from a text alike whether a mark follows it or not. It ends in front of
the mark or passes it: where the text ends inside the class, the mark is one of its
members. An item that may begin a range is where reading looks ahead, so it may be read
in front of a mark and not at the end of a text. But then the class goes on.
-/

namespace Heirloom
namespace Regex

open Reader
open Text (CharSet)

/-! ## Items -/

theorem takeCaret_eq :
    (fun chars => some (takeCaret chars)) = onChar '^' (give true) (give false) := by
  refine eq_onChar (fun _ => rfl) fun chars noCaret => ?_
  unfold takeCaret
  split
  · exact absurd rfl (noCaret _)
  · rfl

theorem local_takeCaret : Local fun chars => some (takeCaret chars) := by
  rw [takeCaret_eq]
  exact .onChar (fun isMark => isMark.ne_of_mem (by decide)) (.give true) (.give false)

theorem takeCaret_append
    {mark : Char}
    (isMark : IsMark mark)
    (chars tail : List Char) :
    takeCaret (chars ++ mark :: tail) =
      ((takeCaret chars).1, (takeCaret chars).2 ++ mark :: tail) := by
  have taken (chars : List Char) :
      some (takeCaret chars) = onChar '^' (give true) (give false) chars :=
    congrFun takeCaret_eq chars
  refine Option.some.inj ((taken _).trans ?_)
  cases chars with
  | nil => exact if_neg (isMark.ne_of_mem (by decide))
  | cons c chars =>
      have one := taken (c :: chars)
      simp only [onChar, List.cons_append, give] at one ⊢
      split at one <;> rw [Option.some.inj one] <;> simp_all

/-- A named class has no mark in its name. -/
theorem bracketed?_of_mark
    {mark : Char}
    (isMark : IsMark mark)
    {name : List Char}
    (inside : mark ∈ name) :
    NamedSet.bracketed? (String.ofList name) = none := by
  generalize written : String.ofList name = text
  have inside : mark ∈ text.toList := by
    rw [← written, String.toList_ofList]
    exact inside
  unfold NamedSet.bracketed?
  split
  case h_15 => rfl
  all_goals cases isMark <;> revert inside <;> decide

/-- A named class has its name in the text, whatever follows. -/
theorem namedClass?_append
    {mark : Char}
    (isMark : IsMark mark)
    (chars tail : List Char) :
    namedClass? (chars ++ mark :: tail) =
      (namedClass? chars).map fun found => (found.1, found.2 ++ mark :: tail) := by
  cases chars with
  | nil =>
      unfold namedClass?
      split
      · next same => exact absurd (List.cons.inj same).1 (isMark.ne_of_mem (by decide))
      · rfl
  | cons c chars =>
      by_cases colon : c = ':'
      · subst colon
        simp only [namedClass?, List.cons_append, takeCaret_append isMark]
        generalize (takeCaret chars).1 = negated
        generalize (takeCaret chars).2 = chars
        rw [List.dropWhile_append, List.takeWhile_append]
        cases stops : chars.dropWhile (· != ':') with
        | nil =>
            have whole : chars.takeWhile (· != ':') = chars := by
              simpa [stops] using List.takeWhile_append_dropWhile (p := (· != ':')) (l := chars)
            have skipped : (mark != ':') = true := by simp [isMark.ne_of_mem]
            simp only [whole, List.isEmpty_nil, if_true, List.dropWhile_cons, List.takeWhile_cons,
              skipped]
            split
            · rw [bracketed?_of_mark isMark (by simp)]
              rfl
            · rfl
        | cons d rest =>
            have before : (chars.takeWhile (· != ':')).length ≠ chars.length := by
              have whole := congrArg List.length
                (List.takeWhile_append_dropWhile (p := (· != ':')) (l := chars))
              rw [stops, List.length_append, List.length_cons] at whole
              omega
            rw [if_neg (by simp), if_neg before]
            cases rest with
            | nil =>
                have closed : mark ≠ ']' := isMark.ne_of_mem (by decide)
                simp [closed]
            | cons e rest =>
                by_cases closes : d = ':' ∧ e = ']'
                · obtain ⟨rfl, rfl⟩ := closes
                  simp only [List.cons_append, Option.map_map]
                  rfl
                · simp only [List.cons_append]
                  split
                  · next same =>
                      cases same
                      exact absurd ⟨rfl, rfl⟩ closes
                  · split
                    · next same =>
                        cases same
                        exact absurd ⟨rfl, rfl⟩ closes
                    · rfl
      · simp [namedClass?, colon]

theorem namedClass?_suffix
    {chars rest : List Char}
    {found : CharSet × Bool}
    (isFound : namedClass? chars = some (found, rest)) :
    rest <:+ chars := by
  unfold namedClass? at isFound
  split at isFound
  · next more =>
      dsimp only at isFound
      split at isFound
      · next after same =>
          obtain ⟨members, -, same'⟩ := Option.map_eq_some_iff.mp isFound
          cases same'
          have inside : rest <:+ (takeCaret more).2 :=
            ((List.suffix_cons _ _).trans (List.suffix_cons _ _)).trans
              (same ▸ List.dropWhile_suffix _)
          exact (inside.trans (local_takeCaret.shortens rfl)).trans (List.suffix_cons _ _)
      · cases isFound
  · cases isFound

/-- The named class at the start of a text, if there is one. -/
def namedItem : Reader (Option (CharSet × Bool)) := fun chars =>
  match namedClass? chars with
  | some found => some (some found.1, found.2)
  | none => some (none, chars)

theorem local_namedItem : Local namedItem where
  shortens chars result rest found := by
    unfold namedItem at found
    split at found
    · next isNamed =>
        cases found
        exact namedClass?_suffix isNamed
    · cases found
      exact List.suffix_refl _
  ends chars := by
    unfold Ends Stays namedItem
    cases named : namedClass? chars with
    | none =>
        refine .inl ⟨none, chars, rfl, fun tail isMark => ?_⟩
        rw [namedClass?_append isMark, named]
        rfl
    | some found =>
        refine .inl ⟨some found.1, found.2, rfl, fun tail isMark => ?_⟩
        rw [namedClass?_append isMark, named]
        rfl

/-- An item of a class takes a character at least. -/
theorem classItem?_cons_suffix
    {flags : Flags}
    {c : Char}
    {chars rest : List Char}
    {item : Primitive}
    (found : classItem? flags (c :: chars) = some (item, rest)) :
    rest <:+ chars := by
  unfold classItem? at found
  split at found
  · next same => cases same
  · next same =>
      cases same
      exact shortens_escape? flags found
  · next same =>
      cases same
      cases found
      exact List.suffix_refl _

theorem shortens_classItem? (flags : Flags) : Shortens (classItem? flags) := by
  intro chars result rest found
  cases chars with
  | nil => cases found
  | cons c chars => exact (classItem?_cons_suffix found).trans (List.suffix_cons c chars)

/-- An escape that stands for no character or set is no item of a class. -/
theorem classItem?_boundary
    (flags : Flags)
    {next : Primitive → Reader α}
    (refuses : ∀ condition chars, next (.assertion condition) chars = none)
    (rest : List Char) :
    andThen (classItem? flags) next ('\\' :: 'b' :: rest) = none := by
  have same : classItem? flags ('\\' :: 'b' :: rest) = boundaryEscape? flags rest := rfl
  unfold Reader.andThen
  rw [same]
  cases found : boundaryEscape? flags rest with
  | none => rfl
  | some found =>
      obtain ⟨condition, isAssertion⟩ := (boundaryEscape?_cases found).1
      rw [Option.bind_some, isAssertion, refuses]

/-- An item of a class is read alike if it is not the escape for boundaries. -/
theorem ends_classItem?
    {flags : Flags}
    {chars : List Char}
    (noBoundary : ∀ rest, chars ≠ '\\' :: 'b' :: rest) :
    Ends (classItem? flags) chars := by
  cases chars with
  | nil =>
      refine .inr (.nil rfl fun isMark found => ?_)
      cases isMark <;> cases found <;> exact List.suffix_refl _
  | cons c chars =>
      by_cases escape : c = '\\'
      · subst escape
        refine (ends_escape? ?_).cons fun _ => rfl
        rintro ⟨rest, rfl, -⟩
        exact noBoundary rest rfl
      · refine ((Local.give (Primitive.literal c false)).ends chars).cons fun rest => ?_
        unfold classItem?
        split
        · next same => cases same
        · next same => exact absurd (List.cons.inj same).1 escape
        · next same =>
            cases same
            rfl

/-! ## Ranges -/

/-- The set of an item that stands alone in a class. -/
def Primitive.single? (flags : Flags) (item : Primitive) : Option CharSet :=
  match item with
  | .literal _ _ => (classChar? flags item).map CharSet.single
  | .members found => some found
  | .assertion _ => none

/-- A range from one item to another. -/
def rangeTo? (flags : Flags) (first last : Primitive) : Reader CharSet := fun chars =>
  (classChar? flags first).bind fun low => (classChar? flags last).bind fun high =>
    if low ≤ high then some (CharSet.range low.toNat high.toNat, chars) else none

/-- The last item of a range. -/
def rangeEnd? (flags : Flags) (first : Primitive) : Reader CharSet :=
  andThen (classItem? flags) (rangeTo? flags first)

/-- What follows an item and a hyphen. The hyphen stands for itself before another one and
at the end of the class. -/
def afterHyphen? (flags : Flags) (first : Primitive) : Reader CharSet := fun chars =>
  match skipIgnored flags chars with
  | [] => none
  | c :: rest =>
      if c = ']' ∨ c = '-' then
        (first.single? flags).map fun members => (members, '-' :: chars)
      else rangeEnd? flags first (c :: rest)

/-- What follows the first item of a class. -/
def afterItem? (flags : Flags) (first : Primitive) : Reader CharSet := fun chars =>
  match skipIgnored flags chars with
  | [] => none
  | c :: rest =>
      if c = '-' then afterHyphen? flags first rest
      else (first.single? flags).map fun members => (members, c :: rest)

theorem classRange?_eq (flags : Flags) :
    classRange? flags = andThen (classItem? flags) (afterItem? flags) := by
  funext chars
  unfold classRange? Reader.andThen
  cases classItem? flags chars with
  | none => rfl
  | some found =>
      obtain ⟨first, rest⟩ := found
      change _ = afterItem? flags first rest
      dsimp only [Option.bind_eq_bind, Option.bind_some]
      unfold afterItem?
      split
      · next nothing => rw [nothing]
      · next after hyphen =>
          rw [hyphen]
          unfold afterHyphen?
          dsimp only
          rw [if_pos rfl]
          split
          · next nothing => rw [nothing]
          · next closes =>
              rw [closes]
              rfl
          · next another =>
              rw [another]
              rfl
          · next nonempty noBracket noHyphen =>
              obtain ⟨c, more, starts⟩ := List.exists_cons_of_ne_nil nonempty
              rw [starts]
              refine (if_neg ?_).symm
              rintro (rfl | rfl)
              · exact noBracket more starts
              · exact noHyphen more starts
      · next nonempty noHyphen =>
          obtain ⟨c, more, starts⟩ := List.exists_cons_of_ne_nil nonempty
          rw [starts]
          refine (if_neg ?_).symm
          rintro rfl
          exact noHyphen more starts

theorem local_rangeTo? (flags : Flags) (first last : Primitive) :
    Local (rangeTo? flags first last) :=
  .ofOption _ fun _ => .ofOption _ fun _ => .ite (.give _) .fail

theorem local_rangeEnd? (flags : Flags) (first : Primitive) : Local (rangeEnd? flags first) := by
  have shortens (last : Primitive) := (local_rangeTo? flags first last).shortens
  refine ⟨(shortens_classItem? flags).andThen shortens, fun chars => ?_⟩
  by_cases boundary : ∃ rest, chars = '\\' :: 'b' :: rest
  · obtain ⟨rest, rfl⟩ := boundary
    have refuses (condition : Look) (chars : List Char) :
        rangeTo? flags first (.assertion condition) chars = none := by
      unfold rangeTo?
      cases classChar? flags first <;> rfl
    have fails := classItem?_boundary flags refuses
    exact (Local.fail.ends []).transfer (fails rest) fun tail _ => fails (rest ++ _ :: tail)
  · exact (ends_classItem? (not_exists.mp boundary)).andThen shortens fun _ =>
      (local_rangeTo? flags first _).ends _

/-- What is left after the last item of a range begins after its first character. -/
theorem rangeEnd?_cons_suffix
    {flags : Flags}
    {first : Primitive}
    {c : Char}
    {chars rest : List Char}
    {members : CharSet}
    (found : rangeEnd? flags first (c :: chars) = some (members, rest)) :
    rest <:+ chars := by
  obtain ⟨⟨last, left⟩, isLast, isRange⟩ := Option.bind_eq_some_iff.mp found
  exact ((local_rangeTo? flags first last).shortens isRange).trans (classItem?_cons_suffix isLast)

/-- A hyphen is given back, or an item is taken after it. -/
theorem afterHyphen?_cases
    {flags : Flags}
    {first : Primitive}
    {chars rest : List Char}
    {members : CharSet}
    (found : afterHyphen? flags first chars = some (members, rest)) :
    rest = '-' :: chars ∨ ∃ c more, skipIgnored flags chars = c :: more ∧ rest <:+ more := by
  unfold afterHyphen? at found
  split at found
  · cases found
  · next c more starts =>
      split at found
      · obtain ⟨members, -, same⟩ := Option.map_eq_some_iff.mp found
        cases same
        exact .inl rfl
      · exact .inr ⟨c, more, starts, rangeEnd?_cons_suffix found⟩

theorem afterItem?_suffix
    {flags : Flags}
    {first : Primitive}
    {chars rest : List Char}
    {members : CharSet}
    (found : afterItem? flags first chars = some (members, rest)) :
    rest <:+ skipIgnored flags chars := by
  unfold afterItem? at found
  split at found
  · cases found
  · next c more starts =>
      rw [starts]
      split at found
      · next hyphen =>
          subst hyphen
          rcases afterHyphen?_cases found with rfl | ⟨d, after, follows, suffix⟩
          · exact List.suffix_refl _
          · have inside := skipIgnored_suffix flags more
            rw [follows] at inside
            exact ((suffix.trans (List.suffix_cons d after)).trans inside).trans
              (List.suffix_cons _ _)
      · obtain ⟨members, -, same⟩ := Option.map_eq_some_iff.mp found
        cases same
        exact List.suffix_refl _

theorem shortens_afterItem? (flags : Flags) (first : Primitive) :
    Shortens (afterItem? flags first) :=
  fun _ _ _ found => (afterItem?_suffix found).trans (skipIgnored_suffix flags _)

/-- The texts after which a class goes on without an end. -/
def EndsClass (flags : Flags) (chars : List Char) : Prop :=
  chars = [] ∨ Dangles flags '-' chars

/-- What follows a hyphen is read alike unless nothing does. -/
theorem ends_afterHyphen?
    {flags : Flags}
    (first : Primitive)
    {chars : List Char}
    (left : skipIgnored flags chars ≠ []) :
    Ends (afterHyphen? flags first) chars := by
  obtain ⟨c, more, starts⟩ := List.exists_cons_of_ne_nil left
  have marked {mark : Char} (tail : List Char) (isMark : IsMark mark) :=
    skipIgnored_append_cons starts isMark tail
  by_cases closes : c = ']' ∨ c = '-'
  · have back {chars more : List Char} (starts : skipIgnored flags chars = c :: more) :
        afterHyphen? flags first chars =
          (first.single? flags).bind fun members => some (members, '-' :: chars) := by
      rw [afterHyphen?, starts]
      exact (if_pos closes).trans Option.map_eq_bind
    have gives : Local fun chars =>
        (first.single? flags).bind fun members => some (members, chars) :=
      .ofOption _ fun _ => .give _
    exact (gives.ends ('-' :: chars)).transfer (back starts) fun tail isMark =>
      back (marked tail isMark)
  · have onward {chars more : List Char} (starts : skipIgnored flags chars = c :: more) :
        afterHyphen? flags first chars = rangeEnd? flags first (c :: more) := by
      rw [afterHyphen?, starts]
      exact if_neg closes
    exact ((local_rangeEnd? flags first).ends (c :: more)).transfer (onward starts)
      fun tail isMark => onward (marked tail isMark)

/-- What follows an item of a class is read alike unless the text ends there. -/
theorem afterItem?_ends
    (flags : Flags)
    (first : Primitive)
    (chars : List Char) :
    Ends (afterItem? flags first) chars ∨
      Strays (fun _ more => EndsClass flags more) (afterItem? flags first) chars := by
  cases starts : skipIgnored flags chars with
  | nil =>
      refine .inr ⟨by rw [afterItem?, starts], fun isMark found => ?_⟩
      have left := (afterItem?_suffix found).trans (skipIgnored_append_suffix starts isMark _)
      rcases List.suffix_cons_iff.mp left with rfl | beyond
      · exact .inr ⟨[], rfl, .inl rfl⟩
      · exact .inl beyond.length_le
  | cons c rest =>
      have marked {mark : Char} (tail : List Char) (isMark : IsMark mark) :=
        skipIgnored_append_cons starts isMark tail
      by_cases hyphen : c = '-'
      · subst hyphen
        have onward {chars rest : List Char} (starts : skipIgnored flags chars = '-' :: rest) :
            afterItem? flags first chars = afterHyphen? flags first rest := by
          rw [afterItem?, starts]
          rfl
        cases follows : skipIgnored flags rest with
        | nil =>
            refine .inr ⟨by rw [onward starts, afterHyphen?, follows], ?_⟩
            intro mark tail result left isMark found
            rw [onward (marked tail isMark)] at found
            rcases afterHyphen?_cases found with rfl | ⟨d, more, goes, beyond⟩
            · exact .inr ⟨'-' :: rest, rfl, .inr ⟨rest, rfl, follows⟩⟩
            · have inside := skipIgnored_append_suffix follows isMark tail
              rw [goes] at inside
              exact .inl (Nat.le_trans beyond.length_le (Nat.le_of_succ_le_succ inside.length_le))
        | cons d more =>
            exact .inl ((ends_afterHyphen? first (by simp [follows])).transfer (onward starts)
              fun tail isMark => onward (marked tail isMark))
      · have single {chars rest : List Char} (starts : skipIgnored flags chars = c :: rest) :
            afterItem? flags first chars =
              (first.single? flags).bind fun members => some (members, c :: rest) := by
          rw [afterItem?, starts]
          exact (if_neg hyphen).trans Option.map_eq_bind
        have gives : Local fun chars =>
            (first.single? flags).bind fun members => some (members, chars) :=
          .ofOption _ fun _ => .give _
        exact .inl ((gives.ends (c :: rest)).transfer (single starts) fun tail isMark =>
          single (marked tail isMark))

/-! ## Rounds -/

/-- Where reading a class stands. -/
structure ClassState where
  /-- The classes around the one being read, the nearest first. -/
  outer : List OpenClass
  /-- The class being read. -/
  level : OpenClass
  /-- The phase of reading it. -/
  phase : ClassPhase

/-- Go on after an item. -/
def ClassState.add (state : ClassState) (members : CharSet) (depth : Nat) : ClassState :=
  ⟨state.outer, state.level.add members depth, .body⟩

/-- Go on with the right operand of an operation. -/
def ClassState.operate
    (state : ClassState)
    (flags : Flags)
    (operation : SetOperation) : ClassState :=
  ⟨state.outer, state.level.operate flags operation, .body⟩

/-- How reading goes on after a class: with the one around it, or not at all. -/
def ClassState.leave (state : ClassState) (members : CharSet) : ClassState ⊕ CharSet × Nat :=
  match state.outer with
  | [] => .inr (members, state.level.depth + 1)
  | enclosing :: outer => .inl ⟨outer, enclosing.add members (state.level.depth + 1), .body⟩

/-- A class inside a class, after its bracket: a named one, or one to be read. -/
def innerClass? (flags : Flags) (state : ClassState) : Reader (ClassState ⊕ CharSet × Nat) :=
  andThen namedItem fun
    | some (members, negated) => fun chars =>
        (flags.classSet? negated members).bind fun members =>
          some (.inl (state.add members 0), chars)
    | none => fun chars =>
        andThen (fun chars => some (takeCaret chars)) (fun negated =>
          give (.inl ⟨state.level :: state.outer, { negated := negated }, .opening⟩))
          (skipIgnored flags chars)

/-- An item of a class. -/
def member? (flags : Flags) (state : ClassState) : Reader (ClassState ⊕ CharSet × Nat) :=
  andThen (classRange? flags) fun members => give (.inl (state.add members 0))

/-- A part of a class that does not depend on the phase. -/
def classPart? (flags : Flags) (state : ClassState) : Reader (ClassState ⊕ CharSet × Nat) :=
  onChar '[' (innerClass? flags state) <|
  onChar ']' (fun chars => (state.level.close? flags).bind fun members =>
    some (state.leave members, chars)) <|
  onPair '&' (give (.inl (state.operate flags .inter))) <|
  onPair '-' (give (.inl (state.operate flags .diff))) <|
  onPair '~' (give (.inl (state.operate flags .symmDiff))) <|
  member? flags state

/-- One round of reading a class: what it comes to, or how reading goes on. -/
def classRound? (flags : Flags) (state : ClassState) : Reader (ClassState ⊕ CharSet × Nat) :=
  match state.phase with
  | .opening =>
      onChar '-' (give (.inl ⟨state.outer, state.level.add (.single '-') 0, .hyphens⟩)) <|
      onChar ']' (give (.inl (state.add (.single ']') 0))) <|
      classPart? flags state
  | .hyphens =>
      onChar '-' (give (.inl ⟨state.outer, state.level.add (.single '-') 0, .hyphens⟩)) <|
      classPart? flags state
  | .body => classPart? flags state

/-- Reading a class goes round by round. -/
theorem readClass?_succ (flags : Flags) (fuel : Nat) (state : ClassState) (chars : List Char) :
    readClass? flags (fuel + 1) state.outer state.level state.phase chars =
      (classRound? flags state (skipIgnored flags chars)).bind fun found =>
        match found.1 with
        | .inl next => readClass? flags fuel next.outer next.level next.phase found.2
        | .inr whole => some (whole.1, whole.2, found.2) := by
  obtain ⟨outer, level, phase⟩ := state
  conv => lhs; unfold readClass?
  dsimp only
  generalize skipIgnored flags chars = chars
  split
  · cases phase <;> rfl
  · rfl
  · rfl
  · rfl
  · next rest =>
      have inner : classRound? flags ⟨outer, level, phase⟩ ('[' :: rest) =
          innerClass? flags ⟨outer, level, phase⟩ rest := by
        cases phase <;> rfl
      rw [inner, innerClass?, Reader.andThen, namedItem]
      cases namedClass? rest with
      | none => rfl
      | some found =>
          obtain ⟨⟨members, negated⟩, rest⟩ := found
          simp only [Option.bind_some]
          cases flags.classSet? negated members <;> rfl
  · next rest noItem =>
      have closes : classRound? flags ⟨outer, level, phase⟩ (']' :: rest) =
          (level.close? flags).bind fun members =>
            some (ClassState.leave ⟨outer, level, phase⟩ members, rest) := by
        cases phase with
        | opening => exact (noItem rfl).elim
        | hyphens | body => rfl
      rw [closes]
      cases level.close? flags with
      | none => rfl
      | some members => cases outer <;> rfl
  · cases phase <;> rfl
  · cases phase <;> first | rfl | contradiction
  · cases phase <;> rfl
  · next inner closes inter diff symmDiff hyphen another first =>
      have part : classPart? flags ⟨outer, level, phase⟩ chars =
          member? flags ⟨outer, level, phase⟩ chars := by
        unfold classPart?
        rw [onChar_of_ne inner, onChar_of_ne closes, onPair_of_ne inter, onPair_of_ne diff,
          onPair_of_ne symmDiff]
      have round : classRound? flags ⟨outer, level, phase⟩ chars =
          classPart? flags ⟨outer, level, phase⟩ chars := by
        cases phase with
        | opening => exact (onChar_of_ne fun rest => hyphen rest rfl).trans (onChar_of_ne closes)
        | hyphens => exact onChar_of_ne fun rest => another rest rfl
        | body => rfl
      rw [round, part, member?, Reader.andThen]
      cases classRange? flags chars <;> rfl

/-! ## Classes -/

theorem afterItem?_assertion
    (flags : Flags)
    (condition : Look)
    (chars : List Char) :
    afterItem? flags (.assertion condition) chars = none := by
  have noEnd (chars : List Char) : rangeEnd? flags (.assertion condition) chars = none := by
    rw [rangeEnd?, Reader.andThen]
    cases classItem? flags chars <;> rfl
  have noHyphen (chars : List Char) : afterHyphen? flags (.assertion condition) chars = none := by
    unfold afterHyphen?
    split
    · rfl
    · split
      · rfl
      · exact noEnd _
  unfold afterItem?
  split
  · rfl
  · split
    · exact noHyphen _
    · rfl

theorem settles_classRange? (flags : Flags) (chars : List Char) :
    Settles (fun _ more => EndsClass flags more) (classRange? flags) chars := by
  rw [classRange?_eq]
  by_cases boundary : ∃ rest, chars = '\\' :: 'b' :: rest
  · obtain ⟨rest, rfl⟩ := boundary
    have fails := classItem?_boundary flags (afterItem?_assertion flags)
    exact .inl ((Local.fail.ends []).transfer (fails rest) fun tail _ => fails (rest ++ _ :: tail))
  · exact .andThen (ends_classItem? (not_exists.mp boundary)) (shortens_afterItem? flags)
      fun _ => afterItem?_ends flags _ _

theorem takes_classRange? (flags : Flags) : Takes (classRange? flags) := by
  have item : Takes (classItem? flags) := by
    intro chars result rest found
    cases chars with
    | nil => cases found
    | cons c chars =>
        have shorter := classItem?_cons_suffix found
        exact ⟨shorter.trans (List.suffix_cons c chars), Nat.lt_succ_of_le shorter.length_le⟩
  rw [classRange?_eq]
  exact item.andThen (shortens_afterItem? flags)

theorem local_innerClass? (flags : Flags) (state : ClassState) :
    Local (innerClass? flags state) := by
  refine local_namedItem.andThen fun named => ?_
  cases named with
  | none => exact (local_takeCaret.andThen fun negated => .give _).skip flags
  | some found => exact .ofOption _ fun members => .give _

theorem local_closeClass? (flags : Flags) (state : ClassState) :
    Local fun chars => (state.level.close? flags).bind fun members =>
      some (state.leave members, chars) :=
  .ofOption _ fun _ => .give _

/-- A round goes on after an item from where the class has no end. -/
def ClassState.GoesOn
    (state : ClassState)
    (flags : Flags)
    (result : ClassState ⊕ CharSet × Nat)
    (more : List Char) : Prop :=
  (∃ members, result = .inl (state.add members 0)) ∧ EndsClass flags more

theorem settles_classPart? (flags : Flags) (state : ClassState) (chars : List Char) :
    Settles (state.GoesOn flags) (classPart? flags state) chars := by
  have item : Settles (state.GoesOn flags) (member? flags state) chars := by
    refine (settles_classRange? flags chars).map
      (fun members => some (Sum.inl (state.add members 0))) ?_
    rintro members _ more ends ⟨⟩
    exact ⟨⟨members, rfl⟩, ends⟩
  refine .onChar (fun isMark => isMark.ne_of_mem (by decide)) (local_innerClass? flags state) ?_
  refine .onChar (fun isMark => isMark.ne_of_mem (by decide)) (local_closeClass? flags state) ?_
  refine .onPair (fun isMark => isMark.ne_of_mem (by decide)) (.give _) ?_
  refine .onPair (fun isMark => isMark.ne_of_mem (by decide)) (.give _) ?_
  exact .onPair (fun isMark => isMark.ne_of_mem (by decide)) (.give _) item

theorem settles_classRound? (flags : Flags) (state : ClassState) (chars : List Char) :
    Settles (state.GoesOn flags) (classRound? flags state) chars := by
  have part := settles_classPart? flags state chars
  have hyphen {mark : Char} (isMark : IsMark mark) : mark ≠ '-' := isMark.ne_of_mem (by decide)
  have bracket {mark : Char} (isMark : IsMark mark) : mark ≠ ']' := isMark.ne_of_mem (by decide)
  unfold classRound?
  split
  · exact .onChar hyphen (.give _) (.onChar bracket (.give _) part)
  · exact .onChar hyphen (.give _) part
  · exact part

theorem takes_classRound? (flags : Flags) (state : ClassState) :
    Takes (classRound? flags state) := by
  have part : Takes (classPart? flags state) :=
    .onChar (local_innerClass? flags state).shortens <|
    .onChar (local_closeClass? flags state).shortens <|
    .onPair (Local.give _).shortens <|
    .onPair (Local.give _).shortens <|
    .onPair (Local.give _).shortens <|
    (takes_classRange? flags).andThen fun _ => (Local.give _).shortens
  unfold classRound?
  split
  · exact .onChar (Local.give _).shortens (.onChar (Local.give _).shortens part)
  · exact .onChar (Local.give _).shortens part
  · exact part

/-- A bound on the rounds that is larger than the text does not matter. -/
theorem readClass?_congr
    (flags : Flags)
    {fuel more : Nat}
    (state : ClassState)
    {chars : List Char}
    (enough : chars.length < fuel)
    (others : chars.length < more) :
    readClass? flags fuel state.outer state.level state.phase chars =
      readClass? flags more state.outer state.level state.phase chars := by
  induction fuel generalizing more state chars with
  | zero => exact absurd enough (Nat.not_lt_zero _)
  | succ fuel inductionHypothesis =>
      cases more with
      | zero => exact absurd others (Nat.not_lt_zero _)
      | succ more =>
          rw [readClass?_succ, readClass?_succ]
          refine Option.bind_congr fun found isFound => ?_
          have taken := (takes_classRound? flags state isFound).2
          have skipped := (skipIgnored_suffix flags chars).length_le
          cases found.1 with
          | inl next => exact inductionHypothesis next (by omega) (by omega)
          | inr whole => rfl

/-- Read the rest of a class. -/
def classFrom? (flags : Flags) (state : ClassState) : Reader (CharSet × Nat) := fun chars =>
  (readClass? flags (chars.length + 1) state.outer state.level state.phase chars).map fun found =>
    ((found.1, found.2.1), found.2.2)

/-- Read the rest of a class after a round, if it is not over. -/
def classAfter? (flags : Flags) : ClassState ⊕ CharSet × Nat → Reader (CharSet × Nat)
  | .inl next => classFrom? flags next
  | .inr whole => give whole

theorem classFrom?_eq (flags : Flags) (state : ClassState) :
    classFrom? flags state = fun chars =>
      andThen (classRound? flags state) (classAfter? flags) (skipIgnored flags chars) := by
  funext chars
  rw [classFrom?, readClass?_succ, Reader.andThen, Option.map_bind]
  refine Option.bind_congr fun found isFound => ?_
  have taken := (takes_classRound? flags state isFound).2
  have skipped := (skipIgnored_suffix flags chars).length_le
  cases isNext : found.1 with
  | inl next =>
      rw [Function.comp_apply, isNext]
      exact congrArg _ (readClass?_congr flags next (by omega) (Nat.lt_succ_self _))
  | inr whole =>
      rw [Function.comp_apply, isNext]
      rfl

theorem shortens_classFrom? (flags : Flags) (state : ClassState) :
    Shortens (classFrom? flags state) := by
  intro chars
  induction size : chars.length using Nat.strongRecOn generalizing state chars with
  | _ bound inductionHypothesis =>
      intro result rest found
      rw [classFrom?_eq] at found
      obtain ⟨⟨next, left⟩, isRound, isNext⟩ := Option.bind_eq_some_iff.mp found
      have taken := takes_classRound? flags state isRound
      have skipped := skipIgnored_suffix flags chars
      have shorter := taken.1.trans skipped
      cases next with
      | inl next =>
          have fewer : left.length < bound :=
            size ▸ Nat.lt_of_lt_of_le taken.2 skipped.length_le
          exact (inductionHypothesis _ fewer next rfl isNext).trans shorter
      | inr whole =>
          cases isNext
          exact shorter

theorem shortens_classAfter? (flags : Flags) (result : ClassState ⊕ CharSet × Nat) :
    Shortens (classAfter? flags result) := by
  cases result with
  | inl next => exact shortens_classFrom? flags next
  | inr whole => exact (Local.give whole).shortens

/-- Where nothing but a hyphen is left, a class has no end. -/
theorem classFrom?_of_endsClass
    {flags : Flags}
    {state : ClassState}
    (body : state.phase = .body)
    {chars : List Char}
    (ends : EndsClass flags chars) :
    classFrom? flags state chars = none := by
  obtain ⟨outer, level, phase⟩ := state
  obtain rfl : phase = .body := body
  rw [classFrom?_eq]
  dsimp only
  rcases ends with rfl | ⟨rest, rfl, nothing⟩
  · rw [skipIgnored_nil]
    rfl
  · have stands (rest : List Char) : skipIgnored flags ('-' :: rest) = '-' :: rest :=
      skipIgnored_cons flags (by decide) (by decide) rest
    have item : classRange? flags ('-' :: rest) = none := by
      rw [classRange?_eq]
      change afterItem? flags (.literal '-' false) rest = none
      rw [afterItem?, nothing]
    have alone (more : List Char) : '-' :: rest ≠ '-' :: '-' :: more := by
      rintro ⟨⟩
      rw [stands] at nothing
      cases nothing
    have noRound : classRound? flags ⟨outer, level, .body⟩ ('-' :: rest) = none := by
      change classPart? flags ⟨outer, level, .body⟩ ('-' :: rest) = none
      rw [classPart?, onChar_of_ne (by simp), onChar_of_ne (by simp), onPair_of_ne (by simp),
        onPair_of_ne alone, onPair_of_ne (by simp), member?, Reader.andThen, item]
      rfl
    rw [stands, Reader.andThen, noRound]
    rfl

/-- A class is read alike, whatever follows. -/
theorem ends_classFrom? (flags : Flags) (state : ClassState) (chars : List Char) :
    Ends (classFrom? flags state) chars := by
  induction size : chars.length using Nat.strongRecOn generalizing state chars with
  | _ bound inductionHypothesis =>
      have skipped := (skipIgnored_suffix flags chars).length_le
      have takes := takes_classRound? flags state
      have round : Ends (andThen (classRound? flags state) (classAfter? flags))
          (skipIgnored flags chars) := by
        rcases settles_classRound? flags state (skipIgnored flags chars) with ends | strays
        · refine ends.andThen (shortens_classAfter? flags) fun {result rest} isRound => ?_
          have fewer := (takes isRound).2
          cases result with
          | inl next => exact inductionHypothesis _ (by omega) next rest rfl
          | inr whole => exact (Local.give whole).ends rest
        · refine .inr (strays.andThen takes (shortens_classAfter? flags) ?_)
          rintro _ more ⟨⟨members, rfl⟩, ends⟩ fewer
          exact ⟨inductionHypothesis _ (by omega) _ more rfl, classFrom?_of_endsClass rfl ends⟩
      rw [classFrom?_eq]
      have shortens (_ : Unit) : Shortens (andThen (classRound? flags state) (classAfter? flags)) :=
        Shortens.andThen (fun _ _ _ found => (takes found).1) (shortens_classAfter? flags)
      exact ((local_skipping flags).ends chars).andThen shortens fun found => by
        cases found
        exact round

theorem local_classFrom? (flags : Flags) (state : ClassState) : Local (classFrom? flags state) :=
  ⟨shortens_classFrom? flags state, ends_classFrom? flags state⟩

/-- The class at the start of a text, after its bracket. -/
def wholeClass? (flags : Flags) : Reader (CharSet × Nat) := fun chars =>
  andThen (fun chars => some (takeCaret chars))
    (fun negated => classFrom? flags ⟨[], { negated := negated }, .opening⟩)
    (skipIgnored flags chars)

theorem local_wholeClass? (flags : Flags) : Local (wholeClass? flags) :=
  (local_takeCaret.andThen fun _ => local_classFrom? flags _).skip flags

theorem class?_eq (flags : Flags) (chars : List Char) :
    class? flags chars = (wholeClass? flags chars).map fun found =>
      (found.1.1, found.1.2, found.2) := by
  have taken : (takeCaret (skipIgnored flags chars)).2.length ≤ chars.length :=
    Nat.le_trans (local_takeCaret.shortens rfl).length_le (skipIgnored_suffix flags chars).length_le
  have same := readClass?_congr flags
    ⟨[], { negated := (takeCaret (skipIgnored flags chars)).1 }, .opening⟩
    (Nat.lt_succ_of_le taken) (Nat.lt_succ_self _)
  refine Eq.trans same ?_
  rw [wholeClass?, Reader.andThen, Option.bind_some, classFrom?, Option.map_map]
  exact (congrFun Option.map_id _).symm

end Regex
end Heirloom
