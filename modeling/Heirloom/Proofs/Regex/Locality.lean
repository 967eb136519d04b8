import Heirloom.Proofs.Regex.Readers

/-!
# Reading is local

Blanks and comments, digits and escapes are read from a text alike whether a mark
follows it or not. One escape is different: whether a brace belongs to the escape for
boundaries depends on what follows the brace.
-/

namespace Heirloom
namespace Regex

open Reader
open Text (CharSet)

namespace IsMark

variable {mark : Char}

theorem not_blank (isMark : IsMark mark) : Text.isBlank mark = false := by
  cases isMark <;> decide

theorem not_digit (isMark : IsMark mark) : mark.isDigit = false := by
  cases isMark <;> rfl

/-- A mark is none of the characters that reading looks for. -/
theorem ne_of_mem
    {c : Char}
    (isMark : IsMark mark)
    (special : c ∈ ['#', '\n', '\x7b', '\x7d', '\\', '[', ']', '^', '-', '&', '~', ':', '?', '=',
      '!', '<', '>', 'P', ',']) :
    mark ≠ c := by
  rintro rfl
  cases isMark <;> revert special <;> decide

end IsMark

/-! ## Blanks, comments and digits -/

theorem skipVerbose_suffix (chars : List Char) :
    ∀ comment, skipVerbose comment chars <:+ chars := by
  induction chars with
  | nil => exact fun _ => List.nil_suffix
  | cons c chars inductionHypothesis =>
      have shorter (comment : Bool) :=
        (inductionHypothesis comment).trans (List.suffix_cons c chars)
      intro comment
      cases comment with
      | true => exact shorter _
      | false =>
          unfold skipVerbose
          split
          · exact shorter _
          · split
            · exact shorter _
            · exact List.suffix_refl _

/-- Pass over what is ignored. -/
def skipping (flags : Flags) : Reader Unit := fun chars => some ((), skipIgnored flags chars)

theorem skipIgnored_suffix (flags : Flags) (chars : List Char) :
    skipIgnored flags chars <:+ chars := by
  unfold skipIgnored
  split
  · exact skipVerbose_suffix chars false
  · exact List.suffix_refl _

theorem ends_skipVerbose (chars : List Char) :
    ∀ comment, Ends (fun chars => some ((), skipVerbose comment chars)) chars := by
  induction chars with
  | nil =>
      rintro (_ | _)
      · refine .inl ⟨(), [], rfl, fun tail mark => ?_⟩
        have comment : (_ == '#') = false := beq_false_of_ne (mark.ne_of_mem (by decide))
        simp [skipVerbose, mark.not_blank, comment]
      · refine .inr ⟨fun found => by cases found; rfl, ?_, fun mark found => ?_⟩
        · intro mark tail result rest _ found
          cases found
          exact (skipVerbose_suffix tail (mark != '\n')).length_le
        · cases found
          rfl
  | cons c chars inductionHypothesis =>
      rintro (_ | _)
      · cases blank : Text.isBlank c with
        | true => exact (inductionHypothesis false).cons fun rest => by simp [skipVerbose, blank]
        | false =>
            cases comment : c == '#' with
            | true =>
                exact (inductionHypothesis true).cons fun rest => by
                  simp [skipVerbose, blank, comment]
            | false =>
                refine .inl ⟨(), c :: chars, ?_, fun tail _ => ?_⟩ <;>
                  simp [skipVerbose, blank, comment]
      · exact (inductionHypothesis (c != '\n')).cons fun _ => rfl

theorem local_skipping (flags : Flags) : Local (skipping flags) where
  shortens _ _ _ found := by
    cases found
    exact skipIgnored_suffix flags _
  ends chars := by
    unfold skipping skipIgnored
    split
    · exact ends_skipVerbose chars false
    · exact (Local.give ()).ends chars

/-- Reading may begin after what is ignored. -/
theorem Reader.Local.skip
    {read : Reader α}
    (onward : Local read)
    (flags : Flags) :
    Local fun chars => read (skipIgnored flags chars) := by
  have local_andThen : Local ((skipping flags).andThen fun _ => read) :=
    (local_skipping flags).andThen fun _ => onward
  exact local_andThen

theorem takeBraced?_suffix
    (verbose : Bool)
    {chars content left : List Char} :
    ∀ {comment}, takeBraced? verbose comment chars = some (content, left) →
      left <:+ chars.tail := by
  induction chars generalizing content with
  | nil => exact nofun
  | cons c rest inductionHypothesis =>
      have shorter {comment : Bool} {content : List Char}
          (found : takeBraced? verbose comment rest = some (content, left)) : left <:+ rest :=
        (inductionHypothesis found).trans (List.tail_suffix rest)
      intro comment found
      cases comment with
      | true => exact shorter found
      | false =>
          unfold takeBraced? at found
          split at found
          · cases found
            exact List.suffix_refl _
          · split at found
            · exact shorter found
            · split at found
              · exact shorter found
              · obtain ⟨⟨inner, after⟩, isInner, same⟩ := Option.map_eq_some_iff.mp found
                cases same
                exact shorter isInner

theorem ends_takeBraced? (verbose : Bool) (chars : List Char) :
    ∀ comment, Ends (takeBraced? verbose comment) chars := by
  induction chars with
  | nil => exact fun _ => .inr (.nil rfl fun _ found => takeBraced?_suffix verbose found)
  | cons c chars inductionHypothesis =>
      rintro (_ | _)
      · cases closes : c == '\x7d' with
        | true =>
            exact ((Local.give []).ends chars).cons fun rest => by
              rw [takeBraced?, if_pos closes]
              rfl
        | false =>
            cases blank : verbose && Text.isBlank c with
            | true =>
                exact (inductionHypothesis false).cons fun rest => by
                  simp [takeBraced?, closes, blank]
            | false =>
                cases comment : verbose && c == '#' with
                | true =>
                    exact (inductionHypothesis true).cons fun rest => by
                      simp [takeBraced?, closes, blank, comment]
                | false =>
                    exact ((inductionHypothesis false).map (c :: ·)).cons fun rest => by
                      simp [takeBraced?, closes, blank, comment]
      · exact (inductionHypothesis (c != '\n')).cons fun _ => rfl

theorem local_takeBraced? (verbose comment : Bool) : Local (takeBraced? verbose comment) where
  shortens chars _ _ found := (takeBraced?_suffix verbose found).trans (List.tail_suffix chars)
  ends chars := ends_takeBraced? verbose chars comment

theorem takeDecimal_suffix (verbose : Bool) (chars : List Char) :
    ∀ number comment, (takeDecimal verbose number comment chars).2 <:+ chars := by
  induction chars with
  | nil => exact fun _ _ => List.suffix_refl _
  | cons c chars inductionHypothesis =>
      have shorter (number : Option Nat) (comment : Bool) :=
        (inductionHypothesis number comment).trans (List.suffix_cons c chars)
      intro number comment
      cases comment with
      | true => exact shorter _ _
      | false =>
          unfold takeDecimal
          split
          · exact shorter _ _
          · split
            · exact shorter _ _
            · split
              · exact shorter _ _
              · exact List.suffix_refl _

theorem ends_takeDecimal (verbose : Bool) (chars : List Char) :
    ∀ number comment,
      Ends (fun chars => some (takeDecimal verbose number comment chars)) chars := by
  induction chars with
  | nil =>
      rintro number (_ | _)
      · refine .inl ⟨number, [], rfl, fun tail mark => ?_⟩
        have comment : (_ == '#') = false := beq_false_of_ne (mark.ne_of_mem (by decide))
        simp [takeDecimal, mark.not_digit, mark.not_blank, comment]
      · refine .inr ⟨fun found => by cases found; rfl, ?_, fun mark found => ?_⟩
        · intro mark tail result rest _ found
          have shorter := takeDecimal_suffix verbose tail number (mark != '\n')
          have taken : takeDecimal verbose number (mark != '\n') tail = (result, rest) :=
            Option.some.inj found
          rw [taken] at shorter
          exact shorter.length_le
        · cases found
          rfl
  | cons c chars inductionHypothesis =>
      rintro number (_ | _)
      · cases digit : c.isDigit with
        | true =>
            exact (inductionHypothesis _ false).cons fun rest => by
              rw [takeDecimal, if_pos digit]
        | false =>
            cases blank : verbose && Text.isBlank c with
            | true =>
                exact (inductionHypothesis number false).cons fun rest => by
                  simp [takeDecimal, digit, blank]
            | false =>
                cases comment : verbose && c == '#' with
                | true =>
                    exact (inductionHypothesis number true).cons fun rest => by
                      simp [takeDecimal, digit, blank, comment]
                | false =>
                    refine .inl ⟨number, c :: chars, ?_, fun tail _ => ?_⟩ <;>
                      simp [takeDecimal, digit, blank, comment]
      · exact (inductionHypothesis number (c != '\n')).cons fun _ => rfl

theorem local_takeDecimal (verbose : Bool) (number : Option Nat) (comment : Bool) :
    Local fun chars => some (takeDecimal verbose number comment chars) where
  shortens chars _ _ found := by
    have shorter := takeDecimal_suffix verbose chars number comment
    rw [Option.some.inj found] at shorter
    exact shorter
  ends chars := ends_takeDecimal verbose chars number comment

/-! ## Escapes -/

theorem local_takeHexDigits? (flags : Flags) (count : Nat) :
    ∀ number, Local (takeHexDigits? flags count number) := by
  induction count with
  | zero => exact fun number => .give number
  | succ count inductionHypothesis =>
      intro number
      have same : takeHexDigits? flags (count + 1) number = onFirst fun c rest =>
          (hexValue? c).bind fun value =>
            takeHexDigits? flags count (16 * number + value) (skipIgnored flags rest) := by
        funext chars
        cases chars <;> rfl
      rw [same]
      refine .onFirst fun c => ?_
      cases hexValue? c with
      | none => exact .fail
      | some value => exact (inductionHypothesis _).skip flags

/-- The rest of an escape by code point between braces. -/
def bracedCode? (flags : Flags) : Reader Primitive :=
  andThen (takeBraced? flags.verbose false) fun content chars =>
    if content.isEmpty then none
    else ((hexNumber? content).bind charOfCode?).bind fun c =>
      some (.literal c false, skipIgnored flags chars)

/-- The rest of an escape by code point with a number of digits. -/
def plainCode? (flags : Flags) (digits : Nat) : Reader Primitive :=
  andThen (takeHexDigits? flags digits 0) fun code chars =>
    (charOfCode? code).bind fun c => some (.literal c (digits == 2), chars)

theorem local_codeEscape? (flags : Flags) (digits : Nat) :
    Local (codeEscape? flags (digits + 1)) := by
  have braced : Local (bracedCode? flags) :=
    (local_takeBraced? _ _).andThen fun content => .ite .fail <|
      .ofOption _ fun c => (Local.give (Primitive.literal c false)).skip flags
  have plain : Local (plainCode? flags (digits + 1)) :=
    (local_takeHexDigits? _ _ _).andThen fun code => .ofOption _ fun c => .give _
  have same : codeEscape? flags (digits + 1) = fun chars =>
      onChar '\x7b' (bracedCode? flags) (plainCode? flags (digits + 1))
        (skipIgnored flags chars) := by
    funext chars
    unfold codeEscape?
    generalize skipIgnored flags chars = chars
    revert chars
    refine congrFun (eq_onChar (fun _ => rfl) fun chars noBrace => ?_)
    split
    · rfl
    · exact absurd rfl (noBrace _)
    · rfl
  rw [same]
  exact (Local.onChar (fun isMark => isMark.ne_of_mem (by decide)) braced plain).skip flags

theorem local_propertyName? (flags : Flags) : Local (propertyName? flags) := by
  have single : Local (onFirst fun c chars => some ([c], skipIgnored flags chars)) :=
    .onFirst fun c => (Local.give [c]).skip flags
  have same : propertyName? flags = fun chars =>
      onChar '\x7b' (takeBraced? flags.verbose false)
        (onChar '\\' (fun _ => none) (onFirst fun c chars => some ([c], skipIgnored flags chars)))
        (skipIgnored flags chars) := by
    funext chars
    unfold propertyName?
    generalize skipIgnored flags chars = chars
    split
    · rfl
    · rfl
    · rfl
    · next c rest noBrace noBackslash =>
        exact ((if_neg noBrace).trans (if_neg noBackslash)).symm
  rw [same]
  exact (Local.onChar (fun isMark => isMark.ne_of_mem (by decide)) (local_takeBraced? _ _)
    (.onChar (fun isMark => isMark.ne_of_mem (by decide)) .fail single)).skip flags

theorem local_propertyEscape? (flags : Flags) (negated : Bool) :
    Local (propertyEscape? flags negated) := by
  have same : propertyEscape? flags negated = andThen (propertyName? flags) fun name chars =>
      if !flags.unicode then none
      else (property? name).bind fun found => some (.members
        ((flags.folded found.1).complementIf (negated != found.2)), chars) := rfl
  rw [same]
  exact (local_propertyName? flags).andThen fun name => .ite .fail (.ofOption _ fun _ => .give _)

/-- Nothing that counts follows the character that a text starts with. -/
def Dangles (flags : Flags) (c : Char) (chars : List Char) : Prop :=
  ∃ rest, chars = c :: rest ∧ skipIgnored flags rest = []

theorem skipIgnored_nil (flags : Flags) : skipIgnored flags [] = [] :=
  List.suffix_nil.mp (skipIgnored_suffix flags [])

/-- What counts is not passed over. -/
theorem skipIgnored_cons
    (flags : Flags)
    {c : Char}
    (counts : Text.isBlank c = false)
    (noComment : c ≠ '#')
    (rest : List Char) :
    skipIgnored flags (c :: rest) = c :: rest := by
  unfold skipIgnored
  split
  · simp [skipVerbose, counts, noComment]
  · rfl

/-- A mark is not passed, or nothing is left in front of it and it is passed. -/
theorem skipIgnored_ends (flags : Flags) (chars : List Char) :
    (∀ {mark} tail, IsMark mark →
      skipIgnored flags (chars ++ mark :: tail) = skipIgnored flags chars ++ mark :: tail) ∨
    (skipIgnored flags chars = [] ∧ ∀ {mark} tail, IsMark mark →
      (skipIgnored flags (chars ++ mark :: tail)).length ≤ tail.length) := by
  rcases (local_skipping flags).ends chars with ⟨_, rest, found, stays⟩ | passes
  · obtain rfl : skipIgnored flags chars = rest := congrArg Prod.snd (Option.some.inj found)
    exact .inl fun tail isMark => congrArg Prod.snd (Option.some.inj (stays tail isMark))
  · exact .inr ⟨passes.rest rfl, fun tail isMark => passes.beyond isMark rfl⟩

/-- Where something is left, a mark is not passed. -/
theorem skipIgnored_append_cons
    {flags : Flags}
    {chars rest : List Char}
    {c : Char}
    (ahead : skipIgnored flags chars = c :: rest)
    {mark : Char}
    (isMark : IsMark mark)
    (tail : List Char) :
    skipIgnored flags (chars ++ mark :: tail) = c :: (rest ++ mark :: tail) := by
  rcases skipIgnored_ends flags chars with stays | ⟨nothing, -⟩
  · rw [stays tail isMark, ahead, List.cons_append]
  · simp [ahead] at nothing

/-- What is left in front of a mark is left whatever follows. -/
theorem skipIgnored_of_append
    {flags : Flags}
    {chars more tail : List Char}
    {mark : Char}
    (isMark : IsMark mark)
    (ahead : skipIgnored flags (chars ++ mark :: tail) = more ++ mark :: tail) :
    skipIgnored flags chars = more ∧ ∀ {mark} tail, IsMark mark →
      skipIgnored flags (chars ++ mark :: tail) = more ++ mark :: tail := by
  rcases skipIgnored_ends flags chars with stays | ⟨-, beyond⟩
  · obtain rfl : skipIgnored flags chars = more :=
      List.append_cancel_right ((stays tail isMark).symm.trans ahead)
    exact ⟨rfl, stays⟩
  · have short := beyond tail isMark
    rw [ahead] at short
    simp at short
    omega

/-- Where nothing is left, the mark is left or passed. -/
theorem skipIgnored_append_suffix
    {flags : Flags}
    {chars : List Char}
    (nothing : skipIgnored flags chars = [])
    {mark : Char}
    (isMark : IsMark mark)
    (tail : List Char) :
    skipIgnored flags (chars ++ mark :: tail) <:+ mark :: tail := by
  rcases skipIgnored_ends flags chars with stays | ⟨-, beyond⟩
  · rw [stays tail isMark, nothing]
    exact List.suffix_refl _
  · exact List.suffix_of_suffix_length_le (skipIgnored_suffix flags _) (List.suffix_append _ _)
      (Nat.le_succ_of_le (beyond tail isMark))

/-- The rest of the escape for a kind of boundary. -/
def namedEscape? (flags : Flags) : Reader Primitive :=
  andThen (takeBraced? flags.verbose false) fun name chars =>
    (namedBoundary? flags.unicode (String.ofList name)).bind fun boundary =>
      some (.assertion boundary, chars)

theorem local_namedEscape? (flags : Flags) : Local (namedEscape? flags) :=
  (local_takeBraced? _ _).andThen fun _ => .ofOption _ fun _ => .give _

/-- A brace that something follows names a boundary or is left. -/
theorem boundaryEscape?_brace
    {flags : Flags}
    {rest more : List Char}
    {c : Char}
    (follows : skipIgnored flags rest = c :: more) :
    boundaryEscape? flags ('\x7b' :: rest) =
      if c.isAlpha || c == '-' then namedEscape? flags rest
      else some (.assertion (.wordBoundary flags.unicode), '\x7b' :: rest) := by
  simp only [boundaryEscape?, follows]
  rfl

theorem boundaryEscape?_plain
    (flags : Flags)
    {chars : List Char}
    (plain : ∀ rest, chars ≠ '\x7b' :: rest) :
    boundaryEscape? flags chars = some (.assertion (.wordBoundary flags.unicode), chars) := by
  unfold boundaryEscape?
  split
  · exact absurd rfl (plain _)
  · rfl

/-- The escape for boundaries is read alike unless its brace dangles. -/
theorem ends_boundaryEscape?
    {flags : Flags}
    {chars : List Char}
    (whole : ¬ Dangles flags '\x7b' chars) :
    Ends (boundaryEscape? flags) chars := by
  by_cases starts : ∃ rest, chars = '\x7b' :: rest
  · obtain ⟨rest, rfl⟩ := starts
    have left : skipIgnored flags rest ≠ [] := fun nothing => whole ⟨rest, rfl, nothing⟩
    obtain ⟨c, more, follows⟩ := List.exists_cons_of_ne_nil left
    have marked {mark : Char} (tail : List Char) (isMark : IsMark mark) :=
      skipIgnored_append_cons follows isMark tail
    by_cases named : (c.isAlpha || c == '-') = true
    · exact ((local_namedEscape? flags).ends rest).transfer
        ((boundaryEscape?_brace follows).trans (if_pos named)) fun tail isMark =>
          (boundaryEscape?_brace (marked tail isMark)).trans (if_pos named)
    · exact ((Local.give (.assertion (.wordBoundary flags.unicode))).ends ('\x7b' :: rest)).transfer
        ((boundaryEscape?_brace follows).trans (if_neg named)) fun tail isMark =>
          (boundaryEscape?_brace (marked tail isMark)).trans (if_neg named)
  · have plain := not_exists.mp starts
    refine ((Local.give (Primitive.assertion (.wordBoundary flags.unicode))).ends chars).transfer
      (boundaryEscape?_plain flags plain) fun tail isMark => boundaryEscape?_plain flags ?_
    intro rest same
    cases chars with
    | nil => exact isMark.ne_of_mem (by decide) (List.cons.inj same).1
    | cons c chars =>
        obtain ⟨rfl, -⟩ := List.cons.inj same
        exact plain chars rfl

/-- The escape for boundaries is an assertion. What is left of its text after the brace is
the whole of it, or what the name of the boundary leaves. -/
theorem boundaryEscape?_cases
    {flags : Flags}
    {chars left : List Char}
    {primitive : Primitive}
    (found : boundaryEscape? flags chars = some (primitive, left)) :
    (∃ condition, primitive = .assertion condition) ∧
      (left = chars ∨
        ∃ rest, chars = '\x7b' :: rest ∧ namedEscape? flags rest = some (primitive, left)) := by
  by_cases starts : ∃ rest, chars = '\x7b' :: rest
  · obtain ⟨rest, rfl⟩ := starts
    cases follows : skipIgnored flags rest with
    | nil => simp [boundaryEscape?, follows] at found
    | cons c more =>
        rw [boundaryEscape?_brace follows] at found
        split at found
        · obtain ⟨⟨name, after⟩, -, isNamed⟩ := Option.bind_eq_some_iff.mp found
          obtain ⟨boundary, -, same⟩ := Option.bind_eq_some_iff.mp isNamed
          cases same
          exact ⟨⟨boundary, rfl⟩, .inr ⟨rest, rfl, found⟩⟩
        · cases found
          exact ⟨⟨_, rfl⟩, .inl rfl⟩
  · rw [boundaryEscape?_plain flags (not_exists.mp starts)] at found
    cases found
    exact ⟨⟨_, rfl⟩, .inl rfl⟩

theorem shortens_boundaryEscape? (flags : Flags) : Shortens (boundaryEscape? flags) := by
  intro chars result left found
  rcases (boundaryEscape?_cases found).2 with rfl | ⟨rest, rfl, named⟩
  · exact List.suffix_refl _
  · exact ((local_namedEscape? flags).shortens named).trans (List.suffix_cons _ rest)

/-- Where nothing counts no brace is closed. -/
theorem takeBraced?_of_skipVerbose
    {chars : List Char} :
    ∀ {comment}, skipVerbose comment chars = [] → takeBraced? true comment chars = none := by
  induction chars with
  | nil => exact fun _ => rfl
  | cons c chars inductionHypothesis =>
      intro comment nothing
      cases comment with
      | true => exact inductionHypothesis nothing
      | false =>
          unfold skipVerbose at nothing
          unfold takeBraced?
          split at nothing
          · next blank =>
              rw [if_neg fun closes => ?_, if_pos (by simpa using blank)]
              · exact inductionHypothesis nothing
              · rw [eq_of_beq closes] at blank
                revert blank
                decide
          · next counts =>
              split at nothing
              · next hash =>
                  rw [eq_of_beq hash]
                  exact inductionHypothesis nothing
              · cases nothing

theorem namedEscape?_of_skipIgnored
    {flags : Flags}
    {chars : List Char}
    (nothing : skipIgnored flags chars = []) :
    namedEscape? flags chars = none := by
  have unclosed : takeBraced? flags.verbose false chars = none := by
    unfold skipIgnored at nothing
    split at nothing
    · next verbose => exact verbose ▸ takeBraced?_of_skipVerbose nothing
    · rw [nothing]
      rfl
  rw [namedEscape?, Reader.andThen, unclosed, Option.bind_none]

/-- A brace that dangles is left, or the mark is passed in a comment. -/
theorem strays_boundaryEscape?
    {flags : Flags}
    {chars : List Char}
    (dangles : Dangles flags '\x7b' chars) :
    Strays (fun _ more => Dangles flags '\x7b' more) (boundaryEscape? flags) chars := by
  obtain ⟨rest, rfl, nothing⟩ := dangles
  refine ⟨by simp [boundaryEscape?, nothing], fun {mark tail _ left} isMark found => ?_⟩
  rcases (boundaryEscape?_cases found).2 with rfl | ⟨others, same, named⟩
  · exact .inr ⟨'\x7b' :: rest, rfl, rest, rfl, nothing⟩
  · obtain rfl : rest ++ mark :: tail = others := (List.cons.inj same).2
    rcases (local_namedEscape? flags).ends rest with ⟨_, _, isNamed, -⟩ | passes
    · simp [namedEscape?_of_skipIgnored nothing] at isNamed
    · exact .inl (passes.beyond isMark named)

/-- The rest of an escape is read locally unless the escape is the one for boundaries. -/
theorem exists_afterEscape
    (flags : Flags)
    (c : Char) :
    ∃ read, Shortens read ∧ (c ≠ 'b' → Local read) ∧
      ∀ rest, escape? flags (c :: rest) = read rest := by
  have onward {read : Reader Primitive} (isLocal : Local read)
      (same : ∀ rest, escape? flags (c :: rest) = read rest) :
      ∃ read, Shortens read ∧ (c ≠ 'b' → Local read) ∧
        ∀ rest, escape? flags (c :: rest) = read rest :=
    ⟨read, isLocal.shortens, fun _ => isLocal, same⟩
  have shorthand (negated : Bool) (members ascii : CharSet)
      (same : ∀ rest, escape? flags (c :: rest) =
        (flags.shorthand? negated members ascii).map fun found => (.members found, rest)) := by
    refine onward (Local.ofOption (flags.shorthand? negated members ascii) fun found =>
      .give (Primitive.members found)) fun rest => ?_
    rw [same, Option.map_eq_bind]
    rfl
  generalize starts : [c] = chars
  fun_cases escape? flags chars <;> cases starts
  case case2 => exact onward (local_codeEscape? flags 1) fun _ => rfl
  case case3 => exact onward (local_codeEscape? flags 3) fun _ => rfl
  case case4 => exact onward (local_codeEscape? flags 7) fun _ => rfl
  case case5 => exact onward (local_propertyEscape? flags false) fun _ => rfl
  case case6 => exact onward (local_propertyEscape? flags true) fun _ => rfl
  case case21 =>
    exact ⟨_, shortens_boundaryEscape? flags, fun other => absurd rfl other, fun _ => rfl⟩
  case case25 | case26 =>
    have plain : Local fun rest =>
        if isEscapable c then give (Primitive.literal c false) rest else none :=
      .ite (.give _) .fail
    refine onward plain fun rest => ?_
    unfold escape?
    dsimp only
    split
    all_goals first | contradiction | rfl
  all_goals first
    | exact shorthand _ _ _ fun _ => rfl
    | exact onward (.give _) fun _ => rfl

theorem shortens_escape? (flags : Flags) : Shortens (escape? flags) := by
  intro chars result rest found
  cases chars with
  | nil => cases found
  | cons c chars =>
      obtain ⟨read, shortens, -, same⟩ := exists_afterEscape flags c
      exact (shortens ((same chars).symm.trans found)).trans (List.suffix_cons c chars)

/-- The brace of an escape for boundaries dangles. -/
def DanglingBoundary (flags : Flags) (chars : List Char) : Prop :=
  ∃ rest, chars = 'b' :: rest ∧ Dangles flags '\x7b' rest

/-- An escape is read alike unless it is the one for boundaries and its brace dangles. -/
theorem ends_escape?
    {flags : Flags}
    {chars : List Char}
    (whole : ¬ DanglingBoundary flags chars) :
    Ends (escape? flags) chars := by
  cases chars with
  | nil =>
      refine .inr (.nil rfl fun isMark found => ?_)
      obtain ⟨read, shortens, -, same⟩ := exists_afterEscape flags _
      exact shortens ((same _).symm.trans found)
  | cons c chars =>
      by_cases boundary : c = 'b'
      · subst boundary
        exact (ends_boundaryEscape? fun dangles => whole ⟨chars, rfl, dangles⟩).cons fun _ => rfl
      · obtain ⟨read, -, isLocal, same⟩ := exists_afterEscape flags c
        exact ((isLocal boundary).ends chars).cons same

/-- An escape is read alike, or the brace of one for boundaries dangles. -/
theorem settles_escape? (flags : Flags) (chars : List Char) :
    Settles (fun _ more => Dangles flags '\x7b' more) (escape? flags) chars := by
  by_cases dangling : DanglingBoundary flags chars
  · obtain ⟨rest, rfl, dangles⟩ := dangling
    exact .inr ((strays_boundaryEscape? dangles).transfer rfl fun _ _ => rfl)
  · exact .inl (ends_escape? dangling)

/-! ## Repetitions -/

theorem local_takeLazy : Local fun chars => some (takeLazy chars) := by
  have same : (fun chars => some (takeLazy chars)) = onChar '?' (give true) (give false) := by
    refine eq_onChar (fun _ => rfl) fun chars noMark => ?_
    unfold takeLazy
    split
    · exact absurd rfl (noMark _)
    · rfl
  rw [same]
  exact .onChar (fun isMark => isMark.ne_of_mem (by decide)) (.give true) (.give false)

theorem local_dropWhile
    {skips : Char → Bool}
    (stops : ∀ {mark}, IsMark mark → skips mark = false) :
    Local fun chars => some ((), chars.dropWhile skips) where
  shortens _ _ _ found := by
    cases found
    exact List.dropWhile_suffix skips
  ends chars := by
    refine .inl ⟨(), chars.dropWhile skips, rfl, fun tail isMark => ?_⟩
    dsimp only
    rw [List.dropWhile_append]
    split
    · next nothing =>
        rw [List.isEmpty_iff.mp nothing, List.dropWhile_cons_of_neg (by simp [stops isMark])]
        rfl
    · rfl

/-- A count of a repetition, with the blanks around it. -/
def count (flags : Flags) : Reader (Option Nat) := fun chars =>
  let (number, rest) := takeDecimal flags.verbose none false (chars.dropWhile Text.isBlank)
  some (number.filter (· < countLimit), skipIgnored flags (rest.dropWhile Text.isBlank))

theorem local_count (flags : Flags) : Local (count flags) := by
  have blanks : Local fun chars => some ((), chars.dropWhile Text.isBlank) :=
    local_dropWhile IsMark.not_blank
  have after (number : Option Nat) : Local fun chars =>
      some (number.filter (· < countLimit), skipIgnored flags (chars.dropWhile Text.isBlank)) :=
    blanks.andThen fun _ => (Local.give _).skip flags
  exact blanks.andThen fun _ => (local_takeDecimal flags.verbose none false).andThen after

/-- What follows the first count of a repetition. -/
def maximum? (flags : Flags) (min : Nat) : Reader (Nat × Option Nat) :=
  onChar '\x7d' (give (min, some min)) <|
  onChar ',' (fun chars => onChar '\x7d' (give (min, none))
    (andThen (count flags) fun max chars => max.bind fun max =>
      onChar '\x7d' (fun chars => if min ≤ max then some ((min, some max), chars) else none)
        (fun _ => none) chars)
    (skipIgnored flags chars)) <|
  fun _ => none

theorem counts?_eq (flags : Flags) :
    counts? flags = fun chars =>
      andThen (count flags) (fun min chars => min.bind fun min => maximum? flags min chars)
        (skipIgnored flags chars) := by
  funext chars
  unfold counts? Reader.andThen count
  simp only [Option.bind_eq_bind, Option.bind_some]
  refine Option.bind_congr fun min _ => ?_
  generalize skipIgnored flags (List.dropWhile Text.isBlank _) = chars
  unfold maximum?
  split
  · rfl
  · next rest =>
      rw [onChar_of_ne (by simp)]
      change _ = onChar '\x7d' (give (min, none)) _ (skipIgnored flags rest)
      generalize skipIgnored flags rest = rest
      split
      · rfl
      · next noBrace =>
          rw [onChar_of_ne noBrace, Reader.andThen, count, Option.bind_some]
          refine Option.bind_congr fun max _ => ?_
          generalize skipIgnored flags (List.dropWhile Text.isBlank _) = rest
          split
          · rfl
          · next noBrace => rw [onChar_of_ne noBrace]
  · next noBrace noComma => rw [onChar_of_ne noBrace, onChar_of_ne noComma]

theorem counts?_of_skipIgnored
    {flags : Flags}
    {chars : List Char}
    (nothing : skipIgnored flags chars = []) :
    counts? flags chars = none := by
  rw [counts?_eq]
  dsimp only
  rw [nothing]
  rfl

theorem local_counts? (flags : Flags) : Local (counts? flags) := by
  have brace {mark : Char} (isMark : IsMark mark) : mark ≠ '\x7d' := isMark.ne_of_mem (by decide)
  have comma {mark : Char} (isMark : IsMark mark) : mark ≠ ',' := isMark.ne_of_mem (by decide)
  have second (min max : Nat) : Local (onChar '\x7d'
      (fun chars => if min ≤ max then some ((min, some max), chars) else none) fun _ => none) :=
    .onChar brace (.ite (.give _) .fail) .fail
  have between (min : Nat) : Local (maximum? flags min) :=
    .onChar brace (.give _) <| .onChar comma (.skip (.onChar brace (.give _)
      ((local_count flags).andThen fun max => .ofOption max (second min))) flags) .fail
  rw [counts?_eq]
  exact .skip ((local_count flags).andThen fun min => .ofOption min between) flags

/-! ## Openings -/

/-- The characters up to one that is not skipped, which is taken too. -/
def through (skips : Char → Bool) : Reader (List Char × Char)
  | [] => none
  | c :: rest =>
      if skips c then (through skips rest).map fun found => ((c :: found.1.1, found.1.2), found.2)
      else some (([], c), rest)

theorem through_suffix
    (skips : Char → Bool)
    {chars left : List Char} :
    ∀ {found}, through skips chars = some (found, left) → left <:+ chars.tail := by
  induction chars with
  | nil => exact nofun
  | cons c rest inductionHypothesis =>
      intro found isFound
      unfold through at isFound
      split at isFound
      · obtain ⟨⟨inner, after⟩, isInner, same⟩ := Option.map_eq_some_iff.mp isFound
        cases same
        exact (inductionHypothesis isInner).trans (List.tail_suffix rest)
      · cases isFound
        exact List.suffix_refl _

theorem takes_through (skips : Char → Bool) : Takes (through skips) := by
  intro chars found rest isFound
  cases chars with
  | nil => cases isFound
  | cons c chars =>
      have shorter : rest <:+ chars := through_suffix skips isFound
      exact ⟨shorter.trans (List.suffix_cons c chars), Nat.lt_succ_of_le shorter.length_le⟩

theorem local_through (skips : Char → Bool) : Local (through skips) := by
  refine ⟨fun chars _ _ found => (takes_through skips found).1, fun chars => ?_⟩
  induction chars with
  | nil => exact .inr (.nil rfl fun _ found => through_suffix skips found)
  | cons c chars inductionHypothesis =>
      cases skip : skips c with
      | true =>
          refine (inductionHypothesis.map fun found => (c :: found.1, found.2)).cons fun rest => ?_
          rw [through, if_pos skip]
      | false =>
          refine ((Local.give ([], c)).ends chars).cons fun rest => ?_
          rw [through, if_neg (by simp [skip])]
          rfl

/-- What is taken up to a character is what the text starts with up to it. -/
theorem through_eq (skips : Char → Bool) (chars : List Char) :
    through skips chars =
      match chars.dropWhile skips with
      | [] => none
      | c :: rest => some ((chars.takeWhile skips, c), rest) := by
  induction chars with
  | nil => rfl
  | cons c chars inductionHypothesis =>
      rw [through, inductionHypothesis]
      cases skip : skips c with
      | true =>
          simp only [List.dropWhile_cons, List.takeWhile_cons, skip, if_true]
          split <;> rfl
      | false => simp [skip]

/-- The name that characters write, if they write one. -/
def writtenName? : List Char → Option String
  | [] => none
  | first :: others =>
      if isNameChar true first && others.all (isNameChar false) then
        some (String.ofList (first :: others))
      else none

theorem groupName?_eq :
    groupName? = andThen (through (· != '>')) fun found chars =>
      if found.2 = '>' then offer (writtenName? found.1) chars else none := by
  funext chars
  rw [Reader.andThen, through_eq, groupName?]
  cases chars.dropWhile (· != '>') with
  | nil =>
      split
      · next same => cases same
      · rfl
  | cons c rest =>
      rw [Option.bind_some]
      generalize chars.takeWhile (· != '>') = name
      by_cases closes : c = '>'
      · subst closes
        rw [if_pos rfl]
        cases name with
        | nil => rfl
        | cons first others =>
            change (if isNameChar true first && others.all (isNameChar false) then
              some (String.ofList (first :: others), rest) else none) = _
            rw [writtenName?]
            split <;> rfl
      · rw [if_neg closes]
        split
        · next same =>
            cases same
            exact absurd rfl closes
        · rfl

theorem local_groupName? : Local groupName? := by
  rw [groupName?_eq]
  exact (local_through _).andThen fun found => .ite (.offer _) .fail

/-- The opening that the letters of flags make with the character after them. -/
def flagsOpening? (flags : Flags) (letters : List Char) (stop : Char) : Option Opening :=
  if stop = ':' then (flags.update? true [] letters).map .plain
  else if letters.isEmpty then none
  else (flags.update? true [] letters).map .setFlags

/-- The flags of a group or for the rest of one, after the question mark. -/
def flagGroup? (flags : Flags) : Reader Opening :=
  andThen (through fun c => c != ':' && c != ')') fun found =>
    offer (flagsOpening? flags found.1 found.2)

theorem local_flagGroup? (flags : Flags) : Local (flagGroup? flags) :=
  (local_through _).andThen fun _ => .offer _

theorem takes_flagGroup? (flags : Flags) : Takes (flagGroup? flags) :=
  (takes_through _).andThen fun _ => (Local.offer _).shortens

/-- A numbered group with a name, after the angle bracket. -/
def namedGroup? : Reader Opening :=
  andThen groupName? fun name => give (.numbered (some name))

/-- What the opening of a group says after a question mark. -/
def groupKind? (flags : Flags) : Reader Opening :=
  onChar '=' (fun _ => none) <|
  onChar '!' (fun _ => none) <|
  onChar '<' (onChar '=' (fun _ => none) (onChar '!' (fun _ => none) namedGroup?)) <|
  onChar 'P' (onChar '<' namedGroup? fun chars => flagGroup? flags ('P' :: chars)) <|
  flagGroup? flags

theorem namedGroup?_eq (chars : List Char) :
    namedGroup? chars = (groupName? chars).map fun (name, rest) =>
      (Opening.numbered (some name), rest) := by
  rw [namedGroup?, Reader.andThen]
  cases groupName? chars <;> rfl

theorem opening?_eq (flags : Flags) :
    opening? flags = onChar '?' (groupKind? flags) (give (.numbered none)) := by
  funext chars
  unfold opening?
  split
  · rfl
  · rfl
  · rfl
  · rfl
  · next rest => exact (namedGroup?_eq rest).symm
  · next rest ahead notAhead =>
      change _ = onChar '=' _ (onChar '!' _ namedGroup?) rest
      rw [onChar_of_ne fun more same => ahead more (by rw [same]),
        onChar_of_ne fun more same => notAhead more (by rw [same])]
      exact (namedGroup?_eq rest).symm
  · next rest positive negative behind notBehind python named =>
      change _ = groupKind? flags rest
      rw [groupKind?, onChar_of_ne positive, onChar_of_ne negative, onChar_of_ne named]
      have kept : onChar 'P' (onChar '<' namedGroup? fun chars => flagGroup? flags ('P' :: chars))
          (flagGroup? flags) rest = flagGroup? flags rest := by
        by_cases starts : ∃ more, rest = 'P' :: more
        · obtain ⟨more, rfl⟩ := starts
          rw [onChar_self, onChar_of_ne fun others same => python others (by rw [same])]
        · exact onChar_of_ne (not_exists.mp starts)
      rw [kept, flagGroup?, Reader.andThen, through_eq]
      dsimp only
      have stops := List.head?_dropWhile_not (fun c => c != ':' && c != ')') rest
      generalize rest.takeWhile (fun c => c != ':' && c != ')') = letters
      generalize rest.dropWhile (fun c => c != ':' && c != ')') = left at stops
      cases left with
      | nil => rfl
      | cons c left =>
          have stop : c = ':' ∨ c = ')' := by simpa [Decidable.or_iff_not_imp_left] using stops
          dsimp only [Option.bind_some, offer, flagsOpening?]
          rcases stop with rfl | rfl <;> cases flags.update? true [] letters <;> cases letters <;>
            rfl
  · next noQuestion =>
      rw [onChar_of_ne noQuestion]
      rfl

theorem local_opening? (flags : Flags) : Local (opening? flags) := by
  have named : Local namedGroup? := local_groupName?.andThen fun _ => .give _
  have behind : Local (onChar '=' (fun _ => none) (onChar '!' (fun _ => none) namedGroup?)) :=
    .onChar (fun isMark => isMark.ne_of_mem (by decide)) .fail <|
    .onChar (fun isMark => isMark.ne_of_mem (by decide)) .fail named
  have python : Local (onChar '<' namedGroup? fun chars => flagGroup? flags ('P' :: chars)) :=
    .onChar (fun isMark => isMark.ne_of_mem (by decide)) named <|
    (local_flagGroup? flags).prepend (takes_flagGroup? flags) 'P'
  rw [opening?_eq]
  refine .onChar (fun isMark => isMark.ne_of_mem (by decide)) ?_ (.give _)
  refine .onChar (fun isMark => isMark.ne_of_mem (by decide)) .fail ?_
  refine .onChar (fun isMark => isMark.ne_of_mem (by decide)) .fail ?_
  refine .onChar (fun isMark => isMark.ne_of_mem (by decide)) behind ?_
  exact .onChar (fun isMark => isMark.ne_of_mem (by decide)) python (local_flagGroup? flags)

end Regex
end Heirloom
