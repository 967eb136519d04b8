import Heirloom.Proofs.Regex.Frames

/-!
# What a literal means

The frames of a literal are texts, and its source is put into them as it is written. That
the source becomes one group of a frame follows only if the parenthesis of the frame is the
one that closes this group: the source may close it before, or it may end in a comment that
goes over the parenthesis. A source that is an expression by itself does not close the
group before, so it is accepted if it does not end in a comment and its frames are not too
large, and then it is what the literal matches.
-/

namespace Heirloom
namespace Regex

/-! ## Expressions by themselves -/

/-- The expression that a text writes by itself, whatever its size. -/
def written? (chars : List Char) : Option Piece :=
  readGroups? (chars.length + 1) [] {} {} {} chars

/-- A text is an expression by itself, and a parenthesis after it closes no group: the text
leaves no group open and does not end in a comment. -/
def Complete (chars : List Char) : Prop :=
  (written? chars).isSome = true ∧ written? (chars ++ [')']) = none

instance (chars : List Char) : Decidable (Complete chars) :=
  inferInstanceAs (Decidable (_ ∧ _))

namespace GroupState

/-- Where no group is open, a parenthesis closes none. -/
theorem read?_of_closed
    {state : GroupState}
    (closed : state.outer = [])
    (tail : List Char) :
    state.read? (')' :: tail) = none := by
  have ahead := skipIgnored_cons state.flags (c := ')') (by decide) (by decide) tail
  have closes : state.round? (')' :: tail) = Reader.offer state.leave? tail := rfl
  rw [read?_of_cons ahead, closes, leave?, closed]
  rfl

variable
  {chars : List Char}
  {last : GroupState}

/-- The flags and the number of the only group that is open are those it began with. -/
theorem Completes.group
    (completes : Completes {} chars last) :
    last.group.outerFlags = {} ∧ last.group.index = none := by
  have origin := completes.origin
  rw [GroupState.origin, completes.closed] at origin
  exact Prod.mk.inj origin

theorem Completes.written?_eq
    (completes : Completes {} chars last) :
    written? chars = some last.group.close :=
  completes.reads

/-- A text that goes on after all its groups have been closed is no expression. -/
theorem Completes.written?_append
    (completes : Completes {} chars last)
    (tail : List Char) :
    written? (chars ++ ')' :: tail) = none := by
  have onward := completes.goesOn [] tail .parenthesis
  rw [inside_nil, inside_nil, read?_of_closed completes.closed] at onward
  exact onward

end GroupState

open GroupState (Completes)

theorem complete_iff
    {chars : List Char} :
    Complete chars ↔ ∃ last, Completes {} chars last := by
  constructor
  · rintro ⟨isSome, nothing⟩
    obtain ⟨piece, reads⟩ := Option.isSome_iff_exists.mp isSome
    have reads : GroupState.read? {} chars = some piece := reads
    rcases GroupState.passes_or_completes reads with passes | ⟨last, completes, -⟩
    · cases nothing.symm.trans (passes .parenthesis)
    · exact ⟨last, completes⟩
  · rintro ⟨last, completes⟩
    exact ⟨by rw [completes.written?_eq]; rfl, completes.written?_append []⟩

/-- An expression does not close a group that it does not open. -/
theorem Complete.written?_append
    {chars : List Char}
    (complete : Complete chars)
    (tail : List Char) :
    written? (chars ++ ')' :: tail) = none := by
  obtain ⟨last, completes⟩ := complete_iff.mp complete
  exact completes.written?_append tail

/-! ## Frames -/

namespace Piece

variable (piece : Piece)

/-- The frame for the start of a text around a piece. -/
def leading : Piece where
  regex := .concat [.look .textStart, piece.regex]
  depth := piece.depth + 2

/-- The frame for a whole text around a piece. -/
def spanning : Piece where
  regex := .concat [.look .textStart, piece.regex, .look .textEnd]
  depth := piece.depth + 2

@[simp] theorem depth_leading : piece.leading.depth = piece.depth + 2 := rfl

@[simp] theorem depth_spanning : piece.spanning.depth = piece.depth + 2 := rfl

/-- The frames around a piece are neither nested too deeply nor too large. -/
def FramesFit : Prop :=
  piece.depth + 2 ≤ depthLimit ∧ piece.leading.regex.fits = true ∧
    piece.spanning.regex.fits = true

instance : Decidable piece.FramesFit := inferInstanceAs (Decidable (_ ∧ _ ∧ _))

/-- The frame for the start of a text matches what the piece matches there. -/
theorem language_leading
    {before text after : List Char} :
    piece.leading.regex.language before text after ↔
      before = [] ∧ piece.regex.language [] text after := by
  rw [leading, language_concat]
  simp only [List.map_cons, List.map_nil, Language.all_cons, Language.all_nil,
    Language.followedBy_nothing]
  constructor
  · rintro ⟨_, _, rfl, ⟨rfl, starts⟩, matched⟩
    obtain rfl := List.isEmpty_iff.mp starts
    exact ⟨rfl, matched⟩
  · rintro ⟨rfl, matched⟩
    exact ⟨[], text, rfl, ⟨rfl, rfl⟩, matched⟩

/-- The frame for a whole text matches it if the piece does. -/
theorem language_spanning
    {before text after : List Char} :
    piece.spanning.regex.language before text after ↔
      before = [] ∧ after = [] ∧ piece.regex.language [] text [] := by
  rw [spanning, language_concat]
  simp only [List.map_cons, List.map_nil, Language.all_cons, Language.all_nil,
    Language.followedBy_nothing]
  constructor
  · rintro ⟨_, _, rfl, ⟨rfl, starts⟩, first, _, rfl, matched, rfl, ends⟩
    obtain rfl := List.isEmpty_iff.mp starts
    obtain rfl := List.isEmpty_iff.mp ends
    exact ⟨rfl, rfl, by simpa using matched⟩
  · rintro ⟨rfl, rfl, matched⟩
    exact ⟨[], text, rfl, ⟨rfl, rfl⟩, text, [], by simp, matched, rfl, rfl⟩

end Piece

/-- What is open around the source in a frame. -/
def frameGroup : OpenGroup :=
  { items := [{ regex := .look .textStart }] }

theorem read?_frame (chars : List Char) :
    GroupState.read? {} ('^' :: '(' :: '?' :: ':' :: chars) =
      (GroupState.inside {} [frameGroup]).read? chars := by
  have start : skipIgnored {} ('^' :: '(' :: '?' :: ':' :: chars) =
      '^' :: '(' :: '?' :: ':' :: chars := rfl
  have anchored : GroupState.round? {} ('^' :: '(' :: '?' :: ':' :: chars) =
      some ({ group := frameGroup }, '(' :: '?' :: ':' :: chars) := rfl
  have next : skipIgnored {} ('(' :: '?' :: ':' :: chars) = '(' :: '?' :: ':' :: chars := rfl
  have opened : GroupState.round? { group := frameGroup } ('(' :: '?' :: ':' :: chars) =
      some (GroupState.inside {} [frameGroup], chars) := rfl
  rw [GroupState.read?_of_round start anchored, GroupState.read?_of_round next opened]

section Framing

variable
  {source : List Char}
  {last : GroupState}

/-- A source that leaves no group open becomes the group of a frame. -/
theorem GroupState.Completes.read?_framed
    (completes : Completes {} source last)
    (tail : List Char) :
    GroupState.read? {} ('^' :: '(' :: '?' :: ':' :: (source ++ ')' :: tail)) =
      GroupState.read? { group := frameGroup.add last.group.enclosed, seen := last.seen } tail := by
  rw [read?_frame, completes.goesOn [frameGroup] tail .parenthesis, read?_close completes.closed,
    completes.group.1]

theorem GroupState.Completes.enclosed_eq
    (completes : Completes {} source last) :
    last.group.enclosed =
      { regex := last.group.close.regex, depth := last.group.close.depth + 1 } := by
  rw [OpenGroup.enclosed, completes.group.2]

theorem GroupState.Completes.written?_leadFrame
    (completes : Completes {} source last) :
    written? (leadFrame source) = some last.group.close.leading := by
  refine (completes.read?_framed []).trans ?_
  rw [read?_of_nil (skipIgnored_nil _), completes.enclosed_eq]
  simp [frameGroup, OpenGroup.add, OpenGroup.close, OpenGroup.branch, Piece.leading]

theorem GroupState.Completes.written?_wholeFrame
    (completes : Completes {} source last) :
    written? (wholeFrame source) = some last.group.close.spanning := by
  have split : wholeFrame source = '^' :: '(' :: '?' :: ':' :: (source ++ ')' :: ['$']) := by
    simp [wholeFrame, leadFrame]
  have anchored (group : OpenGroup) (seen : SeenGroups) :
      GroupState.read? { group := group, seen := seen } ['$'] =
        some (group.add { regex := .look .textEnd }).close := rfl
  rw [split]
  refine (completes.read?_framed ['$']).trans ?_
  rw [anchored, completes.enclosed_eq]
  simp [frameGroup, OpenGroup.add, OpenGroup.close, OpenGroup.branch, Piece.spanning]

/-- A source that is read in a frame is complete, or it closes the group of the frame. -/
theorem complete_or_closes_of_leadFrame
    {piece : Piece}
    (reads : written? (leadFrame source) = some piece) :
    Complete source ∨ ∃ before after, source = before ++ ')' :: after ∧ Complete before := by
  have framed : GroupState.read? {} ('^' :: '(' :: '?' :: ':' :: (source ++ [')'])) = some piece :=
    reads
  rw [read?_frame] at framed
  obtain ⟨inner, tail, last, split, completes, -⟩ :=
    GroupState.exists_completes_of_read?_inside framed
  have complete : Complete inner := complete_iff.mpr ⟨last, completes⟩
  rcases List.eq_nil_or_concat tail with rfl | ⟨after, c, rfl⟩
  · exact .inl (List.append_cancel_right split ▸ complete)
  · have inside : source ++ [')'] = (inner ++ ')' :: after) ++ [c] := by simpa using split
    exact .inr ⟨inner, after, (List.append_inj' inside rfl).1, complete⟩

/-- An expression that is read in a frame is complete. -/
theorem complete_of_leadFrame
    {piece framed : Piece}
    (writes : written? source = some piece)
    (reads : written? (leadFrame source) = some framed) :
    Complete source := by
  rcases complete_or_closes_of_leadFrame reads with complete | ⟨before, after, rfl, complete⟩
  · exact complete
  · cases (complete.written?_append after).symm.trans writes

end Framing

/-! ## Literals -/

/-- A text that writes an expression is one if it is neither nested too deeply nor too
large. -/
theorem ofChars?_of_written?
    {chars : List Char}
    {piece : Piece}
    (writes : written? chars = some piece) :
    ofChars? chars =
      if piece.depth ≤ depthLimit && piece.regex.fits then some piece.regex else none := by
  change (written? chars).bind _ = _
  rw [writes, Option.bind_some]

/-- The frames of a complete source are expressions if they are within the limits. -/
theorem Complete.frames
    {source : List Char}
    {piece : Piece}
    (complete : Complete source)
    (writes : written? source = some piece) :
    written? (leadFrame source) = some piece.leading ∧
      written? (wholeFrame source) = some piece.spanning := by
  obtain ⟨last, completes⟩ := complete_iff.mp complete
  obtain rfl := Option.some.inj (completes.written?_eq.symm.trans writes)
  exact ⟨completes.written?_leadFrame, completes.written?_wholeFrame⟩

theorem compileFrames?_of_complete
    {source : String}
    {piece : Piece}
    (complete : Complete source.toList)
    (writes : written? source.toList = some piece) :
    compileFrames? source =
      if piece.FramesFit then some (piece.spanning.regex.compile, piece.leading.regex.compile)
      else none := by
  obtain ⟨leads, spans⟩ := complete.frames writes
  rw [compileFrames?, ofChars?_of_written? leads, ofChars?_of_written? spans]
  by_cases shallow : piece.depth + 2 ≤ depthLimit <;>
    cases leadFits : piece.leading.regex.fits <;>
    cases wholeFits : piece.spanning.regex.fits <;>
    simp [Piece.FramesFit, shallow, leadFits, wholeFits]

/-- A source whose frames are expressions is read in the frame for the start of a text. -/
theorem exists_written?_leadFrame
    {source : String}
    (compiles : (compileFrames? source).isSome = true) :
    ∃ framed, written? (leadFrame source.toList) = some framed := by
  unfold compileFrames? at compiles
  split at compiles
  · next isLead =>
      obtain ⟨framed, reads, -⟩ := exists_piece_of_ofChars? isLead
      exact ⟨framed, reads⟩
  · cases compiles

/-- The bytes of a text are those of its characters. -/
theorem utf8ByteSize_ofList (chars : List Char) :
    (String.ofList chars).utf8ByteSize = chars.foldr (fun c size => c.utf8Size + size) 0 := by
  induction chars with
  | nil => rfl
  | cons c chars inductionHypothesis =>
      rw [← List.singleton_append, String.ofList_append, String.utf8ByteSize_append,
        inductionHypothesis]
      simp

namespace Literal

variable
  {source : String}
  {piece : Piece}
  {literal : Literal}

theorem isSome_ofSource? (source : String) :
    (ofSource? source).isSome = (compileFrames? source).isSome := by
  unfold ofSource?
  split
  · next compiled => exact (congrArg Option.isSome compiled).symm
  · next nothing => exact (congrArg Option.isSome nothing).symm

theorem compileFrames?_of_ofSource?
    (accepted : ofSource? source = some literal) :
    compileFrames? source = some (literal.whole, literal.lead) := by
  unfold ofSource? at accepted
  split at accepted
  · next compiled =>
      cases accepted
      exact compiled
  · cases accepted

/-- An expression is accepted as a literal if and only if it does not end in a comment and
its frames are within the limits. -/
theorem isSome_ofSource?_iff
    (writes : written? source.toList = some piece) :
    (ofSource? source).isSome = true ↔ Complete source.toList ∧ piece.FramesFit := by
  rw [isSome_ofSource?]
  constructor
  · intro compiles
    obtain ⟨framed, reads⟩ := exists_written?_leadFrame compiles
    have complete := complete_of_leadFrame writes reads
    rw [compileFrames?_of_complete complete writes] at compiles
    exact ⟨complete, by_contra fun large => by simp [large] at compiles⟩
  · rintro ⟨complete, fits⟩
    rw [compileFrames?_of_complete complete writes, if_pos fits]
    rfl

/-- The programs of a literal are those of the frames around its source. -/
theorem programs_of_written?
    (writes : written? source.toList = some piece)
    (accepted : ofSource? source = some literal) :
    literal.whole = piece.spanning.regex.compile ∧ literal.lead = piece.leading.regex.compile := by
  have isSome : (ofSource? source).isSome = true := by rw [accepted]; rfl
  obtain ⟨complete, fits⟩ := (isSome_ofSource?_iff writes).mp isSome
  have compiled := compileFrames?_of_ofSource? accepted
  rw [compileFrames?_of_complete complete writes, if_pos fits] at compiled
  obtain ⟨whole, lead⟩ := Prod.mk.inj (Option.some.inj compiled)
  exact ⟨whole.symm, lead.symm⟩

/-- What a literal matches at the start of a text its source matches there. -/
theorem language_of_leadSize?
    (lead : literal.lead = piece.leading.regex.compile)
    {text : String}
    {size : Nat}
    (found : literal.leadSize? text = some size) :
    ∃ matched after, text = matched ++ after ∧ size = matched.utf8ByteSize ∧
      piece.regex.language [] matched.toList after.toList := by
  obtain ⟨length, isLength, rfl⟩ := Option.map_eq_some_iff.mp found
  obtain ⟨bounds, searched, rfl⟩ := Option.map_eq_some_iff.mp isLength
  rw [lead] at searched
  obtain ⟨skipped, matched, after, split, rfl, isMatch⟩ := language_of_search? searched
  obtain ⟨start, isInner⟩ := piece.language_leading.mp isMatch
  obtain rfl := List.reverse_eq_nil_iff.mp start
  refine ⟨String.ofList matched, String.ofList after, ?_, ?_, ?_⟩
  · rw [← String.ofList_append, ← String.ofList_toList (s := text), split]
    simp
  · rw [split, utf8ByteSize_ofList]
    simp
  · simpa using isInner

/-- A literal matches a whole text if and only if its source does. -/
theorem matchesWhole_iff
    (whole : literal.whole = piece.spanning.regex.compile)
    (chars : List Char) :
    literal.matchesWhole chars = true ↔ piece.regex.language [] chars [] := by
  rw [matchesWhole, whole, search?_compile_isSome_iff]
  constructor
  · rintro ⟨skipped, matched, after, rfl, isMatch⟩
    obtain ⟨start, rfl, isInner⟩ := piece.language_spanning.mp isMatch
    obtain rfl := List.reverse_eq_nil_iff.mp start
    simpa using isInner
  · intro isMatch
    exact ⟨[], chars, [], by simp, piece.language_spanning.mpr ⟨rfl, rfl, isMatch⟩⟩

end Literal

/-- A literal is accepted for a source that is no expression by itself only if the source
closes the group of its frames. For an expression it is accepted if and only if the
expression does not end in a comment and its frames are neither nested too deeply nor too
large; then it matches at the start of a text what the expression matches there, and a
whole text if and only if the expression does. -/
theorem literal_means_its_source (source : String) :
    (written? source.toList = none → (Literal.ofSource? source).isSome = true →
      ∃ before after, source.toList = before ++ ')' :: after ∧ Complete before) ∧
    ∀ piece, written? source.toList = some piece →
      ((Literal.ofSource? source).isSome = true ↔ Complete source.toList ∧ piece.FramesFit) ∧
      ∀ literal, Literal.ofSource? source = some literal →
        (∀ text size, literal.leadSize? text = some size →
          ∃ matched after, text = matched ++ after ∧ size = matched.utf8ByteSize ∧
            piece.regex.language [] matched.toList after.toList) ∧
        ∀ text : String, literal.matchesWhole text.toList = true ↔
          piece.regex.language [] text.toList [] := by
  refine ⟨fun nothing accepted => ?_, fun piece writes => ⟨Literal.isSome_ofSource?_iff writes, ?_⟩⟩
  · rw [Literal.isSome_ofSource?] at accepted
    obtain ⟨framed, reads⟩ := exists_written?_leadFrame accepted
    rcases complete_or_closes_of_leadFrame reads with ⟨isSome, -⟩ | closes
    · simp [nothing] at isSome
    · exact closes
  · intro literal accepted
    obtain ⟨whole, lead⟩ := Literal.programs_of_written? writes accepted
    exact ⟨fun text size => literal.language_of_leadSize? lead,
      fun text => literal.matchesWhole_iff whole text.toList⟩

/-- A source with a group of its own is accepted, and its literal matches what it does. -/
theorem grouped_literal_means_its_source :
    Complete "(a)|b".toList ∧ (Literal.ofSource? "(a)|b").isSome = true ∧
    ∃ piece, written? "(a)|b".toList = some piece ∧
      ∀ literal, Literal.ofSource? "(a)|b" = some literal →
        (∀ text size, literal.leadSize? text = some size →
          ∃ matched after, text = matched ++ after ∧ size = matched.utf8ByteSize ∧
            piece.regex.language [] matched.toList after.toList) ∧
        ∀ text : String, literal.matchesWhole text.toList = true ↔
          piece.regex.language [] text.toList [] := by
  have complete : Complete "(a)|b".toList := by decide +kernel
  have accepted : (Literal.ofSource? "(a)|b").isSome = true := by decide +kernel
  obtain ⟨piece, writes⟩ := Option.isSome_iff_exists.mp complete.1
  exact ⟨complete, accepted, piece, writes,
    ((literal_means_its_source "(a)|b").2 piece writes).2⟩

/-- A source that closes the group of its frames is accepted though it is no expression,
and its literal matches texts elsewhere than at their start and in part. An expression that
ends in a comment is refused. -/
theorem literals_of_unframed_sources :
    (ofChars? "a)|(b".toList = none ∧
      (Literal.ofSource? "a)|(b").map (fun literal =>
        (literal.leadSize? "xb", literal.matchesWhole "ax".toList)) = some (some 2, true)) ∧
    (ofChars? "(?x)a # c".toList).isSome = true ∧
      Literal.ofSource? "(?x)a # c" = none := by
  refine ⟨⟨?_, ?_⟩, ?_, ?_⟩ <;> decide +kernel

end Regex
end Heirloom
