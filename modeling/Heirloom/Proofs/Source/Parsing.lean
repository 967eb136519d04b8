import Heirloom.Proofs.Source.Surface
import Mathlib.Data.Bool.AllAny

/-!
# Patterns read back

Tokens that stand for a pattern in the surface grammar are read as that pattern,
whatever follows them, unless it goes on with the pattern. So the readers miss
nothing of the surface grammar, as deep as patterns may nest.
-/

namespace Heirloom
namespace Source

/-! ## What follows -/

/-- The next token is none of the marks. -/
def NotNext (marks : List Char) (tokens : List Token) : Prop :=
  ∀ position mark joint rest, tokens = .mark position mark joint :: rest → mark ∉ marks

/-- The marks that go on with the term before them, or change what it is. -/
def termMarks : List Char := ['.', '=', '*', '+', '?', ':']

/-- No pattern goes on with the tokens. -/
structure EndsPattern (tokens : List Token) : Prop where
  noTerm : startsTerm tokens = false
  noMark : NotNext ('|' :: termMarks) tokens

section Following

variable
  {marks : List Char}
  {tokens rest : List Token}
  {position : Position}
  {c : Char}
  {joint : Bool}

theorem NotNext.nil : NotNext marks [] := nofun

theorem NotNext.mark
    (other : c ∉ marks) :
    NotNext marks (.mark position c joint :: rest) := by
  rintro _ _ _ _ ⟨⟩
  exact other

theorem NotNext.mono
    {fewer : List Char}
    (notNext : NotNext marks tokens)
    (subset : fewer ⊆ marks) :
    NotNext fewer tokens :=
  fun position mark joint rest same mem => notNext position mark joint rest same (subset mem)

/-- No term starts with a mark that goes on with one. -/
theorem NotNext.of_startsTerm
    (starts : startsTerm tokens = true) :
    NotNext termMarks tokens := by
  rintro position mark joint rest rfl
  have apart : ∀ mark ∈ ['~', '&', '<', '#', '/', '-'], mark ∉ termMarks :=
    List.all_iff_forall_prop.mp (by decide)
  exact apart mark (List.contains_iff_mem.mp starts)

theorem EndsPattern.nil : EndsPattern [] :=
  ⟨rfl, .nil⟩

theorem EndsPattern.mark
    (noTerm : c ∉ ['~', '&', '<', '#', '/', '-'])
    (noMark : c ∉ '|' :: termMarks) :
    EndsPattern (.mark position c joint :: rest) :=
  ⟨Bool.eq_false_iff.mpr fun starts => noTerm (List.contains_iff_mem.mp starts), .mark noMark⟩

theorem afterMarks?_eq_none
    {second : Char}
    {others : List Char}
    (notNext : NotNext [c] tokens) :
    afterMarks? (c :: second :: others) tokens = none := by
  match tokens with
  | .mark position found joint :: rest =>
      have different : found ≠ c := by simpa using notNext position found joint rest rfl
      simp [afterMarks?, different]
  | [] | .ident _ _ :: _ | .literal _ _ :: _ | .group _ _ _ _ :: _ => rfl

theorem startsWithEquals_eq_false
    (notNext : NotNext ['='] tokens) :
    startsWithEquals tokens = false := by
  match tokens with
  | .mark position found joint :: rest =>
      have different : found ≠ '=' := by simpa using notNext position found joint rest rfl
      simp [startsWithEquals, different]
  | [] | .ident _ _ :: _ | .literal _ _ :: _ | .group _ _ _ _ :: _ => rfl

theorem readRepetitions_of_notNext
    {pattern : Pattern}
    (notNext : NotNext ['*', '+', '?'] tokens) :
    readRepetitions pattern tokens = (pattern, tokens) := by
  match tokens with
  | .mark position found joint :: rest =>
      have different : found ≠ '*' ∧ found ≠ '+' ∧ found ≠ '?' := by
        simpa using notNext position found joint rest rfl
      simp [readRepetitions, different]
  | [] | .ident _ _ :: _ | .literal _ _ :: _ | .group _ _ _ _ :: _ => rfl

theorem readBinding_of_notNext
    {pattern : Pattern}
    (notNext : NotNext [':'] tokens) :
    readBinding pattern tokens = (pattern, tokens) := by
  unfold readBinding
  split
  · next position found joint namePosition name rest =>
      have different : found ≠ ':' := by simpa using notNext _ _ _ _ rfl
      simp [different]
  · rfl

end Following

/-! ## Counting -/

namespace Token

theorem countAll_append (tokens others : List Token) :
    countAll (tokens ++ others) = countAll tokens + countAll others := by
  induction tokens with
  | nil => simp [countAll]
  | cons token tokens inductionHypothesis =>
      rw [List.cons_append, countAll, inductionHypothesis, countAll, Nat.add_assoc]

end Token

/-! ## Reading -/

/-- The phrase starts as a term does if it is one or part of one. -/
def Phrase.Starts (tokens : List Token) : Phrase → Prop
  | atom _ | prefixed _ | repeated _ | term _ => ∀ rest, startsTerm (tokens ++ rest) = true
  | _ => True

theorem Forms.starts
    {phrase : Phrase}
    {tokens : List Token}
    (forms : Forms phrase tokens) :
    phrase.Starts tokens := by
  induction forms with
  | unsigned _ inductionHypothesis => exact inductionHypothesis
  | once _ inductionHypothesis => exact inductionHypothesis
  | unbound _ inductionHypothesis => exact inductionHypothesis
  | star _ inductionHypothesis | plus _ inductionHypothesis | opt _ inductionHypothesis
  | bind _ inductionHypothesis =>
      intro rest
      rw [List.append_assoc]
      exact inductionHypothesis _
  | noTerms | terms | sequence | sequences | alternatives | noProperties | ellipsis | property
  | properties => trivial
  | _ => exact fun rest => rfl

/-- The phrase is read back from its tokens and whatever follows them, given
that patterns may nest as deep as there are tokens. -/
def Phrase.ReadsBack (tokens : List Token) (phrase : Phrase) : Prop :=
  ∀ depth close,
    match phrase with
    | atom pattern =>
        Token.countAll tokens ≤ depth → ∀ rest, NotNext ['.'] rest →
          readAtom (readAlternatives depth) close (tokens ++ rest) = .ok (pattern, rest)
    | prefixed pattern =>
        Token.countAll tokens ≤ depth → ∀ rest, NotNext ['.'] rest →
          readPrefixed (readAlternatives depth) close (tokens ++ rest) = .ok (pattern, rest)
    | repeated pattern =>
        Token.countAll tokens ≤ depth → ∀ rest, NotNext ['.', '='] rest →
          ∃ atom after,
            readPrefixed (readAlternatives depth) close (tokens ++ rest) = .ok (atom, after) ∧
              readRepetitions atom after = readRepetitions pattern rest
    | term pattern =>
        Token.countAll tokens ≤ depth → ∀ rest, NotNext termMarks rest →
          readTerm (readAlternatives depth) close (tokens ++ rest) = .ok (pattern, rest)
    | terms patterns =>
        Token.countAll tokens ≤ depth → ∀ rest, NotNext termMarks rest →
          startsTerm rest = false → ∀ fuel, tokens.length ≤ fuel →
            readTerms (readAlternatives depth) close fuel (tokens ++ rest) = .ok (patterns, rest)
    | sequences patterns =>
        Token.countAll tokens ≤ depth → ∀ rest, EndsPattern rest →
          ∀ fuel, tokens.length < fuel →
            readSequences (readAlternatives depth) close fuel (tokens ++ rest) =
              .ok (patterns, rest)
    | alternatives pattern =>
        Token.countAll tokens < depth → ∀ rest, EndsPattern rest →
          readAlternatives depth close (tokens ++ rest) = .ok (pattern, rest)
    | properties members lenient =>
        Token.countAll tokens < depth → ∀ fuel, tokens.length < fuel →
          readProperties (readAlternatives depth) close fuel tokens = .ok (members, lenient)

section Steps

variable
  {alternatives : Reader Pattern}
  {close : Position}
  {pattern body : Pattern}
  {tokens rest : List Token}

/-- No atom starts with a sign. -/
theorem Forms.readPrefixed_atom
    (forms : Forms (.atom pattern) tokens)
    (rest : List Token) :
    readPrefixed alternatives close (tokens ++ rest) =
      readAtom alternatives close (tokens ++ rest) := by
  cases forms <;> rfl

/-- What is read back up to where it ends is read back where nothing follows it. -/
theorem Phrase.ReadsBack.whole
    {depth : Nat}
    (reads : (Phrase.alternatives body).ReadsBack tokens)
    (deep : Token.countAll tokens < depth) :
    readAlternatives depth close tokens = .ok (body, []) := by
  have reads := reads depth close deep [] .nil
  rwa [List.append_nil] at reads

theorem Phrase.ReadsBack.group
    {depth : Nat}
    (reads : (Phrase.alternatives body).ReadsBack tokens)
    (deep : Token.countAll tokens < depth) :
    readGroup (readAlternatives depth) close tokens = .ok body := by
  rw [readGroup, reads.whole deep]
  rfl

/-- A term is an operand with what follows it applied to it. -/
theorem readTerm_of_readPrefixed
    {atom : Pattern}
    {after : List Token}
    (reads : readPrefixed alternatives close tokens = .ok (atom, after))
    (repeats : readRepetitions atom after = (body, rest)) :
    readTerm alternatives close tokens = .ok (readBinding body rest) := by
  rw [readTerm, reads]
  change Except.ok (readBinding (readRepetitions atom after).1 (readRepetitions atom after).2) = _
  rw [repeats]

theorem readTerms_of_noTerm
    (noTerm : startsTerm tokens = false)
    (fuel : Nat) :
    readTerms alternatives close fuel tokens = .ok ([], tokens) := by
  cases fuel with
  | zero => rfl
  | succ fuel => simp [readTerms, noTerm]

theorem readTerms_of_term
    {terms : List Pattern}
    {after : List Token}
    {fuel : Nat}
    (starts : startsTerm tokens = true)
    (readsTerm : readTerm alternatives close tokens = .ok (pattern, after))
    (readsOthers : readTerms alternatives close fuel after = .ok (terms, rest)) :
    readTerms alternatives close (fuel + 1) tokens = .ok (pattern :: terms, rest) := by
  rw [readTerms, if_pos starts, readsTerm]
  change (readTerms alternatives close fuel after >>= _) = _
  rw [readsOthers]
  rfl

theorem readSequences_of_last
    {terms : List Pattern}
    (reads : readTerms alternatives close (tokens.length + 1) tokens = .ok (terms, rest))
    (noBar : NotNext ['|'] rest)
    (fuel : Nat) :
    readSequences alternatives close (fuel + 1) tokens = .ok ([.ofSequence terms], rest) := by
  refine bind_eq_ok_iff.mpr ⟨_, reads, ?_⟩
  dsimp only
  split
  · exact absurd (List.mem_singleton_self _) (noBar _ _ _ _ rfl)
  · rfl

theorem readSequences_of_bar
    {position : Position}
    {joint : Bool}
    {terms sequences : List Pattern}
    {after : List Token}
    {fuel : Nat}
    (reads :
      readTerms alternatives close (tokens.length + 1) tokens =
        .ok (terms, .mark position '|' joint :: after))
    (readsOthers : readSequences alternatives close fuel after = .ok (sequences, rest)) :
    readSequences alternatives close (fuel + 1) tokens =
      .ok (.ofSequence terms :: sequences, rest) :=
  bind_eq_ok_iff.mpr ⟨_, reads, bind_eq_ok_iff.mpr ⟨_, readsOthers, rfl⟩⟩

/-- No key is an ellipsis: a key is read, then its colon, then its pattern. -/
theorem readProperties_of_key
    {position : Position}
    {joint lenient : Bool}
    {key : Key}
    {token : Token}
    {members : List (Key × Pattern)}
    {fuel : Nat}
    (named : Names key token)
    (reads :
      (alternatives close tokens >>= fun (body, rest) =>
        match rest with
        | [] => .ok ([(key, body)], false)
        | _ => do
            let rest ← readMarkToken ',' close rest
            let (properties, lenient) ← readProperties alternatives close fuel rest
            .ok ((key, body) :: properties, lenient)) = .ok (members, lenient)) :
    readProperties alternatives close (fuel + 1) (token :: .mark position ':' joint :: tokens) =
      .ok (members, lenient) := by
  cases named <;> exact reads

end Steps

/-- Tokens that stand for a phrase are read back as it. -/
theorem Forms.readsBack
    {phrase : Phrase}
    {tokens : List Token}
    (forms : Forms phrase tokens) :
    phrase.ReadsBack tokens := by
  induction forms with
  | any | undefined | null => exact fun _ _ _ _ _ => rfl
  | @bool position value => cases value <;> exact fun _ _ _ _ _ => rfl
  | call free =>
      intro depth close deep rest notNext
      simp only [reservedWords, List.mem_cons, List.not_mem_nil, or_false, not_or] at free
      simp [readAtom, free]
  | literal =>
      intro depth close deep rest notNext
      simp only [List.singleton_append, readAtom, afterMarks?_eq_none notNext]
  | negative | negativeSigned => exact fun _ _ _ _ _ => rfl
  | range ordered =>
      intro depth close deep rest notNext
      exact if_pos ordered
  | regex => exact fun _ _ _ _ _ => rfl
  | @str opening closing openingJoint closingJoint body tokens inside inductionHypothesis =>
      intro depth close deep rest notNext
      rw [Token.countAll, Token.countAll_append, Token.count] at deep
      have reads := inductionHypothesis depth close (by omega)
        (.mark closing '>' closingJoint :: rest) (.mark (by decide) (by decide))
      rw [List.cons_append, List.append_assoc]
      exact bind_eq_ok_iff.mpr ⟨_, reads, rfl⟩
  | @inline position opening closing joint body tokens inside inductionHypothesis =>
      intro depth close deep rest notNext
      simp only [Token.countAll, Token.count] at deep
      exact bind_eq_ok_iff.mpr ⟨_, inductionHypothesis.group (by omega), rfl⟩
  | @group opening closing body tokens inside inductionHypothesis =>
      intro depth close deep rest notNext
      simp only [Token.countAll, Token.count] at deep
      exact bind_eq_ok_iff.mpr ⟨_, inductionHypothesis.group (by omega), rfl⟩
  | @list opening closing body tokens inside inductionHypothesis =>
      intro depth close deep rest notNext
      simp only [Token.countAll, Token.count] at deep
      exact bind_eq_ok_iff.mpr ⟨_, inductionHypothesis.group (by omega), rfl⟩
  | object inside inductionHypothesis =>
      intro depth close deep rest notNext
      simp only [Token.countAll, Token.count] at deep
      exact bind_eq_ok_iff.mpr
        ⟨_, inductionHypothesis depth _ (by omega) _ (Nat.lt_succ_self _), rfl⟩
  | unsigned atom inductionHypothesis =>
      intro depth close deep rest notNext
      rw [atom.readPrefixed_atom]
      exact inductionHypothesis depth close deep rest notNext
  | not operand inductionHypothesis =>
      intro depth close deep rest notNext
      rw [Token.countAll] at deep
      exact bind_eq_ok_iff.mpr
        ⟨_, inductionHypothesis depth close (by omega) rest notNext, rfl⟩
  | peek operand inductionHypothesis =>
      intro depth close deep rest notNext
      rw [Token.countAll] at deep
      exact bind_eq_ok_iff.mpr
        ⟨_, inductionHypothesis depth close (by omega) rest notNext, rfl⟩
  | once operand inductionHypothesis =>
      intro depth close deep rest notNext
      exact ⟨_, _, inductionHypothesis depth close deep rest (notNext.mono (by decide)), rfl⟩
  | star operand inductionHypothesis =>
      intro depth close deep rest notNext
      rw [Token.countAll_append] at deep
      rw [List.append_assoc]
      exact inductionHypothesis depth close (by omega) _ (.mark (by decide))
  | @plus position joint body tokens operand inductionHypothesis =>
      intro depth close deep rest notNext
      rw [Token.countAll_append] at deep
      obtain ⟨atom, after, reads, repeats⟩ := inductionHypothesis depth close (by omega)
        (.mark position '+' joint :: rest) (.mark (by decide))
      have noEquals := startsWithEquals_eq_false (notNext.mono (by decide))
      refine ⟨atom, after, by rw [List.append_assoc]; exact reads, repeats.trans ?_⟩
      simp [readRepetitions, noEquals]
  | opt operand inductionHypothesis =>
      intro depth close deep rest notNext
      rw [Token.countAll_append] at deep
      rw [List.append_assoc]
      exact inductionHypothesis depth close (by omega) _ (.mark (by decide))
  | unbound operand inductionHypothesis =>
      intro depth close deep rest notNext
      obtain ⟨atom, after, reads, repeats⟩ :=
        inductionHypothesis depth close deep rest (notNext.mono (by decide))
      rw [readRepetitions_of_notNext (notNext.mono (by decide))] at repeats
      rw [readTerm_of_readPrefixed reads repeats,
        readBinding_of_notNext (notNext.mono (by decide))]
  | @bind position namePosition joint body name tokens operand inductionHypothesis =>
      intro depth close deep rest notNext
      rw [Token.countAll_append] at deep
      obtain ⟨atom, after, reads, repeats⟩ := inductionHypothesis depth close (by omega)
        (.mark position ':' joint :: .ident namePosition name :: rest) (.mark (by decide))
      rw [readRepetitions_of_notNext (.mark (by decide))] at repeats
      rw [List.append_assoc]
      exact readTerm_of_readPrefixed reads repeats
  | noTerms =>
      intro depth close deep rest notNext noTerm fuel enough
      exact readTerms_of_noTerm noTerm fuel
  | @terms first others tokens otherTokens head tail headHypothesis tailHypothesis =>
      intro depth close deep rest notNext noTerm fuel enough
      rw [Token.countAll_append] at deep
      have some : 0 < tokens.length := by
        cases tokens with
        | nil => cases head.starts []
        | cons token tokens => exact Nat.succ_pos _
      obtain ⟨fuel, rfl⟩ : ∃ less, fuel = less + 1 := by
        rw [List.length_append] at enough
        exact ⟨fuel - 1, by omega⟩
      have followed : NotNext termMarks (otherTokens ++ rest) := by
        cases tail with
        | noTerms => exact notNext
        | terms next _ =>
            rw [List.append_assoc]
            exact .of_startsTerm (next.starts _)
      rw [List.append_assoc]
      refine readTerms_of_term (head.starts _) (headHypothesis depth close (by omega) _ followed)
        (tailHypothesis depth close (by omega) rest notNext noTerm fuel ?_)
      rw [List.length_append] at enough
      omega
  | @sequence items tokens only inductionHypothesis =>
      intro depth close deep rest ends fuel enough
      obtain ⟨fuel, rfl⟩ : ∃ less, fuel = less + 1 := ⟨fuel - 1, by omega⟩
      have reads := inductionHypothesis depth close deep rest (ends.noMark.mono (by decide))
        ends.noTerm ((tokens ++ rest).length + 1) (by rw [List.length_append]; omega)
      exact readSequences_of_last reads (ends.noMark.mono (by decide)) fuel
  | @sequences position joint items others tokens otherTokens head tail headHypothesis
      tailHypothesis =>
      intro depth close deep rest ends fuel enough
      obtain ⟨fuel, rfl⟩ : ∃ less, fuel = less + 1 := ⟨fuel - 1, by omega⟩
      rw [Token.countAll_append, Token.countAll] at deep
      rw [List.length_append, List.length_cons] at enough
      have readsOthers :=
        tailHypothesis depth close (by omega) rest ends fuel (by omega)
      have reads := headHypothesis depth close (by omega)
        (.mark position '|' joint :: (otherTokens ++ rest)) (.mark (by decide)) rfl
        ((tokens ++ .mark position '|' joint :: (otherTokens ++ rest)).length + 1)
        (by rw [List.length_append]; omega)
      rw [List.append_assoc, List.cons_append]
      exact readSequences_of_bar reads readsOthers
  | @alternatives patterns tokens all inductionHypothesis =>
      intro depth close deep rest ends
      obtain ⟨depth, rfl⟩ : ∃ less, depth = less + 1 := ⟨depth - 1, by omega⟩
      have reads := inductionHypothesis depth close (by omega) rest ends
        ((tokens ++ rest).length + 1) (by rw [List.length_append]; omega)
      exact bind_eq_ok_iff.mpr ⟨_, reads, rfl⟩
  | noProperties => exact fun _ _ _ fuel _ => by cases fuel <;> rfl
  | ellipsis =>
      intro depth close deep fuel enough
      obtain ⟨fuel, rfl⟩ : ∃ less, fuel = less + 1 := ⟨fuel - 1, by omega⟩
      rfl
  | @property position joint key body keyToken tokens named only inductionHypothesis =>
      intro depth close deep fuel enough
      obtain ⟨fuel, rfl⟩ : ∃ less, fuel = less + 1 := ⟨fuel - 1, by omega⟩
      simp only [Token.countAll] at deep
      exact readProperties_of_key named
        (bind_eq_ok_iff.mpr ⟨_, inductionHypothesis.whole (by omega), rfl⟩)
  | @properties position comma joint commaJoint key body others lenient keyToken tokens
      otherTokens named head tail headHypothesis tailHypothesis =>
      intro depth close deep fuel enough
      obtain ⟨fuel, rfl⟩ : ∃ less, fuel = less + 1 := ⟨fuel - 1, by omega⟩
      simp only [Token.countAll, Token.countAll_append] at deep
      have reads := headHypothesis depth close (by omega)
        (.mark comma ',' commaJoint :: otherTokens) (.mark (by decide) (by decide))
      have readsOthers := tailHypothesis depth close (by omega) fuel (by
        simp only [List.length_cons, List.length_append] at enough
        omega)
      refine readProperties_of_key named (bind_eq_ok_iff.mpr ⟨_, reads, ?_⟩)
      exact bind_eq_ok_iff.mpr ⟨_, rfl, bind_eq_ok_iff.mpr ⟨_, readsOthers, rfl⟩⟩

/-- Tokens that stand for a pattern are read as it, up to where it ends. -/
theorem Forms.readPattern
    {pattern : Pattern}
    {tokens rest : List Token}
    (forms : Forms (.alternatives pattern) tokens)
    (ends : EndsPattern rest)
    (close : Position) :
    Source.readPattern close (tokens ++ rest) = .ok (pattern, rest) := by
  refine forms.readsBack _ close ?_ rest ends
  rw [Token.countAll_append]
  omega

end Source
end Heirloom
