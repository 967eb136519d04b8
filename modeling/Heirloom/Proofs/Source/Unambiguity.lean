import Heirloom.Proofs.Source.Derivation
import Mathlib.Data.List.Chain

/-!
# Unambiguity

Tokens have one derivation at most. As long as what follows does not go on with
what a nonterminal derives, the tokens tell where the derivation ends and which
one it is.
-/

namespace Heirloom
namespace Source

/-! ## Cutting tokens -/

/-- The token is one of the marks. -/
def Token.IsMark (marks : List Char) (token : Token) : Prop :=
  ∃ position mark joint, token = .mark position mark joint ∧ mark ∈ marks

section Cutting

variable
  {marks : List Char}
  {token : Token}
  {taken otherTaken rest otherRest : List Token}

theorem NotNext.ne_cons
    (notNext : NotNext marks rest)
    (isMark : token.IsMark marks) :
    rest ≠ token :: otherRest := by
  obtain ⟨position, mark, joint, rfl, mem⟩ := isMark
  exact fun same => notNext position mark joint otherRest same mem

/-- Marks are cut off in one way only if none of them follows. -/
theorem NotNext.cut
    (notNext : NotNext marks rest)
    (otherNotNext : NotNext marks otherRest)
    (areMarks : ∀ token ∈ taken, token.IsMark marks)
    (otherAreMarks : ∀ token ∈ otherTaken, token.IsMark marks)
    (same : taken ++ rest = otherTaken ++ otherRest) :
    taken = otherTaken ∧ rest = otherRest := by
  induction taken generalizing otherTaken with
  | nil =>
      cases otherTaken with
      | nil => exact ⟨rfl, same⟩
      | cons token others =>
          exact absurd same (notNext.ne_cons (otherAreMarks token List.mem_cons_self))
  | cons token others inductionHypothesis =>
      cases otherTaken with
      | nil => exact absurd same.symm (otherNotNext.ne_cons (areMarks token List.mem_cons_self))
      | cons otherToken otherOthers =>
          obtain ⟨rfl, sameOthers⟩ := List.cons.inj same
          obtain ⟨rfl, sameRest⟩ := inductionHypothesis
            (fun token mem => areMarks token (List.mem_cons_of_mem _ mem))
            (fun token mem => otherAreMarks token (List.mem_cons_of_mem _ mem)) sameOthers
          exact ⟨rfl, sameRest⟩

end Cutting

/-! ## Terminals -/

@[simp] theorem Mark.token_inj
    {mark other : Mark}
    {char otherChar : Char} :
    mark.token char = other.token otherChar ↔ mark = other ∧ char = otherChar := by
  rw [Mark.token, Mark.token, Token.mark.injEq, Mark.ext_iff, and_assoc,
    and_comm (a := char = otherChar)]

theorem Names.inj
    {key otherKey : Key}
    {token : Token}
    (named : Names key token)
    (otherNamed : Names otherKey token) :
    key = otherKey := by
  cases named <;> cases otherNamed <;> rfl

theorem Sign.token_injective : Function.Injective Sign.token := by
  intro sign other same
  cases sign <;> cases other <;> simp_all [Sign.token]

theorem Repetition.token_injective : Function.Injective Repetition.token := by
  intro repetition other same
  cases repetition <;> cases other <;> simp_all [Repetition.token]

/-- What a leaf stands for and where it ends is known from reading it. -/
theorem Leaf.tokens_inj
    {leaf other : Leaf}
    {rest otherRest : List Token}
    (notNext : NotNext ['.'] rest)
    (otherNotNext : NotNext ['.'] otherRest)
    (same : leaf.tokens ++ rest = other.tokens ++ otherRest) :
    leaf = other ∧ rest = otherRest := by
  let depth := Token.countAll leaf.tokens + Token.countAll other.tokens
  have reads := leaf.forms.readsBack depth .start (Nat.le_add_right _ _) rest notNext
  rw [same, other.forms.readsBack depth .start (Nat.le_add_left _ _) otherRest otherNotNext]
    at reads
  simp only [Except.ok.injEq, Prod.mk.injEq] at reads
  obtain ⟨samePattern, rfl⟩ := reads
  have sameTokens := List.append_cancel_right same
  refine ⟨?_, rfl⟩
  cases leaf <;> cases other <;>
    simp_all [Leaf.tokens, Leaf.pattern, Mark.token, Mark.ext_iff]

/-! ## Derivations -/

namespace Nonterminal

/-- The tokens do not go on with what the nonterminal derives. Only a whole group
is derived as properties. -/
def Follows : Nonterminal → List Token → Prop
  | atom | prefixed => NotNext ['.']
  | term => NotNext termMarks
  | terms => fun rest => NotNext termMarks rest ∧ startsTerm rest = false
  | sequences | alternatives => EndsPattern
  | properties => fun rest => rest = []

theorem follows_nil : ∀ nonterminal : Nonterminal, nonterminal.Follows []
  | atom | prefixed | term => .nil
  | terms => ⟨.nil, rfl⟩
  | sequences | alternatives => .nil
  | properties => rfl

end Nonterminal

namespace Derivation

variable {nonterminal : Nonterminal}

/-- The derivation is known from tokens that start with its own. -/
def Fixed (derivation : Derivation nonterminal) : Prop :=
  ∀ (other : Derivation nonterminal) rest otherRest,
    nonterminal.Follows rest → nonterminal.Follows otherRest →
      derivation.tokens ++ rest = other.tokens ++ otherRest →
        derivation = other ∧ rest = otherRest

theorem Fixed.eq
    {derivation other : Derivation nonterminal}
    (fixed : derivation.Fixed)
    (same : derivation.tokens = other.tokens) :
    derivation = other :=
  (fixed other [] [] nonterminal.follows_nil nonterminal.follows_nil (by rw [same])).1

/-! ### Atoms -/

section Atoms

variable
  {opening closing : Position}
  {body : Derivation .alternatives}

/-- Whether the tokens start as an atom with a pattern inside does. -/
def startsEnclosing : List Token → Bool
  | .mark _ mark _ :: _ => mark == '<' || mark == '#'
  | .group _ _ _ _ :: _ => true
  | _ => false

theorem leaf_tokens_ne
    {leaf : Leaf}
    {tokens rest : List Token}
    (encloses : startsEnclosing tokens = true) :
    leaf.tokens ++ rest ≠ tokens := by
  rintro rfl
  cases leaf <;> cases encloses

theorem notNext_atom
    (atom : Derivation .atom)
    (rest : List Token) :
    NotNext ['~', '&'] (atom.tokens ++ rest) := by
  cases atom with
  | leaf leaf =>
      cases leaf with
      | negative | regex => exact .mark (by decide)
      | _ => exact nofun
  | str => exact .mark (by decide)
  | enclosed enclosure =>
      cases enclosure with
      | inline hash => exact .mark (by decide)
      | group | list => exact nofun
  | object => exact nofun

theorem fixed_leaf (leaf : Leaf) : (Derivation.leaf leaf).Fixed := by
  intro other rest otherRest follows otherFollows same
  cases other with
  | leaf otherLeaf =>
      obtain ⟨rfl, rfl⟩ := Leaf.tokens_inj follows otherFollows same
      exact ⟨rfl, rfl⟩
  | enclosed enclosure => exact absurd same (leaf_tokens_ne (by cases enclosure <;> rfl))
  | str | object => exact absurd same (leaf_tokens_ne rfl)

theorem fixed_str
    {opening closing : Mark}
    (inside : body.Fixed) :
    (str opening body closing).Fixed := by
  intro other rest otherRest _ _ same
  cases other with
  | leaf leaf => exact absurd same.symm (leaf_tokens_ne rfl)
  | str otherOpening otherBody otherClosing =>
      simp only [tokens, List.cons_append, List.append_assoc, List.nil_append, List.cons.injEq,
        Mark.token_inj] at same
      obtain ⟨⟨rfl, -⟩, sameInside⟩ := same
      obtain ⟨rfl, sameEnd⟩ :=
        inside otherBody (closing.token '>' :: rest) (otherClosing.token '>' :: otherRest)
          (.mark (by decide) (by decide)) (.mark (by decide) (by decide)) sameInside
      simp only [List.cons.injEq, Mark.token_inj] at sameEnd
      obtain ⟨⟨rfl, -⟩, rfl⟩ := sameEnd
      exact ⟨rfl, rfl⟩
  | enclosed enclosure => cases enclosure <;> simp [tokens, Enclosure.before, Mark.token] at same
  | object => simp [tokens, Mark.token] at same

theorem fixed_enclosed
    {enclosure : Enclosure}
    (inside : body.Fixed) :
    (enclosed enclosure opening closing body).Fixed := by
  intro other rest otherRest _ _ same
  cases other with
  | leaf leaf => exact absurd same.symm (leaf_tokens_ne (by cases enclosure <;> rfl))
  | enclosed otherEnclosure otherOpening otherClosing otherBody =>
      obtain ⟨rfl, rfl, rfl, sameInside, rfl⟩ : enclosure = otherEnclosure ∧
          opening = otherOpening ∧ closing = otherClosing ∧ body.tokens = otherBody.tokens ∧
            rest = otherRest := by
        cases enclosure <;> cases otherEnclosure <;>
          simp_all [tokens, Enclosure.before, Enclosure.delimiter, Mark.token, Mark.ext_iff]
      obtain rfl := inside.eq sameInside
      exact ⟨rfl, rfl⟩
  | str | object =>
      cases enclosure <;> simp [tokens, Enclosure.before, Enclosure.delimiter, Mark.token] at same

theorem fixed_object
    {members : Derivation .properties}
    (inside : members.Fixed) :
    (object opening closing members).Fixed := by
  intro other rest otherRest _ _ same
  cases other with
  | leaf leaf => exact absurd same.symm (leaf_tokens_ne rfl)
  | object otherOpening otherClosing otherMembers =>
      simp only [tokens, List.cons_append, List.nil_append, List.cons.injEq, Token.group.injEq]
        at same
      obtain ⟨⟨-, rfl, rfl, sameInside⟩, rfl⟩ := same
      obtain rfl := inside.eq sameInside
      exact ⟨rfl, rfl⟩
  | str => simp [tokens, Mark.token] at same
  | enclosed enclosure =>
      cases enclosure <;> simp [tokens, Enclosure.before, Enclosure.delimiter, Mark.token] at same

end Atoms

/-! ### Terms, sequences and alternatives -/

section Terms

theorem fixed_prefixed
    {atom : Derivation .atom}
    (signs : List Sign)
    (inside : atom.Fixed) :
    (prefixed signs atom).Fixed := by
  intro other rest otherRest follows otherFollows same
  cases other with
  | prefixed otherSigns otherAtom =>
      have areSigns : ∀ signs : List Sign, ∀ token ∈ signs.map Sign.token,
          token.IsMark ['~', '&'] := by
        refine fun signs => List.forall_mem_map.mpr fun sign _ => ?_
        cases sign <;> exact ⟨_, _, _, rfl, by decide⟩
      simp only [tokens, List.append_assoc] at same
      obtain ⟨sameSigns, sameAtom⟩ := (notNext_atom atom rest).cut
        (notNext_atom otherAtom otherRest) (areSigns signs) (areSigns otherSigns) same
      obtain rfl := (List.map_inj_right fun _ _ equal => Sign.token_injective equal).mp sameSigns
      obtain ⟨rfl, rfl⟩ := inside otherAtom rest otherRest follows otherFollows sameAtom
      exact ⟨rfl, rfl⟩

theorem notNext_repetitions
    {rest : List Token}
    (repetitions : List Repetition)
    (notNext : NotNext ['.'] rest) :
    NotNext ['.'] (repetitions.map Repetition.token ++ rest) := by
  cases repetitions with
  | nil => exact notNext
  | cons repetition repetitions => cases repetition <;> exact .mark (by decide)

theorem notNext_binding
    {rest : List Token}
    (binding : Option Binding)
    (notNext : NotNext termMarks rest) :
    NotNext ['.', '*', '+', '?'] (Binding.tokens binding ++ rest) := by
  cases binding with
  | none => exact notNext.mono (by decide)
  | some binding => exact .mark (by decide)

theorem binding_tokens_inj
    {binding otherBinding : Option Binding}
    {rest otherRest : List Token}
    (notNext : NotNext termMarks rest)
    (otherNotNext : NotNext termMarks otherRest)
    (same : Binding.tokens binding ++ rest = Binding.tokens otherBinding ++ otherRest) :
    binding = otherBinding ∧ rest = otherRest := by
  have isMark (mark : Mark) : (mark.token ':').IsMark termMarks :=
    ⟨_, _, _, rfl, by decide⟩
  cases binding with
  | none =>
      cases otherBinding with
      | none => exact ⟨rfl, same⟩
      | some otherBinding => exact absurd same (notNext.ne_cons (isMark _))
  | some binding =>
      cases otherBinding with
      | none => exact absurd same.symm (otherNotNext.ne_cons (isMark _))
      | some otherBinding =>
          obtain ⟨colon, position, name⟩ := binding
          obtain ⟨otherColon, otherPosition, otherName⟩ := otherBinding
          simpa [Binding.tokens, and_assoc] using same

theorem fixed_term
    {operand : Derivation .prefixed}
    (repetitions : List Repetition)
    (binding : Option Binding)
    (inside : operand.Fixed) :
    (term operand repetitions binding).Fixed := by
  intro other rest otherRest follows otherFollows same
  cases other with
  | term otherOperand otherRepetitions otherBinding =>
      have areRepetitions : ∀ repetitions : List Repetition,
          ∀ token ∈ repetitions.map Repetition.token, token.IsMark ['*', '+', '?'] := by
        refine fun repetitions => List.forall_mem_map.mpr fun repetition _ => ?_
        cases repetition <;> exact ⟨_, _, _, rfl, by decide⟩
      have bindingNext := notNext_binding binding follows
      have otherBindingNext := notNext_binding otherBinding otherFollows
      simp only [tokens, List.append_assoc] at same
      obtain ⟨rfl, sameEnd⟩ := inside otherOperand _ _
        (notNext_repetitions repetitions (bindingNext.mono (by decide)))
        (notNext_repetitions otherRepetitions (otherBindingNext.mono (by decide))) same
      obtain ⟨sameRepetitions, sameBinding⟩ := (bindingNext.mono (by decide)).cut
        (otherBindingNext.mono (by decide)) (areRepetitions repetitions)
        (areRepetitions otherRepetitions) sameEnd
      obtain rfl := (List.map_inj_right fun _ _ equal => Repetition.token_injective equal).mp
        sameRepetitions
      obtain ⟨rfl, rfl⟩ := binding_tokens_inj follows otherFollows sameBinding
      exact ⟨rfl, rfl⟩

/-- A term follows a term, if anything does. -/
theorem notNext_terms
    {rest : List Token}
    (terms : Derivation .terms)
    (notNext : NotNext termMarks rest) :
    NotNext termMarks (terms.tokens ++ rest) := by
  cases terms with
  | noTerms => exact notNext
  | terms head tail =>
      rw [tokens, List.append_assoc]
      exact .of_startsTerm (head.forms.starts _)

theorem fixed_noTerms : noTerms.Fixed := by
  intro other rest otherRest follows otherFollows same
  cases other with
  | noTerms => exact ⟨rfl, same⟩
  | terms head tail =>
      have starts := head.forms.starts (tail.tokens ++ otherRest)
      rw [← List.append_assoc, ← tokens, ← same] at starts
      exact absurd starts (Bool.eq_false_iff.mp follows.2)

theorem fixed_terms
    {head : Derivation .term}
    {tail : Derivation .terms}
    (first : head.Fixed)
    (others : tail.Fixed) :
    (terms head tail).Fixed := by
  intro other rest otherRest follows otherFollows same
  cases other with
  | noTerms =>
      have starts := head.forms.starts (tail.tokens ++ rest)
      rw [← List.append_assoc, ← tokens, same] at starts
      exact absurd starts (Bool.eq_false_iff.mp otherFollows.2)
  | terms otherHead otherTail =>
      simp only [tokens, List.append_assoc] at same
      obtain ⟨rfl, sameTail⟩ := first otherHead _ _ (notNext_terms tail follows.1)
        (notNext_terms otherTail otherFollows.1) same
      obtain ⟨rfl, rfl⟩ := others otherTail rest otherRest follows otherFollows sameTail
      exact ⟨rfl, rfl⟩

theorem follows_terms
    {rest : List Token}
    (ends : EndsPattern rest) :
    Nonterminal.terms.Follows rest :=
  ⟨ends.noMark.mono (by decide), ends.noTerm⟩

theorem follows_bar
    (bar : Mark)
    (rest : List Token) :
    Nonterminal.terms.Follows (bar.token '|' :: rest) :=
  ⟨.mark (by decide), rfl⟩

theorem isMark_bar (bar : Mark) : (bar.token '|').IsMark ('|' :: termMarks) :=
  ⟨_, _, _, rfl, by decide⟩

theorem fixed_sequence
    {only : Derivation .terms}
    (inside : only.Fixed) :
    (sequence only).Fixed := by
  intro other rest otherRest follows otherFollows same
  cases other with
  | sequence otherOnly =>
      obtain ⟨rfl, rfl⟩ :=
        inside otherOnly _ _ (follows_terms follows) (follows_terms otherFollows) same
      exact ⟨rfl, rfl⟩
  | sequences head bar tail =>
      simp only [tokens, List.append_assoc, List.cons_append] at same
      obtain ⟨-, sameBar⟩ := inside head _ _ (follows_terms follows) (follows_bar bar _) same
      exact absurd sameBar (follows.noMark.ne_cons (isMark_bar bar))

theorem fixed_sequences
    {head : Derivation .terms}
    {bar : Mark}
    {tail : Derivation .sequences}
    (first : head.Fixed)
    (others : tail.Fixed) :
    (sequences head bar tail).Fixed := by
  intro other rest otherRest follows otherFollows same
  simp only [tokens, List.append_assoc, List.cons_append] at same
  cases other with
  | sequence only =>
      obtain ⟨-, sameBar⟩ := first only _ _ (follows_bar bar _) (follows_terms otherFollows) same
      exact absurd sameBar.symm (otherFollows.noMark.ne_cons (isMark_bar bar))
  | sequences otherHead otherBar otherTail =>
      simp only [tokens, List.append_assoc, List.cons_append] at same
      obtain ⟨rfl, sameTail⟩ :=
        first otherHead _ _ (follows_bar bar _) (follows_bar otherBar _) same
      simp only [List.cons.injEq, Mark.token_inj] at sameTail
      obtain ⟨⟨rfl, -⟩, sameTail⟩ := sameTail
      obtain ⟨rfl, rfl⟩ := others otherTail rest otherRest follows otherFollows sameTail
      exact ⟨rfl, rfl⟩

theorem fixed_alternatives
    {all : Derivation .sequences}
    (inside : all.Fixed) :
    (alternatives all).Fixed := by
  intro other rest otherRest follows otherFollows same
  cases other with
  | alternatives otherAll =>
      obtain ⟨rfl, rfl⟩ := inside otherAll rest otherRest follows otherFollows same
      exact ⟨rfl, rfl⟩

end Terms

/-! ### Properties -/

section Properties

variable
  {key : Key}
  {token : Token}
  {named : Names key token}
  {colon : Mark}
  {body : Derivation .alternatives}

/-- No key is a mark. -/
theorem ne_mark
    (named : Names key token)
    (position : Position)
    (mark : Char)
    (joint : Bool) :
    token ≠ .mark position mark joint := by
  cases named <;> exact nofun

theorem fixed_noProperties : noProperties.Fixed := by
  intro other rest otherRest follows otherFollows same
  cases follows
  cases otherFollows
  cases other with
  | noProperties => exact ⟨rfl, rfl⟩
  | ellipsis | property | properties => cases same

theorem fixed_ellipsis
    {one two : Position}
    {three : Mark} :
    (ellipsis one two three).Fixed := by
  intro other rest otherRest follows otherFollows same
  cases follows
  cases otherFollows
  cases other with
  | noProperties => cases same
  | ellipsis otherOne otherTwo otherThree =>
      simpa [tokens, and_assoc] using same
  | property key token named | properties key token named =>
      exact absurd (List.cons.inj same).1.symm (ne_mark named _ _ _)

theorem endsPattern_comma
    (comma : Mark)
    (rest : List Token) :
    EndsPattern (comma.token ',' :: rest) :=
  .mark (by decide) (by decide)

theorem fixed_property (inside : body.Fixed) : (property key token named colon body).Fixed := by
  intro other rest otherRest follows otherFollows same
  cases follows
  cases otherFollows
  simp only [List.append_nil] at same
  cases other with
  | noProperties => cases same
  | ellipsis => exact absurd (List.cons.inj same).1 (ne_mark named _ _ _)
  | property otherKey otherToken otherNamed otherColon otherBody =>
      simp only [tokens, List.cons.injEq, Mark.token_inj] at same
      obtain ⟨rfl, ⟨rfl, -⟩, sameBody⟩ := same
      obtain rfl := named.inj otherNamed
      obtain rfl := inside.eq sameBody
      exact ⟨rfl, rfl⟩
  | properties otherKey otherToken otherNamed otherColon otherBody comma others =>
      simp only [tokens, List.cons.injEq] at same
      obtain ⟨-, -, sameBody⟩ := same
      obtain ⟨-, sameEnd⟩ := inside otherBody [] _ .nil (endsPattern_comma comma _)
        ((List.append_nil _).trans sameBody)
      cases sameEnd

theorem fixed_properties
    {comma : Mark}
    {others : Derivation .properties}
    (first : body.Fixed)
    (rest : others.Fixed) :
    (properties key token named colon body comma others).Fixed := by
  intro other rest otherRest follows otherFollows same
  cases follows
  cases otherFollows
  simp only [List.append_nil] at same
  cases other with
  | noProperties => cases same
  | ellipsis => exact absurd (List.cons.inj same).1 (ne_mark named _ _ _)
  | property otherKey otherToken otherNamed otherColon otherBody =>
      simp only [tokens, List.cons.injEq] at same
      obtain ⟨-, -, sameBody⟩ := same
      obtain ⟨-, sameEnd⟩ := first otherBody _ [] (endsPattern_comma comma _) .nil
        (sameBody.trans (List.append_nil _).symm)
      cases sameEnd
  | properties otherKey otherToken otherNamed otherColon otherBody otherComma otherOthers =>
      simp only [tokens, List.cons.injEq, Mark.token_inj] at same
      obtain ⟨rfl, ⟨rfl, -⟩, sameBody⟩ := same
      obtain rfl := named.inj otherNamed
      obtain ⟨rfl, sameOthers⟩ := first otherBody _ _ (endsPattern_comma comma _)
        (endsPattern_comma otherComma _) sameBody
      simp only [List.cons.injEq, Mark.token_inj] at sameOthers
      obtain ⟨⟨rfl, -⟩, sameOthers⟩ := sameOthers
      obtain rfl := rest.eq sameOthers
      exact ⟨rfl, rfl⟩

end Properties

/-- Every derivation is known from tokens that start with its own. -/
theorem fixed (derivation : Derivation nonterminal) : derivation.Fixed := by
  induction derivation with
  | leaf leaf => exact fixed_leaf leaf
  | str opening body closing inside => exact fixed_str inside
  | enclosed enclosure opening closing body inside => exact fixed_enclosed inside
  | object opening closing members inside => exact fixed_object inside
  | prefixed signs atom inside => exact fixed_prefixed signs inside
  | term operand repetitions binding inside => exact fixed_term repetitions binding inside
  | noTerms => exact fixed_noTerms
  | terms head tail first others => exact fixed_terms first others
  | sequence only inside => exact fixed_sequence inside
  | sequences head bar tail first others => exact fixed_sequences first others
  | alternatives all inside => exact fixed_alternatives inside
  | noProperties => exact fixed_noProperties
  | ellipsis => exact fixed_ellipsis
  | property key token named colon body inside => exact fixed_property inside
  | properties key token named colon body comma members first others =>
      exact fixed_properties first others

end Derivation

/-! ## Plus signs -/

/-- The tokens are a plus sign joined to an equals sign. -/
def Token.PlusEquals (token next : Token) : Prop :=
  ∃ position nextPosition joint, token = .mark position '+' true ∧
    next = .mark nextPosition '=' joint

/-- No plus sign is joined to an equals sign, and the first token is none. -/
structure KeepsPlus (tokens : List Token) : Prop where
  noEquals : startsWithEquals tokens = false
  chain : tokens.IsChain fun token next => ¬ token.PlusEquals next

namespace KeepsPlus

variable
  {token : Token}
  {tokens rest : List Token}

theorem nil : KeepsPlus [] := ⟨rfl, .nil⟩

theorem cons
    (noEquals : startsWithEquals (token :: tokens) = false)
    (keeps : KeepsPlus tokens) :
    KeepsPlus (token :: tokens) := by
  refine ⟨noEquals, List.isChain_cons.mpr ⟨?_, keeps.chain⟩⟩
  rintro next isHead ⟨position, nextPosition, joint, rfl, rfl⟩
  obtain ⟨others, rfl⟩ := List.head?_eq_some_iff.mp isHead
  cases keeps.noEquals

theorem leaf
    (leaf : Leaf)
    (keeps : KeepsPlus rest) :
    KeepsPlus (leaf.tokens ++ rest) := by
  cases leaf with
  | range opening first one two three closing last ordered =>
      refine cons rfl ⟨rfl, ?_⟩
      refine List.isChain_cons_cons.mpr ⟨?_, List.isChain_cons_cons.mpr ⟨?_, ?_⟩⟩
      · rintro ⟨_, _, _, ⟨⟩, _⟩
      · rintro ⟨_, _, _, ⟨⟩, _⟩
      · refine List.isChain_cons_cons.mpr ⟨?_, (keeps.cons rfl).chain⟩
        rintro ⟨_, _, _, ⟨⟩, _⟩
  | negative => exact (keeps.cons rfl).cons rfl
  | regex => exact ((keeps.cons rfl).cons rfl).cons rfl
  | _ => exact keeps.cons rfl

theorem signs
    (signs : List Sign)
    (keeps : KeepsPlus rest) :
    KeepsPlus (signs.map Sign.token ++ rest) := by
  induction signs with
  | nil => exact keeps
  | cons sign signs inductionHypothesis => exact inductionHypothesis.cons (by cases sign <;> rfl)

theorem repetitions
    (repetitions : List Repetition)
    (keeps : KeepsPlus rest) :
    KeepsPlus (repetitions.map Repetition.token ++ rest) := by
  induction repetitions with
  | nil => exact keeps
  | cons repetition repetitions inductionHypothesis =>
      exact inductionHypothesis.cons (by cases repetition <;> rfl)

theorem derivation
    {nonterminal : Nonterminal}
    (derivation : Derivation nonterminal)
    (keeps : KeepsPlus rest) :
    KeepsPlus (derivation.tokens ++ rest) := by
  induction derivation generalizing rest with
  | leaf leaf => exact keeps.leaf leaf
  | str opening body closing inside =>
      rw [Derivation.tokens, List.cons_append, List.append_assoc]
      exact (inside (keeps.cons rfl)).cons rfl
  | enclosed enclosure opening closing body _ =>
      cases enclosure with
      | group | list => exact keeps.cons rfl
      | inline hash => exact (keeps.cons rfl).cons rfl
  | object => exact keeps.cons rfl
  | prefixed signs atom inside =>
      rw [Derivation.tokens, List.append_assoc]
      exact (inside keeps).signs signs
  | term operand repetitions binding inside =>
      rw [Derivation.tokens, List.append_assoc, List.append_assoc]
      refine inside (KeepsPlus.repetitions repetitions ?_)
      cases binding with
      | none => exact keeps
      | some binding => exact (keeps.cons rfl).cons rfl
  | noTerms | noProperties => exact keeps
  | terms head tail first others =>
      rw [Derivation.tokens, List.append_assoc]
      exact first (others keeps)
  | sequence only inside => exact inside keeps
  | sequences head bar tail first others =>
      rw [Derivation.tokens, List.append_assoc]
      exact first ((others keeps).cons rfl)
  | alternatives all inside => exact inside keeps
  | ellipsis => exact ((keeps.cons rfl).cons rfl).cons rfl
  | property key token named colon body inside =>
      exact ((inside keeps).cons rfl).cons (by cases named <;> rfl)
  | properties key token named colon body comma members first others =>
      rw [Derivation.tokens, List.cons_append, List.cons_append, List.append_assoc]
      exact ((first ((others keeps).cons rfl)).cons rfl).cons (by cases named <;> rfl)

end KeepsPlus

/-! ## The surface grammar -/

/-- The reader takes tokens as the whole of a pattern if and only if the surface
grammar derives them with that meaning, unless an integer in the pattern has two
signs. Tokens have one derivation at most. A plus sign that repeats a term is
never joined to an equals sign, which the grammar does not need to say. -/
theorem readPattern_accepts_surface_grammar
    (close : Position)
    (tokens : List Token)
    (pattern : Pattern) :
    (Derives .alternatives pattern tokens ↔
        readPattern close tokens = .ok (pattern, []) ∧ pattern.signsOnce = true) ∧
      (∀ (nonterminal : Nonterminal) (derivation other : Derivation nonterminal),
        derivation.tokens = tokens → other.tokens = tokens → derivation = other) ∧
      ∀ (nonterminal : Nonterminal) (derivation : Derivation nonterminal),
        derivation.tokens = tokens → tokens.IsChain fun token next => ¬ token.PlusEquals next := by
  refine ⟨derives_iff_readPattern close, ?_, ?_⟩
  · exact fun nonterminal derivation other same sameOther =>
      derivation.fixed.eq (same.trans sameOther.symm)
  · rintro nonterminal derivation rfl
    have keeps := KeepsPlus.nil.derivation derivation
    rw [List.append_nil] at keeps
    exact keeps.chain

/-- An integer with two signs is read, and the surface grammar does not derive
it. -/
theorem doubly_signed_integer_is_read :
    ∃ tokens pattern, tokenize "--5" = .ok tokens ∧
      readPattern ⟨1, 3⟩ tokens = .ok (pattern, []) ∧
        ¬ Derives .alternatives pattern tokens := by
  refine ⟨[.mark ⟨1, 0⟩ '-' true, .mark ⟨1, 1⟩ '-' false, .literal ⟨1, 2⟩ (.integer 5)],
    .negative ⟨1, 1⟩ true 5, ?_, rfl, ?_⟩
  · rfl
  · intro derives
    have signsOnce := ((derives_iff_readPattern ⟨1, 3⟩).mp derives).2
    cases signsOnce

end Source
end Heirloom
