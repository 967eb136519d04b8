import Heirloom.Proofs.Source.Parsing

/-!
# Derivations

The derivations of the written surface grammar, as data. The leaves of a
derivation are tokens, so it knows the tokens it derives, and it has a meaning.
In the written grammar an integer has at most one sign, while the reader also
takes an integer with two. This is the only difference.
-/

namespace Heirloom
namespace Source

/-! ## Integers with one sign -/

namespace Pattern

mutual

/-- Whether every integer has one sign at most. -/
def signsOnce : Pattern → Bool
  | negative _ signed _ => !signed
  | alt items | seq items => signOnce items
  | bind body _ => signsOnce body
  | star body => signsOnce body
  | plus body => signsOnce body
  | opt body => signsOnce body
  | not body => signsOnce body
  | peek body => signsOnce body
  | str body => signsOnce body
  | list body => signsOnce body
  | inline body => signsOnce body
  | object properties _ => propertiesSignOnce properties
  | any | undefined | null | bool _ | literal _ _ | range _ _ | regex _ _ | call _ => true

def signOnce : List Pattern → Bool
  | [] => true
  | item :: items => signsOnce item && signOnce items

def propertiesSignOnce : List (Key × Pattern) → Bool
  | [] => true
  | (_, body) :: properties => signsOnce body && propertiesSignOnce properties

end

@[simp] theorem signsOnce_ofSequence (items : List Pattern) :
    (ofSequence items).signsOnce = signOnce items := by
  unfold ofSequence
  split <;> simp [signsOnce, signOnce]

@[simp] theorem signsOnce_ofAlternatives (alternatives : List Pattern) :
    (ofAlternatives alternatives).signsOnce = signOnce alternatives := by
  unfold ofAlternatives
  split <;> simp [signsOnce, signOnce]

end Pattern

/-- Every integer of the phrase has one sign at most. -/
def Phrase.SignsOnce : Phrase → Prop
  | atom pattern | prefixed pattern | repeated pattern | term pattern | alternatives pattern =>
      pattern.signsOnce = true
  | terms patterns | sequences patterns => Pattern.signOnce patterns = true
  | properties members _ => Pattern.propertiesSignOnce members = true

/-! ## Terminals -/

/-- Where a mark stands, and whether it is joined to the next one. -/
@[ext]
structure Mark where
  position : Position
  joint : Bool

/-- The token of a mark. -/
def Mark.token (mark : Mark) (char : Char) : Token :=
  .mark mark.position char mark.joint

/-- A sign before an atom. -/
inductive Sign
  | not (mark : Mark)
  | peek (mark : Mark)

namespace Sign

def token : Sign → Token
  | not mark => mark.token '~'
  | peek mark => mark.token '&'

def apply : Sign → Pattern → Pattern
  | not _, body => .not body
  | peek _, body => .peek body

end Sign

/-- A repetition mark after an atom. -/
inductive Repetition
  | star (mark : Mark)
  | plus (mark : Mark)
  | opt (mark : Mark)

namespace Repetition

def token : Repetition → Token
  | star mark => mark.token '*'
  | plus mark => mark.token '+'
  | opt mark => mark.token '?'

def apply (body : Pattern) : Repetition → Pattern
  | star _ => .star body
  | plus _ => .plus body
  | opt _ => .opt body

end Repetition

/-- A colon and a name at the end of a term. -/
structure Binding where
  colon : Mark
  position : Position
  name : String

namespace Binding

/-- The tokens of a binding, none if there is none. -/
def tokens : Option Binding → List Token
  | none => []
  | some binding => [binding.colon.token ':', .ident binding.position binding.name]

def apply (body : Pattern) : Option Binding → Pattern
  | none => body
  | some binding => .bind body binding.name

end Binding

/-- What stands around a pattern to make an atom of it, besides angle brackets. -/
inductive Enclosure
  | group
  | inline (hash : Mark)
  | list

namespace Enclosure

/-- The tokens before the group. -/
def before : Enclosure → List Token
  | group | list => []
  | inline hash => [hash.token '#']

def delimiter : Enclosure → Delimiter
  | group | inline _ => .paren
  | list => .bracket

def apply : Enclosure → Pattern → Pattern
  | group, body => body
  | inline _, body => .inline body
  | list, body => .list body

end Enclosure

/-- An atom that has no pattern inside. -/
inductive Leaf
  | any (position : Position)
  | undefined (position : Position)
  | null (position : Position)
  | bool (position : Position) (value : Bool)
  | literal (position : Position) (value : Literal)
  | negative (sign : Mark) (position : Position) (value : Nat)
  | range (opening : Position) (first : Char) (one two : Position) (three : Mark)
      (closing : Position) (last : Char) (ordered : first ≤ last)
  | regex (opening : Mark) (position : Position) (source : String) (closing : Mark)
  | call (position : Position) (name : String) (free : name ∉ reservedWords)

namespace Leaf

def tokens : Leaf → List Token
  | any position => [.ident position "_"]
  | undefined position => [.ident position "undefined"]
  | null position => [.ident position "null"]
  | bool position value => [.ident position (toString value)]
  | literal position value => [.literal position value]
  | negative sign position value => [sign.token '-', .literal position (.integer value)]
  | range opening first one two three closing last _ =>
      [.literal opening (.char first), .mark one '.' true, .mark two '.' true, three.token '=',
        .literal closing (.char last)]
  | regex opening position source closing =>
      [opening.token '/', .literal position (.text source), closing.token '/']
  | call position name _ => [.ident position name]

def pattern : Leaf → Pattern
  | any _ => .any
  | undefined _ => .undefined
  | null _ => .null
  | bool _ value => .bool value
  | literal position value => .literal position value
  | negative _ position value => .negative position false value
  | range _ first _ _ _ _ last _ => .range first last
  | regex _ position source _ => .regex position source
  | call _ name _ => .call name

theorem forms : ∀ leaf : Leaf, Forms (.atom leaf.pattern) leaf.tokens
  | any _ => .any
  | undefined _ => .undefined
  | null _ => .null
  | bool _ _ => .bool
  | literal _ _ => .literal
  | negative _ _ _ => .negative
  | range _ _ _ _ _ _ _ ordered => .range ordered
  | regex _ _ _ _ => .regex
  | call _ _ free => .call free

end Leaf

/-! ## Derivations -/

/-- The nonterminals of the surface grammar. -/
inductive Nonterminal
  | atom
  | prefixed
  | term
  | terms
  | sequences
  | alternatives
  | properties

namespace Nonterminal

/-- What a nonterminal stands for. -/
abbrev Meaning : Nonterminal → Type
  | atom | prefixed | term | alternatives => Pattern
  | terms | sequences => List Pattern
  | properties => List (Key × Pattern) × Bool

/-- The nonterminal together with what it stands for. -/
def phrase : (nonterminal : Nonterminal) → nonterminal.Meaning → Phrase
  | atom, pattern => .atom pattern
  | prefixed, pattern => .prefixed pattern
  | term, pattern => .term pattern
  | terms, patterns => .terms patterns
  | sequences, patterns => .sequences patterns
  | alternatives, pattern => .alternatives pattern
  | properties, (members, lenient) => .properties members lenient

end Nonterminal

/-- The derivations of the surface grammar:

```text
alternatives ::= sequences
sequences    ::= terms | terms '|' sequences
terms        ::= | term terms
term         ::= prefixed ('*' | '+' | '?')* (':' ident)?
prefixed     ::= ('~' | '&')* atom
atom         ::= leaf | '<' alternatives '>' | '#' '(' alternatives ')'
               | '(' alternatives ')' | '[' alternatives ']' | '{' properties '}'
properties   ::= | '...' | key ':' alternatives | key ':' alternatives ',' properties
```
-/
inductive Derivation : Nonterminal → Type
  | leaf (leaf : Leaf) : Derivation .atom
  | str (opening : Mark) (body : Derivation .alternatives) (closing : Mark) : Derivation .atom
  | enclosed (enclosure : Enclosure) (opening closing : Position)
      (body : Derivation .alternatives) : Derivation .atom
  | object (opening closing : Position) (members : Derivation .properties) : Derivation .atom
  | prefixed (signs : List Sign) (atom : Derivation .atom) : Derivation .prefixed
  | term (operand : Derivation .prefixed) (repetitions : List Repetition)
      (binding : Option Binding) : Derivation .term
  | noTerms : Derivation .terms
  | terms (head : Derivation .term) (tail : Derivation .terms) : Derivation .terms
  | sequence (only : Derivation .terms) : Derivation .sequences
  | sequences (head : Derivation .terms) (bar : Mark) (tail : Derivation .sequences) :
      Derivation .sequences
  | alternatives (all : Derivation .sequences) : Derivation .alternatives
  | noProperties : Derivation .properties
  | ellipsis (one two : Position) (three : Mark) : Derivation .properties
  | property (key : Key) (token : Token) (named : Names key token) (colon : Mark)
      (body : Derivation .alternatives) : Derivation .properties
  | properties (key : Key) (token : Token) (named : Names key token) (colon : Mark)
      (body : Derivation .alternatives) (comma : Mark) (others : Derivation .properties) :
      Derivation .properties

namespace Derivation

variable {nonterminal : Nonterminal}

/-- The tokens of a derivation. -/
def tokens : {nonterminal : Nonterminal} → Derivation nonterminal → List Token
  | _, leaf atom => atom.tokens
  | _, str opening body closing => opening.token '<' :: (body.tokens ++ [closing.token '>'])
  | _, enclosed enclosure opening closing body =>
      enclosure.before ++ [.group enclosure.delimiter opening closing body.tokens]
  | _, object opening closing members => [.group .brace opening closing members.tokens]
  | _, prefixed signs atom => signs.map Sign.token ++ atom.tokens
  | _, term operand repetitions binding =>
      operand.tokens ++ (repetitions.map Repetition.token ++ Binding.tokens binding)
  | _, noTerms => []
  | _, terms head tail => head.tokens ++ tail.tokens
  | _, sequence only => only.tokens
  | _, sequences head bar tail => head.tokens ++ bar.token '|' :: tail.tokens
  | _, alternatives all => all.tokens
  | _, noProperties => []
  | _, ellipsis one two three => [.mark one '.' true, .mark two '.' true, three.token '.']
  | _, property _ token _ colon body => token :: colon.token ':' :: body.tokens
  | _, properties _ token _ colon body comma others =>
      token :: colon.token ':' :: (body.tokens ++ comma.token ',' :: others.tokens)

/-- The meaning of a derivation. -/
def meaning : {nonterminal : Nonterminal} → Derivation nonterminal → nonterminal.Meaning
  | _, leaf atom => atom.pattern
  | _, str _ body _ => .str body.meaning
  | _, enclosed enclosure _ _ body => enclosure.apply body.meaning
  | _, object _ _ members => .object members.meaning.1 members.meaning.2
  | _, prefixed signs atom => signs.foldr Sign.apply atom.meaning
  | _, term operand repetitions binding =>
      Binding.apply (repetitions.foldl Repetition.apply operand.meaning) binding
  | _, noTerms => []
  | _, terms head tail => head.meaning :: tail.meaning
  | _, sequence only => [.ofSequence only.meaning]
  | _, sequences head _ tail => .ofSequence head.meaning :: tail.meaning
  | _, alternatives all => .ofAlternatives all.meaning
  | _, noProperties => ([], false)
  | _, ellipsis _ _ _ => ([], true)
  | _, property key _ _ _ body => ([(key, body.meaning)], false)
  | _, properties key _ _ _ body _ others =>
      ((key, body.meaning) :: others.meaning.1, others.meaning.2)

/-! ### What derivations stand for -/

theorem forms_signs
    {pattern : Pattern}
    {tokens : List Token}
    (signs : List Sign)
    (atom : Forms (.atom pattern) tokens) :
    Forms (.prefixed (signs.foldr Sign.apply pattern)) (signs.map Sign.token ++ tokens) := by
  induction signs with
  | nil => exact .unsigned atom
  | cons sign signs inductionHypothesis =>
      cases sign with
      | not mark => exact .not inductionHypothesis
      | peek mark => exact .peek inductionHypothesis

theorem forms_repetitions
    {pattern : Pattern}
    {tokens : List Token}
    (repetitions : List Repetition)
    (operand : Forms (.repeated pattern) tokens) :
    Forms (.repeated (repetitions.foldl Repetition.apply pattern))
      (tokens ++ repetitions.map Repetition.token) := by
  induction repetitions generalizing pattern tokens with
  | nil => simpa using operand
  | cons repetition repetitions inductionHypothesis =>
      rw [List.map_cons, List.append_cons]
      refine inductionHypothesis ?_
      cases repetition with
      | star mark => exact .star operand
      | plus mark => exact .plus operand
      | opt mark => exact .opt operand

/-- What is derived stands for its meaning. -/
theorem forms (derivation : Derivation nonterminal) :
    Forms (nonterminal.phrase derivation.meaning) derivation.tokens := by
  induction derivation with
  | leaf atom => exact atom.forms
  | str opening body closing inside => exact .str inside
  | enclosed enclosure opening closing body inside =>
      cases enclosure with
      | group => exact .group inside
      | inline hash => exact .inline inside
      | list => exact .list inside
  | object opening closing members inside => exact .object inside
  | prefixed signs atom unsigned => exact forms_signs signs unsigned
  | term operand repetitions binding operandForms =>
      have repeats := forms_repetitions repetitions (.once operandForms)
      rw [tokens, ← List.append_assoc]
      cases binding with
      | none =>
          rw [Binding.tokens, List.append_nil]
          exact .unbound repeats
      | some binding => exact .bind repeats
  | noTerms => exact .noTerms
  | terms head tail first others => exact .terms first others
  | sequence only inside => exact .sequence inside
  | sequences head bar tail first others => exact .sequences first others
  | alternatives all inside => exact .alternatives inside
  | noProperties => exact .noProperties
  | ellipsis one two three => exact .ellipsis
  | property key token named colon body inside => exact .property named inside
  | properties key token named colon body comma members first others =>
      exact .properties named first others

theorem signsOnce_signs (signs : List Sign) (pattern : Pattern) :
    (signs.foldr Sign.apply pattern).signsOnce = pattern.signsOnce := by
  induction signs with
  | nil => rfl
  | cons sign signs inductionHypothesis =>
      cases sign <;> simpa [Sign.apply, Pattern.signsOnce] using inductionHypothesis

theorem signsOnce_repetitions (repetitions : List Repetition) (pattern : Pattern) :
    (repetitions.foldl Repetition.apply pattern).signsOnce = pattern.signsOnce := by
  induction repetitions generalizing pattern with
  | nil => rfl
  | cons repetition repetitions inductionHypothesis =>
      rw [List.foldl_cons, inductionHypothesis]
      cases repetition <;> simp [Repetition.apply, Pattern.signsOnce]

/-- No derived integer has two signs. -/
theorem signsOnce (derivation : Derivation nonterminal) :
    (nonterminal.phrase derivation.meaning).SignsOnce := by
  induction derivation with
  | leaf atom => cases atom <;> rfl
  | enclosed enclosure opening closing body inside =>
      cases enclosure <;> simpa [Nonterminal.phrase, Phrase.SignsOnce, meaning, Enclosure.apply,
        Pattern.signsOnce] using inside
  | prefixed signs atom unsigned => exact (signsOnce_signs signs _).trans unsigned
  | term operand repetitions binding operandSigns =>
      have repeats := (signsOnce_repetitions repetitions operand.meaning).trans operandSigns
      cases binding with
      | none => exact repeats
      | some binding => simpa [Nonterminal.phrase, Phrase.SignsOnce, meaning, Binding.apply,
          Pattern.signsOnce] using repeats
  | _ => simp_all [Nonterminal.phrase, Phrase.SignsOnce, meaning, Pattern.signsOnce,
      Pattern.signOnce, Pattern.propertiesSignOnce]

end Derivation

/-! ### What can be derived -/

/-- The tokens have a derivation with the meaning. -/
def Derives
    (nonterminal : Nonterminal)
    (meaning : nonterminal.Meaning)
    (tokens : List Token) : Prop :=
  ∃ derivation : Derivation nonterminal,
    derivation.tokens = tokens ∧ derivation.meaning = meaning

/-- The phrase can be derived. An operand with repetitions is only a part of
what a term derives. -/
def Phrase.Derivable (tokens : List Token) : Phrase → Prop
  | atom pattern => Derives .atom pattern tokens
  | prefixed pattern => Derives .prefixed pattern tokens
  | repeated pattern => ∃ (operand : Derivation .prefixed) (repetitions : List Repetition),
      operand.tokens ++ repetitions.map Repetition.token = tokens ∧
        repetitions.foldl Repetition.apply operand.meaning = pattern
  | term pattern => Derives .term pattern tokens
  | terms patterns => Derives .terms patterns tokens
  | sequences patterns => Derives .sequences patterns tokens
  | alternatives pattern => Derives .alternatives pattern tokens
  | properties members lenient => Derives .properties (members, lenient) tokens

section Deriving

variable
  {pattern : Pattern}
  {tokens : List Token}

theorem Derives.sign
    (sign : Sign)
    (derives : Derives .prefixed pattern tokens) :
    Derives .prefixed (sign.apply pattern) (sign.token :: tokens) := by
  obtain ⟨derivation, rfl, rfl⟩ := derives
  cases derivation with
  | prefixed signs atom => exact ⟨.prefixed (sign :: signs) atom, rfl, rfl⟩

theorem Phrase.Derivable.repeat
    (derivable : Phrase.Derivable tokens (.repeated pattern))
    (repetition : Repetition) :
    Phrase.Derivable (tokens ++ [repetition.token]) (.repeated (repetition.apply pattern)) := by
  obtain ⟨operand, repetitions, rfl, rfl⟩ := derivable
  refine ⟨operand, repetitions ++ [repetition], by simp, by simp⟩

theorem Phrase.Derivable.bind
    (derivable : Phrase.Derivable tokens (.repeated pattern))
    (binding : Option Binding) :
    Derives .term (Binding.apply pattern binding) (tokens ++ Binding.tokens binding) := by
  obtain ⟨operand, repetitions, rfl, rfl⟩ := derivable
  exact ⟨.term operand repetitions binding, by simp [Derivation.tokens], rfl⟩

end Deriving

/-- A phrase has a derivation, if no integer in it has two signs. -/
theorem Forms.derivable
    {phrase : Phrase}
    {tokens : List Token}
    (forms : Forms phrase tokens)
    (signsOnce : phrase.SignsOnce) :
    phrase.Derivable tokens := by
  induction forms with
  | @any position => exact ⟨.leaf (.any position), rfl, rfl⟩
  | @undefined position => exact ⟨.leaf (.undefined position), rfl, rfl⟩
  | @null position => exact ⟨.leaf (.null position), rfl, rfl⟩
  | @bool position value => exact ⟨.leaf (.bool position value), rfl, rfl⟩
  | @call position name free => exact ⟨.leaf (.call position name free), rfl, rfl⟩
  | @literal position value => exact ⟨.leaf (.literal position value), rfl, rfl⟩
  | @negative position sign joint value =>
      exact ⟨.leaf (.negative ⟨sign, joint⟩ position value), rfl, rfl⟩
  | negativeSigned => cases signsOnce
  | @range opening one two three closing joint first last ordered =>
      exact ⟨.leaf (.range opening first one two ⟨three, joint⟩ closing last ordered), rfl, rfl⟩
  | @regex position opening closing openingJoint closingJoint source =>
      exact ⟨.leaf (.regex ⟨opening, openingJoint⟩ position source ⟨closing, closingJoint⟩),
        rfl, rfl⟩
  | @str opening closing openingJoint closingJoint body tokens inside inductionHypothesis =>
      obtain ⟨derivation, rfl, rfl⟩ := inductionHypothesis signsOnce
      exact ⟨.str ⟨opening, openingJoint⟩ derivation ⟨closing, closingJoint⟩, rfl, rfl⟩
  | @inline position opening closing joint body tokens inside inductionHypothesis =>
      obtain ⟨derivation, rfl, rfl⟩ := inductionHypothesis signsOnce
      exact ⟨.enclosed (.inline ⟨position, joint⟩) opening closing derivation, rfl, rfl⟩
  | @group opening closing body tokens inside inductionHypothesis =>
      obtain ⟨derivation, rfl, rfl⟩ := inductionHypothesis signsOnce
      exact ⟨.enclosed .group opening closing derivation, rfl, rfl⟩
  | @list opening closing body tokens inside inductionHypothesis =>
      obtain ⟨derivation, rfl, rfl⟩ := inductionHypothesis signsOnce
      exact ⟨.enclosed .list opening closing derivation, rfl, rfl⟩
  | @object opening closing properties lenient tokens inside inductionHypothesis =>
      obtain ⟨derivation, rfl, same⟩ := inductionHypothesis signsOnce
      exact ⟨.object opening closing derivation, rfl, by rw [Derivation.meaning, same]⟩
  | unsigned atom inductionHypothesis =>
      obtain ⟨derivation, rfl, rfl⟩ := inductionHypothesis signsOnce
      exact ⟨.prefixed [] derivation, rfl, rfl⟩
  | @not position joint body tokens operand inductionHypothesis =>
      exact (inductionHypothesis signsOnce).sign (.not ⟨position, joint⟩)
  | @peek position joint body tokens operand inductionHypothesis =>
      exact (inductionHypothesis signsOnce).sign (.peek ⟨position, joint⟩)
  | once operand inductionHypothesis =>
      obtain ⟨derivation, rfl, rfl⟩ := inductionHypothesis signsOnce
      exact ⟨derivation, [], List.append_nil _, rfl⟩
  | @star position joint body tokens operand inductionHypothesis =>
      exact (inductionHypothesis signsOnce).repeat (.star ⟨position, joint⟩)
  | @plus position joint body tokens operand inductionHypothesis =>
      exact (inductionHypothesis signsOnce).repeat (.plus ⟨position, joint⟩)
  | @opt position joint body tokens operand inductionHypothesis =>
      exact (inductionHypothesis signsOnce).repeat (.opt ⟨position, joint⟩)
  | @unbound body tokens operand inductionHypothesis =>
      have derives := (inductionHypothesis signsOnce).bind none
      rwa [Binding.tokens, List.append_nil] at derives
  | @bind position namePosition joint body name tokens operand inductionHypothesis =>
      exact (inductionHypothesis signsOnce).bind (some ⟨⟨position, joint⟩, namePosition, name⟩)
  | noTerms => exact ⟨.noTerms, rfl, rfl⟩
  | terms head tail headHypothesis tailHypothesis =>
      obtain ⟨first, others⟩ := Bool.and_eq_true_iff.mp signsOnce
      obtain ⟨derivation, rfl, rfl⟩ := headHypothesis first
      obtain ⟨otherDerivation, rfl, rfl⟩ := tailHypothesis others
      exact ⟨.terms derivation otherDerivation, rfl, rfl⟩
  | sequence only inductionHypothesis =>
      obtain ⟨derivation, rfl, rfl⟩ := inductionHypothesis (by
        simpa [Phrase.SignsOnce, Pattern.signOnce] using signsOnce)
      exact ⟨.sequence derivation, rfl, rfl⟩
  | @sequences position joint items others tokens otherTokens head tail headHypothesis
      tailHypothesis =>
      obtain ⟨first, others⟩ := Bool.and_eq_true_iff.mp signsOnce
      obtain ⟨derivation, rfl, rfl⟩ := headHypothesis (by
        simpa [Phrase.SignsOnce] using first)
      obtain ⟨otherDerivation, rfl, rfl⟩ := tailHypothesis others
      exact ⟨.sequences derivation ⟨position, joint⟩ otherDerivation, rfl, rfl⟩
  | alternatives all inductionHypothesis =>
      obtain ⟨derivation, rfl, rfl⟩ := inductionHypothesis (by
        simpa [Phrase.SignsOnce] using signsOnce)
      exact ⟨.alternatives derivation, rfl, rfl⟩
  | noProperties => exact ⟨.noProperties, rfl, rfl⟩
  | @ellipsis one two three joint => exact ⟨.ellipsis one two ⟨three, joint⟩, rfl, rfl⟩
  | @property position joint key body keyToken tokens named only inductionHypothesis =>
      obtain ⟨derivation, rfl, rfl⟩ := inductionHypothesis (by
        simpa [Phrase.SignsOnce, Pattern.propertiesSignOnce] using signsOnce)
      exact ⟨.property key keyToken named ⟨position, joint⟩ derivation, rfl, rfl⟩
  | @properties position comma joint commaJoint key body others lenient keyToken tokens
      otherTokens named head tail headHypothesis tailHypothesis =>
      obtain ⟨first, rest⟩ := Bool.and_eq_true_iff.mp signsOnce
      obtain ⟨derivation, rfl, rfl⟩ := headHypothesis first
      obtain ⟨otherDerivation, rfl, same⟩ := tailHypothesis rest
      exact ⟨.properties key keyToken named ⟨position, joint⟩ derivation ⟨comma, commaJoint⟩
        otherDerivation, rfl, by rw [Derivation.meaning, same]⟩

/-- What is read as a whole is what can be derived, but for integers with two
signs. -/
theorem derives_iff_readPattern
    (close : Position)
    {tokens : List Token}
    {pattern : Pattern} :
    Derives .alternatives pattern tokens ↔
      readPattern close tokens = .ok (pattern, []) ∧ pattern.signsOnce = true := by
  constructor
  · rintro ⟨derivation, rfl, rfl⟩
    have reads := derivation.forms.readPattern .nil close
    rw [List.append_nil] at reads
    exact ⟨reads, derivation.signsOnce⟩
  · rintro ⟨reads, signsOnce⟩
    obtain ⟨taken, rfl, forms⟩ := readPattern_takes close reads
    rw [List.append_nil]
    exact forms.derivable signsOnce

end Source
end Heirloom
