import Heirloom.Source.Pattern.Parser
import Mathlib.Tactic.SplitIfs

/-!
# Surface grammar

Which tokens stand for which pattern, said without a reader. Every reader takes
tokens from the front that stand for what it returns and leaves the others.
-/

namespace Heirloom
namespace Source

/-- A nonterminal of the surface grammar together with what it stands for. -/
inductive Phrase
  | atom (pattern : Pattern)
  | prefixed (pattern : Pattern)
  | repeated (pattern : Pattern)
  | term (pattern : Pattern)
  | terms (patterns : List Pattern)
  | sequences (patterns : List Pattern)
  | alternatives (pattern : Pattern)
  | properties (properties : List (Key × Pattern)) (lenient : Bool)

/-- The names that stand for something other than a rule. -/
def reservedWords : List String := ["_", "undefined", "null", "true", "false"]

/-- The token of a key. -/
inductive Names : Key → Token → Prop
  | text {name : String} {position : Position} :
      Names ⟨name, position⟩ (.literal position (.text name))
  | ident {name : String} {position : Position} :
      Names ⟨name, position⟩ (.ident position name)

/-- The tokens of a phrase. -/
inductive Forms : Phrase → List Token → Prop
  | any {position : Position} :
      Forms (.atom .any) [.ident position "_"]
  | undefined {position : Position} :
      Forms (.atom .undefined) [.ident position "undefined"]
  | null {position : Position} :
      Forms (.atom .null) [.ident position "null"]
  | bool {position : Position} {value : Bool} :
      Forms (.atom (.bool value)) [.ident position (toString value)]
  | call {position : Position} {name : String}
      (free : name ∉ reservedWords) :
      Forms (.atom (.call name)) [.ident position name]
  | literal {position : Position} {value : Literal} :
      Forms (.atom (.literal position value)) [.literal position value]
  | negative {position sign : Position} {joint : Bool} {value : Nat} :
      Forms (.atom (.negative position false value))
        [.mark sign '-' joint, .literal position (.integer value)]
  | negativeSigned {position sign digits : Position} {joint signJoint : Bool} {value : Nat} :
      Forms (.atom (.negative position true value))
        [.mark sign '-' signJoint, .mark position '-' joint, .literal digits (.integer value)]
  | range {opening one two three closing : Position} {joint : Bool} {first last : Char}
      (ordered : first ≤ last) :
      Forms (.atom (.range first last))
        [.literal opening (.char first), .mark one '.' true, .mark two '.' true,
          .mark three '=' joint, .literal closing (.char last)]
  | regex {position opening closing : Position} {openingJoint closingJoint : Bool}
      {source : String} :
      Forms (.atom (.regex position source))
        [.mark opening '/' openingJoint, .literal position (.text source),
          .mark closing '/' closingJoint]
  | str {opening closing : Position} {openingJoint closingJoint : Bool} {body : Pattern}
      {tokens : List Token}
      (inside : Forms (.alternatives body) tokens) :
      Forms (.atom (.str body))
        (.mark opening '<' openingJoint :: (tokens ++ [.mark closing '>' closingJoint]))
  | inline {position opening closing : Position} {joint : Bool} {body : Pattern}
      {tokens : List Token}
      (inside : Forms (.alternatives body) tokens) :
      Forms (.atom (.inline body))
        [.mark position '#' joint, .group .paren opening closing tokens]
  | group {opening closing : Position} {body : Pattern} {tokens : List Token}
      (inside : Forms (.alternatives body) tokens) :
      Forms (.atom body) [.group .paren opening closing tokens]
  | list {opening closing : Position} {body : Pattern} {tokens : List Token}
      (inside : Forms (.alternatives body) tokens) :
      Forms (.atom (.list body)) [.group .bracket opening closing tokens]
  | object {opening closing : Position} {properties : List (Key × Pattern)} {lenient : Bool}
      {tokens : List Token}
      (inside : Forms (.properties properties lenient) tokens) :
      Forms (.atom (.object properties lenient)) [.group .brace opening closing tokens]
  | unsigned {body : Pattern} {tokens : List Token}
      (atom : Forms (.atom body) tokens) :
      Forms (.prefixed body) tokens
  | not {position : Position} {joint : Bool} {body : Pattern} {tokens : List Token}
      (operand : Forms (.prefixed body) tokens) :
      Forms (.prefixed (.not body)) (.mark position '~' joint :: tokens)
  | peek {position : Position} {joint : Bool} {body : Pattern} {tokens : List Token}
      (operand : Forms (.prefixed body) tokens) :
      Forms (.prefixed (.peek body)) (.mark position '&' joint :: tokens)
  | once {body : Pattern} {tokens : List Token}
      (operand : Forms (.prefixed body) tokens) :
      Forms (.repeated body) tokens
  | star {position : Position} {joint : Bool} {body : Pattern} {tokens : List Token}
      (operand : Forms (.repeated body) tokens) :
      Forms (.repeated (.star body)) (tokens ++ [.mark position '*' joint])
  | plus {position : Position} {joint : Bool} {body : Pattern} {tokens : List Token}
      (operand : Forms (.repeated body) tokens) :
      Forms (.repeated (.plus body)) (tokens ++ [.mark position '+' joint])
  | opt {position : Position} {joint : Bool} {body : Pattern} {tokens : List Token}
      (operand : Forms (.repeated body) tokens) :
      Forms (.repeated (.opt body)) (tokens ++ [.mark position '?' joint])
  | unbound {body : Pattern} {tokens : List Token}
      (operand : Forms (.repeated body) tokens) :
      Forms (.term body) tokens
  | bind {position namePosition : Position} {joint : Bool} {body : Pattern} {name : String}
      {tokens : List Token}
      (operand : Forms (.repeated body) tokens) :
      Forms (.term (.bind body name))
        (tokens ++ [.mark position ':' joint, .ident namePosition name])
  | noTerms :
      Forms (.terms []) []
  | terms {first : Pattern} {others : List Pattern} {tokens otherTokens : List Token}
      (head : Forms (.term first) tokens)
      (tail : Forms (.terms others) otherTokens) :
      Forms (.terms (first :: others)) (tokens ++ otherTokens)
  | sequence {items : List Pattern} {tokens : List Token}
      (only : Forms (.terms items) tokens) :
      Forms (.sequences [.ofSequence items]) tokens
  | sequences {position : Position} {joint : Bool} {items others : List Pattern}
      {tokens otherTokens : List Token}
      (head : Forms (.terms items) tokens)
      (tail : Forms (.sequences others) otherTokens) :
      Forms (.sequences (.ofSequence items :: others))
        (tokens ++ .mark position '|' joint :: otherTokens)
  | alternatives {patterns : List Pattern} {tokens : List Token}
      (all : Forms (.sequences patterns) tokens) :
      Forms (.alternatives (.ofAlternatives patterns)) tokens
  | noProperties :
      Forms (.properties [] false) []
  | ellipsis {one two three : Position} {joint : Bool} :
      Forms (.properties [] true)
        [.mark one '.' true, .mark two '.' true, .mark three '.' joint]
  | property {position : Position} {joint : Bool} {key : Key} {body : Pattern}
      {keyToken : Token} {tokens : List Token}
      (named : Names key keyToken)
      (only : Forms (.alternatives body) tokens) :
      Forms (.properties [(key, body)] false)
        (keyToken :: .mark position ':' joint :: tokens)
  | properties {position comma : Position} {joint commaJoint : Bool} {key : Key}
      {body : Pattern} {others : List (Key × Pattern)} {lenient : Bool} {keyToken : Token}
      {tokens otherTokens : List Token}
      (named : Names key keyToken)
      (head : Forms (.alternatives body) tokens)
      (tail : Forms (.properties others lenient) otherTokens) :
      Forms (.properties ((key, body) :: others) lenient)
        (keyToken :: .mark position ':' joint ::
          (tokens ++ .mark comma ',' commaJoint :: otherTokens))

/-- What the reader takes from the front stands for what it returns. -/
def Takes
    (phrase : α → Phrase)
    (read : List Token → Except Fault (α × List Token)) : Prop :=
  ∀ {tokens result rest}, read tokens = .ok (result, rest) →
    ∃ taken, tokens = taken ++ rest ∧ Forms (phrase result) taken

/-- A computation succeeds if and only if its first part does and what follows
does. -/
theorem bind_eq_ok_iff
    {first : Except ε α}
    {next : α → Except ε β}
    {result : β} :
    first >>= next = .ok result ↔ ∃ value, first = .ok value ∧ next value = .ok result := by
  cases first with
  | error error => exact ⟨nofun, nofun⟩
  | ok value => exact ⟨fun succeeds => ⟨value, rfl, succeeds⟩, fun ⟨_, rfl, succeeds⟩ => succeeds⟩

/-! ## Marks and names -/

section Units

variable
  {close : Position}
  {mark : Char}
  {tokens rest : List Token}

theorem eq_of_readMarkToken
    (reads : readMarkToken mark close tokens = .ok rest) :
    ∃ position joint, tokens = .mark position mark joint :: rest := by
  unfold readMarkToken at reads
  split at reads
  · next position found joint after =>
      split at reads
      · next same =>
          cases reads
          exact ⟨position, joint, by rw [eq_of_beq same]⟩
      · cases reads
  · cases reads

theorem eq_of_readName
    {named : String × Position}
    (reads : readName close tokens = .ok (named, rest)) :
    tokens = .ident named.2 named.1 :: rest := by
  unfold readName at reads
  split at reads
  · cases reads
    rfl
  · cases reads

theorem eq_of_readKey
    {key : Key}
    (reads : readKey close tokens = .ok (key, rest)) :
    ∃ token, tokens = token :: rest ∧ Names key token := by
  unfold readKey at reads
  split at reads
  · cases reads
    exact ⟨_, rfl, .text⟩
  · simp only [bind_eq_ok_iff, Prod.exists] at reads
    obtain ⟨name, position, after, readsName, finishes⟩ := reads
    cases finishes
    exact ⟨_, eq_of_readName readsName, .ident⟩

theorem eq_of_afterMarks?_last
    (follow : afterMarks? [mark] tokens = some rest) :
    ∃ position joint, tokens = .mark position mark joint :: rest := by
  match tokens with
  | .mark position found joint :: after =>
      obtain ⟨rfl, rfl⟩ : found = mark ∧ after = rest := by simpa [afterMarks?] using follow
      exact ⟨position, joint, rfl⟩
  | [] | .ident _ _ :: _ | .literal _ _ :: _ | .group _ _ _ _ :: _ =>
      simp [afterMarks?] at follow

/-- A mark that another one has to follow is joint. -/
theorem eq_of_afterMarks?_cons
    {second : Char}
    {marks : List Char}
    (follow : afterMarks? (mark :: second :: marks) tokens = some rest) :
    ∃ position after, tokens = .mark position mark true :: after ∧
      afterMarks? (second :: marks) after = some rest := by
  match tokens with
  | .mark position found joint :: after =>
      obtain ⟨⟨rfl, rfl⟩, others⟩ :
          (found = mark ∧ joint = true) ∧ afterMarks? (second :: marks) after = some rest := by
        simpa [afterMarks?] using follow
      exact ⟨position, after, rfl, others⟩
  | [] | .ident _ _ :: _ | .literal _ _ :: _ | .group _ _ _ _ :: _ =>
      simp [afterMarks?] at follow

theorem eq_of_afterMarks?_three
    {second third : Char}
    (follow : afterMarks? [mark, second, third] tokens = some rest) :
    ∃ one two three joint,
      tokens = .mark one mark true :: .mark two second true :: .mark three third joint :: rest := by
  obtain ⟨one, afterOne, rfl, followOne⟩ := eq_of_afterMarks?_cons follow
  obtain ⟨two, afterTwo, rfl, followTwo⟩ := eq_of_afterMarks?_cons followOne
  obtain ⟨three, joint, rfl⟩ := eq_of_afterMarks?_last followTwo
  exact ⟨one, two, three, joint, rfl⟩

end Units

/-! ## Patterns -/

section Patterns

variable
  {close : Position}
  {alternatives : Reader Pattern}
  {tokens rest : List Token}

theorem readRegex_takes
    (reads : readRegex close tokens = .ok (pattern, rest)) :
    ∃ position source closing joint, pattern = .regex position source ∧
      tokens = .literal position (.text source) :: .mark closing '/' joint :: rest := by
  unfold readRegex at reads
  split at reads
  · next position source after =>
      obtain ⟨_, closes, finishes⟩ := bind_eq_ok_iff.mp reads
      obtain ⟨closing, joint, rfl⟩ := eq_of_readMarkToken closes
      cases finishes
      exact ⟨position, source, closing, joint, rfl, rfl⟩
  · cases reads

theorem readNegative_takes
    {sign : Position}
    {signJoint : Bool}
    (reads : readNegative close tokens = .ok (pattern, rest)) :
    ∃ taken, tokens = taken ++ rest ∧
      Forms (.atom pattern) (.mark sign '-' signJoint :: taken) := by
  unfold readNegative at reads
  split at reads
  · cases reads
    exact ⟨[_], rfl, .negative⟩
  · cases reads
    exact ⟨[_, _], rfl, .negativeSigned⟩
  · cases reads

theorem readRange_takes
    {first : Char}
    (reads : readRange first close tokens = .ok (pattern, rest)) :
    ∃ position last, first ≤ last ∧ pattern = .range first last ∧
      tokens = .literal position (.char last) :: rest := by
  unfold readRange at reads
  split at reads
  · next position last after =>
      split at reads
      · next ordered =>
          cases reads
          exact ⟨position, last, ordered, rfl, rfl⟩
      · cases reads
  · cases reads

/-- A group is read to its end. -/
theorem readGroup_takes
    {body : Pattern}
    (takes : ∀ close, Takes .alternatives (alternatives close))
    (reads : readGroup alternatives close tokens = .ok body) :
    Forms (.alternatives body) tokens := by
  simp only [readGroup, bind_eq_ok_iff, Prod.exists] at reads
  obtain ⟨body, after, readsBody, finishes⟩ := reads
  split at finishes
  · cases finishes
    obtain ⟨taken, rfl, forms⟩ := takes _ readsBody
    rwa [List.append_nil]
  · cases finishes

theorem readProperties_takes
    (takes : ∀ close, Takes .alternatives (alternatives close))
    {fuel : Nat}
    {properties : List (Key × Pattern)}
    {lenient : Bool}
    (reads : readProperties alternatives close fuel tokens = .ok (properties, lenient)) :
    Forms (.properties properties lenient) tokens := by
  induction fuel generalizing tokens properties with
  | zero =>
      cases tokens with
      | nil =>
          cases reads
          exact .noProperties
      | cons token tokens => cases reads
  | succ fuel inductionHypothesis =>
      cases tokens with
      | nil =>
          cases reads
          exact .noProperties
      | cons token tokens =>
          simp only [readProperties] at reads
          split at reads
          · next ends =>
              obtain ⟨one, two, three, joint, same⟩ := eq_of_afterMarks?_three ends
              cases reads
              rw [same]
              exact .ellipsis
          · cases reads
          · simp only [bind_eq_ok_iff, Prod.exists] at reads
            obtain ⟨key, _, readsKey, _, readsColon, body, _, readsBody, readsTail⟩ := reads
            obtain ⟨keyToken, same, named⟩ := eq_of_readKey readsKey
            obtain ⟨colon, joint, rfl⟩ := eq_of_readMarkToken readsColon
            obtain ⟨taken, rfl, forms⟩ := takes _ readsBody
            rw [same]
            split at readsTail
            · cases readsTail
              rw [List.append_nil]
              exact .property named forms
            · simp only [bind_eq_ok_iff, Prod.exists] at readsTail
              obtain ⟨_, readsComma, others, othersLenient, readsOthers, finishes⟩ := readsTail
              obtain ⟨comma, commaJoint, rfl⟩ := eq_of_readMarkToken readsComma
              cases finishes
              exact .properties named forms (inductionHypothesis readsOthers)

theorem readAtom_takes
    (takes : ∀ close, Takes .alternatives (alternatives close)) :
    Takes .atom (readAtom alternatives close) := by
  intro tokens pattern rest reads
  unfold readAtom at reads
  split at reads
  · next position name after =>
      refine ⟨[.ident position name], ?_⟩
      simp only [beq_iff_eq] at reads
      split_ifs at reads with isAny isUndefined isNull isTrue isFalse
      · cases reads
        exact ⟨rfl, isAny ▸ .any⟩
      · cases reads
        exact ⟨rfl, isUndefined ▸ .undefined⟩
      · cases reads
        exact ⟨rfl, isNull ▸ .null⟩
      · cases reads
        exact ⟨rfl, isTrue ▸ .bool⟩
      · cases reads
        exact ⟨rfl, isFalse ▸ .bool⟩
      · cases reads
        have free : name ∉ reservedWords := by
          simp [reservedWords, isAny, isUndefined, isNull, isTrue, isFalse]
        exact ⟨rfl, .call free⟩
  · next position value after =>
      split at reads
      · next first afterMarks follow =>
          obtain ⟨one, two, three, joint, rfl⟩ := eq_of_afterMarks?_three follow
          obtain ⟨closing, last, ordered, rfl, rfl⟩ := readRange_takes reads
          exact ⟨[_, _, _, _, _], rfl, .range ordered⟩
      · cases reads
        exact ⟨[_], rfl, .literal⟩
  · next position joint after =>
      obtain ⟨_, _, closing, closingJoint, rfl, rfl⟩ := readRegex_takes reads
      exact ⟨[_, _, _], rfl, .regex⟩
  · next position joint after =>
      obtain ⟨taken, rfl, forms⟩ := readNegative_takes reads
      exact ⟨_ :: taken, rfl, forms⟩
  · next position joint after =>
      simp only [bind_eq_ok_iff, Prod.exists] at reads
      obtain ⟨body, _, readsBody, _, readsClosing, finishes⟩ := reads
      obtain ⟨taken, rfl, forms⟩ := takes _ readsBody
      obtain ⟨closing, closingJoint, rfl⟩ := eq_of_readMarkToken readsClosing
      cases finishes
      exact ⟨.mark position '<' joint :: (taken ++ [.mark closing '>' closingJoint]), by simp,
        .str forms⟩
  · next position joint after =>
      split at reads
      · next opening closing content after =>
          obtain ⟨body, readsBody, finishes⟩ := bind_eq_ok_iff.mp reads
          cases finishes
          exact ⟨[_, _], rfl, .inline (readGroup_takes takes readsBody)⟩
      · cases reads
  · next opening closing content after =>
      obtain ⟨body, readsBody, finishes⟩ := bind_eq_ok_iff.mp reads
      cases finishes
      exact ⟨[_], rfl, .group (readGroup_takes takes readsBody)⟩
  · next opening closing content after =>
      obtain ⟨body, readsBody, finishes⟩ := bind_eq_ok_iff.mp reads
      cases finishes
      exact ⟨[_], rfl, .list (readGroup_takes takes readsBody)⟩
  · next opening closing content after =>
      obtain ⟨⟨properties, lenient⟩, readsProperties, finishes⟩ := bind_eq_ok_iff.mp reads
      cases finishes
      exact ⟨[_], rfl, .object (readProperties_takes takes readsProperties)⟩
  · cases reads

theorem readPrefixed_takes
    (takes : ∀ close, Takes .alternatives (alternatives close)) :
    Takes .prefixed (readPrefixed alternatives close) := by
  have unsigned : ∀ {tokens pattern rest},
      readAtom alternatives close tokens = .ok (pattern, rest) →
        ∃ taken, tokens = taken ++ rest ∧ Forms (.prefixed pattern) taken := by
    intro tokens pattern rest reads
    obtain ⟨taken, same, forms⟩ := readAtom_takes takes reads
    exact ⟨taken, same, .unsigned forms⟩
  intro tokens
  induction tokens with
  | nil => exact unsigned
  | cons token tokens inductionHypothesis =>
      intro pattern rest reads
      unfold readPrefixed at reads
      split at reads
      · contradiction
      · next position mark joint after same =>
          cases same
          split_ifs at reads with isNot isPeek
          · simp only [bind_eq_ok_iff, Prod.exists] at reads
            obtain ⟨body, after, readsBody, finishes⟩ := reads
            obtain ⟨taken, rfl, forms⟩ := inductionHypothesis readsBody
            cases finishes
            exact ⟨_ :: taken, rfl, eq_of_beq isNot ▸ .not forms⟩
          · simp only [bind_eq_ok_iff, Prod.exists] at reads
            obtain ⟨body, after, readsBody, finishes⟩ := reads
            obtain ⟨taken, rfl, forms⟩ := inductionHypothesis readsBody
            cases finishes
            exact ⟨_ :: taken, rfl, eq_of_beq isPeek ▸ .peek forms⟩
          · exact unsigned reads
      · next same =>
          cases same
          exact unsigned reads

theorem readRepetitions_takes
    {body : Pattern}
    {before : List Token}
    (forms : Forms (.repeated body) before)
    (tokens : List Token) :
    ∃ taken, tokens = taken ++ (readRepetitions body tokens).2 ∧
      Forms (.repeated (readRepetitions body tokens).1) (before ++ taken) := by
  induction tokens generalizing body before with
  | nil => exact ⟨[], rfl, by simpa [readRepetitions] using forms⟩
  | cons token tokens inductionHypothesis =>
      have stops : ∃ taken, token :: tokens = taken ++ (token :: tokens) ∧
          Forms (.repeated body) (before ++ taken) :=
        ⟨[], rfl, by simpa using forms⟩
      have goesOn : ∀ {next : Pattern}, Forms (.repeated next) (before ++ [token]) →
          ∃ taken, token :: tokens = taken ++ (readRepetitions next tokens).2 ∧
            Forms (.repeated (readRepetitions next tokens).1) (before ++ taken) := by
        intro next nextForms
        obtain ⟨taken, same, repeats⟩ := inductionHypothesis nextForms
        refine ⟨token :: taken, by rw [List.cons_append, ← same], ?_⟩
        rwa [List.append_cons]
      unfold readRepetitions
      split
      · contradiction
      · next position mark joint after same =>
          cases same
          split_ifs with isStar isOpt isPlus
          · exact goesOn (eq_of_beq isStar ▸ .star forms)
          · exact goesOn (eq_of_beq isOpt ▸ .opt forms)
          · exact goesOn (eq_of_beq (Bool.and_eq_true_iff.mp isPlus).1 ▸ .plus forms)
          · exact stops
      · next same =>
          cases same
          exact stops

theorem readTerm_takes
    (takes : ∀ close, Takes .alternatives (alternatives close)) :
    Takes .term (readTerm alternatives close) := by
  intro tokens pattern rest reads
  simp only [readTerm, bind_eq_ok_iff, Prod.exists] at reads
  obtain ⟨atom, after, readsAtom, finishes⟩ := reads
  obtain ⟨taken, rfl, forms⟩ := readPrefixed_takes takes readsAtom
  obtain ⟨marks, same, repeats⟩ := readRepetitions_takes (.once forms) after
  generalize readRepetitions atom after = repeated at finishes same repeats
  obtain ⟨body, unbound⟩ := repeated
  dsimp only at finishes same repeats
  unfold readBinding at finishes
  split at finishes
  · next position mark joint namePosition name others =>
      split at finishes
      · next isColon =>
          cases finishes
          rw [eq_of_beq isColon] at same
          refine ⟨taken ++ marks ++ [.mark position ':' joint, .ident namePosition name], ?_,
            .bind repeats⟩
          rw [same]
          simp
      · cases finishes
        exact ⟨taken ++ marks, by rw [same, List.append_assoc], .unbound repeats⟩
  · cases finishes
    exact ⟨taken ++ marks, by rw [same, List.append_assoc], .unbound repeats⟩

theorem readTerms_takes
    (takes : ∀ close, Takes .alternatives (alternatives close))
    {fuel : Nat} :
    Takes .terms (readTerms alternatives close fuel) := by
  induction fuel with
  | zero =>
      intro tokens patterns rest reads
      cases reads
      exact ⟨[], rfl, .noTerms⟩
  | succ fuel inductionHypothesis =>
      intro tokens patterns rest reads
      unfold readTerms at reads
      split at reads
      · simp only [bind_eq_ok_iff, Prod.exists] at reads
        obtain ⟨term, _, readsTerm, terms, _, readsOthers, finishes⟩ := reads
        obtain ⟨taken, rfl, forms⟩ := readTerm_takes takes readsTerm
        obtain ⟨others, rfl, otherForms⟩ := inductionHypothesis readsOthers
        cases finishes
        exact ⟨taken ++ others, by simp, .terms forms otherForms⟩
      · cases reads
        exact ⟨[], rfl, .noTerms⟩

theorem readSequences_takes
    (takes : ∀ close, Takes .alternatives (alternatives close))
    {fuel : Nat} :
    Takes .sequences (readSequences alternatives close fuel) := by
  induction fuel with
  | zero => exact nofun
  | succ fuel inductionHypothesis =>
      intro tokens patterns rest reads
      simp only [readSequences, bind_eq_ok_iff, Prod.exists] at reads
      obtain ⟨terms, _, readsTerms, readsTail⟩ := reads
      obtain ⟨taken, rfl, forms⟩ := readTerms_takes takes readsTerms
      split at readsTail
      · next position joint after =>
          simp only [bind_eq_ok_iff, Prod.exists] at readsTail
          obtain ⟨sequences, _, readsOthers, finishes⟩ := readsTail
          obtain ⟨others, rfl, otherForms⟩ := inductionHypothesis readsOthers
          cases finishes
          exact ⟨taken ++ .mark position '|' joint :: others, by simp, .sequences forms otherForms⟩
      · cases readsTail
        exact ⟨taken, rfl, .sequence forms⟩

/-- Alternatives take tokens that stand for them. -/
theorem readAlternatives_takes (depth : Nat) (close : Position) :
    Takes .alternatives (readAlternatives depth close) := by
  induction depth generalizing close with
  | zero => exact nofun
  | succ depth inductionHypothesis =>
      intro tokens pattern rest reads
      simp only [readAlternatives, bind_eq_ok_iff, Prod.exists] at reads
      obtain ⟨sequences, _, readsSequences, finishes⟩ := reads
      obtain ⟨taken, rfl, forms⟩ := readSequences_takes inductionHypothesis readsSequences
      cases finishes
      exact ⟨taken, rfl, .alternatives forms⟩

/-- What is read as a pattern stands for it in the surface grammar. -/
theorem readPattern_takes (close : Position) :
    Takes .alternatives (readPattern close) :=
  readAlternatives_takes _ close

end Patterns

end Source
end Heirloom
