import Heirloom.Proofs.Source.Surface
import Heirloom.Source.Declaration

/-!
# Names in source

Every name in the tokens of a text is an identifier, perhaps with the raw mark.
So it has no hyphen in it, and no declared rule can be taken for an inline rule.
-/

namespace Heirloom
namespace Source

/-- The text is an identifier, perhaps with the raw mark. -/
def IsName (name : String) : Prop :=
  Text.isIdent name.toList ∨
    ∃ plain, name.toList = 'r' :: '#' :: plain ∧ Text.isIdent plain ∧ plain ∉ neverRawNames

/-! ## Reading names -/

section Reading

variable
  {chars name rest : List Char}

theorem isIdent_of_readPlainIdent
    (reads : readPlainIdent chars = some (name, rest)) :
    Text.isIdent name := by
  unfold readPlainIdent at reads
  split at reads
  · cases reads
  · split at reads
    · next starts =>
        cases reads
        simp [Text.isIdent, starts, List.all_takeWhile]
    · cases reads

theorem isName_of_readIdent
    (reads : readIdent chars = some (name, rest)) :
    IsName (String.ofList name) := by
  unfold readIdent at reads
  split at reads
  · split at reads
    · next plain after readsPlain =>
        split_ifs at reads with never
        cases reads
        refine .inr ⟨plain, String.toList_ofList, isIdent_of_readPlainIdent readsPlain, ?_⟩
        simpa using never
    · cases reads
  · refine .inl ?_
    rw [String.toList_ofList]
    exact isIdent_of_readPlainIdent reads

end Reading

/-- No identifier has a hyphen in it. -/
theorem hyphen_not_mem_of_isIdent
    {chars : List Char}
    (ident : Text.isIdent chars) :
    '-' ∉ chars := by
  cases chars with
  | nil => exact List.not_mem_nil
  | cons first others =>
      obtain ⟨starts, continues⟩ := Bool.and_eq_true_iff.mp ident
      obtain ⟨noStart, noContinue⟩ :=
        Text.not_ident_of_ascii (by decide) '-' (List.mem_singleton_self '-')
      rw [List.mem_cons]
      rintro (rfl | inside)
      · exact absurd starts (Bool.eq_false_iff.mp noStart)
      · exact absurd (List.all_eq_true.mp continues _ inside) (Bool.eq_false_iff.mp noContinue)

theorem IsName.ne_nil
    {name : String}
    (named : IsName name) :
    name.toList ≠ [] := by
  intro isEmpty
  rcases named with ident | ⟨plain, same, -⟩
  · rw [isEmpty] at ident
    cases ident
  · rw [isEmpty] at same
    cases same

/-- No name has a hyphen in it. -/
theorem IsName.no_hyphen
    {name : String}
    (named : IsName name) :
    '-' ∉ name.toList := by
  rcases named with ident | ⟨plain, same, ident, -⟩
  · exact hyphen_not_mem_of_isIdent ident
  · rw [same]
    simpa using hyphen_not_mem_of_isIdent ident

/-! ## Names in lexemes and tokens -/

/-- The lexeme is no name, or it is one. -/
def Lexeme.Named : Lexeme → Prop
  | ident name => IsName name
  | _ => True

/-- Every name in a token is one. -/
inductive Token.Named : Token → Prop
  | ident {position : Position} {name : String}
      (named : IsName name) :
      Named (.ident position name)
  | mark {position : Position} {char : Char} {joint : Bool} :
      Named (.mark position char joint)
  | literal {position : Position} {value : Literal} :
      Named (.literal position value)
  | group {delimiter : Delimiter} {opening closing : Position} {content : List Token}
      (inside : ∀ token ∈ content, Named token) :
      Named (.group delimiter opening closing content)

namespace Token.Named

theorem name
    {position : Position}
    {name : String}
    (named : (Token.ident position name).Named) :
    IsName name := by
  cases named
  assumption

theorem content
    {delimiter : Delimiter}
    {opening closing : Position}
    {content : List Token}
    (named : (Token.group delimiter opening closing content).Named) :
    ∀ token ∈ content, token.Named := by
  cases named
  assumption

end Token.Named

section Lexemes

variable
  {chars rest : List Char}
  {lexeme : Lexeme}

theorem named_of_readMark
    (reads : readMark chars = some (lexeme, rest)) :
    lexeme.Named := by
  unfold readMark at reads
  split_ifs at reads
  split at reads
  · unfold readLabelMark at reads
    split at reads
    · split_ifs at reads
      cases reads
      trivial
    · cases reads
  · cases reads
    trivial
  · cases reads

theorem named_of_readLeaf
    (reads : readLeaf chars = some (lexeme, rest)) :
    lexeme.Named := by
  unfold readLeaf at reads
  split at reads
  · cases reads
    trivial
  · split at reads
    · next read readsMark =>
        cases reads
        exact named_of_readMark readsMark
    · split_ifs at reads
      obtain ⟨⟨letters, after⟩, readsIdent, same⟩ := Option.map_eq_some_iff.mp reads
      cases same
      exact isName_of_readIdent readsIdent

theorem named_of_scan
    (scans : scan chars = .unit lexeme rest) :
    lexeme.Named := by
  unfold scan at scans
  split at scans
  · cases scans
  · split_ifs at scans
    cases scans
    trivial
  · split at scans
    · cases scans
    · split_ifs at scans
      unfold scanUnit at scans
      split at scans
      · cases scans
      · split at scans
        · split_ifs at scans
          all_goals
            cases scans
            trivial
        · cases scans
          trivial
        · split at scans
          · next readsLeaf =>
              cases scans
              exact named_of_readLeaf readsLeaf
          · cases scans

theorem named_of_mem_lexemesFrom
    {fuel : Nat}
    {position : Position}
    {read : Position × Lexeme}
    (mem : read ∈ (lexemesFrom fuel position chars).1) :
    read.2.Named := by
  fun_induction lexemesFrom fuel position chars with
  | case1 | case2 | case5 => cases mem
  | case3 fuel position chars _ _ rest scans inductionHypothesis => exact inductionHypothesis mem
  | case4 fuel position chars _ _ lexeme rest scans lexemes stuck same inductionHypothesis =>
      rcases List.mem_cons.mp mem with rfl | mem
      · exact named_of_scan scans
      · exact inductionHypothesis (same ▸ mem)

theorem named_of_mem_ofDoc
    {position : Position}
    {inner : Bool}
    {text : List Char}
    {token : Token}
    (mem : token ∈ Token.ofDoc position inner text) :
    token.Named := by
  have doc : IsName "doc" := .inl (by decide)
  have content : ∀ token ∈ [
      Token.ident position "doc",
      .mark position '=' false,
      .literal position (.text (String.ofList text))], token.Named := by
    simp [Token.Named.ident doc, Token.Named.mark, Token.Named.literal]
  unfold Token.ofDoc at mem
  rcases List.mem_cons.mp mem with rfl | mem
  · exact .mark
  · rcases List.mem_append.mp mem with mem | mem
    · split_ifs at mem
      · rw [List.mem_singleton.mp mem]
        exact .mark
      · cases mem
    · rw [List.mem_singleton.mp mem]
      exact .group content

/-- Grouping lexemes brings in no other names. -/
theorem named_of_groupLexemes
    {stuck : Option Position}
    {frames : List OpenDelimiter}
    {tokens : List Token}
    {lexemes : List (Position × Lexeme)}
    {result : List Token}
    (groups : groupLexemes stuck frames tokens lexemes = .ok result)
    (frameNames : ∀ frame ∈ frames, ∀ token ∈ frame.before, token.Named)
    (tokenNames : ∀ token ∈ tokens, token.Named)
    (lexemeNames : ∀ read ∈ lexemes, read.2.Named) :
    ∀ token ∈ result, token.Named := by
  fun_induction groupLexemes stuck frames tokens lexemes with
  | case1 | case3 | case9 | case11 => cases groups
  | case2 frames tokens =>
      cases groups
      intro token mem
      exact tokenNames token (List.mem_reverse.mp mem)
  | case4 frames tokens position name rest inductionHypothesis =>
      obtain ⟨named, others⟩ := List.forall_mem_cons.mp lexemeNames
      exact inductionHypothesis groups frameNames
        (List.forall_mem_cons.mpr ⟨.ident named, tokenNames⟩) others
  | case5 frames tokens position char joint rest inductionHypothesis =>
      obtain ⟨-, others⟩ := List.forall_mem_cons.mp lexemeNames
      exact inductionHypothesis groups frameNames
        (List.forall_mem_cons.mpr ⟨.mark, tokenNames⟩) others
  | case6 frames tokens position value rest inductionHypothesis =>
      obtain ⟨-, others⟩ := List.forall_mem_cons.mp lexemeNames
      exact inductionHypothesis groups frameNames
        (List.forall_mem_cons.mpr ⟨.literal, tokenNames⟩) others
  | case7 frames tokens position inner text rest inductionHypothesis =>
      obtain ⟨-, others⟩ := List.forall_mem_cons.mp lexemeNames
      refine inductionHypothesis groups frameNames (fun token mem => ?_) others
      rcases List.mem_append.mp mem with mem | mem
      · exact named_of_mem_ofDoc (List.mem_reverse.mp mem)
      · exact tokenNames token mem
  | case8 frames tokens position delimiter rest inductionHypothesis =>
      obtain ⟨-, others⟩ := List.forall_mem_cons.mp lexemeNames
      exact inductionHypothesis groups
        (List.forall_mem_cons.mpr ⟨tokenNames, frameNames⟩) nofun others
  | case10 tokens position rest frame frames inductionHypothesis =>
      obtain ⟨-, others⟩ := List.forall_mem_cons.mp lexemeNames
      obtain ⟨before, outer⟩ := List.forall_mem_cons.mp frameNames
      have grouped : ∀ token ∈ tokens.reverse, token.Named := fun token mem =>
        tokenNames token (List.mem_reverse.mp mem)
      exact inductionHypothesis groups outer
        (List.forall_mem_cons.mpr ⟨.group grouped, before⟩) others

/-- All names in the tokens of a text are names. -/
theorem named_of_tokenize
    {text : String}
    {tokens : List Token}
    (reads : tokenize text = .ok tokens) :
    ∀ token ∈ tokens, token.Named := by
  refine named_of_groupLexemes reads nofun nofun fun read mem => ?_
  split at mem
  · cases mem
  · split_ifs at mem
    all_goals exact named_of_mem_lexemesFrom mem

end Lexemes

/-! ## Patterns and declarations -/

/-- What holds of every pattern that is read: calls and bindings have names, a
range is not empty, and a choice or a sequence of one part is that part. -/
inductive Pattern.Written : Pattern → Prop
  | any : Written .any
  | undefined : Written .undefined
  | null : Written .null
  | bool {value : Bool} : Written (.bool value)
  | literal {position : Position} {value : Literal} : Written (.literal position value)
  | negative {position : Position} {signed : Bool} {value : Nat} :
      Written (.negative position signed value)
  | range {first last : Char}
      (ordered : first ≤ last) :
      Written (.range first last)
  | regex {position : Position} {source : String} : Written (.regex position source)
  | call {rule : String}
      (named : IsName rule)
      (free : rule ∉ reservedWords) :
      Written (.call rule)
  | alt {alternatives : List Pattern}
      (several : 2 ≤ alternatives.length)
      (parts : ∀ pattern ∈ alternatives, Written pattern) :
      Written (.alt alternatives)
  | seq {items : List Pattern}
      (several : items.length ≠ 1)
      (parts : ∀ pattern ∈ items, Written pattern) :
      Written (.seq items)
  | bind {body : Pattern} {name : String}
      (named : IsName name)
      (operand : Written body) :
      Written (.bind body name)
  | star {body : Pattern}
      (operand : Written body) :
      Written (.star body)
  | plus {body : Pattern}
      (operand : Written body) :
      Written (.plus body)
  | opt {body : Pattern}
      (operand : Written body) :
      Written (.opt body)
  | not {body : Pattern}
      (operand : Written body) :
      Written (.not body)
  | peek {body : Pattern}
      (operand : Written body) :
      Written (.peek body)
  | str {body : Pattern}
      (inside : Written body) :
      Written (.str body)
  | list {body : Pattern}
      (inside : Written body) :
      Written (.list body)
  | object {properties : List (Key × Pattern)} {lenient : Bool}
      (parts : ∀ property ∈ properties, Written property.2) :
      Written (.object properties lenient)
  | inline {body : Pattern}
      (inside : Written body) :
      Written (.inline body)

theorem Pattern.Written.ofSequence
    {items : List Pattern}
    (parts : ∀ pattern ∈ items, Pattern.Written pattern) :
    (Pattern.ofSequence items).Written := by
  match items with
  | [] => exact .seq (by simp) parts
  | [only] => exact parts only (List.mem_singleton_self _)
  | _ :: _ :: _ => exact .seq (by simp) parts

theorem Pattern.Written.ofAlternatives
    {patterns : List Pattern}
    (some : patterns ≠ [])
    (parts : ∀ pattern ∈ patterns, Pattern.Written pattern) :
    (Pattern.ofAlternatives patterns).Written := by
  match patterns with
  | [] => contradiction
  | [only] => exact parts only (List.mem_singleton_self _)
  | _ :: _ :: _ => exact .alt (by simp) parts

/-- Everything that a phrase stands for is written so. -/
def Phrase.Written : Phrase → Prop
  | atom pattern | prefixed pattern | repeated pattern | term pattern | alternatives pattern =>
      pattern.Written
  | terms patterns => ∀ pattern ∈ patterns, pattern.Written
  | sequences patterns => patterns ≠ [] ∧ ∀ pattern ∈ patterns, pattern.Written
  | properties members _ => ∀ property ∈ members, property.2.Written

/-- A phrase of named tokens stands for written patterns. -/
theorem Forms.written
    {phrase : Phrase}
    {tokens : List Token}
    (forms : Forms phrase tokens)
    (named : ∀ token ∈ tokens, token.Named) :
    phrase.Written := by
  induction forms with
  | any => exact .any
  | undefined => exact .undefined
  | null => exact .null
  | bool => exact .bool
  | call free => exact .call (named _ (List.mem_singleton_self _)).name free
  | literal => exact .literal
  | negative => exact .negative
  | negativeSigned => exact .negative
  | range ordered => exact .range ordered
  | regex => exact .regex
  | str inside inductionHypothesis =>
      rw [List.forall_mem_cons, List.forall_mem_append] at named
      exact .str (inductionHypothesis named.2.1)
  | inline inside inductionHypothesis =>
      rw [List.forall_mem_cons, List.forall_mem_singleton] at named
      exact .inline (inductionHypothesis named.2.content)
  | group inside inductionHypothesis =>
      rw [List.forall_mem_singleton] at named
      exact inductionHypothesis named.content
  | list inside inductionHypothesis =>
      rw [List.forall_mem_singleton] at named
      exact .list (inductionHypothesis named.content)
  | object inside inductionHypothesis =>
      rw [List.forall_mem_singleton] at named
      exact .object (inductionHypothesis named.content)
  | unsigned atom inductionHypothesis => exact inductionHypothesis named
  | not operand inductionHypothesis =>
      exact .not (inductionHypothesis (List.forall_mem_cons.mp named).2)
  | peek operand inductionHypothesis =>
      exact .peek (inductionHypothesis (List.forall_mem_cons.mp named).2)
  | once operand inductionHypothesis => exact inductionHypothesis named
  | star operand inductionHypothesis =>
      exact .star (inductionHypothesis (List.forall_mem_append.mp named).1)
  | plus operand inductionHypothesis =>
      exact .plus (inductionHypothesis (List.forall_mem_append.mp named).1)
  | opt operand inductionHypothesis =>
      exact .opt (inductionHypothesis (List.forall_mem_append.mp named).1)
  | unbound operand inductionHypothesis => exact inductionHypothesis named
  | bind operand inductionHypothesis =>
      rw [List.forall_mem_append, List.forall_mem_cons, List.forall_mem_singleton] at named
      exact .bind named.2.2.name (inductionHypothesis named.1)
  | noTerms => exact nofun
  | terms head tail headHypothesis tailHypothesis =>
      obtain ⟨headNamed, tailNamed⟩ := List.forall_mem_append.mp named
      exact List.forall_mem_cons.mpr ⟨headHypothesis headNamed, tailHypothesis tailNamed⟩
  | sequence only inductionHypothesis =>
      exact ⟨nofun, List.forall_mem_singleton.mpr (.ofSequence (inductionHypothesis named))⟩
  | sequences head tail headHypothesis tailHypothesis =>
      rw [List.forall_mem_append, List.forall_mem_cons] at named
      obtain ⟨headNamed, -, tailNamed⟩ := named
      have first := Pattern.Written.ofSequence (headHypothesis headNamed)
      exact ⟨nofun, List.forall_mem_cons.mpr ⟨first, (tailHypothesis tailNamed).2⟩⟩
  | alternatives all inductionHypothesis =>
      obtain ⟨some, parts⟩ := inductionHypothesis named
      exact .ofAlternatives some parts
  | noProperties => exact nofun
  | ellipsis => exact nofun
  | property key only inductionHypothesis =>
      rw [List.forall_mem_cons, List.forall_mem_cons] at named
      exact List.forall_mem_singleton.mpr (inductionHypothesis named.2.2)
  | properties key head tail headHypothesis tailHypothesis =>
      rw [List.forall_mem_cons, List.forall_mem_cons, List.forall_mem_append,
        List.forall_mem_cons] at named
      obtain ⟨-, -, headNamed, -, tailNamed⟩ := named
      exact List.forall_mem_cons.mpr ⟨headHypothesis headNamed, tailHypothesis tailNamed⟩

/-- What holds of every rule that is read. -/
structure RuleDeclaration.Written (rule : RuleDeclaration) : Prop where
  name : IsName rule.name
  body : rule.body.Written

/-- What holds of every declaration that is read. -/
structure Declaration.Written (declaration : Declaration) : Prop where
  name : IsName declaration.name
  inherits : ∀ reference, declaration.inherits = some reference → IsName reference.name
  rules : ∀ rule ∈ declaration.rules, rule.Written

section Declarations

variable
  {close : Position}
  {tokens rest : List Token}

theorem suffix_of_readOperator
    {operator : RuleOperator}
    (reads : readOperator close tokens = .ok (operator, rest)) :
    rest <:+ tokens := by
  unfold readOperator at reads
  split at reads
  · next follow =>
      obtain ⟨one, after, rfl, followOne⟩ := eq_of_afterMarks?_cons follow
      obtain ⟨two, joint, rfl⟩ := eq_of_afterMarks?_last followOne
      cases reads
      exact ⟨[_, _], rfl⟩
  · split at reads
    · cases reads
      exact ⟨[_, _], rfl⟩
    · cases reads
      exact ⟨[_], rfl⟩
    · cases reads

theorem written_of_readRule
    {rule : RuleDeclaration}
    (reads : readRule close tokens = .ok (rule, rest))
    (named : ∀ token ∈ tokens, token.Named) :
    rule.Written ∧ ∀ token ∈ rest, token.Named := by
  simp only [readRule, bind_eq_ok_iff, Prod.exists] at reads
  obtain ⟨name, position, _, readsName, operator, _, readsOperator, body, _, readsBody, finishes⟩ :=
    reads
  obtain rfl := eq_of_readName readsName
  obtain ⟨taken, rfl, forms⟩ := readPattern_takes close readsBody
  obtain ⟨nameNamed, others⟩ := List.forall_mem_cons.mp named
  have bodyNamed := fun token mem =>
    others token ((suffix_of_readOperator readsOperator).subset mem)
  obtain ⟨takenNamed, restNamed⟩ := List.forall_mem_append.mp bodyNamed
  cases finishes
  exact ⟨⟨nameNamed.name, forms.written takenNamed⟩, restNamed⟩

theorem written_of_readRules
    {fuel : Nat}
    {rules : List RuleDeclaration}
    (reads : readRules close fuel tokens = .ok rules)
    (named : ∀ token ∈ tokens, token.Named) :
    ∀ rule ∈ rules, rule.Written := by
  induction fuel generalizing tokens rules with
  | zero =>
      cases tokens with
      | nil =>
          cases reads
          exact nofun
      | cons token tokens => cases reads
  | succ fuel inductionHypothesis =>
      cases tokens with
      | nil =>
          cases reads
          exact nofun
      | cons token tokens =>
          simp only [readRules, bind_eq_ok_iff, Prod.exists] at reads
          obtain ⟨rule, _, readsRule, readsTail⟩ := reads
          obtain ⟨written, restNamed⟩ := written_of_readRule readsRule named
          split at readsTail
          · cases readsTail
            exact List.forall_mem_singleton.mpr written
          · simp only [bind_eq_ok_iff] at readsTail
            obtain ⟨_, readsComma, others, readsOthers, finishes⟩ := readsTail
            obtain ⟨comma, joint, rfl⟩ := eq_of_readMarkToken readsComma
            cases finishes
            obtain ⟨-, othersNamed⟩ := List.forall_mem_cons.mp restNamed
            exact List.forall_mem_cons.mpr ⟨written, inductionHypothesis readsOthers othersNamed⟩

theorem written_of_readInherits
    {inherits : Option GrammarRef}
    (reads : readInherits close tokens = .ok (inherits, rest))
    (named : ∀ token ∈ tokens, token.Named) :
    (∀ reference, inherits = some reference → IsName reference.name) ∧
      ∀ token ∈ rest, token.Named := by
  unfold readInherits at reads
  split at reads
  · simp only [bind_eq_ok_iff, Prod.exists] at reads
    obtain ⟨first, _, _, readsFirst, readsTail⟩ := reads
    obtain rfl := eq_of_readName readsFirst
    rw [List.forall_mem_cons, List.forall_mem_cons] at named
    split at readsTail
    · simp only [bind_eq_ok_iff, Prod.exists] at readsTail
      obtain ⟨second, _, _, readsSecond, finishes⟩ := readsTail
      obtain rfl := eq_of_readName readsSecond
      rw [List.forall_mem_cons, List.forall_mem_cons] at named
      cases finishes
      refine ⟨?_, named.2.2.2.2⟩
      rintro _ ⟨⟩
      exact named.2.2.2.1.name
    · cases readsTail
      refine ⟨?_, named.2.2⟩
      rintro _ ⟨⟩
      exact named.2.1.name
  · cases reads
    exact ⟨nofun, named⟩

theorem written_of_readDeclaration
    {declaration : Declaration}
    (reads : readDeclaration close tokens = .ok (declaration, rest))
    (named : ∀ token ∈ tokens, token.Named) :
    declaration.Written ∧ ∀ token ∈ rest, token.Named := by
  simp only [readDeclaration, bind_eq_ok_iff, Prod.exists] at reads
  obtain ⟨_, readsKeyword, name, _, _, readsName, inherits, _, readsInherits, readsBody⟩ := reads
  unfold readKeyword at readsKeyword
  split at readsKeyword
  · cases readsKeyword
    obtain rfl := eq_of_readName readsName
    rw [List.forall_mem_cons, List.forall_mem_cons] at named
    obtain ⟨-, nameNamed, others⟩ := named
    obtain ⟨inheritsNamed, bodyNamed⟩ := written_of_readInherits readsInherits others
    split at readsBody
    · simp only [bind_eq_ok_iff] at readsBody
      obtain ⟨rules, readsRules, finishes⟩ := readsBody
      cases finishes
      rw [List.forall_mem_cons] at bodyNamed
      have written := written_of_readRules readsRules bodyNamed.1.content
      exact ⟨⟨nameNamed.name, inheritsNamed, written⟩, bodyNamed.2⟩
    · cases readsBody
  · cases readsKeyword

theorem written_of_readDeclarations
    {fuel : Nat}
    {declarations : List Declaration}
    (reads : readDeclarations close fuel tokens = .ok declarations)
    (named : ∀ token ∈ tokens, token.Named) :
    ∀ declaration ∈ declarations, declaration.Written := by
  induction fuel generalizing tokens declarations with
  | zero =>
      cases tokens with
      | nil =>
          cases reads
          exact nofun
      | cons token tokens => cases reads
  | succ fuel inductionHypothesis =>
      cases tokens with
      | nil =>
          cases reads
          exact nofun
      | cons token tokens =>
          simp only [readDeclarations, bind_eq_ok_iff, Prod.exists] at reads
          obtain ⟨declaration, _, readsDeclaration, others, readsOthers, finishes⟩ := reads
          obtain ⟨written, restNamed⟩ := written_of_readDeclaration readsDeclaration named
          cases finishes
          exact List.forall_mem_cons.mpr ⟨written, inductionHypothesis readsOthers restNamed⟩

end Declarations

theorem named_of_readTokens
    {text : String}
    {tokens : List Token}
    (reads : readTokens text = .ok tokens) :
    ∀ token ∈ tokens, token.Named := by
  unfold readTokens at reads
  cases grouped : tokenize text with
  | error position =>
      rw [grouped] at reads
      cases reads
  | ok read =>
      rw [grouped] at reads
      cases reads
      exact named_of_tokenize grouped

/-- What is parsed as declarations is written so. -/
theorem written_of_parseAll
    {text : String}
    {declarations : List Declaration}
    (parses : parseAll text = .ok declarations) :
    ∀ declaration ∈ declarations, declaration.Written := by
  obtain ⟨tokens, reads, readsAll⟩ := bind_eq_ok_iff.mp parses
  exact written_of_readDeclarations readsAll (named_of_readTokens reads)

/-- What is parsed as one declaration is written so. -/
theorem written_of_parseOne
    {text : String}
    {declaration : Declaration}
    (parses : parseOne text = .ok declaration) :
    declaration.Written := by
  simp only [parseOne, bind_eq_ok_iff, Prod.exists] at parses
  obtain ⟨tokens, reads, read, rest, readsOne, finishes⟩ := parses
  split at finishes
  · cases finishes
    exact (written_of_readDeclaration readsOne (named_of_readTokens reads)).1
  · cases finishes

end Source
end Heirloom
