import Heirloom.Proofs.Source.Lexing

/-!
# Tokens read back

Grouping the lexemes of tokens gives the tokens. So a text is read as tokens
piece by piece: each piece is scanned as the lexemes of some tokens, wherever it
stands, and the tokens of the whole text are those of its pieces.
-/

namespace Heirloom
namespace Source

namespace Token

mutual

/-- The lexemes of a token with their positions. -/
def lexemes : Token → List (Position × Lexeme)
  | ident position name => [(position, .ident name)]
  | mark position char joint => [(position, .mark char joint)]
  | literal position value => [(position, .literal value)]
  | group delimiter opening closing content =>
      (opening, .opening delimiter) :: (lexemesAll content ++ [(closing, .closing delimiter)])

/-- The lexemes of tokens with their positions. -/
def lexemesAll : List Token → List (Position × Lexeme)
  | [] => []
  | token :: tokens => lexemes token ++ lexemesAll tokens

end

theorem lexemesAll_append (tokens others : List Token) :
    lexemesAll (tokens ++ others) = lexemesAll tokens ++ lexemesAll others := by
  induction tokens with
  | nil => rfl
  | cons token tokens inductionHypothesis =>
      rw [List.cons_append, lexemesAll, inductionHypothesis, lexemesAll, List.append_assoc]

theorem lexemesAll_singleton (token : Token) :
    lexemesAll [token] = token.lexemes := by
  rw [lexemesAll, lexemesAll, List.append_nil]

end Token

section Grouping

variable {stuck : Option Position}

mutual

theorem groupLexemes_lexemes :
    ∀ (token : Token) (frames : List OpenDelimiter) (tokens : List Token)
      (rest : List (Position × Lexeme)),
      groupLexemes stuck frames tokens (token.lexemes ++ rest) =
        groupLexemes stuck frames (token :: tokens) rest
  | .ident _ _, _, _, _ | .mark _ _ _, _, _, _ | .literal _ _, _, _, _ => by
      rw [Token.lexemes, List.singleton_append, groupLexemes]
  | .group delimiter opening closing content, frames, tokens, rest => by
      rw [Token.lexemes, List.cons_append, groupLexemes, List.append_assoc,
        groupLexemes_lexemesAll, List.singleton_append, groupLexemes, if_pos rfl,
        List.append_nil, List.reverse_reverse]

/-- Grouping the lexemes of tokens gives the tokens. -/
theorem groupLexemes_lexemesAll :
    ∀ (content : List Token) (frames : List OpenDelimiter) (tokens : List Token)
      (rest : List (Position × Lexeme)),
      groupLexemes stuck frames tokens (Token.lexemesAll content ++ rest) =
        groupLexemes stuck frames (content.reverse ++ tokens) rest
  | [], _, _, _ => rfl
  | token :: content, frames, tokens, rest => by
      rw [Token.lexemesAll, List.append_assoc, groupLexemes_lexemes, groupLexemes_lexemesAll,
        List.reverse_cons, List.append_assoc, List.singleton_append]

end

end Grouping

/-! ## Scanning on and on -/

/-- Scanning goes from one place in a text to another over these lexemes. -/
inductive Scans :
    Position → List Char → List (Position × Lexeme) → Position → List Char → Prop
  | done {position : Position} {chars : List Char} :
      Scans position chars [] position chars
  | gap {position last : Position} {chars middle rest : List Char}
      {lexemes : List (Position × Lexeme)}
      (scans : scan chars = .gap middle)
      (shorter : middle.length < chars.length)
      (others :
        Scans (position.advance (chars.take (chars.length - middle.length))) middle lexemes
          last rest) :
      Scans position chars lexemes last rest
  | unit {position last : Position} {chars middle rest : List Char} {lexeme : Lexeme}
      {lexemes : List (Position × Lexeme)}
      (scans : scan chars = .unit lexeme middle)
      (shorter : middle.length < chars.length)
      (others :
        Scans (position.advance (chars.take (chars.length - middle.length))) middle lexemes
          last rest) :
      Scans position chars ((position, lexeme) :: lexemes) last rest

namespace Scans

variable
  {position middle last : Position}
  {chars between rest : List Char}
  {lexemes others : List (Position × Lexeme)}

theorem append
    (first : Scans position chars lexemes middle between)
    (second : Scans middle between others last rest) :
    Scans position chars (lexemes ++ others) last rest := by
  induction first with
  | done => exact second
  | gap scans shorter _ inductionHypothesis => exact .gap scans shorter (inductionHypothesis second)
  | unit scans shorter _ inductionHypothesis =>
      exact .unit scans shorter (inductionHypothesis second)

/-- To scan to the end is to read all lexemes. -/
theorem lexemesFrom
    (scans : Scans position chars lexemes last [])
    {fuel : Nat}
    (enough : chars.length ≤ fuel) :
    Source.lexemesFrom fuel position chars = (lexemes, none) := by
  generalize ends : ([] : List Char) = rest at scans
  induction scans generalizing fuel with
  | done =>
      subst ends
      rw [Source.lexemesFrom]
  | @gap position last chars middle rest lexemes scans shorter others inductionHypothesis =>
      obtain ⟨fuel, rfl⟩ : ∃ less, fuel = less + 1 := ⟨fuel - 1, by omega⟩
      cases chars with
      | nil => cases shorter
      | cons c chars =>
          have shrunk : middle.length ≤ fuel := by omega
          simp only [Source.lexemesFrom, scans, inductionHypothesis shrunk ends]
  | @unit position last chars middle rest lexeme lexemes scans shorter others
      inductionHypothesis =>
      obtain ⟨fuel, rfl⟩ : ∃ less, fuel = less + 1 := ⟨fuel - 1, by omega⟩
      cases chars with
      | nil => cases shorter
      | cons c chars =>
          have shrunk : middle.length ≤ fuel := by omega
          simp only [Source.lexemesFrom, scans, inductionHypothesis shrunk ends]

end Scans

/-! ## Reading -/

/-- Wherever the characters stand, reading them up to the rest gives tokens of
the given kind. -/
def Reads (chars rest : List Char) (good : List Token → Prop) : Prop :=
  ∀ position, ∃ tokens last, good tokens ∧
    Scans position chars (Token.lexemesAll tokens) last rest

namespace Reads

variable
  {chars middle rest : List Char}
  {good first second : List Token → Prop}

theorem mono
    {better : List Token → Prop}
    (reads : Reads chars rest good)
    (implies : ∀ tokens, good tokens → better tokens) :
    Reads chars rest better := by
  intro position
  obtain ⟨tokens, last, isGood, scans⟩ := reads position
  exact ⟨tokens, last, implies tokens isGood, scans⟩

theorem nothing
    (isGood : good []) :
    Reads rest rest good :=
  fun position => ⟨[], position, isGood, .done⟩

/-- One piece after another. -/
theorem append
    (reads : Reads chars middle first)
    (readsOthers : Reads middle rest second) :
    Reads chars rest fun tokens =>
      ∃ taken others, tokens = taken ++ others ∧ first taken ∧ second others := by
  intro position
  obtain ⟨tokens, between, isFirst, scans⟩ := reads position
  obtain ⟨others, last, isSecond, scansOthers⟩ := readsOthers between
  refine ⟨tokens ++ others, last, ⟨tokens, others, rfl, isFirst, isSecond⟩, ?_⟩
  rw [Token.lexemesAll_append]
  exact scans.append scansOthers

/-- A gap before a piece. -/
theorem gap
    (scans : scan chars = .gap middle)
    (shorter : middle.length < chars.length)
    (reads : Reads middle rest good) :
    Reads chars rest good := by
  intro position
  obtain ⟨tokens, last, isGood, scansOthers⟩ :=
    reads (position.advance (chars.take (chars.length - middle.length)))
  exact ⟨tokens, last, isGood, .gap scans shorter scansOthers⟩

/-- One lexeme that is a token. -/
theorem leaf
    {token : Position → Token}
    {lexeme : Lexeme}
    (scans : scan chars = .unit lexeme rest)
    (shorter : rest.length < chars.length)
    (same : ∀ position, (token position).lexemes = [(position, lexeme)]) :
    Reads chars rest fun tokens => ∃ position, tokens = [token position] := by
  intro position
  have scansToken : Scans position chars [(position, lexeme)] _ rest := .unit scans shorter .done
  rw [← same, ← Token.lexemesAll_singleton] at scansToken
  exact ⟨[token position], _, ⟨position, rfl⟩, scansToken⟩

theorem ident
    {name : String}
    (named : IsName name)
    (ends : EndsWord rest) :
    Reads (name.toList ++ rest) rest fun tokens => ∃ position, tokens = [.ident position name] := by
  refine leaf (scan_name named ends) ?_ fun _ => by rw [Token.lexemes]
  rw [List.length_append]
  exact Nat.lt_add_of_pos_left (List.length_pos_iff.mpr named.ne_nil)

theorem text
    (text : String)
    (ends : EndsLiteral rest) :
    Reads ((Text.Quoted.text text).toList ++ rest) rest fun tokens =>
      ∃ position, tokens = [.literal position (.text text)] := by
  refine leaf (scan_text text ends) ?_ fun _ => by rw [Token.lexemes]
  simp [Text.Quoted.text, Text.Quoted.encode]
  omega

theorem char
    (c : Char)
    (ends : EndsLiteral rest) :
    Reads ((Text.Quoted.char c).toList ++ rest) rest fun tokens =>
      ∃ position, tokens = [.literal position (.char c)] := by
  refine leaf (scan_char c ends) ?_ fun _ => by rw [Token.lexemes]
  simp [Text.Quoted.char, Text.Quoted.encode]
  omega

theorem number
    (value : Nat)
    (ends : EndsWord rest) :
    Reads ((toString value).toList ++ rest) rest fun tokens =>
      ∃ position, tokens = [.literal position (.integer value)] := by
  refine leaf (scan_number value ends) ?_ fun _ => by rw [Token.lexemes]
  simp [Nat.length_toDigits_pos]

theorem mark
    {c : Char}
    (isMark : c ∈ markChars)
    (noLabel : c ≠ '\'')
    (noComment : c = '/' → ∀ next ∈ rest.head?, next ≠ '/' ∧ next ≠ '*') :
    Reads (c :: rest) rest fun tokens =>
      ∃ position, tokens = [.mark position c (startsWithMark rest)] :=
  leaf (scan_mark isMark noLabel noComment) (Nat.lt_succ_self _) fun _ => by rw [Token.lexemes]

/-- A mark that starts neither a label nor a comment. -/
theorem plainMark
    (c : Char)
    (isPlain : c ∈ markChars ∧ c ≠ '\'' ∧ c ≠ '/')
    (chars : List Char) :
    Reads (c :: chars) chars fun tokens =>
      ∃ position, tokens = [.mark position c (startsWithMark chars)] :=
  mark isPlain.1 isPlain.2.1 fun isSlash => absurd isSlash isPlain.2.2

/-- A blank before a piece. -/
theorem blank
    {c : Char}
    (isBlank : c = ' ' ∨ c = '\n')
    (reads : Reads chars rest good) :
    Reads (c :: chars) rest good := by
  refine gap ?_ (Nat.lt_succ_self _) reads
  rcases isBlank with rfl | rfl <;> rfl

/-- What stands between two delimiters is the content of a group. -/
theorem group
    {opening closing : Char}
    {delimiter : Delimiter}
    (opens : delimiter? opening = some (delimiter, true))
    (closes : delimiter? closing = some (delimiter, false))
    (noComment : opening = '(' → ∀ after, chars ≠ '/' :: '*' :: after)
    (reads : Reads chars (closing :: rest) good) :
    Reads (opening :: chars) rest fun tokens =>
      ∃ first last content, tokens = [.group delimiter first last content] ∧ good content := by
  intro position
  obtain ⟨content, last, isGood, scans⟩ := reads (position.advance
    ((opening :: chars).take ((opening :: chars).length - chars.length)))
  have scansClosing : Scans last (closing :: rest) [(last, .closing delimiter)] _ rest :=
    .unit (scan_closing closes) (Nat.lt_succ_self _) .done
  have scansGroup := Scans.unit (scan_opening opens noComment) (Nat.lt_succ_self _)
    (scans.append scansClosing)
  rw [← Token.lexemes, ← Token.lexemesAll_singleton] at scansGroup
  exact ⟨_, _, ⟨position, last, content, rfl, isGood⟩, scansGroup⟩

/-- A text that is read to its end is tokenized. -/
theorem tokenize
    {text : String}
    (reads : Reads text.toList [] good)
    (noMark : ∀ c ∈ text.toList.head?, c.toNat ≠ 0xFEFF) :
    ∃ tokens, Source.tokenize text = .ok tokens ∧ good tokens := by
  obtain ⟨tokens, last, isGood, scans⟩ := reads Position.start
  have whole : lexemes text.toList = (Token.lexemesAll tokens, none) := by
    rw [← scans.lexemesFrom (Nat.le_refl _)]
    unfold lexemes
    cases same : text.toList with
    | nil => rfl
    | cons c chars => simp [noMark c (by simp [same])]
  refine ⟨tokens, ?_, isGood⟩
  rw [Source.tokenize, whole]
  dsimp only
  rw [← List.append_nil (Token.lexemesAll tokens), groupLexemes_lexemesAll, groupLexemes,
    List.append_nil, List.reverse_reverse]

end Reads

end Source
end Heirloom
