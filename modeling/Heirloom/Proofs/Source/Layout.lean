import Heirloom.Expr.Printer
import Heirloom.Proofs.Lowering
import Heirloom.Proofs.Registry.Atomicity
import Heirloom.Proofs.Renaming
import Heirloom.Proofs.Source.Parsing
import Heirloom.Proofs.Source.Precedence
import Heirloom.Proofs.Source.Tokens

/-!
# The layout of printed expressions

The written form of an expression is laid out as pieces: names, literals, marks,
delimiters and blanks. How adjacent characters would be read is left aside here: each
piece is a token of its own, and a mark of several characters is that many joint marks.
So what remains is whether parentheses stand where they are needed. They do: the tokens of
the layout are read to their end, as a pattern that stands for the expression.
-/

namespace Heirloom

open Source (Delimiter Lexeme Token)

/-! ## Pieces -/

/-- A piece of the written form of an expression. -/
inductive Piece
  | blank
  | name (word : String)
  | text (value : String)
  | char (value : Char)
  | number (value : Nat)
  | mark (first : Char) (others : List Char)
  | opening (delimiter : Delimiter)
  | closing (delimiter : Delimiter)

namespace Piece

/-- How a piece is written. -/
def render : Piece → String
  | blank => " "
  | name word => word
  | text value => Text.Quoted.text value
  | char value => Text.Quoted.char value
  | number value => toString value
  | mark first others => String.ofList (first :: others)
  | opening .paren => "("
  | opening .bracket => "["
  | opening .brace => "\x7b"
  | closing .paren => ")"
  | closing .bracket => "]"
  | closing .brace => "\x7d"

/-- How pieces are written one after another. -/
def renderAll : List Piece → String
  | [] => ""
  | piece :: pieces => piece.render ++ renderAll pieces

theorem renderAll_append (pieces others : List Piece) :
    renderAll (pieces ++ others) = renderAll pieces ++ renderAll others := by
  induction pieces with
  | nil => rw [List.nil_append, renderAll, String.empty_append]
  | cons piece pieces inductionHypothesis =>
      rw [List.cons_append, renderAll, inductionHypothesis, renderAll, String.append_assoc]

/-- The lexemes of a piece. All marks of a mark but the last are joint. -/
inductive Spells : Piece → List (Position × Lexeme) → Prop
  | blank : Spells .blank []
  | name {position : Position} {word : String} :
      Spells (.name word) [(position, .ident word)]
  | text {position : Position} {value : String} :
      Spells (.text value) [(position, .literal (.text value))]
  | char {position : Position} {value : Char} :
      Spells (.char value) [(position, .literal (.char value))]
  | number {position : Position} {value : Nat} :
      Spells (.number value) [(position, .literal (.integer value))]
  | mark {position : Position} {only : Char} {joint : Bool} :
      Spells (.mark only []) [(position, .mark only joint)]
  | joined {position : Position} {first second : Char} {others : List Char}
      {lexemes : List (Position × Lexeme)}
      (rest : Spells (.mark second others) lexemes) :
      Spells (.mark first (second :: others)) ((position, .mark first true) :: lexemes)
  | opening {position : Position} {delimiter : Delimiter} :
      Spells (.opening delimiter) [(position, .opening delimiter)]
  | closing {position : Position} {delimiter : Delimiter} :
      Spells (.closing delimiter) [(position, .closing delimiter)]

/-- The lexemes of pieces one after another. -/
inductive SpellAll : List Piece → List (Position × Lexeme) → Prop
  | nil : SpellAll [] []
  | cons {piece : Piece} {pieces : List Piece} {lexemes others : List (Position × Lexeme)}
      (first : Spells piece lexemes)
      (rest : SpellAll pieces others) :
      SpellAll (piece :: pieces) (lexemes ++ others)

theorem exists_spells (piece : Piece) :
    ∃ lexemes, piece.Spells lexemes := by
  cases piece with
  | mark first others =>
      induction others generalizing first with
      | nil => exact ⟨[(Position.start, .mark first false)], .mark⟩
      | cons second others inductionHypothesis =>
          obtain ⟨lexemes, spells⟩ := inductionHypothesis second
          exact ⟨(Position.start, .mark first true) :: lexemes, .joined spells⟩
  | blank => exact ⟨_, .blank⟩
  | name => exact ⟨[(Position.start, _)], .name⟩
  | text => exact ⟨[(Position.start, _)], .text⟩
  | char => exact ⟨[(Position.start, _)], .char⟩
  | number => exact ⟨[(Position.start, _)], .number⟩
  | opening => exact ⟨[(Position.start, _)], .opening⟩
  | closing => exact ⟨[(Position.start, _)], .closing⟩

theorem exists_spellAll (pieces : List Piece) :
    ∃ lexemes, SpellAll pieces lexemes := by
  induction pieces with
  | nil => exact ⟨[], .nil⟩
  | cons piece pieces inductionHypothesis =>
      obtain ⟨lexemes, spells⟩ := exists_spells piece
      obtain ⟨others, spellOthers⟩ := inductionHypothesis
      exact ⟨lexemes ++ others, .cons spells spellOthers⟩

/-- The lexemes of two runs of pieces are those of the one and those of the other. -/
theorem SpellAll.exists_of_append
    {pieces others : List Piece}
    {lexemes : List (Position × Lexeme)}
    (spell : SpellAll (pieces ++ others) lexemes) :
    ∃ first rest, lexemes = first ++ rest ∧ SpellAll pieces first ∧ SpellAll others rest := by
  induction pieces generalizing lexemes with
  | nil => exact ⟨[], lexemes, rfl, .nil, spell⟩
  | cons piece pieces inductionHypothesis =>
      cases spell with
      | cons spells spellRest =>
          obtain ⟨first, rest, rfl, spellFirst, spellOthers⟩ := inductionHypothesis spellRest
          exact ⟨_, rest, (List.append_assoc ..).symm, .cons spells spellFirst, spellOthers⟩

end Piece

/-! ## Layouts -/

open Piece (renderAll SpellAll)

/-- The pieces of a value. A word is one name. Lists and objects, for which no literal
stands, are not taken apart. -/
def Value.layout : Value → List Piece
  | int number =>
      match number.toInt with
      | .ofNat value => [.number value]
      | .negSucc value => [.mark '-' [], .number (value + 1)]
  | char c => [.char c]
  | str text => [.text text]
  | value => [.name value.render]

namespace Expr

/-- Put pieces in parentheses if needed. -/
def enclose (needed : Bool) (pieces : List Piece) : List Piece :=
  if needed then .opening .paren :: (pieces ++ [.closing .paren]) else pieces

/-- The piece of an object key. -/
def layoutKey (key : String) : Piece :=
  if isPlainKey key then .name key else .text key

/-- The dots of a lenient object pattern. -/
def ellipsis : Piece :=
  .mark '.' ['.', '.']

mutual

/-- The pieces of an expression. -/
def layout : Expr → List Piece
  | prim value => value.layout
  | app rule => [.name rule]
  | alt left right =>
      layout left ++ .blank :: .mark '|' [] :: .blank ::
        enclose (right.precedence < 1) (layout right)
  | seq [] => [.opening .paren, .closing .paren]
  | seq (item :: items) => enclose (item.precedence < 2) (layout item) ++ layoutTail items
  | bind body name => enclose (body.precedence < 3) (layout body) ++ [.mark ':' [], .name name]
  | many body min =>
      enclose (body.precedence < 4) (layout body) ++ [.mark (if min == 0 then '*' else '+') []]
  | opt body => enclose (body.precedence < 4) (layout body) ++ [.mark '?' []]
  | not body => .mark '~' [] :: enclose (body.precedence < 4) (layout body)
  | peek body => .mark '&' [] :: enclose (body.precedence < 4) (layout body)
  | str body => .mark '<' [] :: (layout body ++ [.mark '>' []])
  | lst body => .opening .bracket :: (layout body ++ [.closing .bracket])
  | obj [] true => [.opening .brace, ellipsis, .closing .brace]
  | obj properties true =>
      .opening .brace ::
        (layoutProperties properties ++ [.mark ',' [], .blank, ellipsis, .closing .brace])
  | obj properties false => .opening .brace :: (layoutProperties properties ++ [.closing .brace])
  | inline _ body => .mark '#' [] :: .opening .paren :: (layout body ++ [.closing .paren])
  | any => [.name "_"]
  | range chars => [.char chars.first, .mark '.' ['.', '='], .char chars.last]
  | regex literal => [.mark '/' [], .text literal.source, .mark '/' []]

/-- The pieces of the items of a sequence after its first. -/
def layoutTail : List Expr → List Piece
  | [] => []
  | item :: items => .blank :: (enclose (item.precedence < 2) (layout item) ++ layoutTail items)

/-- The pieces of the properties of an object pattern. -/
def layoutProperties : List (String × Expr) → List Piece
  | [] => []
  | [(key, body)] => layoutKey key :: .mark ':' [] :: .blank :: layout body
  | (key, body) :: properties =>
      layoutKey key :: .mark ':' [] :: .blank ::
        (layout body ++ .mark ',' [] :: .blank :: layoutProperties properties)

end

theorem renderAll_layout_value (value : Value) :
    renderAll value.layout = value.render := by
  cases value with
  | int number =>
      rw [Value.layout, Value.render, Value.renderInt]
      cases number.toInt with
      | ofNat value => exact String.append_empty
      | negSucc value =>
          change "-" ++ (toString (value + 1) ++ "") = _
          rw [String.append_empty]
          rfl
  | undefined | null | bool | char | str | list | object => exact String.append_empty

theorem renderAll_enclose (needed : Bool) (pieces : List Piece) :
    renderAll (enclose needed pieces) = parenthesize needed (renderAll pieces) := by
  cases needed with
  | false => rfl
  | true =>
      change "(" ++ renderAll (pieces ++ [.closing .paren]) = "(" ++ renderAll pieces ++ ")"
      rw [Piece.renderAll_append, String.append_assoc]
      rfl

theorem render_layoutKey (key : String) :
    (layoutKey key).render = renderKey key := by
  unfold layoutKey renderKey
  split <;> rfl

mutual

/-- The pieces of an expression are its written form. -/
theorem renderAll_layout : ∀ expr : Expr, renderAll expr.layout = expr.render
  | prim value => by
      rw [layout, render, renderAll_layout_value]
  | alt left right => by
      rw [layout, render, Piece.renderAll_append, renderAll_layout left, ← String.toList_inj]
      simp [renderAll, Piece.render, renderAll_enclose, renderAll_layout right]
  | seq [] => rfl
  | seq (item :: items) => by
      rw [layout, render, Piece.renderAll_append, renderAll_enclose, renderAll_layout item,
        renderAll_layoutTail items]
  | bind body _ | opt body => by
      rw [layout, render, Piece.renderAll_append, renderAll_enclose, renderAll_layout body,
        ← String.toList_inj]
      simp [renderAll, Piece.render]
  | many body min => by
      rw [layout, render, Piece.renderAll_append, renderAll_enclose, renderAll_layout body]
      cases min <;> rfl
  | not body | peek body => by
      rw [layout, render, renderAll, renderAll_enclose, renderAll_layout body]
      rfl
  | str body | lst body | inline _ body => by
      rw [layout, render, ← String.toList_inj]
      simp [renderAll, Piece.render, Piece.renderAll_append, renderAll_layout body]
  | obj [] true => rfl
  | obj (property :: properties) true => by
      have same := renderAll_layoutProperties (property :: properties)
      rw [layout, render, ← String.toList_inj]
      · simp [renderAll, Piece.render, Piece.renderAll_append, same, ellipsis]
      all_goals nofun
  | obj properties false => by
      have same := renderAll_layoutProperties properties
      rw [layout, render, ← String.toList_inj]
      simp [renderAll, Piece.render, Piece.renderAll_append, same]
  | app _ | any => String.append_empty
  | range _ => by
      rw [layout, render, ← String.toList_inj]
      simp [renderAll, Piece.render, CharRange.render]
  | regex _ => by
      rw [layout, render, ← String.toList_inj]
      simp [renderAll, Piece.render]

theorem renderAll_layoutTail : ∀ items : List Expr, renderAll (layoutTail items) = renderTail items
  | [] => rfl
  | item :: items => by
      rw [layoutTail, renderTail, renderAll, Piece.renderAll_append, renderAll_enclose,
        renderAll_layout item, renderAll_layoutTail items, String.append_assoc]
      rfl

theorem renderAll_layoutProperties : ∀ properties : List (String × Expr),
    renderAll (layoutProperties properties) = renderProperties properties
  | [] => rfl
  | [(key, body)] => by
      rw [layoutProperties, renderProperties, renderAll, render_layoutKey, ← String.toList_inj]
      simp [renderAll, Piece.render, renderAll_layout body]
  | (key, body) :: next :: properties => by
      have same := renderAll_layoutProperties (next :: properties)
      rw [layoutProperties, renderProperties, renderAll, render_layoutKey, ← String.toList_inj]
      · simp [renderAll, Piece.render, Piece.renderAll_append, renderAll_layout body, same]
      all_goals nofun

end

mutual

/-- Names of inline expressions are not laid out. -/
theorem layout_rename (names : String → String) : ∀ expr : Expr,
    (expr.rename names).layout = expr.layout
  | prim _ | app _ | any | range _ | regex _ => rfl
  | alt left right => by
      rw [rename, layout, layout, layout_rename names left, layout_rename names right,
        precedence_rename]
  | seq [] => rfl
  | seq (item :: items) => by
      rw [rename, renameItems, layout, layout, layout_rename names item, precedence_rename,
        layoutTail_rename names items]
  | bind body _ | many body _ | opt body | not body | peek body => by
      rw [rename, layout, layout, layout_rename names body, precedence_rename]
  | str body | lst body | inline _ body => by
      rw [rename, layout, layout, layout_rename names body]
  | obj [] true => rfl
  | obj (property :: properties) true => by
      have same := layoutProperties_rename names (property :: properties)
      rw [renameProperties] at same
      rw [rename, renameProperties, layout, layout, same]
      all_goals nofun
  | obj properties false => by
      rw [rename, layout, layout, layoutProperties_rename names properties]

theorem layoutTail_rename (names : String → String) : ∀ items : List Expr,
    layoutTail (renameItems names items) = layoutTail items
  | [] => rfl
  | item :: items => by
      rw [renameItems, layoutTail, layoutTail, layout_rename names item, precedence_rename,
        layoutTail_rename names items]

theorem layoutProperties_rename (names : String → String) :
    ∀ properties : List (String × Expr),
      layoutProperties (renameProperties names properties) = layoutProperties properties
  | [] => rfl
  | [(key, body)] => by
      rw [renameProperties, renameProperties, layoutProperties, layoutProperties,
        layout_rename names body]
  | (key, body) :: next :: properties => by
      have others := layoutProperties_rename names (next :: properties)
      rw [renameProperties] at others
      rw [renameProperties, renameProperties, layoutProperties, layout_rename names body, others]
      · rfl
      · nofun

end

end Expr

/-! ## Tokens of a layout -/

namespace Source

/-- Grouping recovers tokens from their lexemes. -/
theorem Token.lexemesAll_injective : Function.Injective Token.lexemesAll := by
  intro tokens others same
  have grouped : ∀ content, groupLexemes none [] [] (Token.lexemesAll content) = .ok content := by
    intro content
    rw [← List.append_nil (Token.lexemesAll content), groupLexemes_lexemesAll, groupLexemes,
      List.append_nil, List.reverse_reverse]
  exact Except.ok.inj ((grouped tokens).symm.trans (same ▸ grouped others))

/-- Whatever lexemes the pieces have, they are those of tokens of the given kind. -/
def Groups (pieces : List Piece) (good : List Token → Prop) : Prop :=
  ∀ lexemes, SpellAll pieces lexemes → ∃ tokens, Token.lexemesAll tokens = lexemes ∧ good tokens

namespace Groups

variable
  {pieces others : List Piece}
  {good first second : List Token → Prop}

theorem mono
    {better : List Token → Prop}
    (groups : Groups pieces good)
    (implies : ∀ tokens, good tokens → better tokens) :
    Groups pieces better := by
  intro lexemes spell
  obtain ⟨tokens, same, isGood⟩ := groups lexemes spell
  exact ⟨tokens, same, implies tokens isGood⟩

theorem nothing
    (isGood : good []) :
    Groups [] good := by
  rintro _ ⟨⟩
  exact ⟨[], rfl, isGood⟩

/-- Pieces after pieces. -/
theorem append
    (groups : Groups pieces first)
    (groupsOthers : Groups others second) :
    Groups (pieces ++ others) fun tokens =>
      ∃ taken rest, tokens = taken ++ rest ∧ first taken ∧ second rest := by
  intro lexemes spell
  obtain ⟨_, _, rfl, spellFirst, spellRest⟩ := spell.exists_of_append
  obtain ⟨taken, rfl, isFirst⟩ := groups _ spellFirst
  obtain ⟨rest, rfl, isSecond⟩ := groupsOthers _ spellRest
  exact ⟨taken ++ rest, Token.lexemesAll_append .., taken, rest, rfl, isFirst, isSecond⟩

/-- A blank before pieces. -/
theorem blank
    (groups : Groups pieces good) :
    Groups (.blank :: pieces) good := by
  rintro _ (_ | ⟨⟨⟩, spell⟩)
  exact groups _ spell

/-- A piece that is one token. -/
theorem leaf
    {piece : Piece}
    (isToken : ∀ lexemes, piece.Spells lexemes →
      ∃ token : Token, token.lexemes = lexemes ∧ good [token]) :
    Groups [piece] good := by
  rintro _ (_ | ⟨spells, ⟨⟩⟩)
  obtain ⟨token, rfl, isGood⟩ := isToken _ spells
  exact ⟨[token], by rw [Token.lexemesAll_singleton, List.append_nil], isGood⟩

theorem name
    (word : String) :
    Groups [.name word] fun tokens => ∃ position, tokens = [.ident position word] := by
  refine leaf ?_
  rintro _ ⟨⟩
  exact ⟨.ident _ word, by rw [Token.lexemes], _, rfl⟩

theorem text (value : String) :
    Groups [.text value] fun tokens => ∃ position, tokens = [.literal position (.text value)] := by
  refine leaf ?_
  rintro _ ⟨⟩
  exact ⟨.literal _ (.text value), by rw [Token.lexemes], _, rfl⟩

theorem char (value : Char) :
    Groups [.char value] fun tokens => ∃ position, tokens = [.literal position (.char value)] := by
  refine leaf ?_
  rintro _ ⟨⟩
  exact ⟨.literal _ (.char value), by rw [Token.lexemes], _, rfl⟩

theorem number (value : Nat) :
    Groups [.number value] fun tokens =>
      ∃ position, tokens = [.literal position (.integer value)] := by
  refine leaf ?_
  rintro _ ⟨⟩
  exact ⟨.literal _ (.integer value), by rw [Token.lexemes], _, rfl⟩

theorem mark (only : Char) :
    Groups [.mark only []] fun tokens =>
      ∃ position joint, tokens = [.mark position only joint] := by
  refine leaf ?_
  rintro _ ⟨⟩
  exact ⟨.mark _ only _, by rw [Token.lexemes], _, _, rfl⟩

/-- Three marks without gaps between them. -/
theorem marks (one two three : Char) :
    Groups [.mark one [two, three]] fun tokens =>
      ∃ first second third joint, tokens =
        [.mark first one true, .mark second two true, .mark third three joint] := by
  rintro _ (_ | ⟨spells, ⟨⟩⟩)
  cases spells with
  | @joined first _ _ _ _ spells =>
      cases spells with
      | @joined second _ _ _ _ spells =>
          cases spells with
          | @mark third _ joint =>
              exact ⟨[.mark first one true, .mark second two true, .mark third three joint],
                by simp [Token.lexemesAll, Token.lexemes], first, second, third, joint, rfl⟩

/-- What stands between two delimiters is the content of a group. -/
theorem group
    (delimiter : Delimiter)
    (groups : Groups pieces good) :
    Groups (.opening delimiter :: (pieces ++ [Piece.closing delimiter])) fun tokens =>
      ∃ opening closing content,
        tokens = [.group delimiter opening closing content] ∧ good content := by
  rintro _ (_ | ⟨opens, spell⟩)
  obtain ⟨_, _, rfl, spellInside, spellClosing⟩ := spell.exists_of_append
  obtain ⟨content, rfl, isGood⟩ := groups _ spellInside
  rcases spellClosing with _ | ⟨closes, ⟨⟩⟩
  cases opens with
  | @opening first =>
      cases closes with
      | @closing last =>
          exact ⟨[.group delimiter first last content], by simp [Token.lexemesAll, Token.lexemes],
            first, last, content, rfl, isGood⟩

end Groups

/-! ### Expressions -/

/-- The tokens of its layout stand for the expression. -/
def LaidOut (expr : Expr) : Prop :=
  Groups expr.layout (StandsFor expr expr.precedence)

namespace LaidOut

variable {expr body : Expr}

theorem whole
    (laidOut : LaidOut expr) :
    Groups expr.layout (StandsFor expr 0) :=
  laidOut.mono fun _ stands => stands.of_le (Nat.zero_le _)

/-- An operand is laid out in parentheses if it binds less tightly than its place asks
for. -/
theorem operand
    {level : Nat}
    (laidOut : LaidOut expr)
    (known : level ≤ 5) :
    Groups (Expr.enclose (expr.precedence < level) expr.layout) (StandsFor expr level) := by
  by_cases loose : expr.precedence < level
  · rw [Expr.enclose, if_pos (decide_eq_true loose)]
    refine (Groups.group .paren laidOut.whole).mono ?_
    rintro _ ⟨opening, closing, content, rfl, stands⟩
    exact (stands.parenthesized opening closing).of_le known
  · rw [Expr.enclose, if_neg (by simpa using loose)]
    exact laidOut.mono fun _ stands => stands.of_le (Nat.le_of_not_lt loose)

/-- A sign before an operand. -/
theorem sign
    {c : Char}
    (laidOut : LaidOut body)
    (stands : ∀ {tokens position joint}, StandsFor body 4 tokens →
      StandsFor expr 4 (.mark position c joint :: tokens)) :
    Groups (.mark c [] :: Expr.enclose (body.precedence < 4) body.layout) (StandsFor expr 4) := by
  refine ((Groups.mark c).append (laidOut.operand (by decide))).mono ?_
  rintro _ ⟨_, tokens, rfl, ⟨position, joint, rfl⟩, operand⟩
  exact stands operand

/-- A mark of repetition after an operand. -/
theorem repetition
    {c : Char}
    (laidOut : LaidOut body)
    (stands : ∀ {tokens position joint}, StandsFor body 3 tokens →
      StandsFor expr 3 (tokens ++ [Token.mark position c joint])) :
    Groups (Expr.enclose (body.precedence < 4) body.layout ++ [Piece.mark c []])
      (StandsFor expr 3) := by
  refine ((laidOut.operand (by decide)).append (Groups.mark c)).mono ?_
  rintro _ ⟨tokens, _, rfl, operand, position, joint, rfl⟩
  exact stands operand.weaken

end LaidOut

theorem laidOut_prim
    {value : Value}
    (scalar : value.IsScalar) :
    LaidOut (.prim value) := by
  have word : ∀ {word pattern}, Pattern.outline? pattern = some (.prim value) →
      (∀ {position}, Forms (.atom pattern) [.ident position word]) →
        Groups [.name word] (StandsFor (.prim value) 5) := by
    intro word pattern outlines forms
    refine (Groups.name word).mono ?_
    rintro _ ⟨position, rfl⟩
    exact ⟨pattern, outlines, forms⟩
  unfold LaidOut
  rw [Expr.layout]
  cases value with
  | undefined => exact word rfl .undefined
  | null => exact word rfl .null
  | bool value =>
      have same : (Value.bool value).layout = [.name (toString value)] := by
        cases value <;> rfl
      rw [same]
      exact word rfl .bool
  | int number =>
      rw [Value.layout]
      cases isNumber : number.toInt with
      | ofNat value =>
          refine (Groups.number value).mono ?_
          rintro _ ⟨position, rfl⟩
          exact .number isNumber
      | negSucc value =>
          refine ((Groups.mark '-').append (Groups.number (value + 1))).mono ?_
          rintro _ ⟨_, _, rfl, ⟨sign, joint, rfl⟩, position, rfl⟩
          exact .negative isNumber
  | char c =>
      refine (Groups.char c).mono ?_
      rintro _ ⟨position, rfl⟩
      exact .literal rfl
  | str text =>
      refine (Groups.text text).mono ?_
      rintro _ ⟨position, rfl⟩
      exact .literal rfl
  | list | object => exact absurd scalar not_false

theorem laidOut_alt
    {left right : Expr}
    (laidOutLeft : LaidOut left)
    (laidOutRight : LaidOut right) :
    LaidOut (.alt left right) := by
  unfold LaidOut
  rw [Expr.layout]
  refine (laidOutLeft.whole.append (.blank ((Groups.mark '|').append
    (.blank (laidOutRight.operand (by decide : 1 ≤ 5)))))).mono ?_
  rintro _ ⟨tokens, _, rfl, first, _, others, rfl, ⟨position, joint, rfl⟩, second⟩
  exact .alt first second

/-- The items of a sequence after its first. -/
theorem groups_layoutTail
    {items : List Expr}
    (laidOut : ∀ item ∈ items, LaidOut item) :
    Groups (Expr.layoutTail items) (StandForAll items) := by
  induction items with
  | nil => exact .nothing .nil
  | cons item items inductionHypothesis =>
      obtain ⟨laidOutItem, laidOut⟩ := List.forall_mem_cons.mp laidOut
      rw [Expr.layoutTail]
      refine .blank (((laidOutItem.operand (by decide)).append
        (inductionHypothesis laidOut)).mono ?_)
      rintro _ ⟨tokens, others, rfl, head, tail⟩
      exact .cons head tail

theorem laidOut_seq
    {items : List Expr}
    (several : items.length ≠ 1)
    (laidOut : ∀ item ∈ items, LaidOut item) :
    LaidOut (.seq items) := by
  match items with
  | [] =>
      have nothing : Groups [] (· = []) := .nothing rfl
      refine (Groups.group .paren nothing).mono ?_
      rintro _ ⟨opening, closing, _, rfl, rfl⟩
      exact .emptySeq opening closing
  | [item] => exact absurd rfl several
  | first :: second :: others =>
      obtain ⟨laidOutFirst, laidOut⟩ := List.forall_mem_cons.mp laidOut
      unfold LaidOut
      rw [Expr.layout]
      refine ((laidOutFirst.operand (by decide)).append (groups_layoutTail laidOut)).mono ?_
      rintro _ ⟨tokens, others, rfl, head, tail⟩
      exact .seq head tail

theorem laidOut_bind
    {body : Expr}
    {name : String}
    (laidOut : LaidOut body) :
    LaidOut (.bind body name) := by
  unfold LaidOut
  rw [Expr.layout]
  refine ((laidOut.operand (by decide : 3 ≤ 5)).append
    ((Groups.mark ':').append (Groups.name name))).mono ?_
  rintro _ ⟨tokens, _, rfl, operand, _, _, rfl, ⟨position, joint, rfl⟩, namePosition, rfl⟩
  exact .bind operand

theorem laidOut_many
    {body : Expr}
    {min : Nat}
    (least : min ≤ 1)
    (laidOut : LaidOut body) :
    LaidOut (.many body min) := by
  unfold LaidOut
  rw [Expr.layout]
  match min with
  | 0 => exact laidOut.repetition .star
  | 1 => exact laidOut.repetition .plus

theorem laidOut_str
    {body : Expr}
    (laidOut : LaidOut body) :
    LaidOut (.str body) := by
  unfold LaidOut
  rw [Expr.layout]
  refine ((Groups.mark '<').append (laidOut.whole.append (Groups.mark '>'))).mono ?_
  rintro _ ⟨_, _, rfl, ⟨position, joint, rfl⟩, tokens, _, rfl, inside, closing, last, rfl⟩
  exact .str inside

theorem laidOut_lst
    {body : Expr}
    (laidOut : LaidOut body) :
    LaidOut (.lst body) := by
  unfold LaidOut
  rw [Expr.layout]
  refine (Groups.group .bracket laidOut.whole).mono ?_
  rintro _ ⟨opening, closing, content, rfl, inside⟩
  exact .lst inside

theorem laidOut_inline
    {body : Expr}
    (laidOut : LaidOut body) :
    LaidOut (.inline "" body) := by
  unfold LaidOut
  rw [Expr.layout]
  refine ((Groups.mark '#').append (Groups.group .paren laidOut.whole)).mono ?_
  rintro _ ⟨_, _, rfl, ⟨position, joint, rfl⟩, opening, closing, content, rfl, inside⟩
  exact .inline inside

theorem groups_ellipsis :
    Groups [Expr.ellipsis] (StandForProperties [] true) := by
  refine (Groups.marks '.' '.' '.').mono ?_
  rintro _ ⟨one, two, three, joint, rfl⟩
  exact .ellipsis

theorem groups_layoutKey (key : String) :
    Groups [Expr.layoutKey key] fun tokens =>
      ∃ position token, tokens = [token] ∧ Names ⟨key, position⟩ token := by
  unfold Expr.layoutKey
  split
  · refine (Groups.name key).mono ?_
    rintro _ ⟨position, rfl⟩
    exact ⟨position, _, rfl, .ident⟩
  · refine (Groups.text key).mono ?_
    rintro _ ⟨position, rfl⟩
    exact ⟨position, _, rfl, .text⟩

/-- A property is a key, a colon and a pattern. -/
theorem groups_property
    {key : String}
    {body : Expr}
    (laidOut : LaidOut body) :
    Groups (Expr.layoutKey key :: .mark ':' [] :: .blank :: body.layout) fun tokens =>
      ∃ position token colon joint content,
        tokens = token :: .mark colon ':' joint :: content ∧ Names ⟨key, position⟩ token ∧
          StandsFor body 0 content := by
  refine ((groups_layoutKey key).append ((Groups.mark ':').append (.blank laidOut.whole))).mono ?_
  rintro _ ⟨_, _, rfl, ⟨position, token, rfl, named⟩, _, content, rfl, ⟨colon, joint, rfl⟩, stands⟩
  exact ⟨position, token, colon, joint, content, rfl, named, stands⟩

/-- The properties of an object pattern and the dots after them if it is lenient. -/
theorem groups_layoutProperties
    {properties : List (String × Expr)}
    {lenient : Bool}
    (some : properties ≠ [])
    (laidOut : ∀ property ∈ properties, LaidOut property.2) :
    Groups (Expr.layoutProperties properties ++
        if lenient then [.mark ',' [], .blank, Expr.ellipsis] else [])
      (StandForProperties properties lenient) := by
  induction properties with
  | nil => contradiction
  | cons property others inductionHypothesis =>
      obtain ⟨key, body⟩ := property
      obtain ⟨laidOutBody, laidOut⟩ := List.forall_mem_cons.mp laidOut
      match others, lenient with
      | [], false =>
          rw [Expr.layoutProperties, if_neg Bool.false_ne_true, List.append_nil]
          refine (groups_property laidOutBody).mono ?_
          rintro _ ⟨position, token, colon, joint, content, rfl, named, stands⟩
          exact .one named stands
      | [], true =>
          rw [Expr.layoutProperties, if_pos rfl]
          refine ((groups_property laidOutBody).append ((Groups.mark ',').append
            (.blank groups_ellipsis))).mono ?_
          rintro _ ⟨_, _, rfl, ⟨position, token, colon, joint, content, rfl, named, stands⟩, _,
            dots, rfl, ⟨comma, commaJoint, rfl⟩, ellipsis⟩
          exact .cons named stands ellipsis
      | next :: others, lenient =>
          have same : Expr.layoutProperties ((key, body) :: next :: others) ++
                (if lenient then [.mark ',' [], .blank, Expr.ellipsis] else []) =
              (Expr.layoutKey key :: .mark ':' [] :: .blank :: body.layout) ++
                (.mark ',' [] :: .blank :: (Expr.layoutProperties (next :: others) ++
                  if lenient then [.mark ',' [], .blank, Expr.ellipsis] else [])) := by
            simp [Expr.layoutProperties]
          rw [same]
          refine ((groups_property laidOutBody).append ((Groups.mark ',').append
            (.blank (inductionHypothesis (List.cons_ne_nil _ _) laidOut)))).mono ?_
          rintro _ ⟨_, _, rfl, ⟨position, token, colon, joint, content, rfl, named, stands⟩, _,
            rest, rfl, ⟨comma, commaJoint, rfl⟩, others⟩
          exact .cons named stands others

theorem laidOut_obj
    {properties : List (String × Expr)}
    {lenient : Bool}
    (distinct : (properties.map Prod.fst).Nodup)
    (laidOut : ∀ property ∈ properties, LaidOut property.2) :
    LaidOut (.obj properties lenient) := by
  have inside : Groups (Expr.obj properties lenient).layout fun tokens =>
      ∃ opening closing content, tokens = [.group .brace opening closing content] ∧
        StandForProperties properties lenient content := by
    match properties, lenient with
    | [], false => exact .group .brace (.nothing .nil)
    | [], true => exact .group .brace groups_ellipsis
    | property :: others, lenient =>
        have same : (Expr.obj (property :: others) lenient).layout =
            .opening .brace :: ((Expr.layoutProperties (property :: others) ++
              if lenient then [.mark ',' [], .blank, Expr.ellipsis] else []) ++
                [.closing .brace]) := by
          cases lenient <;> simp [Expr.layout]
        rw [same]
        exact .group .brace (groups_layoutProperties (List.cons_ne_nil _ _) laidOut)
  refine inside.mono ?_
  rintro _ ⟨opening, closing, content, rfl, inside⟩
  exact .obj distinct inside

/-- Whatever can come from source is laid out so that its tokens stand for it. -/
theorem laidOut_of_outlined
    {expr : Expr}
    (outlined : expr.Outlined) :
    LaidOut expr := by
  induction outlined with
  | prim scalar => exact laidOut_prim scalar
  | @app rule _ free =>
      refine (Groups.name rule).mono ?_
      rintro _ ⟨position, rfl⟩
      exact ⟨.call rule, rfl, .call free⟩
  | alt _ _ laidOutLeft laidOutRight => exact laidOut_alt laidOutLeft laidOutRight
  | seq several _ laidOut => exact laidOut_seq several laidOut
  | bind _ _ laidOut => exact laidOut_bind laidOut
  | many least _ laidOut => exact laidOut_many least laidOut
  | opt _ laidOut => exact laidOut.repetition .opt
  | not _ laidOut => exact laidOut.sign .not
  | peek _ laidOut => exact laidOut.sign .peek
  | str _ laidOut => exact laidOut_str laidOut
  | lst _ laidOut => exact laidOut_lst laidOut
  | inline _ laidOut => exact laidOut_inline laidOut
  | obj distinct _ laidOut => exact laidOut_obj distinct laidOut
  | any =>
      refine (Groups.name "_").mono ?_
      rintro _ ⟨position, rfl⟩
      exact ⟨.any, rfl, .any⟩
  | @range first last ordered =>
      refine ((Groups.char first).append ((Groups.marks '.' '.' '=').append
        (Groups.char last))).mono ?_
      rintro _ ⟨_, _, rfl, ⟨opening, rfl⟩, _, _, rfl, ⟨one, two, three, joint, rfl⟩, closing, rfl⟩
      exact .range ordered
  | @regex literal =>
      refine ((Groups.mark '/').append ((Groups.text literal.source).append
        (Groups.mark '/'))).mono ?_
      rintro _ ⟨_, _, rfl, ⟨opening, joint, rfl⟩, _, _, rfl, ⟨position, rfl⟩, closing, last, rfl⟩
      exact .regex literal

/-! ### Expressions from source -/

/-- The tokens of a printed rule body, whatever their places, are read to the end as a
pattern, and compiling the pattern gives the body again but for the names of inline
expressions. -/
theorem layout_reads_back
    {extent : Extent}
    {source : String}
    {declarations : List Declaration}
    {declaration : Declaration}
    {rule : RuleDeclaration}
    {builder after : Builder}
    {expr : Expr}
    (parses : extent.declarations source = .ok declarations)
    (declares : declaration ∈ declarations)
    (mem : rule ∈ declaration.rules)
    (lowers : (lower rule.body).run.run builder = (.ok expr, after)) :
    renderAll expr.layout = expr.render ∧
      (∃ tokens, SpellAll expr.layout (Token.lexemesAll tokens)) ∧
      ∀ tokens close, SpellAll expr.layout (Token.lexemesAll tokens) →
        ∃ pattern, readPattern close tokens = .ok (pattern, []) ∧
          ∀ builder, ∃ again after,
            (lower pattern).run.run builder = (.ok again, after) ∧
              again.anonymous = expr.anonymous := by
  have written := (extent.written_of_declarations parses declaration declares).rules rule mem
  have outlines := ((lower_goesBy rule.body).of_ok lowers).1
  have laidOut : Groups expr.layout (StandsFor expr.anonymous 0) := by
    rw [← Expr.layout_rename fun _ => ""]
    exact (laidOut_of_outlined (written.body.outlined outlines)).whole
  refine ⟨expr.renderAll_layout, ?_, fun tokens close spell => ?_⟩
  · obtain ⟨lexemes, spell⟩ := Piece.exists_spellAll expr.layout
    obtain ⟨tokens, rfl, -⟩ := laidOut lexemes spell
    exact ⟨tokens, spell⟩
  · obtain ⟨others, same, stands⟩ := laidOut _ spell
    obtain rfl := Token.lexemesAll_injective same
    obtain ⟨pattern, outlinesAgain, forms⟩ := stands.alternatives
    refine ⟨pattern, ?_, fun builder => ?_⟩
    · have reads := forms.readPattern .nil close
      rwa [List.append_nil] at reads
    · have goes := lower_goesBy pattern builder
      rw [outlinesAgain] at goes
      obtain ⟨again, last, lowersAgain, same, -⟩ := goes
      exact ⟨again, last, lowersAgain, same⟩

/-- A choice inside a repetition inside a choice keeps its parentheses. -/
theorem nested_choice_reads_back :
    ∃ declarations declaration rule expr after,
      Extent.all.declarations "grammar G\x7br=_|((_|#(_ r)):x)*\x7d" = .ok declarations ∧
      declaration ∈ declarations ∧ rule ∈ declaration.rules ∧
      (lower rule.body).run.run Builder.empty = (.ok expr, after) ∧
      expr.render = "_ | ((_ | #(_ r)):x)*" ∧ renderAll expr.layout = expr.render ∧
      ∀ tokens close, SpellAll expr.layout (Token.lexemesAll tokens) →
        ∃ pattern, readPattern close tokens = .ok (pattern, []) ∧
          ∀ builder, ∃ again after,
            (lower pattern).run.run builder = (.ok again, after) ∧
              again.anonymous = expr.anonymous := by
  obtain ⟨declarations, parses, someLowers⟩ := exists_ok_of_any
    (by decide +kernel :
      (Extent.all.declarations "grammar G\x7br=_|((_|#(_ r)):x)*\x7d").toOption.any
        (fun declarations => declarations.any fun declaration =>
          declaration.rules.any fun rule =>
            ((lower rule.body).run.run Builder.empty).1.toOption.any fun expr =>
              decide (expr.render = "_ | ((_ | #(_ r)):x)*")) = true)
  obtain ⟨declaration, declares, someLowers⟩ := List.any_eq_true.mp someLowers
  obtain ⟨rule, mem, lowers⟩ := List.any_eq_true.mp someLowers
  obtain ⟨expr, after, ends, printed⟩ := exists_run_eq_ok_of_any lowers
  obtain ⟨rendered, -, readBack⟩ := layout_reads_back parses declares mem ends
  exact ⟨declarations, declaration, rule, expr, after, parses, declares, mem, ends,
    of_decide_eq_true printed, rendered, readBack⟩

end Source
end Heirloom
