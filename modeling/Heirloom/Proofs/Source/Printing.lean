import Heirloom.Proofs.Renaming
import Heirloom.Proofs.Source.Parsing
import Heirloom.Proofs.Source.Precedence
import Heirloom.Proofs.Source.Tokens
import Heirloom.Expr.Printer

/-!
# Printed expressions read back

The written form of an expression is read as tokens of a pattern that stands for
the expression, if the expression can come from source and its written form is
legible. Two things make a written form illegible: a star directly after the
slash of a regular expression, which opens a comment, and an object key that is
written without quotes although it is no identifier.
-/

namespace Heirloom

/-! ## Legible expressions -/

namespace Expr

/-- Whether the last character of the written form is the slash of a regular
expression. Only signs can stand before an atom without a gap. -/
def endsInSlash : Expr → Bool
  | regex _ => true
  | not body => endsInSlash body
  | peek body => endsInSlash body
  | _ => false

mutual

/-- Whether no star stands directly after a slash, and every key that is written
without quotes is an identifier. -/
def isLegible : Expr → Bool
  | alt left right => isLegible left && isLegible right
  | seq items => areLegible items
  | bind body _ => isLegible body
  | many body min => isLegible body && (min != 0 || !body.endsInSlash)
  | opt body => isLegible body
  | not body => isLegible body
  | peek body => isLegible body
  | str body => isLegible body
  | lst body => isLegible body
  | obj properties _ => propertiesAreLegible properties
  | inline _ body => isLegible body
  | _ => true

/-- Whether each expression of a list is legible. -/
def areLegible : List Expr → Bool
  | [] => true
  | item :: items => isLegible item && areLegible items

/-- Whether each property has a legible key and a legible pattern. -/
def propertiesAreLegible : List (String × Expr) → Bool
  | [] => true
  | (key, body) :: properties =>
      (!isPlainKey key || Text.isIdent key.toList) && isLegible body &&
        propertiesAreLegible properties

end

theorem areLegible_iff {items : List Expr} :
    areLegible items ↔ ∀ item ∈ items, item.isLegible := by
  induction items with
  | nil => simp [areLegible]
  | cons item items inductionHypothesis => simp [areLegible, inductionHypothesis]

theorem propertiesAreLegible_iff {properties : List (String × Expr)} :
    propertiesAreLegible properties ↔
      ∀ property ∈ properties,
        (isPlainKey property.1 → Text.isIdent property.1.toList) ∧ property.2.isLegible := by
  induction properties with
  | nil => simp [propertiesAreLegible]
  | cons property properties inductionHypothesis =>
      obtain ⟨key, body⟩ := property
      cases plain : isPlainKey key <;> simp [propertiesAreLegible, inductionHypothesis, plain]

theorem endsInSlash_rename (names : String → String) : ∀ expr : Expr,
    (expr.rename names).endsInSlash = expr.endsInSlash
  | not body => endsInSlash_rename names body
  | peek body => endsInSlash_rename names body
  | prim _ | app _ | alt _ _ | seq _ | bind _ _ | many _ _ | opt _ | str _ | lst _ | obj _ _
  | inline _ _ | any | range _ | regex _ => rfl

mutual

/-- Names of inline expressions do not matter to how legible they are. -/
theorem isLegible_rename (names : String → String) : ∀ expr : Expr,
    (expr.rename names).isLegible = expr.isLegible
  | prim _ | app _ | any | range _ | regex _ => rfl
  | alt left right => by
      rw [rename, isLegible, isLegible, isLegible_rename names left, isLegible_rename names right]
  | seq items => by
      rw [rename, isLegible, isLegible, areLegible_rename names items]
  | many body _ => by
      rw [rename, isLegible, isLegible, isLegible_rename names body, endsInSlash_rename]
  | bind body _ | opt body | not body | peek body | str body | lst body | inline _ body => by
      rw [rename, isLegible, isLegible, isLegible_rename names body]
  | obj properties _ => by
      rw [rename, isLegible, isLegible, propertiesAreLegible_rename names properties]

theorem areLegible_rename (names : String → String) : ∀ items : List Expr,
    areLegible (renameItems names items) = areLegible items
  | [] => rfl
  | item :: items => by
      rw [renameItems, areLegible, areLegible, isLegible_rename names item,
        areLegible_rename names items]

theorem propertiesAreLegible_rename (names : String → String) :
    ∀ properties : List (String × Expr),
      propertiesAreLegible (renameProperties names properties) = propertiesAreLegible properties
  | [] => rfl
  | (key, body) :: properties => by
      rw [renameProperties, propertiesAreLegible, propertiesAreLegible,
        isLegible_rename names body, propertiesAreLegible_rename names properties]

end

end Expr

namespace Source

open Pattern (outline?)

/-! ## What follows an expression -/

/-- The characters that can stand directly after a printed expression. -/
def boundaries : List Char := " :*+?)]>\x7d,".toList

/-- What follows an expression, as an operand of some level, does not go on with
it. Only a repetition puts a star after its operand. -/
def EndsOperand (expr : Expr) (level : Nat) (rest : List Char) : Prop :=
  ∀ c ∈ rest.head?, c ∈ boundaries ∧ (c = '*' → 4 ≤ level ∧ expr.endsInSlash = false)

namespace EndsOperand

variable
  {expr other : Expr}
  {level otherLevel : Nat}
  {rest : List Char}

theorem endsWord
    (ends : EndsOperand expr level rest) :
    EndsWord rest := by
  have noName : ∀ c ∈ boundaries, Text.isIdentStart c = false ∧ Text.isIdentContinue c = false :=
    Text.not_ident_of_ascii (by decide)
  have noJoiner : ∀ c ∈ boundaries, c ∉ joiners := List.all_iff_forall_prop.mp (by decide)
  intro c isHead
  have isBoundary := (ends c isHead).1
  exact ⟨(noName c isBoundary).1, (noName c isBoundary).2, noJoiner c isBoundary⟩

theorem cons
    {c : Char}
    (isBoundary : c ∈ boundaries)
    (noStar : c ≠ '*') :
    EndsOperand expr level (c :: rest) := by
  rintro _ ⟨⟩
  exact ⟨isBoundary, fun isStar => absurd isStar noStar⟩

/-- No star follows what binds loosely. -/
theorem of_loose
    (ends : EndsOperand expr level rest)
    (loose : level < 4) :
    EndsOperand other otherLevel rest := by
  intro c isHead
  obtain ⟨isBoundary, tight⟩ := ends c isHead
  exact ⟨isBoundary, fun isStar => absurd (tight isStar).1 (Nat.not_le.mpr loose)⟩

end EndsOperand

/-! ## Expressions read back -/

/-- Wherever the expression is printed, its tokens stand for it. -/
def ReadsBack (expr : Expr) : Prop :=
  ∀ rest, EndsOperand expr expr.precedence rest →
    Reads (expr.render.toList ++ rest) rest (StandsFor expr expr.precedence)

/-- The text does not start as a comment does. -/
def OpensNoComment (text : String) : Prop :=
  ∀ rest after, text.toList ++ rest ≠ '/' :: '*' :: after

section Opening

variable
  {text first second : String}
  {c : Char}
  {chars : List Char}

theorem OpensNoComment.of_cons
    (starts : text.toList = c :: chars)
    (noSlash : c ≠ '/') :
    OpensNoComment text := by
  intro rest after same
  rw [starts] at same
  exact noSlash (List.cons.inj same).1

theorem OpensNoComment.append
    (opens : OpensNoComment first) :
    OpensNoComment (first ++ second) := by
  intro rest after
  rw [String.toList_append, List.append_assoc]
  exact opens _ after

theorem OpensNoComment.parenthesize
    {needed : Bool}
    (opens : OpensNoComment text) :
    OpensNoComment (Expr.parenthesize needed text) := by
  cases needed with
  | false => exact opens
  | true => exact .append (.append (.of_cons rfl (by decide)))

end Opening

theorem opensNoComment_of_isName
    {name : String}
    (named : IsName name) :
    OpensNoComment name := by
  rcases named with ident | ⟨plain, same, -⟩
  · cases same : name.toList with
    | nil =>
        rw [same] at ident
        cases ident
    | cons c chars =>
        rw [same] at ident
        obtain ⟨starts, -⟩ := Bool.and_eq_true_iff.mp ident
        refine .of_cons same ?_
        rintro rfl
        exact absurd (by decide) (not_mem_punctuation starts)
  · exact .of_cons same (by decide : 'r' ≠ '/')

theorem opensNoComment_toString (value : Nat) :
    OpensNoComment (toString value) := by
  obtain ⟨first, others, same, isDigit⟩ := exists_digit_cons value
  refine .of_cons same ?_
  rintro rfl
  cases isDigit

/-- No printed expression starts as a comment does. -/
theorem opensNoComment_render
    {expr : Expr}
    (outlined : expr.Outlined) :
    OpensNoComment expr.render := by
  induction outlined with
  | @prim value scalar =>
      rw [Expr.render]
      cases value with
      | undefined | null => exact .of_cons rfl (by decide)
      | bool value => cases value <;> exact .of_cons rfl (by decide)
      | char | str =>
          rw [Value.render]
          exact .of_cons String.toList_ofList (by decide)
      | int number =>
          rw [Value.render, Value.renderInt]
          cases number.toInt with
          | ofNat value => exact opensNoComment_toString value
          | negSucc value => exact .append (.of_cons rfl (by decide))
      | list | object => exact absurd scalar not_false
  | app named =>
      rw [Expr.render]
      exact opensNoComment_of_isName named
  | alt _ _ inductionHypothesis =>
      rw [Expr.render]
      exact .append (.append inductionHypothesis)
  | @seq items several _ inductionHypothesis =>
      cases items with
      | nil => exact .of_cons rfl (by decide)
      | cons item items =>
          rw [Expr.render]
          exact .append (.parenthesize (inductionHypothesis item (List.mem_cons_self ..)))
  | bind _ _ inductionHypothesis =>
      rw [Expr.render]
      exact .append (.append (.parenthesize inductionHypothesis))
  | many _ _ inductionHypothesis | opt _ inductionHypothesis =>
      rw [Expr.render]
      exact .append (.parenthesize inductionHypothesis)
  | not | peek =>
      rw [Expr.render]
      exact .append (.of_cons rfl (by decide))
  | str | lst | inline =>
      rw [Expr.render]
      exact .append (.append (.of_cons rfl (by decide)))
  | @obj properties lenient =>
      cases lenient with
      | false =>
          rw [Expr.render]
          exact .append (.append (.of_cons rfl (by decide)))
      | true =>
          cases properties with
          | nil => exact .of_cons rfl (by decide)
          | cons =>
              rw [Expr.render]
              · exact .append (.append (.of_cons rfl (by decide)))
              · exact List.cons_ne_nil _ _
  | any => exact .of_cons rfl (by decide)
  | range =>
      rw [Expr.render, CharRange.render]
      exact .append (.append (.of_cons String.toList_ofList (by decide)))
  | regex =>
      -- The slash is followed by a quotation mark.
      rw [Expr.render]
      intro rest after
      simp [Text.Quoted.text, Text.Quoted.encode]

/-! ## Operands -/

section Operands

variable
  {body expr : Expr}
  {level : Nat}
  {rest : List Char}

/-- Before a boundary the whole of an expression is read. -/
theorem ReadsBack.whole
    (readsBack : ReadsBack expr)
    {c : Char}
    (isBoundary : c ∈ boundaries)
    (noStar : c ≠ '*') :
    Reads (expr.render.toList ++ c :: rest) (c :: rest) (StandsFor expr 0) :=
  (readsBack _ (.cons isBoundary noStar)).mono fun _ stands => stands.of_le (Nat.zero_le _)

theorem ReadsBack.alternatives
    (readsBack : ReadsBack expr)
    {c : Char}
    (isBoundary : c ∈ boundaries)
    (noStar : c ≠ '*') :
    Reads (expr.render.toList ++ c :: rest) (c :: rest) fun tokens =>
      ∃ pattern, outline? pattern = some expr ∧ Forms (.alternatives pattern) tokens :=
  (readsBack.whole isBoundary noStar).mono fun _ stands => stands.alternatives

/-- An operand is printed in parentheses if it binds less tightly than its place
asks for. -/
theorem ReadsBack.operand
    (readsBack : ReadsBack expr)
    (outlined : expr.Outlined)
    (known : level ≤ 5)
    (ends : EndsOperand expr level rest) :
    Reads ((Expr.parenthesize (expr.precedence < level) expr.render).toList ++ rest) rest
      (StandsFor expr level) := by
  by_cases loose : expr.precedence < level
  · have same : (Expr.parenthesize (expr.precedence < level) expr.render).toList ++ rest =
        '(' :: (expr.render.toList ++ ')' :: rest) := by
      simp [Expr.parenthesize, loose]
    have inside := readsBack (')' :: rest) (.cons (by decide) (by decide))
    rw [same]
    refine (Reads.group rfl rfl (fun _ => opensNoComment_render outlined _) inside).mono ?_
    rintro _ ⟨opening, closing, content, rfl, stands⟩
    exact ((stands.of_le (Nat.zero_le _)).parenthesized opening closing).of_le known
  · have tight : level ≤ expr.precedence := Nat.le_of_not_lt loose
    have same : Expr.parenthesize (expr.precedence < level) expr.render = expr.render := by
      simp [Expr.parenthesize, loose]
    rw [same]
    refine (readsBack rest fun c isHead => ?_).mono fun tokens stands => stands.of_le tight
    obtain ⟨isBoundary, atLeast⟩ := ends c isHead
    exact ⟨isBoundary, fun isStar => (atLeast isStar).imp_left (Nat.le_trans · tight)⟩

/-- A sign before an operand. -/
theorem ReadsBack.sign
    (readsBack : ReadsBack body)
    (outlined : body.Outlined)
    (ends : EndsOperand body 4 rest)
    {c : Char}
    (isSign : c ∈ ['~', '&'])
    (stands : ∀ {tokens position joint}, StandsFor body 4 tokens →
      StandsFor expr 4 (.mark position c joint :: tokens)) :
    Reads (c :: ((Expr.parenthesize (body.precedence < 4) body.render).toList ++ rest)) rest
      (StandsFor expr 4) := by
  have plain : ∀ c ∈ ['~', '&'], c ∈ markChars ∧ c ≠ '\'' ∧ c ≠ '/' :=
    List.all_iff_forall_prop.mp (by decide)
  have operand := readsBack.operand outlined (by decide) ends
  refine ((Reads.plainMark c (plain c isSign) _).append operand).mono ?_
  rintro _ ⟨_, tokens, rfl, ⟨position, rfl⟩, operand⟩
  exact stands operand

/-- A mark of repetition after an operand. -/
theorem ReadsBack.repetition
    (readsBack : ReadsBack body)
    (outlined : body.Outlined)
    {c : Char}
    (ends : EndsOperand body 4 (c :: rest))
    (isMark : c ∈ ['*', '+', '?'])
    (stands : ∀ {tokens position joint}, StandsFor body 3 tokens →
      StandsFor expr 3 (tokens ++ [Token.mark position c joint])) :
    Reads ((Expr.parenthesize (body.precedence < 4) body.render).toList ++ c :: rest) rest
      (StandsFor expr 3) := by
  have plain : ∀ c ∈ ['*', '+', '?'], c ∈ markChars ∧ c ≠ '\'' ∧ c ≠ '/' :=
    List.all_iff_forall_prop.mp (by decide)
  have operand := readsBack.operand outlined (by decide) ends
  refine (operand.append (Reads.plainMark c (plain c isMark) rest)).mono ?_
  rintro _ ⟨tokens, _, rfl, operand, position, rfl⟩
  exact stands operand.weaken

end Operands

/-! ## Atoms -/

section Atoms

variable
  {body expr : Expr}
  {rest : List Char}

theorem isName_of_reserved :
    ∀ word ∈ reservedWords, IsName word := by
  have idents : ∀ word ∈ reservedWords, Text.isIdent word.toList := by decide
  exact fun word reserved => .inl (idents word reserved)

/-- A word that stands for an expression. -/
theorem reads_word
    {word : String}
    {pattern : Pattern}
    (named : IsName word)
    (ends : EndsWord rest)
    (outlines : outline? pattern = some expr)
    (forms : ∀ {position}, Forms (.atom pattern) [.ident position word]) :
    Reads (word.toList ++ rest) rest (StandsFor expr 5) := by
  refine (Reads.ident named ends).mono ?_
  rintro _ ⟨position, rfl⟩
  exact ⟨pattern, outlines, forms⟩

theorem reads_prim
    {value : Value}
    (scalar : value.IsScalar) :
    ReadsBack (.prim value) := by
  intro rest follows
  have ends : EndsWord rest := follows.endsWord
  clear follows
  rw [Expr.render]
  cases value with
  | undefined => exact reads_word (isName_of_reserved _ (by decide)) ends rfl .undefined
  | null => exact reads_word (isName_of_reserved _ (by decide)) ends rfl .null
  | bool value =>
      have same : (Value.bool value).render = toString value := by
        cases value <;> rfl
      rw [same]
      refine reads_word (isName_of_reserved _ ?_) ends rfl .bool
      cases value <;> decide
  | int number =>
      rw [Value.render, Value.renderInt]
      cases sign : number.toInt with
      | ofNat value =>
          refine (Reads.number value ends).mono ?_
          rintro _ ⟨position, rfl⟩
          exact .number sign
      | negSucc value =>
          have same : (toString (Int.negSucc value)).toList ++ rest =
              '-' :: ((toString (value + 1)).toList ++ rest) := by
            change ("-" ++ toString (value + 1)).toList ++ rest = _
            rw [String.toList_append]
            rfl
          rw [same]
          refine ((Reads.plainMark '-' (by decide) _).append
            (Reads.number (value + 1) ends)).mono ?_
          rintro _ ⟨_, _, rfl, ⟨first, rfl⟩, second, rfl⟩
          exact .negative sign
  | char c =>
      refine (Reads.char c ends.endsLiteral).mono ?_
      rintro _ ⟨position, rfl⟩
      exact .literal rfl
  | str text =>
      refine (Reads.text text ends.endsLiteral).mono ?_
      rintro _ ⟨position, rfl⟩
      exact .literal rfl
  | list | object => exact absurd scalar not_false

/-- What starts with a mark or a quotation mark is no part of a literal before it. -/
theorem endsLiteral_of_punctuation
    {c : Char}
    (isPunctuation : c ∈ punctuation) :
    EndsLiteral (c :: rest) := by
  rintro _ ⟨⟩
  exact (not_ident_of_punctuation c isPunctuation).1

theorem reads_range
    {first last : Char}
    (ordered : first ≤ last) :
    ReadsBack (.range ⟨first, last⟩) := by
  intro rest ends
  have same : (Expr.range ⟨first, last⟩).render.toList ++ rest =
      (Text.Quoted.char first).toList ++
        '.' :: '.' :: '=' :: ((Text.Quoted.char last).toList ++ rest) := by
    simp [Expr.render, CharRange.render]
  have dot := Reads.plainMark '.' (by decide)
  have equals := Reads.plainMark '=' (by decide)
  rw [same]
  refine ((Reads.char first (endsLiteral_of_punctuation (by decide))).append
    ((dot _).append ((dot _).append ((equals _).append
      (Reads.char last ends.endsWord.endsLiteral))))).mono ?_
  rintro _ ⟨_, _, rfl, ⟨opening, rfl⟩, _, _, rfl, ⟨one, rfl⟩, _, _, rfl, ⟨two, rfl⟩, _, _, rfl,
    ⟨three, rfl⟩, closing, rfl⟩
  exact .range ordered

theorem reads_regex (literal : Regex.Literal) :
    ReadsBack (.regex literal) := by
  intro rest ends
  have same : (Expr.regex literal).render.toList ++ rest =
      '/' :: ((Text.Quoted.text literal.source).toList ++ '/' :: rest) := by
    simp [Expr.render]
  have opening : Reads ('/' :: ((Text.Quoted.text literal.source).toList ++ '/' :: rest)) _ _ :=
    .mark (by decide) (by decide) fun _ next isNext => by
      obtain rfl : '"' = next := by simpa [Text.Quoted.text, Text.Quoted.encode] using isNext
      decide
  have closing : Reads ('/' :: rest) rest _ :=
    .mark (by decide) (by decide) fun _ next isNext => by
      obtain ⟨isBoundary, noSlash⟩ := ends next isNext
      refine ⟨?_, fun isStar => absurd (noSlash isStar).2 Bool.noConfusion⟩
      rintro rfl
      exact absurd isBoundary (by decide)
  rw [same]
  refine (opening.append
    ((Reads.text literal.source (endsLiteral_of_punctuation (by decide))).append
      closing)).mono ?_
  rintro _ ⟨_, _, rfl, ⟨first, rfl⟩, _, _, rfl, ⟨position, rfl⟩, second, rfl⟩
  exact .regex literal

theorem reads_str
    (readsBack : ReadsBack body) :
    ReadsBack (.str body) := by
  intro rest ends
  have same : (Expr.str body).render.toList ++ rest =
      '<' :: (body.render.toList ++ '>' :: rest) := by
    simp [Expr.render]
  rw [same]
  refine ((Reads.plainMark '<' (by decide) _).append
    ((readsBack.whole (by decide) (by decide)).append
      (Reads.plainMark '>' (by decide) rest))).mono ?_
  rintro _ ⟨_, _, rfl, ⟨first, rfl⟩, tokens, _, rfl, inside, second, rfl⟩
  exact .str inside

theorem reads_lst
    (readsBack : ReadsBack body) :
    ReadsBack (.lst body) := by
  intro rest ends
  have same : (Expr.lst body).render.toList ++ rest =
      '[' :: (body.render.toList ++ ']' :: rest) := by
    simp [Expr.render]
  rw [same]
  refine (Reads.group rfl rfl (fun isParen => absurd isParen (by decide))
    (readsBack.whole (by decide) (by decide))).mono ?_
  rintro _ ⟨opening, closing, content, rfl, inside⟩
  exact .lst inside

theorem reads_inline
    (outlined : body.Outlined)
    (readsBack : ReadsBack body) :
    ReadsBack (.inline "" body) := by
  intro rest ends
  have same : (Expr.inline "" body).render.toList ++ rest =
      '#' :: '(' :: (body.render.toList ++ ')' :: rest) := by
    simp [Expr.render]
  rw [same]
  refine ((Reads.plainMark '#' (by decide) _).append
    (Reads.group rfl rfl (fun _ => opensNoComment_render outlined _)
      (readsBack.whole (by decide) (by decide)))).mono ?_
  rintro _ ⟨_, _, rfl, ⟨first, rfl⟩, opening, closing, content, rfl, inside⟩
  exact .inline inside

end Atoms

/-! ## Choices and sequences -/

section Compounds

variable
  {body left right : Expr}
  {name : String}
  {items : List Expr}
  {rest : List Char}

theorem reads_alt
    (outlined : right.Outlined)
    (readsLeft : ReadsBack left)
    (readsRight : ReadsBack right) :
    ReadsBack (.alt left right) := by
  intro rest ends
  have same : (Expr.alt left right).render.toList ++ rest =
      left.render.toList ++ ' ' :: '|' :: ' ' ::
        ((Expr.parenthesize (right.precedence < 1) right.render).toList ++ rest) := by
    simp [Expr.render]
  have operand := readsRight.operand outlined (by decide : 1 ≤ 5)
    (ends.of_loose (by decide : 0 < 4))
  rw [same]
  refine ((readsLeft _ (.cons (by decide) (by decide))).append (.blank (.inl rfl)
    ((Reads.plainMark '|' (by decide) _).append (.blank (.inl rfl) operand)))).mono ?_
  rintro _ ⟨tokens, _, rfl, first, _, others, rfl, ⟨position, rfl⟩, second⟩
  exact .alt (first.of_le (Nat.zero_le _)) second

/-- An item ends where the next one starts, or with the sequence. -/
theorem endsOperand_item
    (ends : EndsOperand body 1 rest) :
    EndsOperand left 2 ((Expr.renderTail items).toList ++ rest) := by
  cases items with
  | nil => exact ends.of_loose (by decide)
  | cons item items =>
      rw [Expr.renderTail, String.toList_append, String.toList_append]
      exact .cons (by decide) (by decide)

/-- The items of a sequence after its first. -/
theorem reads_tail
    (outlined : ∀ item ∈ items, item.Outlined)
    (readBack : ∀ item ∈ items, ReadsBack item)
    (ends : EndsOperand body 1 rest) :
    Reads ((Expr.renderTail items).toList ++ rest) rest (StandForAll items) := by
  induction items with
  | nil => exact .nothing .nil
  | cons item items inductionHypothesis =>
      obtain ⟨outlinedItem, outlined⟩ := List.forall_mem_cons.mp outlined
      obtain ⟨readsItem, readBack⟩ := List.forall_mem_cons.mp readBack
      have same : (Expr.renderTail (item :: items)).toList ++ rest =
          ' ' :: ((Expr.parenthesize (item.precedence < 2) item.render).toList ++
            ((Expr.renderTail items).toList ++ rest)) := by
        simp [Expr.renderTail]
      rw [same]
      refine .blank (.inl rfl) (((readsItem.operand outlinedItem (by decide)
        (endsOperand_item ends)).append (inductionHypothesis outlined readBack)).mono ?_)
      rintro _ ⟨tokens, others, rfl, head, tail⟩
      exact .cons head tail

theorem reads_seq
    (several : items.length ≠ 1)
    (outlined : ∀ item ∈ items, item.Outlined)
    (readBack : ∀ item ∈ items, ReadsBack item) :
    ReadsBack (.seq items) := by
  intro rest ends
  match items with
  | [] =>
      have inside : Reads (')' :: rest) (')' :: rest) (· = []) := .nothing rfl
      have group : Reads ('(' :: ')' :: rest) rest _ := .group rfl rfl nofun inside
      refine group.mono ?_
      rintro _ ⟨opening, closing, _, rfl, rfl⟩
      exact .emptySeq opening closing
  | [item] => exact absurd rfl several
  | first :: second :: others =>
      obtain ⟨outlinedFirst, outlined⟩ := List.forall_mem_cons.mp outlined
      obtain ⟨readsFirst, readBack⟩ := List.forall_mem_cons.mp readBack
      have same : (Expr.seq (first :: second :: others)).render.toList ++ rest =
          (Expr.parenthesize (first.precedence < 2) first.render).toList ++
            ((Expr.renderTail (second :: others)).toList ++ rest) := by
        simp [Expr.render]
      rw [same]
      refine ((readsFirst.operand outlinedFirst (by decide) (endsOperand_item ends)).append
        (reads_tail outlined readBack ends)).mono ?_
      rintro _ ⟨tokens, others, rfl, head, tail⟩
      exact .seq head tail

theorem reads_bind
    (named : IsName name)
    (outlined : body.Outlined)
    (readsBack : ReadsBack body) :
    ReadsBack (.bind body name) := by
  intro rest ends
  have same : (Expr.bind body name).render.toList ++ rest =
      (Expr.parenthesize (body.precedence < 3) body.render).toList ++
        ':' :: (name.toList ++ rest) := by
    simp [Expr.render]
  rw [same]
  refine ((readsBack.operand outlined (by decide : 3 ≤ 5) (.cons (by decide) (by decide))).append
    ((Reads.plainMark ':' (by decide) _).append (Reads.ident named ends.endsWord))).mono ?_
  rintro _ ⟨tokens, _, rfl, operand, _, _, rfl, ⟨mark, rfl⟩, ident, rfl⟩
  exact .bind operand

theorem reads_many
    {min : Nat}
    (least : min ≤ 1)
    (noComment : min = 0 → body.endsInSlash = false)
    (outlined : body.Outlined)
    (readsBack : ReadsBack body) :
    ReadsBack (.many body min) := by
  intro rest ends
  rw [Expr.render, String.toList_append, List.append_assoc]
  match min with
  | 0 =>
      refine readsBack.repetition outlined ?_ (by decide) .star
      rintro _ ⟨⟩
      exact ⟨by decide, fun _ => ⟨Nat.le_refl 4, noComment rfl⟩⟩
  | 1 => exact readsBack.repetition outlined (.cons (by decide) (by decide)) (by decide) .plus

theorem reads_opt
    (outlined : body.Outlined)
    (readsBack : ReadsBack body) :
    ReadsBack (.opt body) := by
  intro rest ends
  rw [Expr.render, String.toList_append, List.append_assoc]
  exact readsBack.repetition outlined (.cons (by decide) (by decide)) (by decide) .opt

theorem reads_not
    (outlined : body.Outlined)
    (readsBack : ReadsBack body) :
    ReadsBack (.not body) := by
  intro rest ends
  rw [Expr.render, String.toList_append, List.append_assoc]
  exact readsBack.sign outlined ends (by decide) .not

theorem reads_peek
    (outlined : body.Outlined)
    (readsBack : ReadsBack body) :
    ReadsBack (.peek body) := by
  intro rest ends
  rw [Expr.render, String.toList_append, List.append_assoc]
  exact readsBack.sign outlined ends (by decide) .peek

end Compounds

/-! ## Object patterns -/

section Objects

variable
  {key : String}
  {body : Expr}
  {properties : List (String × Expr)}
  {rest : List Char}

theorem reads_key
    (legible : Expr.isPlainKey key → Text.isIdent key.toList)
    (ends : EndsWord rest) :
    Reads ((Expr.renderKey key).toList ++ rest) rest fun tokens =>
      ∃ position token, tokens = [token] ∧ Names ⟨key, position⟩ token := by
  unfold Expr.renderKey
  split
  · next plain =>
      refine (Reads.ident (.inl (legible plain)) ends).mono ?_
      rintro _ ⟨position, rfl⟩
      exact ⟨position, _, rfl, .ident⟩
  · refine (Reads.text key ends.endsLiteral).mono ?_
    rintro _ ⟨position, rfl⟩
    exact ⟨position, _, rfl, .text⟩

/-- A property is a key, a colon and a pattern. -/
theorem reads_property
    {c : Char}
    (legible : Expr.isPlainKey key → Text.isIdent key.toList)
    (readsBack : ReadsBack body)
    (isBoundary : c ∈ boundaries)
    (noStar : c ≠ '*') :
    Reads ((Expr.renderKey key).toList ++ ':' :: ' ' :: (body.render.toList ++ c :: rest))
      (c :: rest) fun tokens =>
        ∃ position token colon joint content,
          tokens = token :: .mark colon ':' joint :: content ∧ Names ⟨key, position⟩ token ∧
            StandsFor body 0 content := by
  have ends : EndsOperand body 0 (':' :: ' ' :: (body.render.toList ++ c :: rest)) :=
    .cons (by decide) (by decide)
  refine ((reads_key legible ends.endsWord).append ((Reads.plainMark ':' (by decide) _).append
    (.blank (.inl rfl) (readsBack.whole isBoundary noStar)))).mono ?_
  rintro _ ⟨_, _, rfl, ⟨position, token, rfl, named⟩, _, content, rfl, ⟨colon, rfl⟩, stands⟩
  exact ⟨position, token, colon, _, content, rfl, named, stands⟩

/-- The dots of a lenient pattern. -/
theorem reads_ellipsis :
    Reads ('.' :: '.' :: '.' :: rest) rest (StandForProperties [] true) := by
  have dot := Reads.plainMark '.' (by decide)
  refine ((dot _).append ((dot _).append (dot rest))).mono ?_
  rintro _ ⟨_, _, rfl, ⟨one, rfl⟩, _, _, rfl, ⟨two, rfl⟩, three, rfl⟩
  exact .ellipsis

theorem reads_properties
    {lenient : Bool}
    (some : properties ≠ [])
    (legible : ∀ property ∈ properties,
      Expr.isPlainKey property.1 → Text.isIdent property.1.toList)
    (readBack : ∀ property ∈ properties, ReadsBack property.2) :
    Reads ((Expr.renderProperties properties ++ if lenient then ", ..." else "").toList ++
        '\x7d' :: rest) ('\x7d' :: rest) (StandForProperties properties lenient) := by
  induction properties with
  | nil => contradiction
  | cons property others inductionHypothesis =>
      obtain ⟨key, body⟩ := property
      obtain ⟨legibleKey, legible⟩ := List.forall_mem_cons.mp legible
      obtain ⟨readsBody, readBack⟩ := List.forall_mem_cons.mp readBack
      have comma := Reads.plainMark ',' (by decide)
      match others, lenient with
      | [], false =>
          have same : (Expr.renderProperties [(key, body)] ++
                if (false : Bool) then ", ..." else "").toList ++ '\x7d' :: rest =
              (Expr.renderKey key).toList ++ ':' :: ' ' ::
                (body.render.toList ++ '\x7d' :: rest) := by
            simp [Expr.renderProperties]
          rw [same]
          refine (reads_property legibleKey readsBody (by decide) (by decide)).mono ?_
          rintro _ ⟨position, token, colon, joint, content, rfl, named, stands⟩
          exact .one named stands
      | [], true =>
          have same : (Expr.renderProperties [(key, body)] ++
                if (true : Bool) then ", ..." else "").toList ++ '\x7d' :: rest =
              (Expr.renderKey key).toList ++ ':' :: ' ' ::
                (body.render.toList ++ ',' :: ' ' :: '.' :: '.' :: '.' :: '\x7d' :: rest) := by
            simp [Expr.renderProperties]
          rw [same]
          refine ((reads_property legibleKey readsBody (by decide) (by decide)).append
            ((comma _).append (.blank (.inl rfl) reads_ellipsis))).mono ?_
          rintro _ ⟨_, _, rfl, ⟨position, token, colon, joint, content, rfl, named, stands⟩, _,
            dots, rfl, ⟨between, rfl⟩, ellipsis⟩
          exact .cons named stands ellipsis
      | next :: others, lenient =>
          have same : (Expr.renderProperties ((key, body) :: next :: others) ++
                if lenient then ", ..." else "").toList ++ '\x7d' :: rest =
              (Expr.renderKey key).toList ++ ':' :: ' ' :: (body.render.toList ++ ',' :: ' ' ::
                ((Expr.renderProperties (next :: others) ++
                  if lenient then ", ..." else "").toList ++ '\x7d' :: rest)) := by
            simp [Expr.renderProperties]
          rw [same]
          refine ((reads_property legibleKey readsBody (by decide) (by decide)).append
            ((comma _).append (.blank (.inl rfl)
              (inductionHypothesis (by simp) legible readBack)))).mono ?_
          rintro _ ⟨_, _, rfl, ⟨position, token, colon, joint, content, rfl, named, stands⟩, _,
            otherTokens, rfl, ⟨between, rfl⟩, others⟩
          exact .cons named stands others

/-- The properties of an object pattern stand in braces. -/
theorem reads_braces
    {lenient : Bool}
    (legible : ∀ property ∈ properties,
      Expr.isPlainKey property.1 → Text.isIdent property.1.toList)
    (readBack : ∀ property ∈ properties, ReadsBack property.2) :
    Reads ((Expr.obj properties lenient).render.toList ++ rest) rest fun tokens =>
      ∃ opening closing content, tokens = [.group .brace opening closing content] ∧
        StandForProperties properties lenient content := by
  have noParen : ∀ {chars : List Char}, '\x7b' = '(' → ∀ after, chars ≠ '/' :: '*' :: after :=
    fun isParen => absurd isParen (by decide)
  cases properties with
  | nil =>
      cases lenient with
      | false =>
          have nothing : Reads ('\x7d' :: rest) ('\x7d' :: rest) (StandForProperties [] false) :=
            .nothing .nil
          exact .group rfl rfl noParen nothing
      | true => exact .group rfl rfl noParen reads_ellipsis
  | cons property others =>
      have same : (Expr.obj (property :: others) lenient).render.toList ++ rest =
          '\x7b' :: ((Expr.renderProperties (property :: others) ++
            if lenient then ", ..." else "").toList ++ '\x7d' :: rest) := by
        cases lenient <;> simp [Expr.render]
      rw [same]
      exact .group rfl rfl noParen
        (reads_properties (List.cons_ne_nil property others) legible readBack)

theorem reads_obj
    {lenient : Bool}
    (distinct : (properties.map Prod.fst).Nodup)
    (legible : ∀ property ∈ properties,
      Expr.isPlainKey property.1 → Text.isIdent property.1.toList)
    (readBack : ∀ property ∈ properties, ReadsBack property.2) :
    ReadsBack (.obj properties lenient) := by
  intro rest ends
  refine (reads_braces legible readBack).mono ?_
  rintro _ ⟨opening, closing, content, rfl, inside⟩
  exact .obj distinct inside

end Objects

/-- What can come from source and is legible is read back. -/
theorem readsBack_of_outlined
    {expr : Expr}
    (outlined : expr.Outlined)
    (legible : expr.isLegible) :
    ReadsBack expr := by
  induction outlined with
  | prim scalar => exact reads_prim scalar
  | app named free =>
      intro rest ends
      exact reads_word named ends.endsWord rfl (.call free)
  | alt _ second inductionHypothesis inductionHypothesisRight =>
      obtain ⟨legibleLeft, legibleRight⟩ := Bool.and_eq_true_iff.mp legible
      exact reads_alt second (inductionHypothesis legibleLeft)
        (inductionHypothesisRight legibleRight)
  | seq several parts inductionHypothesis =>
      have legible := Expr.areLegible_iff.mp legible
      exact reads_seq several parts fun item mem => inductionHypothesis item mem (legible item mem)
  | bind named operand inductionHypothesis =>
      exact reads_bind named operand (inductionHypothesis legible)
  | many least operand inductionHypothesis =>
      obtain ⟨legible, apart⟩ := Bool.and_eq_true_iff.mp legible
      refine reads_many least (fun none => ?_) operand (inductionHypothesis legible)
      simpa [none] using apart
  | opt operand inductionHypothesis => exact reads_opt operand (inductionHypothesis legible)
  | not operand inductionHypothesis => exact reads_not operand (inductionHypothesis legible)
  | peek operand inductionHypothesis => exact reads_peek operand (inductionHypothesis legible)
  | str _ inductionHypothesis => exact reads_str (inductionHypothesis legible)
  | lst _ inductionHypothesis => exact reads_lst (inductionHypothesis legible)
  | inline inside inductionHypothesis => exact reads_inline inside (inductionHypothesis legible)
  | obj distinct _ inductionHypothesis =>
      have legible := Expr.propertiesAreLegible_iff.mp legible
      exact reads_obj distinct (fun property mem => (legible property mem).1)
        fun property mem => inductionHypothesis property mem (legible property mem).2
  | any =>
      intro rest ends
      exact reads_word (isName_of_reserved _ (by decide)) ends.endsWord rfl .any
  | range ordered => exact reads_range ordered
  | regex => exact reads_regex _

end Source
end Heirloom
