import Heirloom.Proofs.Source.Outline
import Heirloom.Proofs.Source.Surface

/-!
# Precedence

How tightly an expression binds says which tokens stand for it where an operand of some
level is asked for. What binds tightly can stand where less is asked for, and anything can
in parentheses. Every operator makes tokens for an expression out of tokens for its
operands, each at the level that the operator asks of it.
-/

namespace Heirloom

/-! ## Values and literals -/

/-- The number of an integer is within the range of integers. -/
theorem Value.ofInt?_toInt (number : Int64) :
    ofInt? number.toInt = some number := by
  have low := Int64.le_toInt number
  have high := Int64.toInt_lt number
  rw [ofInt?, if_pos, Int64.ofInt_toInt]
  exact ⟨low, high⟩

/-- The literal of the source of a literal is the literal itself. -/
theorem Regex.Literal.ofSource?_source (literal : Regex.Literal) :
    ofSource? literal.source = some literal := by
  unfold ofSource?
  split
  · exact congrArg some (eq_of_source_eq rfl)
  · next none =>
      rw [literal.compiled] at none
      cases none

namespace Source

open Pattern (outline? outlineAll? outlineProperties?)

/-! ## What tokens stand for -/

/-- The tokens stand for the expression where an operand of some level is asked
for: a choice, a sequence, a term, an operand with or without signs, or an atom. -/
def StandsFor (expr : Expr) (level : Nat) (tokens : List Token) : Prop :=
  match level with
  | 0 =>
      ∃ patterns items, items ≠ [] ∧ outlineAll? patterns = some items ∧
        choice items = expr ∧ Forms (.sequences patterns) tokens
  | 1 =>
      ∃ patterns, outline? (.ofSequence patterns) = some expr ∧ Forms (.terms patterns) tokens
  | 2 => ∃ pattern, outline? pattern = some expr ∧ Forms (.term pattern) tokens
  | 3 => ∃ pattern, outline? pattern = some expr ∧ Forms (.repeated pattern) tokens
  | 4 => ∃ pattern, outline? pattern = some expr ∧ Forms (.prefixed pattern) tokens
  | _ => ∃ pattern, outline? pattern = some expr ∧ Forms (.atom pattern) tokens

/-- The tokens are terms that stand for the expressions. -/
def StandForAll (items : List Expr) (tokens : List Token) : Prop :=
  ∃ patterns, outlineAll? patterns = some items ∧ Forms (.terms patterns) tokens

/-- The tokens are what stands in the braces of an object pattern. -/
def StandForProperties
    (properties : List (String × Expr))
    (lenient : Bool)
    (tokens : List Token) : Prop :=
  ∃ members, outlineProperties? members = some properties ∧
    Forms (.properties members lenient) tokens

theorem choice_append
    {items : List Expr}
    {right : Expr}
    (some : items ≠ []) :
    choice (items ++ [right]) = .alt (choice items) right := by
  cases items with
  | nil => contradiction
  | cons first others => exact List.foldl_append

/-- One more alternative. -/
theorem Forms.another
    {patterns others : List Pattern}
    {tokens otherTokens : List Token}
    {position : Position}
    {joint : Bool}
    (forms : Forms (.sequences patterns) tokens)
    (next : Forms (.terms others) otherTokens) :
    Forms (.sequences (patterns ++ [.ofSequence others]))
      (tokens ++ Token.mark position '|' joint :: otherTokens) := by
  generalize same : Phrase.sequences patterns = phrase at forms
  induction forms generalizing patterns with
  | sequence only =>
      cases same
      exact .sequences only (.sequence next)
  | sequences head _ _ inductionHypothesis =>
      cases same
      rw [List.append_assoc, List.cons_append]
      exact .sequences head (inductionHypothesis rfl)
  | _ => cases same

theorem outline?_object
    {properties : List (String × Expr)}
    {members : List (Key × Pattern)}
    {lenient : Bool}
    (distinct : (properties.map Prod.fst).Nodup)
    (isAll : outlineProperties? members = some properties) :
    outline? (.object members lenient) = some (.obj properties lenient) := by
  have checks : checkKeys [] members = .ok () := by
    rw [Pattern.checkKeys_eq_ok_iff, ← Pattern.keys_of_outlineProperties? isAll]
    exact ⟨distinct, fun _ _ => List.not_mem_nil⟩
  rw [outline?, checks, isAll]
  rfl

namespace StandsFor

variable
  {expr body left right : Expr}
  {level : Nat}
  {tokens otherTokens : List Token}
  {position : Position}
  {joint : Bool}

/-! ### Levels -/

/-- What binds tightly can stand where less is asked for. -/
theorem weaken
    (stands : StandsFor expr (level + 1) tokens) :
    StandsFor expr level tokens := by
  match level with
  | 0 =>
      obtain ⟨patterns, outlines, forms⟩ := stands
      refine ⟨[.ofSequence patterns], [expr], by simp, ?_, rfl, .sequence forms⟩
      exact Pattern.outlineAll?_cons outlines rfl
  | 1 =>
      obtain ⟨pattern, outlines, forms⟩ := stands
      refine ⟨[pattern], outlines, ?_⟩
      rw [← List.append_nil tokens]
      exact .terms forms .noTerms
  | 2 =>
      obtain ⟨pattern, outlines, forms⟩ := stands
      exact ⟨pattern, outlines, .unbound forms⟩
  | 3 =>
      obtain ⟨pattern, outlines, forms⟩ := stands
      exact ⟨pattern, outlines, .once forms⟩
  | 4 =>
      obtain ⟨pattern, outlines, forms⟩ := stands
      exact ⟨pattern, outlines, .unsigned forms⟩
  | _ + 5 => exact stands

theorem of_le
    {tighter : Nat}
    (stands : StandsFor expr tighter tokens)
    (le : level ≤ tighter) :
    StandsFor expr level tokens := by
  induction le with
  | refl => exact stands
  | step _ inductionHypothesis => exact inductionHypothesis stands.weaken

/-- A choice is the whole of a pattern. -/
theorem alternatives
    (stands : StandsFor expr 0 tokens) :
    ∃ pattern, outline? pattern = some expr ∧ Forms (.alternatives pattern) tokens := by
  obtain ⟨patterns, items, some, outlines, rfl, forms⟩ := stands
  refine ⟨.ofAlternatives patterns, ?_, .alternatives forms⟩
  match patterns with
  | [] =>
      cases outlines
      contradiction
  | [pattern] =>
      obtain ⟨item, isItem, isAll⟩ := Option.bind_eq_some_iff.mp outlines
      cases isAll
      exact isItem
  | _ :: _ :: _ =>
      rw [Pattern.ofAlternatives, outline?, outlines]
      · rfl
      · nofun

/-- What stands in parentheses binds as tightly as anything. -/
theorem parenthesized
    (stands : StandsFor expr 0 tokens)
    (opening closing : Position) :
    StandsFor expr 5 [.group .paren opening closing tokens] := by
  obtain ⟨pattern, outlines, forms⟩ := stands.alternatives
  exact ⟨pattern, outlines, .group forms⟩

/-! ### Atoms -/

theorem literal
    {value : Value}
    {written : Literal}
    (isValue : written.value? = some value) :
    StandsFor (.prim value) 5 [.literal position written] :=
  ⟨.literal position written, by rw [outline?, isValue]; rfl, .literal⟩

/-- The digits of an integer that is not negative. -/
theorem number
    {number : Int64}
    {value : Nat}
    (isNumber : number.toInt = .ofNat value) :
    StandsFor (.prim (.int number)) 5 [.literal position (.integer value)] := by
  refine literal ?_
  rw [Literal.value?, ← Int.ofNat_eq_natCast, ← isNumber, Value.ofInt?_toInt]
  rfl

/-- A minus sign before the digits of a negative integer. -/
theorem negative
    {number : Int64}
    {value : Nat}
    {sign : Position}
    (isNumber : number.toInt = .negSucc value) :
    StandsFor (.prim (.int number)) 5
      [.mark sign '-' joint, .literal position (.integer (value + 1))] := by
  refine ⟨.negative position false (value + 1), ?_, .negative⟩
  rw [outline?, negativeValue?, if_neg Bool.false_ne_true, Int.natCast_add, Int.natCast_one,
    ← Int.negSucc_eq, ← isNumber, Value.ofInt?_toInt]
  rfl

theorem range
    {one two three closing : Position}
    {first last : Char}
    (ordered : first ≤ last) :
    StandsFor (.range ⟨first, last⟩) 5
      [.literal position (.char first), .mark one '.' true, .mark two '.' true,
        .mark three '=' joint, .literal closing (.char last)] :=
  ⟨.range first last, rfl, .range ordered⟩

theorem regex
    {opening closing : Position}
    {closingJoint : Bool}
    (literal : Regex.Literal) :
    StandsFor (.regex literal) 5
      [.mark opening '/' joint, .literal position (.text literal.source),
        .mark closing '/' closingJoint] :=
  ⟨.regex position literal.source, by rw [outline?, Regex.Literal.ofSource?_source]; rfl, .regex⟩

theorem str
    {closing : Position}
    {closingJoint : Bool}
    (inside : StandsFor body 0 tokens) :
    StandsFor (.str body) 5
      (.mark position '<' joint :: (tokens ++ [Token.mark closing '>' closingJoint])) := by
  obtain ⟨pattern, outlines, forms⟩ := inside.alternatives
  exact ⟨.str pattern, by rw [outline?, outlines]; rfl, .str forms⟩

theorem lst
    {opening closing : Position}
    (inside : StandsFor body 0 tokens) :
    StandsFor (.lst body) 5 [.group .bracket opening closing tokens] := by
  obtain ⟨pattern, outlines, forms⟩ := inside.alternatives
  exact ⟨.list pattern, by rw [outline?, outlines]; rfl, .list forms⟩

theorem inline
    {opening closing : Position}
    (inside : StandsFor body 0 tokens) :
    StandsFor (.inline "" body) 5
      [.mark position '#' joint, .group .paren opening closing tokens] := by
  obtain ⟨pattern, outlines, forms⟩ := inside.alternatives
  exact ⟨.inline pattern, by rw [outline?, outlines]; rfl, .inline forms⟩

theorem obj
    {opening closing : Position}
    {properties : List (String × Expr)}
    {lenient : Bool}
    (distinct : (properties.map Prod.fst).Nodup)
    (inside : StandForProperties properties lenient tokens) :
    StandsFor (.obj properties lenient) 5 [.group .brace opening closing tokens] := by
  obtain ⟨members, isAll, forms⟩ := inside
  exact ⟨.object members lenient, outline?_object distinct isAll, .object forms⟩

/-! ### Operators -/

theorem alt
    (first : StandsFor left 0 tokens)
    (second : StandsFor right 1 otherTokens) :
    StandsFor (.alt left right) 0 (tokens ++ .mark position '|' joint :: otherTokens) := by
  obtain ⟨patterns, items, some, isAll, rfl, forms⟩ := first
  obtain ⟨last, isOutline, isLast⟩ := second
  refine ⟨patterns ++ [.ofSequence last], items ++ [right], by simp, ?_, choice_append some,
    forms.another isLast⟩
  exact Pattern.outlineAll?_append isAll (Pattern.outlineAll?_cons isOutline rfl)

theorem bind
    {name : String}
    {namePosition : Position}
    (operand : StandsFor body 3 tokens) :
    StandsFor (.bind body name) 2
      (tokens ++ [Token.mark position ':' joint, .ident namePosition name]) := by
  obtain ⟨pattern, outlines, forms⟩ := operand
  exact ⟨.bind pattern name, by rw [outline?, outlines]; rfl, .bind forms⟩

theorem star
    (operand : StandsFor body 3 tokens) :
    StandsFor (.many body 0) 3 (tokens ++ [Token.mark position '*' joint]) := by
  obtain ⟨pattern, outlines, forms⟩ := operand
  exact ⟨.star pattern, by rw [outline?, outlines]; rfl, .star forms⟩

theorem plus
    (operand : StandsFor body 3 tokens) :
    StandsFor (.many body 1) 3 (tokens ++ [Token.mark position '+' joint]) := by
  obtain ⟨pattern, outlines, forms⟩ := operand
  exact ⟨.plus pattern, by rw [outline?, outlines]; rfl, .plus forms⟩

theorem opt
    (operand : StandsFor body 3 tokens) :
    StandsFor (.opt body) 3 (tokens ++ [Token.mark position '?' joint]) := by
  obtain ⟨pattern, outlines, forms⟩ := operand
  exact ⟨.opt pattern, by rw [outline?, outlines]; rfl, .opt forms⟩

theorem not
    (operand : StandsFor body 4 tokens) :
    StandsFor (.not body) 4 (.mark position '~' joint :: tokens) := by
  obtain ⟨pattern, outlines, forms⟩ := operand
  exact ⟨.not pattern, by rw [outline?, outlines]; rfl, .not forms⟩

theorem peek
    (operand : StandsFor body 4 tokens) :
    StandsFor (.peek body) 4 (.mark position '&' joint :: tokens) := by
  obtain ⟨pattern, outlines, forms⟩ := operand
  exact ⟨.peek pattern, by rw [outline?, outlines]; rfl, .peek forms⟩

/-- The empty sequence is an empty pair of parentheses. -/
theorem emptySeq (opening closing : Position) :
    StandsFor (.seq []) 5 [.group .paren opening closing []] :=
  ⟨.seq [], rfl, .group (.alternatives (.sequence .noTerms))⟩

theorem seq
    {first second : Expr}
    {others : List Expr}
    (head : StandsFor first 2 tokens)
    (tail : StandForAll (second :: others) otherTokens) :
    StandsFor (.seq (first :: second :: others)) 1 (tokens ++ otherTokens) := by
  obtain ⟨pattern, isFirst, forms⟩ := head
  obtain ⟨patterns, isAll, formsOthers⟩ := tail
  refine ⟨pattern :: patterns, ?_, .terms forms formsOthers⟩
  cases patterns with
  | nil => cases isAll
  | cons =>
      rw [Pattern.ofSequence, outline?, Pattern.outlineAll?_cons isFirst isAll]
      · rfl
      · nofun

end StandsFor

/-! ## Lists of expressions -/

namespace StandForAll

theorem nil : StandForAll [] [] :=
  ⟨[], rfl, .noTerms⟩

theorem cons
    {item : Expr}
    {items : List Expr}
    {tokens otherTokens : List Token}
    (head : StandsFor item 2 tokens)
    (tail : StandForAll items otherTokens) :
    StandForAll (item :: items) (tokens ++ otherTokens) := by
  obtain ⟨pattern, isFirst, forms⟩ := head
  obtain ⟨patterns, isAll, formsOthers⟩ := tail
  exact ⟨pattern :: patterns, Pattern.outlineAll?_cons isFirst isAll, .terms forms formsOthers⟩

end StandForAll

namespace StandForProperties

variable
  {key : String}
  {keyPosition position : Position}
  {joint : Bool}
  {keyToken : Token}
  {body : Expr}
  {properties : List (String × Expr)}
  {lenient : Bool}
  {tokens otherTokens : List Token}

theorem nil : StandForProperties [] false [] :=
  ⟨[], rfl, .noProperties⟩

theorem ellipsis
    {one two three : Position} :
    StandForProperties [] true [.mark one '.' true, .mark two '.' true, .mark three '.' joint] :=
  ⟨[], rfl, .ellipsis⟩

theorem one
    (named : Names ⟨key, keyPosition⟩ keyToken)
    (only : StandsFor body 0 tokens) :
    StandForProperties [(key, body)] false (keyToken :: .mark position ':' joint :: tokens) := by
  obtain ⟨pattern, outlines, forms⟩ := only.alternatives
  exact ⟨[(⟨key, keyPosition⟩, pattern)], Pattern.outlineProperties?_cons outlines rfl,
    .property named forms⟩

theorem cons
    {comma : Position}
    {commaJoint : Bool}
    (named : Names ⟨key, keyPosition⟩ keyToken)
    (head : StandsFor body 0 tokens)
    (tail : StandForProperties properties lenient otherTokens) :
    StandForProperties ((key, body) :: properties) lenient
      (keyToken :: .mark position ':' joint ::
        (tokens ++ .mark comma ',' commaJoint :: otherTokens)) := by
  obtain ⟨pattern, outlines, forms⟩ := head.alternatives
  obtain ⟨members, isAll, formsOthers⟩ := tail
  exact ⟨(⟨key, keyPosition⟩, pattern) :: members, Pattern.outlineProperties?_cons outlines isAll,
    .properties named forms formsOthers⟩

end StandForProperties

end Source
end Heirloom
