import Heirloom.Proofs.Regex.Frames

/-!
# Literals that match nothing

An expression matches the empty text between two others as its assertions hold there. A
literal that matches the empty text as a whole does so at the end of a text. In front of
further characters it matches the empty text too, unless it needs an assertion that holds
at the end only, as the anchor at the end of a line does. So it matches in front of any
character there, as the empty text does, perhaps with characters taken that it prefers.
-/

namespace Heirloom
namespace Regex

/-! ## Expressions that match the empty text -/

/-- Whether the empty text is matched where the given assertions hold. -/
def nullable (holds : Look → Bool) : Regex → Bool
  | empty => true
  | literal chars => chars.isEmpty
  | set _ => false
  | look assertion => holds assertion
  | seq left right => left.nullable holds && right.nullable holds
  | alt left right => left.nullable holds || right.nullable holds
  | rep min _ _ body => min == 0 || body.nullable holds
  | capture _ body => body.nullable holds

/-- The assertions of an expression. -/
def assertions : Regex → List Look
  | look assertion => [assertion]
  | seq left right => left.assertions ++ right.assertions
  | alt left right => left.assertions ++ right.assertions
  | rep _ _ _ body => body.assertions
  | capture _ body => body.assertions
  | _ => []

section Empty

variable
  {before after : List Char}

/-- The empty text is two texts of two languages only if it is in both. -/
theorem Language.followedBy_nil_iff
    {left right : Language} :
    left.followedBy right before [] after ↔ left before [] after ∧ right before [] after := by
  refine ⟨?_, fun both => ⟨[], [], rfl, both⟩⟩
  rintro ⟨first, second, isEmpty, both⟩
  obtain ⟨rfl, rfl⟩ := List.append_eq_nil_iff.mp isEmpty.symm
  exact both

/-- Rounds of a language match the empty text if there are none or each matches it. -/
theorem Language.rounds_nil_iff
    {body : Language}
    {count : Nat} :
    body.rounds count before [] after ↔ count = 0 ∨ body before [] after := by
  induction count with
  | zero => exact ⟨fun _ => .inl rfl, fun _ => rfl⟩
  | succ count inductionHypothesis =>
      rw [rounds, followedBy_nil_iff, inductionHypothesis]
      simp only [Nat.succ_ne_zero, false_or]
      exact ⟨And.left, fun matched => ⟨matched, .inr matched⟩⟩

/-- An expression is nullable between two texts if and only if it matches the empty text
there. -/
theorem nullable_iff
    {regex : Regex} :
    regex.nullable (Look.holds before after) ↔ regex.language before [] after := by
  induction regex with
  | empty => exact ⟨fun _ => rfl, fun _ => rfl⟩
  | literal chars => cases chars <;> simp [nullable, language]
  | set members => simp [nullable, language]
  | look assertion => simp [nullable, language]
  | seq left right leftHypothesis rightHypothesis =>
      rw [nullable, Bool.and_eq_true, leftHypothesis, rightHypothesis, language,
        Language.followedBy_nil_iff]
  | alt left right leftHypothesis rightHypothesis =>
      rw [nullable, Bool.or_eq_true, leftHypothesis, rightHypothesis]
      rfl
  | rep min max greedy body inductionHypothesis =>
      rw [nullable, Bool.or_eq_true, beq_iff_eq, inductionHypothesis, language]
      simp only [Language.rounds_nil_iff]
      constructor
      · intro least
        exact ⟨min, Nat.le_refl min, fun _ _ => .inr rfl, least⟩
      · rintro ⟨count, least, -, rfl | matched⟩
        · exact .inl (Nat.le_zero.mp least)
        · exact .inr matched
  | capture index body inductionHypothesis => exact inductionHypothesis

/-- What is nullable stays so where its assertions still hold. -/
theorem nullable_mono
    {holds others : Look → Bool}
    {regex : Regex}
    (still : ∀ assertion ∈ regex.assertions, holds assertion = true → others assertion = true)
    (isNullable : regex.nullable holds) :
    regex.nullable others := by
  induction regex with
  | empty | literal | set => exact isNullable
  | look assertion => exact still assertion (List.mem_singleton_self _) isNullable
  | seq left right leftHypothesis rightHypothesis =>
      obtain ⟨stillLeft, stillRight⟩ := List.forall_mem_append.mp still
      obtain ⟨isLeft, isRight⟩ := Bool.and_eq_true_iff.mp isNullable
      exact Bool.and_eq_true_iff.mpr
        ⟨leftHypothesis stillLeft isLeft, rightHypothesis stillRight isRight⟩
  | alt left right leftHypothesis rightHypothesis =>
      obtain ⟨stillLeft, stillRight⟩ := List.forall_mem_append.mp still
      exact Bool.or_eq_true_iff.mpr ((Bool.or_eq_true_iff.mp isNullable).imp
        (leftHypothesis stillLeft) (rightHypothesis stillRight))
  | rep min max greedy body inductionHypothesis =>
      exact Bool.or_eq_true_iff.mpr
        ((Bool.or_eq_true_iff.mp isNullable).imp_right (inductionHypothesis still))
  | capture index body inductionHypothesis => exact inductionHypothesis still isNullable

end Empty

/-! ## Literals -/

namespace Literal

variable
  {literal : Literal}
  {whole lead : Regex}

/-- A literal matches the empty text as a whole if and only if it matches it at the end of
a text. -/
theorem matchesWhole_nil_iff
    (isWhole : literal.whole = whole.compile)
    (framed : Framed whole lead) :
    literal.matchesWhole [] = true ↔ lead.nullable (Look.holds [] []) := by
  rw [nullable_iff, matchesWhole, isWhole, search?_compile_isSome_iff]
  constructor
  · rintro ⟨skipped, text, rest, isEmpty, matched⟩
    obtain ⟨noText, rfl⟩ := List.append_eq_nil_iff.mp isEmpty.symm
    obtain ⟨rfl, rfl⟩ := List.append_eq_nil_iff.mp noText
    exact framed.lead_of_whole matched
  · exact fun matched => ⟨[], [], [], rfl, framed.whole_of_lead matched⟩

/-- Where a literal matches the empty text, it has a match at the start. -/
theorem exists_leadLength?_of_nullable
    {chars : List Char}
    (isLead : literal.lead = lead.compile)
    (isNullable : lead.nullable (Look.holds [] chars)) :
    ∃ length, literal.leadLength? chars = some length := by
  have searched := (search?_compile_isSome_iff lead chars).mpr
    ⟨[], [], chars, rfl, nullable_iff.mp isNullable⟩
  rw [← isLead] at searched
  obtain ⟨bounds, searched⟩ := Option.isSome_iff_exists.mp searched
  exact ⟨bounds.2, by rw [leadLength?, searched]; rfl⟩

end Literal
end Regex

open Regex (Look)

namespace Matching

variable
  {expr : Expr}
  {literal : Regex.Literal}
  {stream : List Value}
  {position : Nat}
  {taken : List Char}

/-! ## Evaluation in a lexical scope -/

/-- Where nothing is skipped, the expression takes the characters at the position, as a
text. -/
def TakesAt (expr : Expr) (stream : List Value) (position : Nat) (taken : List Char) : Prop :=
  ∀ apply scope memo,
    (eval ⟨apply, none⟩ expr stream position scope memo).ending =
      (.matched ⟨.str (String.ofList taken), position + taken.length, scope⟩, memo)

/-- What takes characters at a position takes them after whatever ends there. -/
theorem TakesAt.sequence
    (takes : TakesAt expr stream position taken)
    {apply : Applier}
    {first : Expr}
    {start : Nat}
    {scope : Bindings}
    {memo after : Memo}
    {step : Step}
    (matched : (eval ⟨apply, none⟩ first stream start scope memo).ending = (.matched step, after))
    (ends : step.position = position) :
    (eval ⟨apply, none⟩ (.seq [first, expr]) stream start scope memo).ending =
      (.matched ⟨.str (String.ofList taken), position + taken.length, step.scope⟩, after) := by
  subst ends
  rw [eval, evalItems, Run.ending_bind_of_matched matched, evalItems,
    Run.ending_bind_of_matched (takes _ _ _)]
  rfl

/-- The empty text takes nothing in front of a character. -/
theorem takesAt_empty
    {c : Char}
    (present : stream[position]? = some (.char c)) :
    TakesAt (.prim (.str "")) stream position [] := by
  intro apply scope memo
  rw [eval, ending_leaf_unskipped, matchPrim, present]
  rfl

/-- A literal takes its match at the start of the characters ahead. -/
theorem takesAt_regex
    {c : Char}
    {length : Nat}
    (present : stream[position]? = some (.char c))
    (found : literal.leadLength? (leadingChars (stream.drop position)) = some length) :
    TakesAt (.regex literal) stream position
      ((leadingChars (stream.drop position)).take length) := by
  intro apply scope memo
  have inside := Regex.Literal.leadLength?_le found
  rw [eval, ending_leaf_unskipped, matchRegex, present]
  simp only [found, Option.map_some, List.length_take, Nat.min_eq_left inside]
  rfl

/-- A literal matches the empty text as a whole if and only if it does so with the assertions
that hold at the end of a text. With those that hold in front of the characters ahead it
does so too, unless one that held at the end fails there. If it does, the literal takes some
of the characters ahead, perhaps none, as the empty text takes none, and so does a sequence
that comes to the literal there. -/
theorem nullable_literals_match_before_characters (literal : Regex.Literal) :
    ∃ lead, Regex.ofChars? (Regex.leadFrame literal.source.toList) = some lead ∧
      (literal.matchesWhole [] = true ↔ lead.nullable (Look.holds [] [])) ∧
      ∀ (stream : List Value) (position : Nat) (c : Char), stream[position]? = some (.char c) →
        let ahead := leadingChars (stream.drop position)
        (literal.matchesWhole [] = true →
          (∀ assertion ∈ lead.assertions,
            assertion.holds [] [] = true → assertion.holds [] ahead = true) →
          lead.nullable (Look.holds [] ahead)) ∧
        (lead.nullable (Look.holds [] ahead) →
          TakesAt (.prim (.str "")) stream position [] ∧
          ∃ taken, taken <+: ahead ∧ TakesAt (.regex literal) stream position taken ∧
            ∀ {apply : Applier} {first : Expr} {start : Nat} {scope : Bindings}
              {memo after : Memo} {step : Step},
              (eval ⟨apply, none⟩ first stream start scope memo).ending = (.matched step, after) →
              step.position = position →
              (eval ⟨apply, none⟩ (.seq [first, .regex literal]) stream start scope memo).ending =
                (.matched ⟨.str (String.ofList taken), position + taken.length, step.scope⟩,
                  after)) := by
  obtain ⟨whole, lead, reads, isWhole, isLead, framed⟩ := literal.exists_frames
  have wholly := Regex.Literal.matchesWhole_nil_iff isWhole framed
  refine ⟨lead, reads, wholly, fun stream position c present => ⟨?_, fun isNullable => ?_⟩⟩
  · exact fun matched still => Regex.nullable_mono still (wholly.mp matched)
  · obtain ⟨length, found⟩ := Regex.Literal.exists_leadLength?_of_nullable isLead isNullable
    have takes := takesAt_regex present found
    exact ⟨takesAt_empty present, _, List.take_prefix .., takes, takes.sequence⟩

/-- Any number of small letters. -/
def letters : Regex.Literal :=
  (Regex.Literal.ofSource? "[a-z]*").get (by decide +kernel)

/-- Between a letter and a digit the letters match, as the empty text does. -/
theorem letters_match_before_digit :
    letters.matchesWhole [] = true ∧
      ∃ taken, taken <+: ['1'] ∧ TakesAt (.regex letters) [.char 'a', .char '1'] 1 taken := by
  have whole : letters.matchesWhole [] = true := by decide +kernel
  obtain ⟨lead, isLead, -, matchesAhead⟩ := nullable_literals_match_before_characters letters
  have assertions : (Regex.ofChars? (Regex.leadFrame letters.source.toList)).map
      Regex.assertions = some [.textStart] := by
    decide +kernel
  rw [isLead] at assertions
  obtain ⟨isNullable, takes⟩ := matchesAhead [.char 'a', .char '1'] 1 '1' rfl
  obtain ⟨-, taken, isPrefix, takesLetters, -⟩ := takes (isNullable whole (by
    rw [Option.some.inj assertions]
    decide))
  exact ⟨whole, taken, isPrefix, takesLetters⟩

/-- The anchor at the end of a text. -/
def textEnd : Regex.Literal :=
  (Regex.Literal.ofSource? "$").get (by decide +kernel)

/-- The anchor matches the empty text as a whole, and fails in front of a letter. At the end
of a stream even the letters fail, and with them a sequence that comes to them there, where
the empty text matches. -/
theorem nullable_literals_need_not_match :
    (textEnd.matchesWhole [] = true ∧ ∀ apply scope memo,
      (eval ⟨apply, none⟩ (.regex textEnd) [.char 'a'] 0 scope memo).ending =
        (.mismatch, memo)) ∧
    (letters.matchesWhole [] = true ∧ ∀ apply scope memo,
      (eval ⟨apply, none⟩ (.seq [.prim (.char 'a'), .regex letters]) [.char 'a'] 0 scope
        memo).ending = (.mismatch, memo)) ∧
    TakesAt (.prim (.str "")) [.char 'a'] 1 [] := by
  have fails : matchRegex textEnd [.char 'a'] 0 = none := by decide +kernel
  refine ⟨⟨by decide +kernel, fun apply scope memo => ?_⟩,
    ⟨by decide +kernel, fun apply scope memo => ?_⟩, fun apply scope memo => ?_⟩
  · rw [eval, ending_leaf_unskipped, fails]
    rfl
  · have first : (eval ⟨apply, none⟩ (.prim (.char 'a')) [.char 'a'] 0 scope memo).ending =
        (.matched ⟨.char 'a', 1, scope⟩, memo) := by
      rw [eval, ending_leaf_unskipped]
      rfl
    have second : (eval ⟨apply, none⟩ (.regex letters) [.char 'a'] 1 scope memo).ending =
        (.mismatch, memo) := by
      rw [eval, ending_leaf_unskipped]
      rfl
    rw [eval, evalItems, Run.ending_bind_of_matched first, evalItems,
      Run.ending_bind_of_mismatch second]
  · rw [eval, ending_leaf_unskipped]
    rfl

end Matching
end Heirloom
