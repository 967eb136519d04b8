import Heirloom.Proofs.Matching.Application
import Heirloom.Proofs.Matching.Choice
import Heirloom.Proofs.Matching.Invariant
import Heirloom.Proofs.Matching.Leaf
import Heirloom.Proofs.Regex.Reading
import Heirloom.Proofs.Regex.Search
import Heirloom.Regex.Literal

/-!
# The two uses of a literal

A literal matches a whole text with one expression and the start of a text with
another. The first is the second with the anchor at the end of its last branch, so it
matches nothing that the second does not match, and everything that the second matches
up to the end of the text. The second prefers an alternative to those after it,
however long they are, so what it matches at the start may stop short of the whole
text.
-/

namespace Heirloom
namespace Regex

/-! ## Groups with an anchor -/

namespace OpenGroup

variable (group : OpenGroup) (flags : Flags)

/-- A branch matches what its items match one after the other. -/
theorem language_branch :
    group.branch.regex.language =
      Language.all (group.items.reverse.map fun item => item.regex.language) := by
  unfold branch
  split
  · next none => simp [none, language]
  · next item single => simp [single]
  · rw [language_concat, List.map_map]
    rfl

/-- A group matches what an earlier branch or the last one matches. -/
theorem language_close :
    group.close.regex.language =
      (Language.any (group.branches.reverse.map fun branch => branch.regex.language)).either
        group.branch.regex.language := by
  have listed : Language.any
      (((group.branch :: group.branches).reverse).map fun branch => branch.regex.language) =
      (Language.any (group.branches.reverse.map fun branch => branch.regex.language)).either
        group.branch.regex.language := by
    rw [List.reverse_cons, List.map_append, Language.any_append, List.map_singleton,
      Language.any_singleton]
  rw [← listed]
  unfold close
  split
  · next none => simp at none
  · next only single => rw [single, List.map_singleton, Language.any_singleton]
  · next first others _ several =>
      rw [several, language_alternation, List.map_map]
      rfl

/-- With the anchor the last branch matches only where the anchor holds. -/
theorem language_anchoredClose :
    (group.anchoredClose flags).regex.language =
      (Language.any (group.branches.reverse.map fun branch => branch.regex.language)).either
        (group.branch.regex.language.followedBy (look flags.endAnchor).language) := by
  rw [anchoredClose, language_close, language_branch, language_branch]
  simp [add]

end OpenGroup

/-- The anchor at the end holds at the end of a text. -/
theorem Flags.endAnchor_holds
    (flags : Flags)
    (before : List Char) :
    flags.endAnchor.holds before [] = true := by
  unfold Flags.endAnchor
  split
  · rfl
  · split <;> rfl

/-- The expressions of a literal: the one for whole texts matches nothing else than the
one for the start of texts, and at the end of a text it matches no less. -/
structure Framed (whole lead : Regex) : Prop where
  lead_of_whole : ∀ {before text after : List Char},
    whole.language before text after → lead.language before text after
  whole_of_lead : ∀ {before text : List Char},
    lead.language before text [] → whole.language before text []

/-- A text that is read is the expression of its piece. -/
theorem exists_piece_of_ofChars?
    {chars : List Char}
    {regex : Regex}
    (found : ofChars? chars = some regex) :
    ∃ piece, readGroups? (chars.length + 1) [] {} {} {} chars = some piece ∧
      regex = piece.regex := by
  obtain ⟨piece, reads, found⟩ := Option.bind_eq_some_iff.mp found
  split at found
  · exact ⟨piece, reads, (Option.some.inj found).symm⟩
  · cases found

/-- The frames of a source are read as expressions that belong together. -/
theorem framed_of_ofChars?
    {source : List Char}
    {whole lead : Regex}
    (isWhole : ofChars? (wholeFrame source) = some whole)
    (isLead : ofChars? (leadFrame source) = some lead) :
    Framed whole lead := by
  obtain ⟨wholePiece, wholeReads, rfl⟩ := exists_piece_of_ofChars? isWhole
  obtain ⟨leadPiece, leadReads, rfl⟩ := exists_piece_of_ofChars? isLead
  have reads : GroupState.read? {} (leadFrame source) = some leadPiece := leadReads
  rcases GroupState.read?_anchored reads with same | ⟨last, final, rfl, anchored⟩
  · -- A comment goes on over the anchor.
    obtain rfl := Option.some.inj (wholeReads.symm.trans same)
    exact ⟨id, id⟩
  · obtain rfl := Option.some.inj (wholeReads.symm.trans anchored)
    refine ⟨?_, ?_⟩
    · intro before text after matched
      rw [OpenGroup.language_anchoredClose] at matched
      rw [OpenGroup.language_close]
      rcases matched with earlier | ⟨first, _, rfl, matched, rfl, -⟩
      · exact .inl earlier
      · exact .inr (by simpa using matched)
    · intro before text matched
      rw [OpenGroup.language_close] at matched
      rw [OpenGroup.language_anchoredClose]
      rcases matched with earlier | matched
      · exact .inl earlier
      · exact .inr ⟨text, [], by simp, matched, rfl, final.endAnchor_holds _⟩

/-! ## Literals -/

namespace Literal

variable (literal : Literal)

/-- The programs of a literal are those of the frames of its source, which are expressions
that belong together. -/
theorem exists_frames :
    ∃ whole lead, ofChars? (leadFrame literal.source.toList) = some lead ∧
      literal.whole = whole.compile ∧ literal.lead = lead.compile ∧ Framed whole lead := by
  have compiled := literal.compiled
  unfold compileFrames? at compiled
  split at compiled
  · next whole lead isWhole isLead =>
      obtain ⟨wholes, leads⟩ := Prod.mk.inj (Option.some.inj compiled)
      exact ⟨whole, lead, isLead, wholes.symm, leads.symm, framed_of_ofChars? isWhole isLead⟩
  · cases compiled

/-- The programs of a literal are those of expressions that belong together. -/
theorem exists_framed :
    ∃ whole lead, literal.whole = whole.compile ∧ literal.lead = lead.compile ∧
      Framed whole lead := by
  obtain ⟨whole, lead, -, framed⟩ := literal.exists_frames
  exact ⟨whole, lead, framed⟩

/-- A literal whose match at the start reaches the end of a text matches the whole text. -/
theorem matchesWhole_of_leadLength?
    {chars : List Char}
    (found : literal.leadLength? chars = some chars.length) :
    literal.matchesWhole chars = true := by
  obtain ⟨whole, lead, isWhole, isLead, framed⟩ := literal.exists_framed
  obtain ⟨bounds, searched, limit⟩ := Option.map_eq_some_iff.mp found
  rw [isLead] at searched
  obtain ⟨skipped, text, rest, rfl, rfl, matched⟩ := language_of_search? searched
  have atEnd : rest = [] := by
    rw [← List.length_eq_zero_iff]
    simp only [List.length_append] at limit
    omega
  subst atEnd
  rw [matchesWhole, isWhole, search?_compile_isSome_iff]
  exact ⟨skipped, text, [], rfl, framed.whole_of_lead matched⟩

/-- A literal that matches a whole text has a match at its start. -/
theorem exists_leadLength?_of_matchesWhole
    {chars : List Char}
    (matched : literal.matchesWhole chars = true) :
    ∃ length, literal.leadLength? chars = some length := by
  obtain ⟨whole, lead, isWhole, isLead, framed⟩ := literal.exists_framed
  rw [matchesWhole, isWhole, search?_compile_isSome_iff] at matched
  obtain ⟨skipped, text, rest, split, matched⟩ := matched
  have searched := (search?_compile_isSome_iff lead chars).mpr
    ⟨skipped, text, rest, split, framed.lead_of_whole matched⟩
  rw [← isLead] at searched
  obtain ⟨bounds, searched⟩ := Option.isSome_iff_exists.mp searched
  exact ⟨bounds.2, by rw [leadLength?, searched]; rfl⟩

end Literal
end Regex

open Matching

namespace Matcher

variable
  {matcher : Matcher}
  {rule : Rule}
  {name : String}
  {literal : Regex.Literal}

/-- A condition decides whether a value is given. -/
theorem ending_guard
    (condition : Prop)
    [Decidable condition]
    (value : Value)
    (memo : Memo) :
    ((if condition then pure value else Run.mismatch : Run Value) memo).ending =
      (.ofOption (if condition then some value else none), memo) := by
  split <;> rfl

/-- A lexical rule for a regular expression matches what the expression matches at the
start of a stream, if nothing is left. -/
theorem matchAll_of_regex
    (found : matcher.grammar.rule? name = some rule)
    (lexical : rule.isSyntactic = false)
    (body : rule.body = .regex literal)
    (stream : List Value) :
    matcher.matchAll stream name =
      .ofOption (((matchRegex literal stream 0).filter fun hit => stream.length ≤ hit.finish).map
        fun hit => matcher.actions.apply rule.name [] hit.value) := by
  have context (apply : Applier) : matcher.contextFor apply rule = ⟨apply, none⟩ := by
    rw [contextFor, skipRuleFor, lexical]
    rfl
  have evaluated := ending_leaf_unskipped (matcher.applyWithin (matcher.depthLimit stream - 1))
    (matchRegex literal) stream 0 [] (Memo.put rule.name (.pending false) 0 Memo.empty)
  have same : eval (matcher.contextFor (matcher.applyWithin (matcher.depthLimit stream - 1)) rule)
      rule.body stream 0 [] =
      Context.leaf ⟨matcher.applyWithin (matcher.depthLimit stream - 1), none⟩
        (matchRegex literal) stream 0 [] := by
    rw [context, body, eval]
  rw [← same] at evaluated
  have applied := ending_applyWith_of_body found (Memo.find?_empty _ _) evaluated
    (Memo.find?_put_self _ _ _ _)
  have nests : matcher.applyWithin (matcher.depthLimit stream) =
      matcher.applyWith (matcher.applyWithin (matcher.depthLimit stream - 1)) := rfl
  have skips (apply : Applier) (position : Nat) (memo : Memo) :
      (Context.skip ⟨apply, none⟩ stream position memo).ending = (.matched position, memo) := rfl
  rw [matchAll, run, runWith, found, nests]
  simp only [context]
  cases matched : matchRegex literal stream 0 with
  | none =>
      rw [matched] at applied
      exact Report.outcome_of_ending
        ((Run.ending_bind_of_matched (skips _ _ _)).trans (Run.ending_bind_of_mismatch applied))
  | some hit =>
      rw [matched] at applied
      have result :
          ((some hit).filter fun hit => stream.length ≤ hit.finish).map
            (fun hit => matcher.actions.apply rule.name [] hit.value) =
          if stream.length ≤ hit.finish then some (matcher.actions.apply rule.name [] hit.value)
          else none := by
        by_cases whole : stream.length ≤ hit.finish <;> simp [Option.filter, whole]
      rw [result]
      exact Report.outcome_of_ending ((Run.ending_bind_of_matched (skips _ _ _)).trans
        ((Run.ending_bind_of_matched applied).trans
          ((Run.ending_bind_of_matched (skips _ _ _)).trans (ending_guard _ _ _))))

/-- The characters of a text are a run of characters. -/
theorem leadingChars_chars (text : String) : leadingChars (Value.chars text) = text.toList := by
  rw [Value.chars]
  induction text.toList with
  | nil => rfl
  | cons c chars inductionHypothesis =>
      rw [List.map_cons, leadingChars, inductionHypothesis]

/-- A lexical rule for a regular expression matches a text as one element if it matches
the characters of the text. Where it matches the element, the expression matches at the
start of the characters, and the rule matches them if that match reaches their end. -/
theorem regex_modes_agree_at_the_end
    (matcher : Matcher)
    {rule : Rule}
    {name : String}
    (found : matcher.grammar.rule? name = some rule)
    (lexical : rule.isSyntactic = false)
    {literal : Regex.Literal}
    (body : rule.body = .regex literal)
    {text : String}
    (nonempty : text ≠ "") :
    let value := matcher.actions.apply rule.name [] (.str text)
    (matcher.matchText text name = .matched value ∨ matcher.matchText text name = .mismatch) ∧
    (matcher.matchValue (.str text) name = .matched value ∨
      matcher.matchValue (.str text) name = .mismatch) ∧
    (matcher.matchText text name = .matched value →
      matcher.matchValue (.str text) name = .matched value) ∧
    (matcher.matchValue (.str text) name = .matched value →
      ∃ length ≤ text.length, literal.leadLength? text.toList = some length ∧
        (matcher.matchText text name = .matched value ↔ length = text.length)) := by
  intro value
  have element : matcher.matchValue (.str text) name =
      if literal.matchesWhole text.toList then .matched value else .mismatch := by
    rw [matchValue, matchAll_of_regex found lexical body, matchRegex]
    cases whole : literal.matchesWhole text.toList with
    | true => simp [whole, Option.filter, Outcome.ofOption, value]
    | false => simp [whole, Outcome.ofOption]
  have characters : matcher.matchText text name =
      if literal.leadLength? text.toList = some text.length then .matched value
      else .mismatch := by
    obtain ⟨c, chars, starts⟩ :=
      List.exists_cons_of_ne_nil (mt String.toList_eq_nil_iff.mp nonempty)
    have present : (Value.chars text)[0]? = some (.char c) := by
      rw [Value.chars, starts]
      rfl
    have size : (Value.chars text).length = text.toList.length := List.length_map ..
    rw [matchText, matchAll_of_regex found lexical body, matchRegex, present]
    simp only [List.drop_zero, leadingChars_chars, Nat.zero_add, size, ← String.length_toList]
    cases lead : literal.leadLength? text.toList with
    | none => simp [Outcome.ofOption]
    | some length =>
        have inside := Regex.Literal.leadLength?_le lead
        by_cases whole : length = text.toList.length
        · subst whole
          simp [Option.filter, Outcome.ofOption, value]
        · have short : ¬ text.toList.length ≤ length := by omega
          rw [if_neg (by simpa using whole)]
          simp only [Option.map_some, Option.filter, short, decide_false, Bool.false_eq_true,
            if_false]
          rfl
  rw [element, characters]
  refine ⟨by split <;> simp, by split <;> simp, ?_, ?_⟩
  · intro reaches
    split at reaches
    · next lead =>
        rw [← String.length_toList] at lead
        exact if_pos (literal.matchesWhole_of_leadLength? lead)
    · cases reaches
  · intro matched
    split at matched
    · next whole =>
        obtain ⟨length, lead⟩ := literal.exists_leadLength?_of_matchesWhole whole
        have inside := Regex.Literal.leadLength?_le lead
        rw [String.length_toList] at inside
        refine ⟨length, inside, lead, ?_⟩
        rw [lead]
        simp
    · cases matched

/-- An expression that prefers a character to a longer text that starts with it. -/
def shortFirst : Regex.Literal :=
  (Regex.Literal.ofSource? "a|ab").get (by decide +kernel)

/-- A lexical rule for the expression. -/
def shortFirstRule : Rule :=
  ⟨"short", .regex shortFirst⟩

/-- A matcher for the rule. -/
def shortFirsts : Matcher :=
  { grammar := ⟨1, "ShortFirsts", [shortFirstRule], none⟩ }

/-- The longer text is matched as one element, and as characters only if the match at
their start is the whole of them. -/
theorem short_first_at_the_end :
    (shortFirsts.grammar.rule? "short" = some shortFirstRule ∧
      shortFirstRule.isSyntactic = false ∧ shortFirstRule.body = .regex shortFirst ∧
      "ab" ≠ "") ∧
    let value := shortFirsts.actions.apply "short" [] (.str "ab")
    (shortFirsts.matchText "ab" "short" = .matched value ∨
      shortFirsts.matchText "ab" "short" = .mismatch) ∧
    (shortFirsts.matchValue (.str "ab") "short" = .matched value ∨
      shortFirsts.matchValue (.str "ab") "short" = .mismatch) ∧
    (shortFirsts.matchText "ab" "short" = .matched value →
      shortFirsts.matchValue (.str "ab") "short" = .matched value) ∧
    (shortFirsts.matchValue (.str "ab") "short" = .matched value →
      ∃ length ≤ "ab".length, shortFirst.leadLength? "ab".toList = some length ∧
        (shortFirsts.matchText "ab" "short" = .matched value ↔ length = "ab".length)) := by
  have found : shortFirsts.grammar.rule? "short" = some shortFirstRule := by decide +kernel
  have lexical : shortFirstRule.isSyntactic = false := by decide +kernel
  have nonempty : "ab" ≠ "" := by decide
  exact ⟨⟨found, lexical, rfl, nonempty⟩,
    shortFirsts.regex_modes_agree_at_the_end found lexical rfl nonempty⟩

/-- The expression matches the longer text as one element, and not as characters. -/
theorem short_first_depends_on_the_mode :
    (shortFirsts.grammar.rule? "short" = some shortFirstRule ∧
      shortFirstRule.isSyntactic = false ∧ shortFirstRule.body = .regex shortFirst ∧
      "ab" ≠ "") ∧
    shortFirsts.matchValue (.str "ab") "short" = .matched (.str "ab") ∧
    shortFirsts.matchText "ab" "short" = .mismatch := by
  refine ⟨⟨?_, ?_, rfl, ?_⟩, ?_, ?_⟩ <;> decide +kernel

end Matcher
end Heirloom
