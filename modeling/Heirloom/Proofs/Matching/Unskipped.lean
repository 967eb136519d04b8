import Heirloom.Proofs.Matching.LeadingBlanks
import Heirloom.Proofs.Matching.Respelling

/-!
# Streams without blanks

On a stream without blanks, inside its elements too, there is nothing to skip. So a
matcher that skips blanks does there what it does without skipping them, and an expression
comes to the same in a syntactic rule as in a lexical one. What is known of the rules for
blanks is all that is different.
-/

namespace Heirloom
namespace Matching

/-! ## Blanks in values -/

mutual

/-- Whether a value is a blank or has one inside it. -/
def hasBlank : Value → Bool
  | .char c => isBlank (.char c)
  | .str text => text.toList.any fun c => isBlank (.char c)
  | .list items => itemsHaveBlank items
  | .object fields => fieldsHaveBlank fields
  | _ => false

/-- Whether there is a blank among some values or inside them. -/
def itemsHaveBlank : List Value → Bool
  | [] => false
  | item :: items => hasBlank item || itemsHaveBlank items

/-- Whether there is a blank among the values of some fields or inside them. -/
def fieldsHaveBlank : List (String × Value) → Bool
  | [] => false
  | (_, value) :: fields => hasBlank value || fieldsHaveBlank fields

end

theorem hasBlank_of_mem
    {items : List Value}
    {item : Value}
    (free : itemsHaveBlank items = false)
    (present : item ∈ items) :
    hasBlank item = false := by
  induction items with
  | nil => cases present
  | cons head tail inductionHypothesis =>
      rw [itemsHaveBlank, Bool.or_eq_false_iff] at free
      rcases List.mem_cons.mp present with rfl | later
      · exact free.1
      · exact inductionHypothesis free.2 later

theorem hasBlank_of_field
    {fields : List (String × Value)}
    {field : String × Value}
    (free : fieldsHaveBlank fields = false)
    (present : field ∈ fields) :
    hasBlank field.2 = false := by
  induction fields with
  | nil => cases present
  | cons head tail inductionHypothesis =>
      rw [fieldsHaveBlank, Bool.or_eq_false_iff] at free
      rcases List.mem_cons.mp present with rfl | later
      · exact free.1
      · exact inductionHypothesis free.2 later

theorem itemsHaveBlank_chars (text : String) :
    itemsHaveBlank (Value.chars text) = hasBlank (.str text) := by
  rw [Value.chars, hasBlank]
  induction text.toList with
  | nil => rfl
  | cons c rest inductionHypothesis =>
      rw [List.map_cons, itemsHaveBlank, hasBlank, inductionHypothesis, List.any_cons]

/-- There is no blank in a stream, nor inside its elements. -/
def BlankFree (stream : List Value) : Prop :=
  itemsHaveBlank stream = false

instance (stream : List Value) : Decidable (BlankFree stream) :=
  inferInstanceAs (Decidable (_ = false))

namespace BlankFree

variable {stream : List Value}

/-- What is matched inside an element has no blanks either. -/
theorem inside
    {inner : List Value}
    (free : BlankFree stream)
    (inside : Inside stream inner) :
    BlankFree inner := by
  cases inside with
  | chars present => exact (itemsHaveBlank_chars _).trans (hasBlank_of_mem free present)
  | items present => exact hasBlank_of_mem free present
  | field present named =>
      have blankless := hasBlank_of_field (hasBlank_of_mem free present) named
      rw [BlankFree, itemsHaveBlank, itemsHaveBlank, blankless, Bool.or_false]

/-- There are no blanks to skip. -/
theorem afterBlanks
    (free : BlankFree stream)
    (position : Nat) :
    afterBlanks stream position = position := by
  have nothing : stream[position]?.filter isBlank = none := by
    rw [Option.filter_eq_none_iff]
    intro value found blank
    have other := hasBlank_of_mem free (List.mem_of_getElem? found)
    cases value with
    | char c => exact absurd (blank.symm.trans other) (by decide)
    | _ => cases blank
  rw [Matching.afterBlanks, leadingBlanks_of_not_blank nothing, List.length_nil, Nat.add_zero]

end BlankFree

/-! ## Simulations on some streams -/

namespace Simulation

section OnStreams

variable
  {ι : Type}
  {kind : List Value → Prop}

/-- A simulation of runs on streams of a kind, which passes on to what is inside them. -/
def onStreams
    (sim : Simulation ι)
    (kind : List Value → Prop)
    (passes : ∀ {stream inner : List Value}, kind stream → Inside stream inner → kind inner) :
    Simulation ι where
  alike := sim.alike
  Related stream offset same left right := kind stream → sim.Related stream offset same left right
  alike_refl := sim.alike_refl
  alike_list := sim.alike_list
  done results _ := sim.done results
  mismatch _ := sim.mismatch
  andThen first next holds :=
    sim.andThen (first holds) fun result other results => next result other results holds
  attempt related holds := sim.attempt (related holds)
  within inside related holds := sim.within inside (related (passes holds inside))

variable
  {sim : Simulation ι}
  {passes : ∀ {stream inner : List Value}, kind stream → Inside stream inner → kind inner}
  {stream : List Value}
  {offset position : Nat}

/-- Which matches are alike does not depend on the stream. -/
theorem hitsAlike_onStreams :
    (sim.onStreams kind passes).HitsAlike stream offset position =
      sim.HitsAlike stream offset position := by
  funext hit other
  exact propext ⟨fun hits => ⟨hits.value, hits.reaches⟩, fun hits => ⟨hits.value, hits.reaches⟩⟩

theorem completionsAlike_onStreams :
    (sim.onStreams kind passes).CompletionsAlike stream offset position =
      sim.CompletionsAlike stream offset position := by
  funext completion other
  exact propext
    ⟨fun completions => ⟨completions.value, completions.reaches, completions.bindings⟩,
      fun completions => ⟨completions.value, completions.reaches, completions.bindings⟩⟩

theorem entriesAlike_onStreams :
    (sim.onStreams kind passes).EntriesAlike stream offset position =
      sim.EntriesAlike stream offset position := by
  funext entry other
  refine propext ⟨fun entries => ?_, fun entries => ?_⟩
  · cases entries with
    | pending reentered => exact .pending reentered
    | done answers =>
        rw [hitsAlike_onStreams] at answers
        exact .done answers
  · cases entries with
    | pending reentered => exact .pending reentered
    | done answers =>
        refine .done ?_
        rw [hitsAlike_onStreams]
        exact answers

variable {names : String → Prop}

/-- What respects the memory does so on some streams. -/
theorem RespectsMemory.onStreams
    (memory : sim.RespectsMemory names) :
    (sim.onStreams kind passes).RespectsMemory names where
  consult named _ := by
    rw [entriesAlike_onStreams]
    exact memory.consult named
  remember named entries _ := by
    rw [entriesAlike_onStreams] at entries
    exact memory.remember named entries
  entered rule _ := memory.entered rule
  left rule result rightResult completions _ := by
    rw [completionsAlike_onStreams] at completions
    exact memory.left rule result rightResult completions
  reentered rule _ := memory.reentered rule
  answered rule _ _ answers _ := by
    rw [hitsAlike_onStreams] at answers
    exact memory.answered rule answers
  failed fault _ := memory.failed fault

end OnStreams

end Simulation

/-! ## Skipping in place -/

section Skipping

variable
  {fixed : FixedAnswers}
  {behind : String → Nat → Option Entry}
  {stream : List Value}
  {offset : Nat}
  {memo after rightMemo : Memo}

/-- What becomes known on the left of rules with fixed answers makes no difference. -/
theorem Shifted.of_sameBut
    (shifted : Shifted fixed behind stream offset memo rightMemo)
    (truthful : after.Truthful fixed stream)
    (same : memo.SameBut (fun rule => (fixed rule).isSome) after) :
    Shifted fixed behind stream offset after rightMemo := by
  have kept {rule : String} (free : fixed rule = none) : ¬ (fixed rule).isSome = true := by
    simp [free]
  refine ⟨shifted.inside, ?_, truthful, shifted.rightTruthful, ?_, shifted.bounded⟩
  · intro rule free position before
    rw [same (kept free), shifted.kept free before]
  · intro rule free position
    rw [same (kept free), shifted.same free]

/-- Runs beside each other on streams without blanks, which may know different things of
the rules for blanks. -/
def unskipping (actions : Actions) (behind : String → Nat → Option Entry) : Simulation Unit :=
  (shifting (blanksFixed actions) behind).simulation.onStreams BlankFree BlankFree.inside

/-- Where there are no blanks it makes no difference whether they are skipped. -/
theorem unskipping_agree
    {actions : Actions}
    {apply rightApply : Applier}
    (applied : (unskipping actions behind).AppliersAgree (fun _ => True) apply
      fun _ => rightApply)
    (gives : apply.Gives (blanksFixed actions))
    {skipRule : Option String}
    (skips : ∀ rule, skipRule = some rule → rule = skipRuleName) :
    (unskipping actions behind).Agree (fun _ => True) ⟨apply, skipRule⟩
      fun _ => ⟨rightApply, none⟩ where
  apply := applied
  skip := by
    intro stream offset position inside
    cases skipRule with
    | none => exact (unskipping actions behind).done ⟨rfl, Nat.le_refl _, inside⟩
    | some rule =>
        obtain rfl := skips rule rfl
        intro free memo rightMemo shifted
        have given : blanksFixed actions skipRuleName = some (blanksAnswer actions) := rfl
        rcases gives given inside memo shifted.truthful with stops | gave
        · exact .inl (.inl ⟨.exhausted, rfl, Report.outcome_of_ending
            (Run.ending_bind_of_fault (Run.ending_attempt_of_fault (Report.ending_eq stops)))⟩)
        · have skipped := Matcher.ending_skip_of_gives gave
          rw [free.afterBlanks] at skipped
          refine .inr ⟨?_, trivial, fun _ => ?_, fun _ => trivial⟩
          · rw [Report.outcome_of_ending skipped]
            exact .matched ⟨rfl, Nat.le_refl _, inside⟩
          · rw [Report.memo_of_ending skipped]
            exact shifted.of_sameBut gave.truthful gave.same

end Skipping

end Matching

open Matching Simulation

namespace Matcher

variable
  {matcher : Matcher}
  {stream : List Value}
  {behind : String → Nat → Option Entry}

/-- The same matcher, which skips nothing. -/
def withoutSkipping (matcher : Matcher) : Matcher :=
  { matcher with skipRule := none }

theorem skipRule_withoutSkipping (matcher : Matcher) :
    matcher.withoutSkipping.skipRule = none := rfl

/-- Its rules for blanks are the same. -/
theorem KnowsBlanks.withoutSkipping
    (knows : matcher.KnowsBlanks) :
    matcher.withoutSkipping.KnowsBlanks :=
  ⟨knows.blank, knows.blanks⟩

/-- Blanks are skipped with the rule for all blanks. -/
theorem SkipsBlanks.eq_of_skipRuleFor
    (skips : matcher.SkipsBlanks)
    (syntactic : Bool) :
    ∀ rule, matcher.skipRuleFor syntactic = some rule → rule = skipRuleName := by
  intro rule skipped
  have same := (skipRule_of_skipRuleFor skipped).1
  exact Option.some.inj (same.symm.trans skips.skips)

/-- On streams without blanks applications do the same where nothing is skipped, unless a
bound is reached. -/
theorem applyWithin_unskipped
    (skips : matcher.SkipsBlanks)
    (behind : String → Nat → Option Entry)
    (depth : Nat) :
    ∀ rightDepth, (unskipping matcher.actions behind).AppliersAgree (fun _ => True)
      (matcher.applyWithin depth) fun _ => matcher.withoutSkipping.applyWithin rightDepth := by
  induction depth with
  | zero =>
      intro rightDepth stream offset position rule _ _ _ memo rightMemo _
      exact .inl (.inl ⟨.exhausted, rfl, rfl⟩)
  | succ depth inductionHypothesis =>
      intro rightDepth stream offset position name _ inside
      cases rightDepth with
      | zero => exact fun _ memo rightMemo _ => .inl (.inr ⟨.exhausted, rfl, rfl⟩)
      | succ rightDepth =>
          have gives := skips.knows.gives
          have rightGives := skips.knows.withoutSkipping.gives
          cases given : blanksFixed matcher.actions name with
          | some answer =>
              intro _
              rw [unskipping, hitsAlike_onStreams]
              exact (gives (depth + 1)).related (blanksFixed_inside matcher.actions)
                (rightGives (rightDepth + 1)) given inside
          | none =>
              change (unskipping matcher.actions behind).Related stream offset _
                (matcher.applyWith (matcher.applyWithin depth) stream name (position + offset))
                fun _ => matcher.withoutSkipping.applyWith
                  (matcher.withoutSkipping.applyWithin rightDepth) (stream.drop offset) name
                  position
              cases found : matcher.grammar.rule? name with
              | none =>
                  have rightFound : matcher.withoutSkipping.grammar.rule? name = none := found
                  rw [applyWith_of_undefined found]
                  simp only [applyWith_of_undefined rightFound]
                  exact fun _ => shifting_respectsMemory.failed _
              | some rule =>
                  refine applyWith_related_of_found shifting_respectsMemory.onStreams given found
                    found (fun _ _ => trivial) (actions_alike id matcher.actions name) ?_ inside
                  simp only [contextFor_of_unskipped matcher.skipRule_withoutSkipping]
                  exact unskipping_agree (inductionHypothesis rightDepth) (gives depth)
                    (skips.eq_of_skipRuleFor rule.isSyntactic)

/-- On a stream without blanks a rule is matched as it is where nothing is skipped. -/
theorem SkipsBlanks.matchAll_withoutSkipping
    (skips : matcher.SkipsBlanks)
    (free : BlankFree stream)
    (name : String) :
    matcher.withoutSkipping.matchAll stream name = matcher.matchAll stream name := by
  have ends := matcher.matchAll_ne_exhausted stream name
  have rightEnds := matcher.withoutSkipping.matchAll_ne_exhausted stream name
  unfold matchAll run at ends rightEnds ⊢
  cases found : matcher.grammar.rule? name with
  | none =>
      have rightFound : matcher.withoutSkipping.grammar.rule? name = none := found
      simp only [runWith, found, rightFound]
      rfl
  | some rule =>
      have rightFound : matcher.withoutSkipping.grammar.rule? name = some rule := found
      have contexts : (unskipping matcher.actions Memo.empty.find?).Agree (fun _ => True)
          (matcher.contextFor (matcher.applyWithin (matcher.depthLimit stream)) rule)
          fun _ => matcher.withoutSkipping.contextFor
            (matcher.withoutSkipping.applyWithin (matcher.withoutSkipping.depthLimit stream))
            rule := by
        simp only [contextFor_of_unskipped matcher.skipRule_withoutSkipping]
        exact unskipping_agree (applyWithin_unskipped skips _ _ _) (skips.knows.gives _)
          (skips.eq_of_skipRuleFor rule.isSyntactic)
      have related : Simulation.Related _ stream 0 _ _ _ :=
        runWith_related found rightFound contexts trivial
      rcases related free Memo.empty Memo.empty (.empty _ _ stream) with
        (⟨_, rfl, stops⟩ | ⟨_, rfl, stops⟩) | report
      · exact absurd stops ends
      · exact absurd stops rightEnds
      · exact report.outcomes.eq.symm

/-- Under other names its rules are the same. -/
theorem Respells.withoutSkipping
    {other : Matcher}
    {names : String → String}
    (respells : matcher.Respells other names) :
    matcher.withoutSkipping.Respells other.withoutSkipping names :=
  ⟨respells.injective, respells.rules, respells.acts⟩

/-- On a stream without blanks it makes no difference whether they are skipped. So it makes
none either whether a rule is syntactic or lexical: by other names, of whichever class, the
rules match the same, and only faults show the names. -/
theorem skipping_is_invisible
    (skips : matcher.SkipsBlanks)
    (free : BlankFree stream) :
    (∀ name, matcher.withoutSkipping.matchAll stream name = matcher.matchAll stream name) ∧
      ∀ (other : Matcher) (names : String → String), other.SkipsBlanks →
        matcher.Respells other names → ∀ name,
          other.matchAll stream (names name) =
            (matcher.matchAll stream name).mapFault (Fault.respell names other.grammar.name) := by
  refine ⟨skips.matchAll_withoutSkipping free, fun other names otherSkips respells name => ?_⟩
  rw [← otherSkips.matchAll_withoutSkipping free, ← skips.matchAll_withoutSkipping free]
  exact matchAll_respelled respells.withoutSkipping matcher.skipRule_withoutSkipping
    other.skipRule_withoutSkipping stream name

/-- The name of the rule for sums in lower case. -/
def lowered : String → String :=
  Equiv.swap "Sum" "sum"

/-- A matcher for sums where the rule is lexical. -/
def lexicalSums : Matcher :=
  { grammar := ⟨1, "LexicalSums", [spacedSumRule].map (Rule.respell lowered),
      some baseGrammar⟩ }

/-- The base grammar has no rule for sums, and its rules do not apply one. -/
theorem base_lowered (name : String) :
    baseGrammar.rule? (lowered name) = (baseGrammar.rule? name).map (Rule.respell lowered) := by
  have unchanged : ∀ rule ∈ baseRules, rule.respell lowered = rule := by
    decide +kernel
  by_cases isUpper : name = "Sum"
  · subst isUpper
    decide +kernel
  by_cases isLower : name = "sum"
  · subst isLower
    decide +kernel
  rw [lowered, Equiv.swap_apply_of_ne_of_ne isUpper isLower]
  cases found : baseGrammar.rule? name with
  | none => rfl
  | some rule =>
      obtain ⟨ancestor, inherited, declared⟩ := List.exists_of_findSome?_eq_some found
      obtain rfl : ancestor = baseGrammar := List.mem_singleton.mp inherited
      exact congrArg some (unchanged rule (List.mem_of_find?_eq_some declared)).symm

theorem lexicalSums_respells : spacedSums.Respells lexicalSums lowered where
  injective := (Equiv.swap "Sum" "sum").injective
  rules := rule?_respell (Equiv.swap "Sum" "sum").injective base_lowered _ _ _ _ _
  acts _ _ _ := rfl

/-- A sum without blanks is matched without skipping, and by a lexical rule. -/
theorem sum_without_blanks :
    let stream := Value.chars "1+2"
    (spacedSums.SkipsBlanks ∧ BlankFree stream) ∧
    (spacedSums.withoutSkipping.matchAll stream "Sum" = spacedSums.matchAll stream "Sum" ∧
      spacedSums.matchAll stream "Sum" = .matched (.char '2')) ∧
    (lexicalSums.SkipsBlanks ∧ spacedSums.Respells lexicalSums lowered) ∧
    lexicalSums.matchAll stream "sum" = .matched (.char '2') := by
  intro stream
  have skips : spacedSums.SkipsBlanks := ⟨rfl, by decide +kernel, by decide +kernel⟩
  have lexicalSkips : lexicalSums.SkipsBlanks := ⟨rfl, by decide +kernel, by decide +kernel⟩
  have free : BlankFree stream := by decide +kernel
  have comes : spacedSums.matchAll stream "Sum" = .matched (.char '2') := by decide +kernel
  obtain ⟨unskipped, respelled⟩ := skipping_is_invisible skips free
  have renamed := respelled lexicalSums lowered lexicalSkips lexicalSums_respells "Sum"
  rw [comes, lowered, Equiv.swap_apply_left] at renamed
  exact ⟨⟨skips, free⟩, ⟨unskipped "Sum", comes⟩, ⟨lexicalSkips, lexicalSums_respells⟩, renamed⟩

end Matcher
end Heirloom
