import Heirloom.Proofs.Wrapping.Loading

/-!
# Recognition with a wrapped alternative

Writing an alternative of a rule as an inline rule changes neither whether the source is
loaded nor what its rules match. The exception is an alternative that leads back to the
rule around it where it started: the inline rule is then evaluated once, while the match
of the rule around it is still to be grown, and its answer stays what it was then.
-/

namespace Heirloom

open Matching

/-- Every rule other than an inline rule matches alike in both grammars on every stream on
which the outer rule is applied nowhere while the wrapper is in progress there. -/
def Grammar.RecognizesAlike (outer : String) (plain wrapped : Grammar) : Prop :=
  ∀ (name : String) (stream : List Value),
    (∀ rule, plain.rule? name = some rule ∨ wrapped.rule? name = some rule →
      rule.isInline = false) →
    (∀ inner, IsWrapper outer plain wrapped inner →
      isApart outer inner [] (Matcher.run { grammar := wrapped } stream name).events = true) →
    Matcher.matchAll { grammar := wrapped } stream name =
      Matcher.matchAll { grammar := plain } stream name

/-- A source and the source in which one top-level alternative of one rule is written as an
inline rule are both loaded or neither is, unless the grammars are validated and the same
declaration overrides that rule later on. Their grammars then match alike in turn, as long
as the rule is applied nowhere while the new inline rule is in progress there. -/
theorem wrapped_alternatives_are_recognized_alike
    {outer source other : String}
    {later : List Source.RuleDeclaration}
    {declarations others : List Source.Declaration}
    {space : Option String}
    {options : LoadOptions}
    {workspace : Workspace}
    (parses : Source.parseAll source = .ok declarations)
    (otherParses : Source.parseAll other = .ok others)
    (wraps : Source.DeclarationsWrap outer later declarations others)
    (held : space.isSome → ∀ held ∈ workspace.registry.spaces, ∀ grammar ∈ held.grammars,
      grammar.FromSource)
    (stays : options.validate = true →
      ∀ rule ∈ later, rule.name = outer → rule.operator ≠ .override) :
    EndAlike (fun _ _ => True) (List.Forall₂ (Grammar.RecognizesAlike outer))
      ((WorkspaceM.loadAll space options source).run.run workspace)
      ((WorkspaceM.loadAll space options other).run.run workspace) := by
  have written := Source.written_of_parseAll parses
  have otherWritten := Source.written_of_parseAll otherParses
  have outerPlain : '-' ∉ outer.toList := by
    obtain ⟨declaration, mem, rule, isRule, rfl⟩ := wraps.exists_mem
    exact WorkspaceM.rules_plain (written declaration mem) rule isRule
  have offers : workspace.registry.Offers space Grammar.Sound :=
    fun isSpace space mem grammar isHeld =>
      (held isSpace space mem grammar isHeld).good Grammar.sound_hereditary
  have loads : EndAlike (Workspace.Alike outer space) (List.Forall₂ (Grammar.Alike outer))
      ((WorkspaceM.loadEach space options [] declarations).run.run workspace)
      ((WorkspaceM.loadEach space options [] others).run.run workspace) :=
    WorkspaceM.loadEach_wraps wraps written otherWritten outerPlain stays nofun offers
  have registers : EndAlike (Workspace.Alike outer space) (List.Forall₂ (Grammar.Alike outer))
      ((WorkspaceM.loadAll space options source).run.run workspace)
      ((WorkspaceM.loadAll space options other).run.run workspace) := by
    unfold WorkspaceM.loadAll
    rw [parses, otherParses]
    exact loads.bind fun _ _ middle otherMiddle batches alike =>
      WorkspaceM.registerBatch_goAlike batches middle otherMiddle alike
  refine registers.imp fun _ _ _ _ _ _ grammars _ => ⟨grammars.imp ?_, trivial⟩
  exact fun plain wrapped alike name stream declared apart =>
    alike.matchAll_eq outerPlain declared stream apart

/-! ## Two rules -/

/-- The only grammar `G` starts with a rule `r` that is a choice of two alternatives. -/
def declaresChoice
    (first second : Source.Pattern → Bool)
    (later : List Source.RuleDeclaration → Bool) : List Source.Declaration → Bool
  | [⟨"G", none, ⟨"r", _, .define, .alt [one, other]⟩ :: rules⟩] =>
      first one && second other && later rules
  | _ => false

def isText (text : String) : Source.Pattern → Bool
  | .literal _ (.text value) => value == text
  | _ => false

def isCall (rule : String) : Source.Pattern → Bool
  | .call name => name == rule
  | _ => false

/-- The rule itself and the text `b`. -/
def isStep : Source.Pattern → Bool
  | .seq [.call "r", .literal _ (.text "b")] => true
  | _ => false

def isInline (inside : Source.Pattern → Bool) : Source.Pattern → Bool
  | .inline body => inside body
  | _ => false

/-- The rule `r` is overridden by the text `b`. -/
def overrides : List Source.RuleDeclaration → Bool
  | [⟨"r", _, .override, .literal _ (.text "b")⟩] => true
  | _ => false

/-- Patterns of which the test allows one up to positions. -/
def Pins (test : Source.Pattern → Bool) (pattern : Source.Pattern) : Prop :=
  ∀ other, test other = true → other.unplaced = pattern

theorem isText_pins (text : String) : Pins (isText text) (.literal .start (.text text)) := by
  intro pattern passes
  unfold isText at passes
  split at passes
  · cases eq_of_beq passes
    rfl
  · cases passes

theorem isCall_pins (rule : String) : Pins (isCall rule) (.call rule) := by
  intro pattern passes
  unfold isCall at passes
  split at passes
  · cases eq_of_beq passes
    rfl
  · cases passes

theorem isStep_pins : Pins isStep (.seq [.call "r", .literal .start (.text "b")]) := by
  intro pattern passes
  unfold isStep at passes
  split at passes
  · rfl
  · cases passes

theorem isInline_pins
    {inside : Source.Pattern → Bool}
    {body : Source.Pattern}
    (pins : Pins inside body) :
    Pins (isInline inside) (.inline body) := by
  intro pattern passes
  unfold isInline at passes
  split at passes
  · exact congrArg Source.Pattern.inline (pins _ passes)
  · cases passes

theorem eq_of_declaresChoice
    {first second : Source.Pattern → Bool}
    {one other : Source.Pattern}
    {later : List Source.RuleDeclaration → Bool}
    {declarations : List Source.Declaration}
    (pinsFirst : Pins first one)
    (pinsSecond : Pins second other)
    (declares : declaresChoice first second later declarations = true) :
    ∃ position body rules, body.unplaced = .alt [one, other] ∧ later rules = true ∧
      declarations = [⟨"G", none, ⟨"r", position, .define, body⟩ :: rules⟩] := by
  unfold declaresChoice at declares
  split at declares
  · obtain ⟨both, isLater⟩ := Bool.and_eq_true_iff.mp declares
    obtain ⟨isFirst, isSecond⟩ := Bool.and_eq_true_iff.mp both
    refine ⟨_, _, _, ?_, isLater, rfl⟩
    rw [Source.Pattern.unplaced, Source.Pattern.unplacedAll, Source.Pattern.unplacedAll,
      Source.Pattern.unplacedAll, pinsFirst _ isFirst, pinsSecond _ isSecond]
  · cases declares

/-- The second source is the first one with an alternative of the rule wrapped. -/
def WrapSources (outer source other : String) : Prop :=
  ∃ later declarations others, Source.parseAll source = .ok declarations ∧
    Source.parseAll other = .ok others ∧
    Source.DeclarationsWrap outer later declarations others

theorem wrapSources_of_declaresChoice
    {source other : String}
    {first second otherFirst otherSecond : Source.Pattern → Bool}
    {one two otherOne otherTwo : Source.Pattern}
    {later : List Source.RuleDeclaration → Bool}
    (declares : (Source.parseAll source).toOption.any (declaresChoice first second later) = true)
    (otherDeclares :
      (Source.parseAll other).toOption.any (declaresChoice otherFirst otherSecond later) = true)
    (pins : Pins first one ∧ Pins second two)
    (otherPins : Pins otherFirst otherOne ∧ Pins otherSecond otherTwo)
    (wraps : Source.Pattern.Wraps (.alt [one, two]) (.alt [otherOne, otherTwo]))
    (same : ∀ rules others, later rules = true → later others = true →
      others.map Source.RuleDeclaration.unplaced = rules.map Source.RuleDeclaration.unplaced) :
    WrapSources "r" source other := by
  obtain ⟨_, parses, isChoice⟩ := exists_ok_of_any declares
  obtain ⟨_, otherParses, isOther⟩ := exists_ok_of_any otherDeclares
  obtain ⟨_, body, rules, isBody, isLater, rfl⟩ := eq_of_declaresChoice pins.1 pins.2 isChoice
  obtain ⟨_, otherBody, others, isOtherBody, isOtherLater, rfl⟩ :=
    eq_of_declaresChoice otherPins.1 otherPins.2 isOther
  have bodies : body.unplaced.Wraps otherBody.unplaced := by
    rw [isBody, isOtherBody]
    exact wraps
  exact ⟨rules, _, _, parses, otherParses,
    .here ⟨rfl, rfl, .here rfl ⟨rfl, rfl, bodies⟩ (same _ _ isLater isOtherLater)⟩ rfl⟩

theorem wraps_first (one two : Source.Pattern) :
    Source.Pattern.Wraps (.alt [one, two]) (.alt [.inline one, two]) :=
  @Source.Pattern.Wraps.one [] [two] one

theorem wraps_second (one two : Source.Pattern) :
    Source.Pattern.Wraps (.alt [one, two]) (.alt [one, .inline two]) :=
  @Source.Pattern.Wraps.one [one] [] two

theorem unplaced_eq_of_isEmpty (rules others : List Source.RuleDeclaration)
    (none : rules.isEmpty = true)
    (otherNone : others.isEmpty = true) :
    others.map Source.RuleDeclaration.unplaced = rules.map Source.RuleDeclaration.unplaced := by
  rw [List.isEmpty_iff.mp none, List.isEmpty_iff.mp otherNone]

theorem unplaced_eq_of_overrides (rules others : List Source.RuleDeclaration)
    (overrides : overrides rules = true)
    (otherOverrides : Heirloom.overrides others = true) :
    others.map Source.RuleDeclaration.unplaced = rules.map Source.RuleDeclaration.unplaced := by
  unfold Heirloom.overrides at overrides otherOverrides
  split at overrides
  · split at otherOverrides
    · rfl
    · cases otherOverrides
  · cases overrides

/-! ## A left-recursive rule -/

/-- A rule that matches the text `a` and any number of texts `b`. -/
def steps : String :=
  "grammar G \x7br=r \"b\"|\"a\"\x7d"

/-- The same with the text `a` as an inline rule. -/
def stepsFromInline : String :=
  "grammar G \x7br=r \"b\"|#(\"a\")\x7d"

/-- The same with an inline rule for the alternative that starts with the rule itself. -/
def stepsInInline : String :=
  "grammar G \x7br=#(r \"b\")|\"a\"\x7d"

theorem declares_steps :
    (Source.parseAll steps).toOption.any
      (declaresChoice isStep (isText "a") List.isEmpty) = true := by
  decide +kernel

theorem wrapSources_stepsFromInline : WrapSources "r" steps stepsFromInline :=
  wrapSources_of_declaresChoice declares_steps (by decide +kernel)
    ⟨isStep_pins, isText_pins "a"⟩ ⟨isStep_pins, isInline_pins (isText_pins "a")⟩
    (wraps_second _ _) unplaced_eq_of_isEmpty

theorem wrapSources_stepsInInline : WrapSources "r" steps stepsInInline :=
  wrapSources_of_declaresChoice declares_steps (by decide +kernel)
    ⟨isStep_pins, isText_pins "a"⟩ ⟨isInline_pins isStep_pins, isText_pins "a"⟩
    (wraps_first _ _) unplaced_eq_of_isEmpty

/-- An alternative that calls a missing rule, in a rule that is overridden afterwards. -/
theorem wrapSources_overridden :
    WrapSources "r" "grammar G \x7br=x|\"a\",r:=\"b\"\x7d"
      "grammar G \x7br=#(x)|\"a\",r:=\"b\"\x7d" :=
  wrapSources_of_declaresChoice (by decide +kernel) (by decide +kernel)
    ⟨isCall_pins "x", isText_pins "a"⟩ ⟨isInline_pins (isCall_pins "x"), isText_pins "a"⟩
    (wraps_first _ _) unplaced_eq_of_overrides

/-- A text is matched alike whether the base of the rule is wrapped or not. -/
theorem wrapped_base_is_recognized_alike :
    WrapSources "r" steps stepsFromInline ∧
    ∃ plain wrapped,
      ((WorkspaceM.loadAll none {} steps).run.run {}).1 = .ok [plain] ∧
      ((WorkspaceM.loadAll none {} stepsFromInline).run.run {}).1 = .ok [wrapped] ∧
      IsWrapper "r" plain wrapped "r-1" ∧
      isApart "r" "r-1" [] (Matcher.run { grammar := wrapped } (Value.chars "abb") "r").events =
        true ∧
      Matcher.matchText { grammar := wrapped } "abb" "r" =
        Matcher.matchText { grammar := plain } "abb" "r" := by
  refine ⟨wrapSources_stepsFromInline, ?_⟩
  obtain ⟨later, declarations, others, parses, otherParses, wraps⟩ := wrapSources_stepsFromInline
  have alike : EndAlike (fun _ _ => True) (List.Forall₂ (Grammar.RecognizesAlike "r"))
      ((WorkspaceM.loadAll none {} steps).run.run {})
      ((WorkspaceM.loadAll none {} stepsFromInline).run.run {}) :=
    wrapped_alternatives_are_recognized_alike parses otherParses wraps nofun nofun
  obtain ⟨grammars, after, loads, isPlain⟩ := exists_run_eq_ok_of_any
    (by decide +kernel :
      ((WorkspaceM.loadAll none {} steps).run.run {}).1.toOption.any
        (fun grammars => decide (grammars.length = 1 ∧
          grammars[0]?.bind (·.lookup? "r") =
            some (.alt (.seq [.app "r", .prim (.str "b")]) (.prim (.str "a"))))) = true)
  obtain ⟨wrappeds, otherAfter, otherLoads, isWrapped⟩ := exists_run_eq_ok_of_any
    (by decide +kernel :
      ((WorkspaceM.loadAll none {} stepsFromInline).run.run {}).1.toOption.any
        (fun grammars => decide (grammars.length = 1 ∧
          grammars[0]?.bind (·.lookup? "r") =
            some (.alt (.seq [.app "r", .prim (.str "b")]) (.inline "r-1" (.prim (.str "a")))) ∧
          ∀ grammar ∈ grammars, isApart "r" "r-1" []
            (Matcher.run { grammar := grammar } (Value.chars "abb") "r").events = true)) = true)
  obtain ⟨one, found⟩ := of_decide_eq_true isPlain
  obtain ⟨otherOne, otherFound, apart⟩ := of_decide_eq_true isWrapped
  obtain ⟨plain, rfl⟩ := List.length_eq_one_iff.mp one
  obtain ⟨wrapped, rfl⟩ := List.length_eq_one_iff.mp otherOne
  rw [loads, otherLoads] at alike
  have plainFound : plain.lookup? "r" =
      some (.alt (.seq [.app "r", .prim (.str "b")]) (.prim (.str "a"))) := found
  have wrappedFound : wrapped.lookup? "r" =
      some (.alt (.seq [.app "r", .prim (.str "b")]) (.inline "r-1" (.prim (.str "a")))) :=
    otherFound
  have apartHere := apart wrapped (List.mem_singleton_self _)
  have isWrapper : IsWrapper "r" plain wrapped "r-1" :=
    ⟨_, _, plainFound, wrappedFound, _, _, .right .here, rfl⟩
  refine ⟨plain, wrapped, by rw [loads], by rw [otherLoads], isWrapper, apartHere, ?_⟩
  cases alike with
  | succeed grammars =>
      cases grammars with
      | cons recognizes =>
          refine recognizes "r" (Value.chars "abb") ?_ ?_
          · rintro rule (found | found) <;>
              · rw [Rule.isInline, Grammar.name_of_rule? found]
                decide
          · rintro inner ⟨_, _, -, isOther, _, _, wraps, -⟩
            cases wrappedFound.symm.trans isOther
            cases wraps with
            | left wraps => cases wraps
            | right wraps =>
                cases wraps
                exact apartHere

/-- The alternative that starts with the rule itself is lost when it is wrapped: the inline
rule is evaluated before the rule around it has matched, and not again. And an inline rule
is validated although the rule around it is overridden. -/
theorem wrapped_left_recursion_is_not_recognized :
    (WrapSources "r" steps stepsInInline ∧
      ∃ plain wrapped,
        ((WorkspaceM.loadAll none {} steps).run.run {}).1 = .ok [plain] ∧
        ((WorkspaceM.loadAll none {} stepsInInline).run.run {}).1 = .ok [wrapped] ∧
        Matcher.matchText { grammar := plain } "ab" "r" = .matched (.str "b") ∧
        Matcher.matchText { grammar := wrapped } "ab" "r" = .mismatch) ∧
    WrapSources "r" "grammar G \x7br=x|\"a\",r:=\"b\"\x7d"
      "grammar G \x7br=#(x)|\"a\",r:=\"b\"\x7d" ∧
    ((WorkspaceM.loadAll none { validate := true }
      "grammar G \x7br=x|\"a\",r:=\"b\"\x7d").run.run {}).1.toOption.isSome ∧
    ((WorkspaceM.loadAll none { validate := true }
      "grammar G \x7br=#(x)|\"a\",r:=\"b\"\x7d").run.run {}).1.toOption.isNone := by
  refine ⟨⟨wrapSources_stepsInInline, ?_⟩, wrapSources_overridden, by decide +kernel,
    by decide +kernel⟩
  obtain ⟨grammars, loads, isPlain⟩ := exists_ok_of_any
    (by decide +kernel :
      ((WorkspaceM.loadAll none {} steps).run.run {}).1.toOption.any
        (fun grammars => decide (grammars.length = 1 ∧ ∀ grammar ∈ grammars,
          Matcher.matchText { grammar := grammar } "ab" "r" = .matched (.str "b"))) = true)
  obtain ⟨wrappeds, otherLoads, isWrapped⟩ := exists_ok_of_any
    (by decide +kernel :
      ((WorkspaceM.loadAll none {} stepsInInline).run.run {}).1.toOption.any
        (fun grammars => decide (grammars.length = 1 ∧ ∀ grammar ∈ grammars,
          Matcher.matchText { grammar := grammar } "ab" "r" = .mismatch)) = true)
  obtain ⟨one, matched⟩ := of_decide_eq_true isPlain
  obtain ⟨otherOne, mismatch⟩ := of_decide_eq_true isWrapped
  obtain ⟨plain, rfl⟩ := List.length_eq_one_iff.mp one
  obtain ⟨wrapped, rfl⟩ := List.length_eq_one_iff.mp otherOne
  exact ⟨plain, wrapped, loads, otherLoads, matched plain (List.mem_singleton_self _),
    mismatch wrapped (List.mem_singleton_self _)⟩

end Heirloom
