import Heirloom.Grammar.Printer
import Heirloom.Proofs.Lowering
import Heirloom.Proofs.Source.Printing
import Mathlib.Data.List.Forall2

/-!
# Printed grammars read back

The written form of grammars is read as one declaration for each, which names
the grammar and its super-grammar as they are and defines each declared rule
anew, in order, with a pattern whose outline is its body.
-/

namespace Heirloom

/-- How the written form of a grammar refers to its super-grammar. -/
def Grammar.parentRef? (grammar : Grammar) : Option GrammarRef :=
  match grammar.parent with
  | some parent => if parent.isBase then none else some ⟨none, parent.name⟩
  | none => none

namespace Source

open Pattern (outline?)

/-- The written rule defines the rule, but for the names of inline expressions. -/
structure RuleDeclaration.Defines (written : RuleDeclaration) (rule : Rule) : Prop where
  name : written.name = rule.name
  operator : written.operator = .define
  body : outline? written.body = some rule.body.anonymous

/-- The declaration says all that the written form of the grammar shows. -/
structure Declaration.Declares (declaration : Declaration) (grammar : Grammar) : Prop where
  name : declaration.name = grammar.name
  inherits : declaration.inherits = grammar.parentRef?
  rules : List.Forall₂ RuleDeclaration.Defines declaration.rules (declared grammar.rules)

/-- What the written form of the rule shows can be read. -/
structure PrintsRule (rule : Rule) : Prop where
  name : IsName rule.name
  outlined : rule.body.anonymous.Outlined
  legible : rule.body.isLegible

/-- What the written form of the grammar shows can be read. -/
structure PrintsGrammar (grammar : Grammar) : Prop where
  name : IsName grammar.name
  inherits : ∀ reference ∈ grammar.parentRef?, IsName reference.name
  rules : ∀ rule ∈ declared grammar.rules, PrintsRule rule

section Rules

variable
  {rule : Rule}
  {rules : List Rule}
  {rest : List Char}

theorem PrintsRule.readsBack
    (prints : PrintsRule rule) :
    ReadsBack rule.body.anonymous := by
  refine readsBack_of_outlined prints.outlined ?_
  rw [Expr.anonymous, Expr.isLegible_rename]
  exact prints.legible

/-- An equals sign is the operator of a definition. -/
theorem readOperator_equals
    (close position : Position)
    (joint : Bool)
    (tokens : List Token) :
    readOperator close (.mark position '=' joint :: tokens) = .ok (.define, tokens) := by
  rw [readOperator, afterMarks?_eq_none (.mark (by decide))]

/-- The tokens of a printed rule with the comma after it. -/
theorem reads_rule
    (prints : PrintsRule rule) :
    Reads ((Grammar.renderRule rule).toList ++ rest) rest fun tokens =>
      tokens ≠ [] ∧ ∃ written : RuleDeclaration, written.Defines rule ∧
        ∀ close others, ∃ comma joint,
          readRule close (tokens ++ others) = .ok (written, .mark comma ',' joint :: others) := by
  have same : (Grammar.renderRule rule).toList ++ rest =
      ' ' :: ' ' :: ' ' :: ' ' :: (rule.name.toList ++ ' ' :: '=' :: ' ' ::
        (rule.body.anonymous.render.toList ++ ',' :: '\n' :: rest)) := by
    simp [Grammar.renderRule, Expr.anonymous, Expr.render_rename]
  have line : Reads ('\n' :: rest) rest (· = []) := .blank (.inr rfl) (.nothing rfl)
  have ends : EndsOperand rule.body 0 (' ' :: '=' :: ' ' ::
      (rule.body.anonymous.render.toList ++ ',' :: '\n' :: rest)) :=
    .cons (by decide) (by decide)
  rw [same]
  refine (Reads.blank (.inl rfl) (.blank (.inl rfl) (.blank (.inl rfl) (.blank (.inl rfl)
    ((Reads.ident prints.name ends.endsWord).append (.blank (.inl rfl)
      ((Reads.plainMark '=' (by decide) _).append (.blank (.inl rfl)
        ((prints.readsBack.alternatives (by decide) (by decide)).append
          ((Reads.plainMark ',' (by decide) _).append line)))))))))).mono ?_
  rintro _ ⟨_, _, rfl, ⟨position, rfl⟩, _, _, rfl, ⟨equals, rfl⟩, body, _, rfl,
    ⟨pattern, isOutline, forms⟩, _, _, rfl, ⟨comma, rfl⟩, rfl⟩
  refine ⟨List.cons_ne_nil _ _, ⟨rule.name, position, .define, pattern⟩, ⟨rfl, rfl, isOutline⟩,
    fun close others => ⟨comma, startsWithMark ('\n' :: rest), ?_⟩⟩
  have ends : EndsPattern (.mark comma ',' (startsWithMark ('\n' :: rest)) :: others) :=
    .mark (by decide) (by decide)
  refine bind_eq_ok_iff.mpr ⟨_, rfl, bind_eq_ok_iff.mpr ⟨_, readOperator_equals .., ?_⟩⟩
  simp only [List.append_assoc, List.append_eq, List.cons_append, List.nil_append]
  exact bind_eq_ok_iff.mpr ⟨_, forms.readPattern ends close, rfl⟩

/-- Rules are read for as long as there are tokens. -/
theorem readRules_of_rule
    {close : Position}
    {tokens others : List Token}
    {written : RuleDeclaration}
    {writtens : List RuleDeclaration}
    {comma : Position}
    {joint : Bool}
    {fuel : Nat}
    (some : tokens ≠ [])
    (reads : readRule close tokens = .ok (written, .mark comma ',' joint :: others))
    (readsOthers : readRules close fuel others = .ok writtens) :
    readRules close (fuel + 1) tokens = .ok (written :: writtens) := by
  cases tokens with
  | nil => contradiction
  | cons token tokens =>
      exact bind_eq_ok_iff.mpr ⟨_, reads, bind_eq_ok_iff.mpr ⟨_, rfl,
        bind_eq_ok_iff.mpr ⟨_, readsOthers, rfl⟩⟩⟩

/-- Printed rules are read to the end of their group. -/
theorem reads_rules
    (prints : ∀ rule ∈ rules, PrintsRule rule) :
    Reads ((String.join (rules.map Grammar.renderRule)).toList ++ rest) rest fun tokens =>
      ∃ written, List.Forall₂ RuleDeclaration.Defines written rules ∧
        ∀ close fuel, tokens.length ≤ fuel → readRules close fuel tokens = .ok written := by
  induction rules with
  | nil => exact .nothing ⟨[], .nil, fun close fuel _ => by rw [readRules]⟩
  | cons rule rules inductionHypothesis =>
      obtain ⟨printsRule, prints⟩ := List.forall_mem_cons.mp prints
      rw [List.map_cons, String.join_cons, String.toList_append, List.append_assoc]
      refine ((reads_rule printsRule).append (inductionHypothesis prints)).mono ?_
      rintro _ ⟨tokens, others, rfl, ⟨some, written, defines, reads⟩, writtens, definesAll,
        readsOthers⟩
      refine ⟨written :: writtens, .cons defines definesAll, fun close fuel enough => ?_⟩
      obtain ⟨comma, joint, reads⟩ := reads close others
      have positive := List.length_pos_iff.mpr some
      rw [List.length_append] at enough
      obtain ⟨fuel, rfl⟩ : ∃ less, fuel = less + 1 := ⟨fuel - 1, by omega⟩
      exact readRules_of_rule (List.append_ne_nil_of_left_ne_nil some others) reads
        (readsOthers close fuel (by omega))

end Rules

section Grammars

variable
  {grammar : Grammar}
  {grammars : List Grammar}
  {rest : List Char}

/-- A space ends a word. -/
theorem endsWord_space : EndsWord (' ' :: rest) :=
  (EndsOperand.cons (by decide) (by decide) : EndsOperand .any 0 (' ' :: rest)).endsWord

/-- The clause that names the super-grammar, before the rules. -/
theorem reads_parent
    (named : ∀ reference ∈ grammar.parentRef?, IsName reference.name) :
    Reads (grammar.renderParent.toList ++ ' ' :: rest) (' ' :: rest) fun tokens =>
      ∀ close opening closing content others,
        readInherits close (tokens ++ .group .brace opening closing content :: others) =
          .ok (grammar.parentRef?, .group .brace opening closing content :: others) := by
  have nothing : Reads (' ' :: rest) (' ' :: rest) (· = []) := .nothing rfl
  unfold Grammar.renderParent
  unfold Grammar.parentRef? at named ⊢
  cases inherits : grammar.parent with
  | none =>
      refine nothing.mono ?_
      rintro _ rfl close opening closing content others
      rfl
  | some parent =>
      simp only [inherits] at named ⊢
      split
      · refine nothing.mono ?_
        rintro _ rfl close opening closing content others
        rfl
      · next derived =>
          rw [if_neg derived] at named
          rw [String.toList_append, List.append_assoc]
          refine (Reads.blank (.inl rfl) ((Reads.plainMark ':' (by decide) _).append
            (.blank (.inl rfl) (Reads.ident (named _ rfl) endsWord_space)))).mono ?_
          rintro _ ⟨_, _, rfl, ⟨colon, rfl⟩, position, rfl⟩ close opening closing content others
          rfl

theorem endsWord_renderParent :
    EndsWord (grammar.renderParent.toList ++ ' ' :: rest) := by
  unfold Grammar.renderParent
  split
  · split
    · exact endsWord_space
    · rw [String.toList_append, List.append_assoc]
      exact endsWord_space
  · exact endsWord_space

/-- The tokens of a printed grammar. -/
theorem reads_grammar
    (prints : PrintsGrammar grammar) :
    Reads (grammar.render.toList ++ rest) rest fun tokens =>
      tokens ≠ [] ∧ ∃ declaration : Declaration, declaration.Declares grammar ∧
        ∀ close others, readDeclaration close (tokens ++ others) = .ok (declaration, others) := by
  have same : grammar.render.toList ++ rest =
      "grammar".toList ++ ' ' :: (grammar.name.toList ++ (grammar.renderParent.toList ++
        ' ' :: '\x7b' :: '\n' ::
          ((String.join ((declared grammar.rules).map Grammar.renderRule)).toList ++
            '\x7d' :: rest))) := by
    simp [Grammar.render, declared]
  rw [same]
  refine ((Reads.ident (.inl (by decide) : IsName "grammar") endsWord_space).append
    (.blank (.inl rfl) ((Reads.ident prints.name endsWord_renderParent).append
      ((reads_parent prints.inherits).append (.blank (.inl rfl)
        (Reads.group rfl rfl (fun isParen => absurd isParen (by decide))
          (.blank (.inr rfl) (reads_rules prints.rules)))))))).mono ?_
  rintro _ ⟨_, _, rfl, ⟨keyword, rfl⟩, _, _, rfl, ⟨position, rfl⟩, parent, _, rfl, readsParent,
    opening, closing, content, rfl, written, defines, reads⟩
  refine ⟨List.cons_ne_nil _ _, ⟨grammar.name, grammar.parentRef?, written⟩, ⟨rfl, rfl, defines⟩,
    fun close others => ?_⟩
  refine bind_eq_ok_iff.mpr ⟨_, rfl, bind_eq_ok_iff.mpr ⟨_, rfl, ?_⟩⟩
  simp only [List.append_assoc, List.append_eq, List.cons_append, List.nil_append]
  refine bind_eq_ok_iff.mpr ⟨_, readsParent .., ?_⟩
  exact bind_eq_ok_iff.mpr ⟨_, reads closing _ (Nat.le_succ _), rfl⟩

/-- Declarations are read for as long as there are tokens. -/
theorem readDeclarations_of_declaration
    {close : Position}
    {tokens others : List Token}
    {declaration : Declaration}
    {declarations : List Declaration}
    {fuel : Nat}
    (some : tokens ≠ [])
    (reads : readDeclaration close tokens = .ok (declaration, others))
    (readsOthers : readDeclarations close fuel others = .ok declarations) :
    readDeclarations close (fuel + 1) tokens = .ok (declaration :: declarations) := by
  cases tokens with
  | nil => contradiction
  | cons token tokens =>
      exact bind_eq_ok_iff.mpr ⟨_, reads, bind_eq_ok_iff.mpr ⟨_, readsOthers, rfl⟩⟩

/-- The tokens are read as one declaration for each grammar. -/
def DeclareAll (grammars : List Grammar) (tokens : List Token) : Prop :=
  ∃ declarations, List.Forall₂ Declaration.Declares declarations grammars ∧
    ∀ close fuel, tokens.length ≤ fuel → readDeclarations close fuel tokens = .ok declarations

/-- Printed grammars with line breaks between them are read to the end. -/
theorem reads_grammars
    (prints : ∀ grammar ∈ grammars, PrintsGrammar grammar) :
    Reads ("\n".intercalate (grammars.map Grammar.render)).toList [] (DeclareAll grammars) := by
  induction grammars with
  | nil => exact .nothing ⟨[], .nil, fun close fuel _ => by rw [readDeclarations]⟩
  | cons grammar grammars inductionHypothesis =>
      obtain ⟨printsGrammar, prints⟩ := List.forall_mem_cons.mp prints
      obtain ⟨rest, same, readsOthers⟩ : ∃ rest,
          ("\n".intercalate ((grammar :: grammars).map Grammar.render)).toList =
              grammar.render.toList ++ rest ∧
            Reads rest [] (DeclareAll grammars) := by
        cases grammars with
        | nil => exact ⟨[], by simp, inductionHypothesis prints⟩
        | cons next others =>
            refine ⟨_, ?_, .blank (.inr rfl) (inductionHypothesis prints)⟩
            rw [List.map_cons, List.map_cons, String.intercalate_cons_cons, String.toList_append,
              String.toList_append, List.append_assoc]
            rfl
      rw [same]
      refine ((reads_grammar printsGrammar).append readsOthers).mono ?_
      rintro _ ⟨tokens, others, rfl, ⟨some, declaration, declares, reads⟩, declarations,
        declaresAll, readsAll⟩
      refine ⟨declaration :: declarations, .cons declares declaresAll, fun close fuel enough => ?_⟩
      have positive := List.length_pos_iff.mpr some
      rw [List.length_append] at enough
      obtain ⟨fuel, rfl⟩ : ∃ less, fuel = less + 1 := ⟨fuel - 1, by omega⟩
      exact readDeclarations_of_declaration (List.append_ne_nil_of_left_ne_nil some others)
        (reads close others) (readsAll close fuel (by omega))

/-- The text of printed grammars is parsed as one declaration for each. -/
theorem parseAll_render
    (prints : ∀ grammar ∈ grammars, PrintsGrammar grammar) :
    ∃ declarations, parseAll ("\n".intercalate (grammars.map Grammar.render)) = .ok declarations ∧
      List.Forall₂ Declaration.Declares declarations grammars := by
  have noMark : ∀ c ∈ ("\n".intercalate (grammars.map Grammar.render)).toList.head?,
      c.toNat ≠ 0xFEFF := by
    match grammars with
    | [] => exact nofun
    | [_] | _ :: _ :: _ => simp [Grammar.render]
  obtain ⟨tokens, isAll, declarations, declares, reads⟩ := (reads_grammars prints).tokenize noMark
  refine ⟨declarations, bind_eq_ok_iff.mpr ⟨tokens, ?_, reads _ _ (Nat.le_refl _)⟩, declares⟩
  rw [readTokens, isAll]
  rfl

end Grammars

end Source
end Heirloom
