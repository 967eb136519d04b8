import Heirloom.Source.Pattern.Parser

/-!
# Declarations

A grammar declaration names a grammar, perhaps its super-grammar, and its rules:

```text
grammar Child : library.Parent {
    digits = digit+,
    digit := '0'..='7',
    space += "--",
}
```

A rule is defined anew with `=`, replaces an existing one with `:=`, or adds a
last alternative to an existing one with `+=`.
-/

namespace Heirloom

/-- A reference to a grammar, perhaps in a namespace. -/
structure GrammarRef where
  /-- The namespace, if one is named. -/
  space : Option String
  /-- The name of the grammar. -/
  name : String
  deriving DecidableEq

namespace GrammarRef

/-- The written form of a reference. -/
def render (reference : GrammarRef) : String :=
  match reference.space with
  | some space => space ++ "." ++ reference.name
  | none => reference.name

end GrammarRef

namespace Source

/-- How a declaration relates to an existing rule of its name. -/
inductive RuleOperator
  | define
  | override
  | extend
  deriving DecidableEq

/-- A written rule. -/
structure RuleDeclaration where
  /-- The name of the rule. -/
  name : String
  /-- Where the name stands. -/
  position : Position
  /-- How the rule is installed. -/
  operator : RuleOperator
  /-- Its body. -/
  body : Pattern

/-- A written grammar. -/
structure Declaration where
  /-- The name of the grammar. -/
  name : String
  /-- The super-grammar it names. -/
  inherits : Option GrammarRef
  /-- Its rules in order. -/
  rules : List RuleDeclaration

/-! ## Reading declarations -/

/-- Read the operator of a rule. -/
def readOperator (close : Position) (tokens : List Token) :
    Except Fault (RuleOperator × List Token) :=
  match afterMarks? ['+', '='] tokens with
  | some rest => .ok (.extend, rest)
  | none =>
      match tokens with
      | .mark _ ':' _ :: .mark _ '=' _ :: rest => .ok (.override, rest)
      | .mark _ '=' _ :: rest => .ok (.define, rest)
      | _ => .error (expected close tokens .expectedOperator)

/-- Read a rule. -/
def readRule (close : Position) (tokens : List Token) :
    Except Fault (RuleDeclaration × List Token) := do
  let ((name, position), rest) ← readName close tokens
  let (operator, rest) ← readOperator close rest
  let (body, rest) ← readPattern close rest
  .ok (⟨name, position, operator, body⟩, rest)

/-- Read rules separated by commas, where a last comma may stand. Each round
takes at least one token. -/
def readRules (close : Position) : Nat → List Token → Except Fault (List RuleDeclaration)
  | _, [] => .ok []
  | 0, tokens => .error (expected close tokens .expectedIdent)
  | fuel + 1, tokens => do
      let (rule, rest) ← readRule close tokens
      match rest with
      | [] => .ok [rule]
      | _ => do
          let rest ← readMarkToken ',' close rest
          let rules ← readRules close fuel rest
          .ok (rule :: rules)

/-- Read the clause that names the super-grammar, if it is there. -/
def readInherits (close : Position) (tokens : List Token) :
    Except Fault (Option GrammarRef × List Token) :=
  match tokens with
  | .mark _ ':' _ :: rest => do
      let ((first, _), rest) ← readName close rest
      match rest with
      | .mark _ '.' _ :: rest => do
          let ((second, _), rest) ← readName close rest
          .ok (some ⟨some first, second⟩, rest)
      | _ => .ok (some ⟨none, first⟩, rest)
  | _ => .ok (none, tokens)

/-- Read the keyword that starts a declaration. -/
def readKeyword (close : Position) (tokens : List Token) : Except Fault (List Token) :=
  match tokens with
  | .ident _ "grammar" :: rest => .ok rest
  | _ => .error (expected close tokens .expectedKeyword)

/-- Read a declaration. -/
def readDeclaration (close : Position) (tokens : List Token) :
    Except Fault (Declaration × List Token) := do
  let rest ← readKeyword close tokens
  let ((name, _), rest) ← readName close rest
  let (inherits, rest) ← readInherits close rest
  match rest with
  | .group .brace _ closing content :: rest => do
      let rules ← readRules closing (content.length + 1) content
      .ok (⟨name, inherits, rules⟩, rest)
  | _ => .error (expected close rest .expectedBraces)

/-- Read declarations to the end of the tokens. Each round takes at least one
token. -/
def readDeclarations (close : Position) : Nat → List Token → Except Fault (List Declaration)
  | _, [] => .ok []
  | 0, tokens => .error (expected close tokens .expectedKeyword)
  | fuel + 1, tokens => do
      let (declaration, rest) ← readDeclaration close tokens
      let declarations ← readDeclarations close fuel rest
      .ok (declaration :: declarations)

/-- The tokens of a text, where failing to read it is a fault. -/
def readTokens (text : String) : Except Fault (List Token) :=
  (tokenize text).mapError fun position => ⟨position, .unreadable, false⟩

/-- All declarations of a text. -/
def parseAll (text : String) : Except Fault (List Declaration) := do
  let tokens ← readTokens text
  readDeclarations Position.start tokens.length tokens

/-- The only declaration of a text. -/
def parseOne (text : String) : Except Fault Declaration := do
  let tokens ← readTokens text
  let (declaration, rest) ← readDeclaration Position.start tokens
  match rest with
  | [] => .ok declaration
  | token :: _ => .error ⟨token.position, .unexpectedToken, false⟩

end Source
end Heirloom
