import Heirloom.Builder
import Heirloom.Grammar.Base
import Heirloom.Grammar.Printer
import Heirloom.Grammar.Validation
import Heirloom.Registry
import Heirloom.Source.Declaration.Check

/-!
# Loading grammars

Declarations are turned into grammars one after the other. A declaration may
name an earlier one of the same source as its super-grammar; other references
go through the namespace that the source is loaded into. Nothing is registered
before the whole source has been built.
-/

namespace Heirloom

/-- What happens to a grammar after it has been built. -/
structure LoadOptions where
  /-- Register grammars in the namespace they are loaded into. -/
  register : Bool := true
  /-- Fail on applications of rules that are not defined. -/
  validate : Bool := false

/-! ## Rule bodies -/

/-- A computation on a builder that may fail. A failing one keeps the builder as
it was when it failed. -/
abbrev BuilderM (α : Type) := ExceptT Error (StateM Builder) α

namespace BuilderM

/-- Fail because of the source. -/
def complain (position : Position) (complaint : Source.Complaint) : BuilderM α :=
  throw (.malformedSource { position := position, complaint := complaint })

/-- What the source stands for, or the complaint that it stands for nothing. -/
def orComplain (position : Position) (complaint : Source.Complaint) : Option α → BuilderM α
  | some result => return result
  | none => complain position complaint

/-- Change the builder by an operation that may fail. -/
def change (operation : Builder → Except Error Builder) : BuilderM Unit := do
  match operation (← get) with
  | .ok builder => set builder
  | .error error => throw error

/-- Define an inline rule. -/
def inline (body : Expr) : BuilderM Expr := do
  match (← get).inline body with
  | .ok (reference, builder) =>
      set builder
      return reference
  | .error error => throw error

end BuilderM

/-- The value of a literal. -/
def lowerLiteral (position : Position) : Source.Literal → BuilderM Value
  | .text value => return .str value
  | .char value => return .char value
  | .integer value =>
      return .int (← BuilderM.orComplain position .tooLarge (Value.ofInt? value))
  | .other => BuilderM.complain position .unsupportedLiteral

/-- The value of a negated integer, which may not carry a sign of its own. -/
def lowerNegative (position : Position) (signed : Bool) (value : Nat) : BuilderM Value :=
  if signed then BuilderM.complain position .invalidDigit
  else
    return .int (← BuilderM.orComplain position .tooSmall (Value.ofInt? (-(value : Int))))

/-- The left-nested choice between alternatives. -/
def choice : List Expr → Expr
  | [] => .seq []
  | first :: others => others.foldl .alt first

mutual

/-- The expression of a pattern. Inline patterns are defined as rules in the
order in which they end. -/
def lower : Source.Pattern → BuilderM Expr
  | .any => return .any
  | .undefined => return .prim .undefined
  | .null => return .prim .null
  | .bool value => return .prim (.bool value)
  | .literal position value => return .prim (← lowerLiteral position value)
  | .negative position signed value => return .prim (← lowerNegative position signed value)
  | .range first last => return .range ⟨first, last⟩
  | .regex position source =>
      return .regex
        (← BuilderM.orComplain position .invalidRegex (Regex.Literal.ofSource? source))
  | .call rule => return .app rule
  | .alt alternatives => return choice (← lowerAll alternatives)
  | .seq items => return .seq (← lowerAll items)
  | .bind body name => return .bind (← lower body) name
  | .star body => return .many (← lower body) 0
  | .plus body => return .many (← lower body) 1
  | .opt body => return .opt (← lower body)
  | .not body => return .not (← lower body)
  | .peek body => return .peek (← lower body)
  | .str body => return .str (← lower body)
  | .list body => return .lst (← lower body)
  | .object properties lenient => do
      match Source.checkKeys [] properties with
      | .ok () => return .obj (← lowerProperties properties) lenient
      | .error fault => throw (.malformedSource fault)
  | .inline body => do
      let body ← lower body
      BuilderM.inline body

/-- The expressions of a list of patterns. -/
def lowerAll : List Source.Pattern → BuilderM (List Expr)
  | [] => return []
  | pattern :: patterns => do
      let expr ← lower pattern
      let exprs ← lowerAll patterns
      return expr :: exprs

/-- The expressions of properties under their keys. -/
def lowerProperties : List (Source.Key × Source.Pattern) → BuilderM (List (String × Expr))
  | [] => return []
  | (key, pattern) :: properties => do
      let expr ← lower pattern
      let others ← lowerProperties properties
      return (key.name, expr) :: others

end

/-! ## Declarations -/

/-- Install the rule of a declaration. -/
def installRule (rule : Source.RuleDeclaration) : BuilderM Unit := do
  modify fun builder => builder.beginRule rule.name
  let body ← lower rule.body
  match rule.operator with
  | .define => BuilderM.change fun builder => builder.define rule.name body
  | .override => BuilderM.change fun builder => builder.override rule.name body
  | .extend => BuilderM.change fun builder => builder.extend rule.name body

/-- Install rules in order. -/
def installRules : List Source.RuleDeclaration → BuilderM Unit
  | [] => return ()
  | rule :: rules => do
      installRule rule
      installRules rules

/-- Assemble the grammar of a declaration over its super-grammar. -/
def assemble (parent : Grammar) (declaration : Source.Declaration) : BuilderM Unit := do
  modify fun builder => builder.setName declaration.name
  BuilderM.change fun builder => builder.setParent parent
  installRules declaration.rules

namespace WorkspaceM

/-- The super-grammar of a declaration: the base grammar, an earlier grammar of
the same source, the last one of its name first, or one that the namespace
knows. -/
def superGrammar
    (space : Option String)
    (batch : List Grammar)
    (declaration : Source.Declaration) : WorkspaceM Grammar :=
  match declaration.inherits with
  | none => return baseGrammar
  | some reference =>
      let earlier :=
        if reference.space.isNone then
          batch.reverse.find? fun grammar => grammar.name == reference.name
        else
          none
      match earlier, space with
      | some grammar, _ => return grammar
      | none, some space => resolve space reference
      | none, none => throw (.unknownGrammar (reference.space.getD "") reference.name)

/-- Validate a grammar. -/
def validate (grammar : Grammar) : WorkspaceM Unit := do
  let (records, error) := grammar.validate
  record records
  match error with
  | some error => throw error
  | none => return ()

/-- Build what a builder holds. -/
def build (builder : Builder) : WorkspaceM Grammar := do
  record [builder.builtRecord]
  let serial ← freshSerial
  return builder.build serial

/-- Load a declaration, given the grammars of the same source before it. -/
def load
    (space : Option String)
    (options : LoadOptions)
    (batch : List Grammar)
    (declaration : Source.Declaration) : WorkspaceM Grammar := do
  let parent ← superGrammar space batch declaration
  let (result, builder) := (assemble parent declaration).run Builder.empty
  record builder.records
  match result with
  | .error error => throw error
  | .ok () =>
      let grammar ← build builder
      if options.validate then validate grammar
      record [.loaded grammar.render]
      return grammar

/-- Load declarations in order after those loaded before. -/
def loadEach
    (space : Option String)
    (options : LoadOptions)
    (batch : List Grammar) : List Source.Declaration → WorkspaceM (List Grammar)
  | [] => return batch
  | declaration :: declarations => do
      let grammar ← load space options batch declaration
      loadEach space options (batch ++ [grammar]) declarations

/-- Register a loaded batch if the options ask for it and there is a namespace. -/
def registerBatch
    (space : Option String)
    (options : LoadOptions)
    (batch : List Grammar) : WorkspaceM (List Grammar) :=
  match space with
  | some space => if options.register then registerAll space batch else return batch
  | none => return batch

/-- A reading of the source, where a fault is an error. -/
def ofSource (reading : Except Source.Fault α) : WorkspaceM α :=
  match reading with
  | .ok value => return value
  | .error fault => throw (.malformedSource fault)

/-- Load every grammar of a source and register them together. -/
def loadAll
    (space : Option String)
    (options : LoadOptions)
    (source : String) : WorkspaceM (List Grammar) := do
  let declarations ← ofSource (Source.parseAll source)
  let batch ← loadEach space options [] declarations
  registerBatch space options batch

/-- Load the only grammar of a source and register it. -/
def loadOne
    (space : Option String)
    (options : LoadOptions)
    (source : String) : WorkspaceM (List Grammar) := do
  let declaration ← ofSource (Source.parseOne source)
  let batch ← loadEach space options [] [declaration]
  registerBatch space options batch

end WorkspaceM
end Heirloom
