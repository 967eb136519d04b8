/-!
# Log records

What is recorded while grammars are built, loaded and registered.
-/

namespace Heirloom
namespace Log

/-- How much a record matters. -/
inductive Level
  | warn
  | debug
  | trace
  deriving DecidableEq

namespace Level

/-- The name of a level. -/
def text : Level → String
  | warn => "WARN"
  | debug => "DEBUG"
  | trace => "TRACE"

end Level

/-- Something that happened to a grammar or a namespace. -/
inductive Record
  | superGrammarSet (grammar parent : String)
  | ruleDefined (grammar rule : String)
  | ruleOverridden (grammar rule : String)
  | ruleExtended (grammar rule : String)
  | inlineRule (grammar rule : String)
  | built (grammar : String) (rules : Nat)
  | loaded (text : String)
  | namespaceCreated (space : String)
  | registered (grammar space : String)
  | keptFirst (grammar space : String)
  | reboundName (grammar rule name : String)
  deriving DecidableEq

namespace Record

/-- The level of a record. -/
def level : Record → Level
  | superGrammarSet _ _ => .trace
  | inlineRule _ _ => .trace
  | keptFirst _ _ => .warn
  | reboundName _ _ _ => .warn
  | _ => .debug

/-- The wording of a record. -/
def text : Record → String
  | superGrammarSet grammar parent => grammar ++ ": super-grammar is " ++ parent
  | ruleDefined grammar rule => grammar ++ ": define " ++ rule
  | ruleOverridden grammar rule => grammar ++ ": override " ++ rule
  | ruleExtended grammar rule => grammar ++ ": extend " ++ rule
  | inlineRule grammar rule => grammar ++ ": inline rule " ++ rule
  | built grammar rules =>
      grammar ++ ": built with " ++ toString rules ++ " local rule(s)"
  | loaded text => "loaded grammar:\n" ++ text
  | namespaceCreated space => "creating namespace " ++ space
  | registered grammar space =>
      "registering grammar " ++ grammar ++ " in namespace " ++ space
  | keptFirst grammar space =>
      "grammar " ++ grammar ++ " is already registered in namespace " ++ space ++
        "; keeping the first"
  | reboundName grammar rule name =>
      grammar ++ "." ++ rule ++ ": `" ++ name ++
        "` is bound more than once; the last binding wins"

/-- A record with its level in front. -/
def render (record : Record) : String :=
  record.level.text ++ " " ++ record.text

end Record
end Log
end Heirloom
