import Heirloom.Source.Complaint

/-!
# Errors

Why a grammar cannot be compiled, found or matched. Each error is a cause with
the names it is about; its wording stands in one place.
-/

namespace Heirloom

/-- Why an operation on grammars failed. -/
inductive Error
  | duplicateRule (grammar rule : String)
  | undefinedRule (grammar rule : String)
  | unknownGrammar (space name : String)
  | malformedSource (fault : Source.Fault)
  | grammarAlreadyRegistered (space name : String)
  | superGrammarAlreadySet (grammar : String)
  deriving DecidableEq

namespace Error

/-- The wording of an error. -/
def message : Error → String
  | duplicateRule grammar rule =>
      "rule `" ++ rule ++ "` is already defined in grammar `" ++ grammar ++ "`"
  | undefinedRule grammar rule =>
      "rule `" ++ rule ++ "` is not defined in grammar `" ++ grammar ++
        "` or any of its super-grammars"
  | unknownGrammar space name =>
      "unknown grammar `" ++ name ++ "` in namespace `" ++ space ++ "`"
  | malformedSource fault =>
      "malformed grammar source at " ++ toString fault.position.line ++ ":" ++
        toString fault.position.column ++ ": " ++ fault.message
  | grammarAlreadyRegistered space name =>
      "grammar `" ++ name ++ "` is already registered in namespace `" ++ space ++ "`"
  | superGrammarAlreadySet grammar =>
      "super-grammar of `" ++ grammar ++ "` is already set"

end Error
end Heirloom
