import Heirloom.Error
import Heirloom.Text.Quoted
import Heirloom.Value.Printer

/-!
# Assertions on results

What a test expects of the result of matching, and the text of its failure.
Failure texts show values by their constructors, which tells apart values that
are written alike.
-/

namespace Heirloom

mutual

/-- A value shown by its constructors. -/
def Value.dump : Value → String
  | .undefined => "Undefined"
  | .null => "Null"
  | .bool true => "Bool(true)"
  | .bool false => "Bool(false)"
  | .int number => "Int(" ++ Value.renderInt number ++ ")"
  | .char c => "Char(" ++ Text.Quoted.char c ++ ")"
  | .str text => "Str(" ++ Text.Quoted.text text ++ ")"
  | .list items => "List([" ++ dumpItems items ++ "])"
  | .object fields => "Object([" ++ dumpFields fields ++ "])"

/-- Values shown by their constructors, separated by commas. -/
def dumpItems : List Value → String
  | [] => ""
  | [item] => item.dump
  | item :: items => item.dump ++ ", " ++ dumpItems items

/-- Fields shown as pairs, separated by commas. -/
def dumpFields : List (String × Value) → String
  | [] => ""
  | [(key, value)] => "(" ++ Text.Quoted.text key ++ ", " ++ value.dump ++ ")"
  | (key, value) :: fields =>
      "(" ++ Text.Quoted.text key ++ ", " ++ value.dump ++ "), " ++ dumpFields fields

end

/-- The result of a match shown by its constructors. -/
def dumpResult : Option Value → String
  | some value => "Some(" ++ value.dump ++ ")"
  | none => "None"

/-- A constructor with named fields that have been shown. -/
def dumpRecord (constructor : String) (fields : List (String × String)) : String :=
  constructor ++ " \x7b " ++
    ", ".intercalate (fields.map fun field => field.1 ++ ": " ++ field.2) ++ " \x7d"

/-- An error shown by its constructor. -/
def Error.dump : Error → String
  | .duplicateRule grammar rule =>
      dumpRecord "DuplicateRule"
        [("grammar", Text.Quoted.text grammar), ("rule", Text.Quoted.text rule)]
  | .undefinedRule grammar rule =>
      dumpRecord "UndefinedRule"
        [("grammar", Text.Quoted.text grammar), ("rule", Text.Quoted.text rule)]
  | .unknownGrammar space name =>
      dumpRecord "UnknownGrammar"
        [("namespace", Text.Quoted.text space), ("name", Text.Quoted.text name)]
  | .malformedSource fault =>
      dumpRecord "MalformedSource"
        [("line", toString fault.position.line), ("column", toString fault.position.column),
          ("message", Text.Quoted.text fault.message)]
  | .grammarAlreadyRegistered space name =>
      dumpRecord "GrammarAlreadyRegistered"
        [("namespace", Text.Quoted.text space), ("name", Text.Quoted.text name)]
  | .superGrammarAlreadySet grammar =>
      dumpRecord "SuperGrammarAlreadySet" [("grammar", Text.Quoted.text grammar)]

namespace Assertion

/-- The text of a failed assertion. -/
def failure (reason : String) (details : List String) : String :=
  "\n🔴 TEST FAILED (" ++ reason ++ ")" ++
    (if details.isEmpty then "" else ":") ++ "\n" ++
    String.join (details.map (· ++ "\n"))

/-- Whether a text occurs in another one. -/
def occursIn (part : List Char) : List Char → Bool
  | [] => part.isEmpty
  | c :: rest => part.isPrefixOf (c :: rest) || occursIn part rest

/-- The result of matching: an error, a mismatch or a value. -/
abbrev Result := Except Error (Option Value)

/-- Expect that there is no error. -/
def success : Result → Except String (Option Value)
  | .ok value => .ok value
  | .error error =>
      .error (failure "Expected Success, but got Error"
        ["Message:  " ++ error.message, "Error:    " ++ error.dump])

/-- Expect a result. -/
def successIs (result : Result) (expected : Option Value) :
    Except String (Option Value) := do
  let value ← success result
  if value = expected then .ok value
  else
    .error (failure "Value Mismatch"
      ["Expected: " ++ dumpResult expected, "Got:      " ++ dumpResult value])

/-- Expect an error. -/
def isFailure : Result → Except String Error
  | .ok value =>
      .error (failure "Expected Failure, but got Success" ["Value: " ++ dumpResult value])
  | .error error => .ok error

/-- Expect an error whose wording holds a text. -/
def failureContains (result : Result) (part : String) : Except String Error := do
  let error ← isFailure result
  if occursIn part.toList error.message.toList then .ok error
  else
    .error (failure "Error Message Mismatch"
      ["Expected part: " ++ Text.Quoted.text part,
        "Actual msg:    " ++ Text.Quoted.text error.message])

/-- Expect a match. -/
def isMatch (result : Result) : Except String Value := do
  match ← success result with
  | some value => .ok value
  | none => .error (failure "Expected Match, but the input did not match" [])

/-- Expect a match with a value. -/
def matchIs (result : Result) (expected : Value) : Except String Value := do
  let value ← isMatch result
  if value = expected then .ok value
  else
    .error (failure "Value Mismatch"
      ["Expected: " ++ expected.render, "Got:      " ++ value.render])

/-- Expect a mismatch. -/
def noMatch (result : Result) : Except String Unit := do
  match ← success result with
  | some value =>
      .error (failure "Expected No Match, but got a Match" ["Value: " ++ value.render])
  | none => .ok ()

end Assertion
end Heirloom
