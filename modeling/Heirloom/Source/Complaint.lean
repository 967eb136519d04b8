import Heirloom.Source.Position

/-!
# Complaints about source text

What can be wrong with grammar source, and where. A complaint about a missing
part says so when the source or the group ends there.
-/

namespace Heirloom
namespace Source

/-- What is wrong with a source text. -/
inductive Complaint
  | unreadable
  | expectedKeyword
  | expectedIdent
  | expectedBraces
  | expectedParens
  | expectedMark (mark : Char)
  | expectedOperator
  | expectedPattern
  | expectedText
  | expectedChar
  | expectedInteger
  | unexpectedInGroup
  | unexpectedToken
  | misplacedEllipsis
  | emptyRange
  | unsupportedLiteral
  | tooLarge
  | tooSmall
  | invalidDigit
  | invalidRegex
  | repeatedKey (key : String)
  | repeatedRule (rule : String)
  deriving DecidableEq

namespace Complaint

/-- The wording of a complaint. -/
def text : Complaint → String
  | unreadable => "cannot parse string into token stream"
  | expectedKeyword => "expected `grammar`"
  | expectedIdent => "expected ident"
  | expectedBraces => "expected curly braces"
  | expectedParens => "expected parentheses"
  | expectedMark mark => "expected `" ++ mark.toString ++ "`"
  | expectedOperator => "expected `=`, `:=` or `+=`"
  | expectedPattern => "expected a pattern"
  | expectedText => "expected string literal"
  | expectedChar => "expected character literal"
  | expectedInteger => "expected integer literal"
  | unexpectedInGroup => "unexpected token in group"
  | unexpectedToken => "unexpected token"
  | misplacedEllipsis => "`...` must close an object pattern"
  | emptyRange => "empty character range"
  | unsupportedLiteral => "unsupported literal"
  | tooLarge => "number too large to fit in target type"
  | tooSmall => "number too small to fit in target type"
  | invalidDigit => "invalid digit found in string"
  | invalidRegex => "Invalid regex: not a regular expression"
  | repeatedKey key => "Property '" ++ key ++ "' appears more than once."
  | repeatedRule rule => "Rule '" ++ rule ++ "' is defined more than once."

end Complaint

/-- A complaint with its place. -/
structure Fault where
  /-- Where the source is wrong. -/
  position : Position
  /-- What is wrong there. -/
  complaint : Complaint
  /-- Whether the source or a group ends there. -/
  atEnd : Bool := false
  deriving DecidableEq

namespace Fault

/-- The wording of a fault, without its place. -/
def message (fault : Fault) : String :=
  (if fault.atEnd then "unexpected end of input, " else "") ++ fault.complaint.text

end Fault
end Source
end Heirloom
