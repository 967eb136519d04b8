import Heirloom.Matching.Bindings

/-!
# Standard actions

Actions for common purposes: to record what a rule was given, to pick a
binding, to count, to read text and numbers, and to calculate.
-/

namespace Heirloom
namespace StandardActions

/-- An object that holds the rule, its bindings and its default value. -/
def record (rule : String) : Action := fun bindings value =>
  .object [
    ("rule", .str rule),
    ("bindings", .list (bindings.map fun binding => .list [.str binding.1, binding.2])),
    ("value", value)]

/-- The value bound last under a name. -/
def pick (name : String) : Action := fun bindings _ =>
  (bindings.get? name).getD .undefined

/-- The number of bindings. -/
def count : Action := fun bindings _ =>
  .int (Int64.ofNat bindings.length)

/-- Whether nothing is bound. -/
def isEmpty : Action := fun bindings _ =>
  .bool bindings.isEmpty

/-- The text of the default value. -/
def text : Action := fun _ value =>
  match value.toText? with
  | some text => .str text
  | none => .undefined

/-- The value of decimal digits. -/
def decimal? (digits : List Char) : Option Nat :=
  if digits.isEmpty || !digits.all Char.isDigit then none
  else some (digits.foldl (fun number c => 10 * number + (c.toNat - '0'.toNat)) 0)

/-- The integer that a text writes: perhaps a sign, then digits, within the
range of integers. -/
def parseInt? (text : String) : Option Int64 :=
  let (negative, digits) := match text.toList with
    | '-' :: digits => (true, digits)
    | '+' :: digits => (false, digits)
    | digits => (false, digits)
  (decimal? digits).bind fun magnitude =>
    Value.ofInt? (if negative then -(magnitude : Int) else magnitude)

/-- The integer that the text of the default value writes. -/
def integer : Action := fun _ value =>
  match value.toText?.bind parseInt? with
  | some number => .int number
  | none => .undefined

/-- A fixed value. -/
def constant (value : Value) : Action := fun _ _ => value

/-- The default value. -/
def default : Action := fun _ value => value

/-- The result of an operator on two integers, which wraps around. -/
def calculate (left operator right : Value) : Value :=
  match left, operator.toText?, right with
  | .int left, some "+", .int right => .int (left + right)
  | .int left, some "-", .int right => .int (left - right)
  | .int left, some "*", .int right => .int (left * right)
  | _, _, _ => .undefined

/-- The operation on the values bound as `x`, `op` and `y`; the default value if
one of them is not bound. -/
def binary : Action := fun bindings value =>
  match bindings.get? "x", bindings.get? "op", bindings.get? "y" with
  | some left, some operator, some right => calculate left operator right
  | _, _, _ => value

end StandardActions
end Heirloom
