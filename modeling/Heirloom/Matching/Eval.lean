import Heirloom.Expr
import Heirloom.Matching.Run

/-!
# Evaluating expressions

An expression is evaluated at a position of a stream and in a scope of
bindings. A match gives a value, the position after it and the scope with what
it bound. A mismatch gives nothing, so what was tried leaves neither a position
nor a binding behind. Only the memory of rule applications is kept.

In a syntactic rule the skip rule is applied before every element, literal and
application, and at the end of every nested stream. How rules are applied is a
parameter of the evaluation.
-/

namespace Heirloom
namespace Matching

/-- The result of evaluating an expression. -/
structure Step where
  /-- The value of the match. -/
  value : Value
  /-- The position after the match. -/
  position : Nat
  /-- The scope with what was bound. -/
  scope : Bindings

/-- A way to apply rules: the stream, the rule and the position are given. -/
abbrev Applier := List Value → String → Nat → Run Hit

/-- What an evaluation depends on besides its stream. -/
structure Context where
  /-- How rules are applied. -/
  apply : Applier
  /-- The rule to skip with, if anything is to be skipped. -/
  skipRule : Option String

/-! ## Leaves -/

/-- Match a value: an equal element, or for a text the run of its characters.
The empty text also matches before a character and at the end. -/
def matchPrim (expected : Value) (stream : List Value) (position : Nat) : Option Hit :=
  let current := stream[position]?
  if current = some expected then some ⟨expected, position + 1⟩
  else
    match expected with
    | .str text =>
        let beforeChar := match current with
          | some (.char _) => true
          | _ => false
        if text.isEmpty then
          if beforeChar || current.isNone then some ⟨expected, position⟩ else none
        else if beforeChar && (Value.chars text).isPrefixOf (stream.drop position) then
          some ⟨expected, position + text.length⟩
        else
          none
    | _ => none

/-- Match a character of a range. -/
def matchRange (range : CharRange) (stream : List Value) (position : Nat) : Option Hit :=
  match stream[position]? with
  | some (.char c) => if range.contains c then some ⟨.char c, position + 1⟩ else none
  | _ => none

/-- The characters at the start of a stream. -/
def leadingChars : List Value → List Char
  | .char c :: rest => c :: leadingChars rest
  | _ => []

/-- Match a regular expression: all of a string element, or the start of a run
of characters. -/
def matchRegex (literal : Regex.Literal) (stream : List Value) (position : Nat) :
    Option Hit :=
  match stream[position]? with
  | some (.str text) =>
      if literal.matchesWhole text.toList then some ⟨.str text, position + 1⟩ else none
  | some (.char _) =>
      let chars := leadingChars (stream.drop position)
      (literal.leadLength? chars).map fun length =>
        ⟨.str (String.ofList (chars.take length)), position + length⟩
  | _ => none

/-- Match any element. -/
def matchAny (stream : List Value) (position : Nat) : Option Hit :=
  (stream[position]?).map fun value => ⟨value, position + 1⟩

/-! ## Combinators -/

/-- Apply the skip rule. Whether it matches or not, the evaluation goes on. -/
def Context.skip (context : Context) (stream : List Value) (position : Nat) : Run Nat :=
  match context.skipRule with
  | none => return position
  | some rule => do
      match ← (context.apply stream rule position).attempt with
      | some hit => return hit.finish
      | none => return position

/-- Skip and then match a leaf. -/
def Context.leaf
    (context : Context)
    (matcher : List Value → Nat → Option Hit)
    (stream : List Value)
    (position : Nat)
    (scope : Bindings) : Run Step := do
  let position ← context.skip stream position
  let hit ← Run.ofOption (matcher stream position)
  return ⟨hit.value, hit.finish, scope⟩

/-- Evaluate a body again and again until it does not match or consumes
nothing. The number of rounds is bounded. -/
def repeatedly
    (body : Nat → Bindings → Run Step) :
    Nat → Nat → Bindings → List Value → Run (List Value × Nat × Bindings)
  | 0, _, _, _ => Run.fail .exhausted
  | rounds + 1, position, scope, values => do
      match ← (body position scope).attempt with
      | none => return (values, position, scope)
      | some step =>
          if step.position == position then
            return (values ++ [step.value], step.position, step.scope)
          else
            repeatedly body rounds step.position step.scope (values ++ [step.value])

/-- A bound on the rounds from a position: each but the last consumes something. -/
def roundLimit (stream : List Value) (position : Nat) : Nat :=
  stream.length - position + 2

/-- Evaluate a body on a whole stream of its own. -/
def Context.onWhole
    (context : Context)
    (body : List Value → Nat → Bindings → Run Step)
    (stream : List Value)
    (scope : Bindings) : Run Step :=
  Run.within do
    let step ← body stream 0 scope
    let finish ← context.skip stream step.position
    if stream.length ≤ finish then return step else Run.mismatch

/-- Whether every field of an object is named by a property. -/
def allNamed (properties : List (String × Expr)) (fields : List (String × Value)) : Bool :=
  fields.all fun field => properties.any fun property => property.1 == field.1

mutual

/-- Evaluate an expression. -/
def eval (context : Context) : Expr → List Value → Nat → Bindings → Run Step
  | .any, stream, position, scope => context.leaf matchAny stream position scope
  | .prim value, stream, position, scope =>
      context.leaf (matchPrim value) stream position scope
  | .range chars, stream, position, scope =>
      context.leaf (matchRange chars) stream position scope
  | .regex literal, stream, position, scope =>
      context.leaf (matchRegex literal) stream position scope
  | .app rule, stream, position, scope => do
      let position ← context.skip stream position
      let hit ← context.apply stream rule position
      return ⟨hit.value, hit.finish, scope⟩
  | .inline rule _, stream, position, scope => do
      let hit ← context.apply stream rule position
      return ⟨hit.value, hit.finish, scope⟩
  | .alt left right, stream, position, scope => do
      match ← (eval context left stream position scope).attempt with
      | some step => return step
      | none => eval context right stream position scope
  | .seq items, stream, position, scope =>
      evalItems context items stream position scope .undefined
  | .bind body name, stream, position, scope => do
      let step ← eval context body stream position scope
      return { step with scope := step.scope ++ [(name, step.value)] }
  | .many body min, stream, position, scope => do
      let (values, finish, scope) ←
        repeatedly (eval context body stream) (roundLimit stream position) position scope []
      if min ≤ values.length then return ⟨.list values, finish, scope⟩ else Run.mismatch
  | .opt body, stream, position, scope => do
      match ← (eval context body stream position scope).attempt with
      | some step => return step
      | none => return ⟨.undefined, position, scope⟩
  | .not body, stream, position, scope => do
      match ← (eval context body stream position scope).attempt with
      | some _ => Run.mismatch
      | none => return ⟨.undefined, position, scope⟩
  | .peek body, stream, position, scope => do
      let step ← eval context body stream position scope
      return { step with position := position }
  | .str body, stream, position, scope => do
      let position ← context.skip stream position
      match stream[position]? with
      | some (.str text) =>
          let step ← context.onWhole (eval context body) (Value.chars text) scope
          return { step with position := position + 1 }
      | _ => Run.mismatch
  | .lst body, stream, position, scope => do
      let position ← context.skip stream position
      match stream[position]? with
      | some (.list items) =>
          let step ← context.onWhole (eval context body) items scope
          return { step with position := position + 1 }
      | _ => Run.mismatch
  | .obj properties lenient, stream, position, scope => do
      let position ← context.skip stream position
      match stream[position]? with
      | some (.object fields) =>
          if lenient || allNamed properties fields then
            let scope ← evalProperties context properties fields scope
            return ⟨.object fields, position + 1, scope⟩
          else
            Run.mismatch
      | _ => Run.mismatch

/-- Evaluate expressions one after the other; the last value counts. -/
def evalItems (context : Context) :
    List Expr → List Value → Nat → Bindings → Value → Run Step
  | [], _, position, scope, value => return ⟨value, position, scope⟩
  | item :: items, stream, position, scope, _ => do
      let step ← eval context item stream position scope
      evalItems context items stream step.position step.scope step.value

/-- Evaluate the pattern of each property on the first field of its name. -/
def evalProperties (context : Context) :
    List (String × Expr) → List (String × Value) → Bindings → Run Bindings
  | [], _, scope => return scope
  | (name, body) :: properties, fields, scope => do
      match fields.find? fun field => field.1 == name with
      | some (_, value) =>
          let step ← context.onWhole (eval context body) [value] scope
          evalProperties context properties fields step.scope
      | none => Run.mismatch

end

end Matching
end Heirloom
