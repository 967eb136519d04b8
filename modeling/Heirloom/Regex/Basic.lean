import Heirloom.Regex.NamedSet

/-!
# Regular expressions

The expressions that text is matched against. A greedy repetition prefers more
rounds, a lazy one fewer; an alternation prefers its left branch. Assertions
look at the characters around a position and consume nothing.

Expressions are built in a normal form. A concatenation is nested to the right,
holds no empty part and no two literals side by side; an alternation is nested
to the right, and one of single characters or of sets is a set. What every
branch of an alternation starts with is written once, in front of it.
-/

namespace Heirloom

open Text (CharSet)

/-- An assertion about the position between two characters. The assertions about
words know the words of every script or those of ASCII only. -/
inductive Regex.Look
  | textStart
  | textEnd
  | lineStart
  | lineEnd
  | crlfLineStart
  | crlfLineEnd
  | wordBoundary (unicode : Bool)
  | notWordBoundary (unicode : Bool)
  | wordStart (unicode : Bool)
  | wordEnd (unicode : Bool)
  | wordStartHalf (unicode : Bool)
  | wordEndHalf (unicode : Bool)
deriving DecidableEq

/-- A regular expression. -/
inductive Regex
  /-- The empty text. -/
  | empty
  /-- The given text. -/
  | literal (chars : List Char)
  /-- One character of the set. -/
  | set (members : CharSet)
  /-- A position with a property. -/
  | look (assertion : Regex.Look)
  /-- One expression after the other. -/
  | seq (left right : Regex)
  /-- Either expression. -/
  | alt (left right : Regex)
  /-- Rounds of an expression, from the least number to the largest. -/
  | rep (min : Nat) (max : Option Nat) (greedy : Bool) (body : Regex)
  /-- A numbered group, whose bounds a match keeps. -/
  | capture (index : Nat) (body : Regex)
deriving DecidableEq

namespace Regex

/-- Whether an assertion holds between the characters before a position, the
nearest first, and those after it. -/
def Look.holds (before after : List Char) : Look → Bool
  | textStart => before.isEmpty
  | textEnd => after.isEmpty
  | lineStart => before.isEmpty || before.head? == some '\n'
  | lineEnd => after.isEmpty || after.head? == some '\n'
  | crlfLineStart =>
      before.isEmpty || before.head? == some '\n' ||
        (before.head? == some '\r' && after.head? != some '\n')
  | crlfLineEnd =>
      after.isEmpty || after.head? == some '\r' ||
        (after.head? == some '\n' && before.head? != some '\r')
  | wordBoundary unicode =>
      let word := NamedSet.wordFor unicode
      word.holdsHead before != word.holdsHead after
  | notWordBoundary unicode =>
      let word := NamedSet.wordFor unicode
      word.holdsHead before == word.holdsHead after
  | wordStart unicode =>
      let word := NamedSet.wordFor unicode
      !word.holdsHead before && word.holdsHead after
  | wordEnd unicode =>
      let word := NamedSet.wordFor unicode
      word.holdsHead before && !word.holdsHead after
  | wordStartHalf unicode => !(NamedSet.wordFor unicode).holdsHead before
  | wordEndHalf unicode => !(NamedSet.wordFor unicode).holdsHead after

/-! ## What an expression consumes -/

/-- The fewest characters of a match, if every part can match at all. -/
def leastLength? : Regex → Option Nat
  | empty => some 0
  | literal chars => some chars.length
  | set members => if members.isEmpty then none else some 1
  | look _ => some 0
  | seq left right => do
      let first ← left.leastLength?
      let second ← right.leastLength?
      some (first + second)
  | alt left right => do
      let first ← left.leastLength?
      let second ← right.leastLength?
      some (Nat.min first second)
  | rep min _ _ body => body.leastLength?.map (min * ·)
  | capture _ body => body.leastLength?

/-- Whether every match is known to consume a character. -/
def alwaysConsumes (regex : Regex) : Bool :=
  match regex.leastLength? with
  | some length => 0 < length
  | none => false

/-- Whether an expression can match the empty text only. -/
def consumesNothing : Regex → Bool
  | empty => true
  | literal chars => chars.isEmpty
  | set _ => false
  | look _ => true
  | seq left right => left.consumesNothing && right.consumesNothing
  | alt left right => left.consumesNothing && right.consumesNothing
  | rep _ max _ body => max.isSome && body.consumesNothing
  | capture _ body => body.consumesNothing

/-- Whether every match starts at the start of the text. -/
def startsAtTextStart : Regex → Bool
  | look assertion => assertion = .textStart
  | seq left right =>
      left.startsAtTextStart || (left.consumesNothing && right.startsAtTextStart)
  | alt left right => left.startsAtTextStart && right.startsAtTextStart
  | rep min _ _ body => 0 < min && body.startsAtTextStart
  | capture _ body => body.startsAtTextStart
  | _ => false

/-- Whether every match ends at the end of the text. -/
def endsAtTextEnd : Regex → Bool
  | look assertion => assertion = .textEnd
  | seq left right => right.endsAtTextEnd || (right.consumesNothing && left.endsAtTextEnd)
  | alt left right => left.endsAtTextEnd && right.endsAtTextEnd
  | rep min _ _ body => 0 < min && body.endsAtTextEnd
  | capture _ body => body.endsAtTextEnd
  | _ => false

/-! ## Building expressions in normal form -/

/-- An expression that matches one character of a set. -/
def ofSet (members : CharSet) : Regex :=
  match members.single? with
  | some c => .literal [c]
  | none => .set members

/-- The parts of a concatenation. -/
def parts : Regex → List Regex
  | empty => []
  | seq left right => left :: right.parts
  | part => [part]

/-- The concatenation with the given parts. -/
def ofParts : List Regex → Regex
  | [] => .empty
  | [part] => part
  | part :: rest => .seq part (ofParts rest)

/-- Put a part in front of others, joining literals. -/
def attach : Regex → List Regex → List Regex
  | .literal front, .literal back :: rest => .literal (front ++ back) :: rest
  | part, rest => part :: rest

/-- The concatenation of expressions. -/
def concat (items : List Regex) : Regex :=
  ofParts ((items.flatMap parts).foldr attach [])

/-- The branches of an alternation. -/
def branches : Regex → List Regex
  | alt left right => left :: right.branches
  | branch => [branch]

/-- The alternation with the given branches. -/
def ofBranches : List Regex → Regex
  | [] => .set .empty
  | [branch] => branch
  | branch :: rest => .alt branch (ofBranches rest)

/-- The character that an expression stands for. -/
def onlyChar? : Regex → Option Char
  | literal [c] => some c
  | _ => none

/-- The set that an expression stands for. -/
def members? : Regex → Option CharSet
  | set members => some members
  | _ => none

/-- The set that an alternation of single characters or of sets stands for. -/
def unitedSet? (branches : List Regex) : Option CharSet :=
  ((branches.mapM onlyChar?).map fun chars => .unions (chars.map .single)) <|>
    ((branches.mapM members?).map .unions)

/-- The parts of a concatenation of two or more. -/
def seqParts? : Regex → Option (List Regex)
  | seq left right => some (left :: right.parts)
  | _ => none

/-- The parts that two lists start with. -/
def commonLead : List Regex → List Regex → List Regex
  | left :: lefts, right :: rights =>
      if left = right then left :: commonLead lefts rights else []
  | _, _ => []

/-- What two or more branches all start with, and the branches without it. -/
def splitLead? (branches : List Regex) : Option (List Regex × List Regex) :=
  match branches.mapM seqParts? with
  | some (first :: second :: others) =>
      let lead := (second :: others).foldl commonLead first
      if lead.isEmpty then none
      else some (lead, (first :: second :: others).map fun parts =>
        concat (parts.drop lead.length))
  | _ => none

/-- The alternation of branches that have no common start. -/
def unite (items : List Regex) : Regex :=
  let flat := items.flatMap branches
  match unitedSet? flat with
  | some members => ofSet members
  | none => ofBranches flat

/-- The alternation of expressions. -/
def alternation (items : List Regex) : Regex :=
  let flat := items.flatMap branches
  match unitedSet? flat with
  | some members => ofSet members
  | none =>
      match splitLead? flat with
      | some (lead, rests) => concat (lead ++ [unite rests])
      | none => ofBranches flat

/-- The repetition of an expression between bounds. No round is nothing and one
round is the expression itself. -/
def between (min : Nat) (max : Option Nat) (greedy : Bool) (body : Regex) : Regex :=
  if max = some 0 then .empty
  else if min = 1 ∧ max = some 1 then body
  else .rep min max greedy body

/-- Repetition. An expression that consumes nothing is tried at most once. -/
def repeated (min : Nat) (max : Option Nat) (greedy : Bool) (body : Regex) : Regex :=
  if body.consumesNothing then
    between (Nat.min min 1) (some ((max.map (Nat.min · 1)).getD 1)) greedy body
  else
    between min max greedy body

end Regex
end Heirloom
