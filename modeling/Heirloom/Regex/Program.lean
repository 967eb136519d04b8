import Heirloom.Regex.Basic

/-!
# Matching regular expressions

An expression is compiled to a list of instructions, and all ways to run them
are followed at once, in order of preference. At each position every
instruction is reached at most once, by the most preferred way, so a repetition
of something empty cannot go round for ever. The match is the first one that
starts furthest left, and among those the one that is most preferred.
-/

namespace Heirloom
namespace Regex

open Text (CharSet)

/-- One instruction. Unless it says otherwise, control goes to the next one. -/
inductive Instruction
  /-- Consume a character of the set. -/
  | consume (members : CharSet)
  /-- Go on only if the assertion holds. -/
  | assert (assertion : Look)
  /-- Go to the first target, or else to the second. -/
  | fork (first second : Nat)
  /-- Go to the target. -/
  | jump (target : Nat)
  /-- Stop with a match. -/
  | accept

/-- The number of instructions that an expression compiles to. -/
def codeSize : Regex → Nat
  | empty => 0
  | literal chars => chars.length
  | set _ => 1
  | look _ => 1
  | seq left right => left.codeSize + right.codeSize
  | alt left right => left.codeSize + right.codeSize + 2
  | rep 0 none _ body => body.codeSize + 2
  | rep (min + 1) none _ body => (min + 1) * body.codeSize + 1
  | rep min (some max) _ body => min * body.codeSize + (max - min) * (body.codeSize + 1)
  | capture _ body => body.codeSize

/-- A fork that prefers the first target exactly when it is greedy. -/
def preferring (greedy : Bool) (first second : Nat) : Instruction :=
  if greedy then .fork first second else .fork second first

/-- Copies of a piece of code, one after the other. -/
def copies (codeAt : Nat → List Instruction) (size : Nat) : Nat → Nat → List Instruction
  | 0, _ => []
  | count + 1, start => codeAt start ++ copies codeAt size count (start + size)

/-- Copies of a piece of code, each of which may be left out together with all
that follow it. -/
def optionalCopies
    (codeAt : Nat → List Instruction)
    (size : Nat)
    (greedy : Bool)
    (exit : Nat) : Nat → Nat → List Instruction
  | 0, _ => []
  | count + 1, start =>
      preferring greedy (start + 1) exit ::
        (codeAt (start + 1) ++ optionalCopies codeAt size greedy exit count (start + 1 + size))

/-- The code of an expression, placed from the given address on. A loop around
something that always consumes has one fork, which every round returns to. Any
other loop is entered through a fork of its own, so that a round that consumes
nothing is not taken for the entrance. -/
def codeAt : Regex → Nat → List Instruction
  | empty, _ => []
  | literal chars, _ => chars.map fun c => .consume (.single c)
  | set members, _ => [.consume members]
  | look assertion, _ => [.assert assertion]
  | seq left right, start => left.codeAt start ++ right.codeAt (start + left.codeSize)
  | alt left right, start =>
      let second := start + 1 + left.codeSize + 1
      .fork (start + 1) second ::
        (left.codeAt (start + 1) ++
          .jump (second + right.codeSize) :: right.codeAt second)
  | rep 0 none greedy body, start =>
      let exit := start + 2 + body.codeSize
      preferring greedy (start + 1) exit ::
        (body.codeAt (start + 1) ++
          [if body.alwaysConsumes then .jump start else preferring greedy (start + 1) exit])
  | rep (min + 1) none greedy body, start =>
      let last := start + min * body.codeSize
      copies body.codeAt body.codeSize (min + 1) start ++
        [preferring greedy last (last + body.codeSize + 1)]
  | rep min (some max) greedy body, start =>
      let optional := start + min * body.codeSize
      copies body.codeAt body.codeSize min start ++
        optionalCopies body.codeAt body.codeSize greedy
          (optional + (max - min) * (body.codeSize + 1)) (max - min) optional
  | capture _ body, start => body.codeAt start

/-- A program: the code of an expression, then acceptance. -/
abbrev Program := Array Instruction

/-- The program of an expression. -/
def compile (regex : Regex) : Program :=
  (regex.codeAt 0 ++ [Instruction.accept]).toArray

namespace Program

/-- Follow every instruction that needs no character, the most preferred way
first. The pending addresses are worked off in order; an address seen before is
passed over. Returned are the instructions that consume or accept. -/
def follow
    (program : Program)
    (before after : List Char) :
    Nat → List Nat → Array Bool → List Nat
  | 0, _, _ => []
  | _ + 1, [], _ => []
  | fuel + 1, address :: pending, seen =>
      if seen.getD address true then
        program.follow before after fuel pending seen
      else
        let seen := seen.setIfInBounds address true
        match program[address]? with
        | none => program.follow before after fuel pending seen
        | some (.jump target) =>
            program.follow before after fuel (target :: pending) seen
        | some (.fork first second) =>
            program.follow before after fuel (first :: second :: pending) seen
        | some (.assert assertion) =>
            if assertion.holds before after then
              program.follow before after fuel ((address + 1) :: pending) seen
            else
              program.follow before after fuel pending seen
        | some (.consume _) => address :: program.follow before after fuel pending seen
        | some .accept => address :: program.follow before after fuel pending seen

/-- The threads at a position, most preferred first. Every address is pending
at most once for each instruction that leads to it. -/
def threadsFrom
    (program : Program)
    (before after : List Char)
    (starts : List Nat) : List Nat :=
  program.follow before after (3 * program.size + starts.length + 1) starts
    (Array.replicate program.size false)

/-- Whether an instruction accepts. -/
def acceptsAt (program : Program) (address : Nat) : Bool :=
  match program[address]? with
  | some .accept => true
  | _ => false

/-- Whether an instruction consumes the character. -/
def consumesAt (program : Program) (c : Char) (address : Nat) : Bool :=
  match program[address]? with
  | some (.consume members) => members.contains c
  | _ => false

/-- The number of characters of the preferred match among the given threads,
or else the best match so far. A thread that accepts cuts off the threads it is
preferred to. -/
def run (program : Program) :
    List Char → List Char → List Nat → Nat → Option Nat → Option Nat
  | _, [], threads, consumed, best =>
      if threads.any program.acceptsAt then some consumed else best
  | before, c :: after, threads, consumed, best =>
      let best := if threads.any program.acceptsAt then some consumed else best
      let live := threads.takeWhile fun address => !program.acceptsAt address
      let starts := (live.filter (program.consumesAt c)).map (· + 1)
      if starts.isEmpty then best
      else
        program.run (c :: before) after
          (program.threadsFrom (c :: before) after starts) (consumed + 1) best

/-- The match that starts between the two parts of a text. -/
def matchHere? (program : Program) (before after : List Char) : Option Nat :=
  program.run before after (program.threadsFrom before after [0]) 0 none

/-- The leftmost match, as the offsets of its start and end in characters. -/
def search? (program : Program) : List Char → List Char → Nat → Option (Nat × Nat)
  | before, [], offset =>
      (program.matchHere? before []).map fun length => (offset, offset + length)
  | before, c :: after, offset =>
      match program.matchHere? before (c :: after) with
      | some length => some (offset, offset + length)
      | none => program.search? (c :: before) after (offset + 1)

end Program
end Regex
end Heirloom
