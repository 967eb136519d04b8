import Heirloom.Regex.Basic
import Heirloom.Text.Encoding

/-!
# The footprint of an expression

An expression is accepted only if its automata over bytes are small enough: one
that reads forward and keeps the bounds of groups, and one that reads backward.
This module counts the memory they take, state by state, in the order in which
the states are numbered.

The automaton of a set beyond ASCII shares states. Reading forward, states with
equal transitions are one; reading backward, sequences share what they start
with. Shared states are found through a table with a fixed number of slots in
which a new state takes the place of an older one, so that a state is made again
once it has been displaced. The slot depends on the numbers of the states that
follow, which is why they are kept track of.
-/

namespace Heirloom
namespace Regex

open Text (CharSet)
open Text.Encoding (ByteRange)

/-- The direction in which an automaton reads. -/
inductive Direction
  | forward
  | backward

/-! ## Tables of shared states -/

/-- A shared state: the set it belongs to, known by the state at its end, its
transitions, and its number. -/
structure SharedState where
  /-- The state at the end of the set. -/
  target : Nat
  /-- The transitions. -/
  key : List Nat
  /-- The number of the state. -/
  number : Nat

/-- A table of shared states. A slot holds the state that was put there last. -/
abbrev StateTable := Array (Option SharedState)

namespace StateTable

/-- The number of slots of the table of a direction. -/
def slots : Direction → Nat
  | .forward => 10000
  | .backward => 1000

/-- A table without states. -/
def empty (direction : Direction) : StateTable :=
  Array.replicate (slots direction) none

/-- The slot of a list of transitions, by multiplying its parts into a hash. -/
def slotOf (table : StateTable) (key : List Nat) : Nat :=
  let hash : UInt64 := key.foldl
    (fun hash part => (hash ^^^ UInt64.ofNat part) * 1099511628211) 14695981039346656037
  (hash % UInt64.ofNat table.size).toNat

/-- The state of a set with the given transitions, if a slot holds it. -/
def find? (table : StateTable) (slot target : Nat) (key : List Nat) : Option Nat :=
  match table.getD slot none with
  | some found =>
      if found.target = target ∧ found.key = key then some found.number else none
  | none => none

end StateTable

/-! ## Memory -/

/-- The memory taken by an automaton that is being made. -/
structure Footprint where
  /-- The number of states. -/
  states : Nat := 0
  /-- The bytes taken by transitions. -/
  transitions : Nat := 0
  /-- The states that can be shared. -/
  table : StateTable

namespace Footprint

/-- The bytes of a state without its transitions. -/
def stateSize : Nat := 32

/-- The bytes of a transition on a range of bytes. -/
def rangeSize : Nat := 8

/-- The bytes of a transition that reads nothing. -/
def branchSize : Nat := 4

/-- The largest number of bytes that an automaton may take. -/
def limit : Nat := 10 * 1024 * 1024

/-- The bytes taken. -/
def size (taken : Footprint) : Nat :=
  stateSize * taken.states + taken.transitions

/-- The same memory, if it is within the limit. -/
def within? (taken : Footprint) : Option Footprint :=
  if taken.size ≤ limit then some taken else none

/-- Take memory for states and for bytes of transitions, whatever the limit. -/
def take (taken : Footprint) (states transitions : Nat) : Footprint :=
  { taken with
    states := taken.states + states
    transitions := taken.transitions + transitions }

/-- Take memory for states and for bytes of transitions. -/
def take? (taken : Footprint) (states transitions : Nat) : Option Footprint :=
  (taken.take states transitions).within?

/-- Put a new state with the given transitions and bytes for them into a slot. -/
def putState (taken : Footprint) (slot target : Nat) (key : List Nat) (transitions : Nat) :
    Footprint :=
  { states := taken.states + 1
    transitions := taken.transitions + transitions
    table := taken.table.setIfInBounds slot
      (some { target := target, key := key, number := taken.states }) }

/-- The state of a set with the given transitions, made if the table does not
hold it. -/
def sharedState (taken : Footprint) (target : Nat) (key : List Nat) (transitions : Nat) :
    Nat × Footprint :=
  let slot := taken.table.slotOf key
  match taken.table.find? slot target key with
  | some found => (found, taken)
  | none => (taken.states, taken.putState slot target key transitions)

end Footprint

/-! ## Sets of characters -/

/-- Sequences grouped by their first range, without it. -/
def groupByFirst : List (List ByteRange) → List (ByteRange × List (List ByteRange))
  | [] => []
  | [] :: sequences => groupByFirst sequences
  | (first :: rest) :: sequences =>
      match groupByFirst sequences with
      | (lead, rests) :: groups =>
          if first = lead then (lead, rest :: rests) :: groups
          else (first, [rest]) :: (lead, rests) :: groups
      | [] => [(first, [rest])]

/-- The state that reads sequences forward to a target, for sequences up to a
length. -/
def forwardState (target : Nat) :
    Nat → List (List ByteRange) → Footprint → Nat × Footprint
  | 0, _, taken => (target, taken)
  | length + 1, sequences, taken =>
      let groups := groupByFirst sequences
      if groups.isEmpty then (target, taken)
      else
        let (key, taken) := groups.foldl
          (fun (key, taken) (first, rests) =>
            let (next, taken) := forwardState target length rests taken
            (next :: first.high :: first.low :: key, taken))
          (([] : List Nat), taken)
        taken.sharedState target key.reverse (Footprint.rangeSize * groups.length)

/-- Take memory for a set that is read forward. -/
def takeForward (members : CharSet) (taken : Footprint) : Footprint :=
  (forwardState taken.states 4 (Text.Encoding.ofSet members) (taken.take 1 0)).2

/-- Take memory for one sequence that is read backward, from the state that the
ranges read so far lead from. -/
def takeSequence (target : Nat) : Nat → List ByteRange → Footprint → Footprint
  | _, [], taken => taken.take 0 Footprint.branchSize
  | current, first :: rest, taken =>
      let (state, taken) := taken.sharedState target [current, first.low, first.high] 0
      takeSequence target state rest taken

/-- Take memory for a set that is read backward. -/
def takeBackward (members : CharSet) (taken : Footprint) : Footprint :=
  let target := taken.states + 1
  (Text.Encoding.ofSet members).foldl
    (fun taken sequence => takeSequence target target sequence taken) (taken.take 2 0)

/-- Take memory for a set. One of ASCII characters is a single state and its
target. -/
def takeSet? (direction : Direction) (members : CharSet) (taken : Footprint) :
    Option Footprint :=
  if members.isAscii then taken.take? 2 (Footprint.rangeSize * members.toRanges.length)
  else
    match direction with
    | .forward => (takeForward members taken).within?
    | .backward => (takeBackward members taken).within?

/-! ## Alternations of literals -/

/-- The words that go on after a byte, for each byte that some word starts
with. -/
abbrev WordChunk := List (Nat × List (List Nat))

/-- Put the rest of a word first under its first byte. -/
def WordChunk.add (byte : Nat) (rest : List Nat) : WordChunk → WordChunk
  | [] => [(byte, [rest])]
  | (other, rests) :: chunk =>
      if other = byte then (other, rest :: rests) :: chunk
      else (other, rests) :: WordChunk.add byte rest chunk

/-- The chunks of words between those that end here. -/
def wordChunks : List (List Nat) → List WordChunk
  | [] => [[]]
  | [] :: words => [] :: wordChunks words
  | (byte :: rest) :: words =>
      match wordChunks words with
      | [] => [[(byte, [rest])]]
      | chunk :: chunks => chunk.add byte rest :: chunks

/-- Leave out words that end here again before any word goes on. -/
def dropRepeatedEnds : List (List Nat) → List (List Nat)
  | [] :: [] :: words => dropRepeatedEnds ([] :: words)
  | words => words

/-- The states and the bytes of transitions for words up to a length. Words that
all end here need none. -/
def wordStates : Nat → List (List Nat) → Nat × Nat
  | 0, _ => (0, 0)
  | length + 1, words =>
      let chunks := wordChunks (dropRepeatedEnds words)
      let read := chunks.filter fun chunk => !chunk.isEmpty
      if read.isEmpty then (0, 0)
      else
        read.foldl
          (fun total chunk =>
            let own := if chunk.length ≤ 1 then 0 else Footprint.rangeSize * chunk.length
            chunk.foldl
              (fun (states, transitions) (_, rests) =>
                let (inner, innerTransitions) := wordStates length rests
                (states + inner, transitions + innerTransitions))
              (total.1 + 1, total.2 + own))
          (1, Footprint.branchSize * (read.length + chunks.length - 1))

/-- Take memory for an alternation of literals: a tree of their bytes. -/
def takeWords? (direction : Direction) (words : List (List Nat)) (taken : Footprint) :
    Option Footprint :=
  let words := match direction with
    | .forward => words
    | .backward => words.map List.reverse
  let (states, transitions) :=
    wordStates ((words.map List.length).foldl Nat.max 0) words
  taken.take? (states + 1) transitions

/-! ## Expressions -/

/-- The bytes of a literal. -/
def literalBytes? : Regex → Option (List Nat)
  | literal chars => some (Text.Encoding.textBytes chars)
  | _ => none

/-- Where an expression stands: by itself, as the second branch of an
alternation, or as a later one. -/
inductive Place
  | alone
  | secondBranch
  | laterBranch

/-- Take memory for what follows an expression: after the second branch come the
states that join the branches. -/
def Place.finish? (place : Place) (taken : Footprint) : Option Footprint :=
  match place with
  | .secondBranch => taken.take? 2 0
  | _ => some taken

/-- Take memory a number of times. -/
def takeTimes? (step : Footprint → Option Footprint) : Nat → Footprint → Option Footprint
  | 0, taken => some taken
  | count + 1, taken =>
      match step taken with
      | some taken => takeTimes? step count taken
      | none => none

/-- Take memory for copies of an expression, where no copy is one state. -/
def takeCopies? (step : Footprint → Option Footprint) (count : Nat) (taken : Footprint) :
    Option Footprint :=
  if count = 0 then taken.take? 1 0 else takeTimes? step count taken

/-- Take memory for a fork between two states. -/
def takeFork? (taken : Footprint) : Option Footprint :=
  taken.take? 1 (2 * Footprint.branchSize)

/-- Take memory for a repetition. Without an upper bound the last round loops; if
it can be empty and no round is needed, it is entered through a second fork. -/
def takeRounds?
    (step : Footprint → Option Footprint)
    (consumes : Bool)
    (min : Nat)
    (max : Option Nat)
    (taken : Footprint) : Option Footprint :=
  match max with
  | none =>
      if min = 0 then
        if consumes then takeFork? taken >>= step
        else step taken >>= takeFork? >>= takeFork? >>= (Footprint.take? · 1 0)
      else takeTimes? step min taken >>= takeFork?
  | some max =>
      if min = 0 ∧ max = 1 then takeFork? taken >>= step >>= (Footprint.take? · 1 0)
      else if min = max then takeCopies? step min taken
      else
        takeCopies? step min taken >>= (Footprint.take? · 1 0) >>=
          takeTimes? (fun taken => takeFork? taken >>= step) (max - min)

/-- Take memory for an expression. -/
def takeFor? (direction : Direction) : Regex → Place → Footprint → Option Footprint
  | empty, place, taken => taken.take? 1 0 >>= place.finish?
  | literal chars, place, taken =>
      taken.take? (Text.Encoding.textBytes chars).length 0 >>= place.finish?
  | set members, place, taken => takeSet? direction members taken >>= place.finish?
  | look _, place, taken => taken.take? 1 0 >>= place.finish?
  | seq left right, place, taken =>
      match direction with
      | .forward =>
          takeFor? direction left .alone taken >>= takeFor? direction right .alone >>=
            place.finish?
      | .backward =>
          takeFor? direction right .alone taken >>= takeFor? direction left .alone >>=
            place.finish?
  | alt left right, .alone, taken =>
      match (alt left right).branches.mapM literalBytes? with
      | some words => takeWords? direction words taken
      | none =>
          takeFor? direction left .alone taken >>= takeFor? direction right .secondBranch >>=
            (Footprint.take? · 0 (Footprint.branchSize * (alt left right).branches.length))
  | alt left right, .secondBranch, taken =>
      takeFor? direction left .alone taken >>= (Footprint.take? · 2 0) >>=
        takeFor? direction right .laterBranch
  | alt left right, .laterBranch, taken =>
      takeFor? direction left .alone taken >>= takeFor? direction right .laterBranch
  | rep min max _ body, place, taken =>
      takeRounds? (takeFor? direction body .alone) body.alwaysConsumes min max taken >>=
        place.finish?
  | capture _ body, place, taken =>
      match direction with
      | .forward =>
          taken.take? 1 0 >>= takeFor? direction body .alone >>= (Footprint.take? · 1 0) >>=
            place.finish?
      | .backward => takeFor? direction body .alone taken >>= place.finish?

/-- Take the memory of an automaton: its entrance, which lets a match start
anywhere unless it can start at one place only, then the expression between the
bounds of the match if they are kept, and the end. -/
def footprint? (direction : Direction) (regex : Regex) : Option Footprint :=
  let start : Footprint := { table := .empty direction }
  match direction with
  | .forward =>
      takeEntrance? regex.startsAtTextStart start >>= (Footprint.take? · 1 0) >>=
        takeFor? direction regex .alone >>= (Footprint.take? · 2 0)
  | .backward =>
      takeEntrance? regex.endsAtTextEnd start >>= takeFor? direction regex .alone >>=
        (Footprint.take? · 1 0)
where
  /-- Take memory for the entrance. -/
  takeEntrance? (fixed : Bool) (taken : Footprint) : Option Footprint :=
    if fixed then taken.take? 1 0
    else taken.take? 3 (Footprint.rangeSize + 2 * Footprint.branchSize)

/-- Whether both automata are within the limit. -/
def fits (regex : Regex) : Bool :=
  (footprint? .forward regex).isSome && (footprint? .backward regex).isSome

end Regex
end Heirloom
