import Heirloom.Matching.Eval
import Mathlib.Tactic.SplitIfs

/-!
# What leaves see

A leaf looks ahead only: what it matches at a position is decided by the rest of
the stream from there on, and the match ends inside the stream. Regular
expressions are leaves too, since a match of a program never ends beyond its
text.
-/

namespace Heirloom

/-! ## Extent of regular expression matches -/

namespace Regex
namespace Program

/-- A run never ends beyond the text that is left. -/
theorem run_le
    (program : Program)
    (after : List Char) :
    ∀ (before : List Char) (threads : List Nat) (consumed : Nat) (best : Option Nat),
      (∀ length, best = some length → length ≤ consumed) →
      ∀ length, program.run before after threads consumed best = some length →
        length ≤ consumed + after.length := by
  induction after with
  | nil =>
      intro before threads consumed best bestInside length found
      unfold run at found
      split at found
      · cases found
        simp
      · exact Nat.le_add_right_of_le (bestInside length found)
  | cons c after inductionHypothesis =>
      intro before threads consumed best bestInside length found
      have accepted : ∀ length,
          (if threads.any program.acceptsAt then some consumed else best) = some length →
            length ≤ consumed := by
        intro length chosen
        split at chosen
        · cases chosen
          exact Nat.le_refl consumed
        · exact bestInside length chosen
      unfold run at found
      dsimp only at found
      split at found
      · exact Nat.le_add_right_of_le (accepted length found)
      · have extent := inductionHypothesis _ _ (consumed + 1) _
          (fun length chosen => Nat.le_succ_of_le (accepted length chosen)) length found
        simp only [List.length_cons]
        omega

/-- A match ends inside the text after its start. -/
theorem matchHere?_le
    {program : Program}
    {before after : List Char}
    {length : Nat}
    (found : program.matchHere? before after = some length) :
    length ≤ after.length := by
  have extent := program.run_le after before _ 0 none (by simp) length found
  simpa using extent

/-- The leftmost match ends inside the text. -/
theorem search?_le
    (program : Program)
    (after : List Char) :
    ∀ (before : List Char) (offset : Nat) (found : Nat × Nat),
      program.search? before after offset = some found →
        found.2 ≤ offset + after.length := by
  induction after with
  | nil =>
      intro before offset found searched
      simp only [search?, Option.map_eq_some_iff] at searched
      obtain ⟨length, here, rfl⟩ := searched
      exact Nat.add_le_add_left (matchHere?_le here) offset
  | cons c after inductionHypothesis =>
      intro before offset found searched
      simp only [search?] at searched
      split at searched
      · next length here =>
          cases searched
          exact Nat.add_le_add_left (matchHere?_le here) offset
      · have extent := inductionHypothesis _ _ found searched
        simp only [List.length_cons]
        omega

end Program

/-- A match at the start of a text ends inside it. -/
theorem Literal.leadLength?_le
    {literal : Literal}
    {chars : List Char}
    {length : Nat}
    (found : literal.leadLength? chars = some length) :
    length ≤ chars.length := by
  simp only [leadLength?, Option.map_eq_some_iff] at found
  obtain ⟨offsets, searched, rfl⟩ := found
  simpa using literal.lead.search?_le chars [] 0 offsets searched

end Regex

namespace Matching

/-- A match further along the stream. -/
def Hit.shift (offset : Nat) (hit : Hit) : Hit :=
  { hit with finish := hit.finish + offset }

/-- A way to match that looks ahead only and stays inside the stream. -/
structure LooksAhead (leaf : List Value → Nat → Option Hit) : Prop where
  /-- What is matched at a position is what is matched at the start of the rest. -/
  rest : ∀ (stream : List Value) (position : Nat),
    leaf stream position = (leaf (stream.drop position) 0).map (Hit.shift position)
  /-- A match at the start ends inside the stream. -/
  inside : ∀ {stream : List Value} {hit : Hit},
    leaf stream 0 = some hit → hit.finish ≤ stream.length

namespace LooksAhead

/-- What is matched at a position is what is matched there further along. -/
theorem drop
    {leaf : List Value → Nat → Option Hit}
    (ahead : LooksAhead leaf)
    (stream : List Value)
    (offset position : Nat) :
    leaf stream (position + offset) =
      (leaf (stream.drop offset) position).map (Hit.shift offset) := by
  rw [ahead.rest stream, ahead.rest (stream.drop offset), Option.map_map,
    List.drop_drop, Nat.add_comm offset position]
  congr 1
  funext hit
  simp only [Function.comp_apply, Hit.shift, Hit.mk.injEq, true_and]
  omega

/-- A match does not end before its start, and it ends inside the stream. -/
theorem bounds
    {leaf : List Value → Nat → Option Hit}
    (ahead : LooksAhead leaf)
    {stream : List Value}
    {position : Nat}
    {hit : Hit}
    (start : position ≤ stream.length)
    (found : leaf stream position = some hit) :
    position ≤ hit.finish ∧ hit.finish ≤ stream.length := by
  rw [ahead.rest, Option.map_eq_some_iff] at found
  obtain ⟨hit, found, rfl⟩ := found
  have extent := ahead.inside found
  rw [List.length_drop] at extent
  simp only [Hit.shift]
  omega

end LooksAhead

/-- The element at a position is the first one of the rest. -/
theorem getElem?_eq_drop
    (stream : List Value)
    (position : Nat) :
    stream[position]? = (stream.drop position)[0]? := by
  rw [List.getElem?_drop, Nat.add_zero]

/-- There is an element only before the end of a stream. -/
theorem lt_length_of_getElem?
    {stream : List Value}
    {position : Nat}
    {value : Value}
    (present : stream[position]? = some value) :
    position < stream.length :=
  (List.getElem?_eq_some_iff.mp present).1

/-- Any element is matched by looking at it. -/
theorem matchAny_looksAhead : LooksAhead matchAny where
  rest stream position := by
    simp only [matchAny, getElem?_eq_drop stream position, Option.map_map]
    congr 1
    funext value
    simp only [Function.comp_apply, Hit.shift, Hit.mk.injEq, true_and]
    omega
  inside := by
    intro stream hit found
    simp only [matchAny, Option.map_eq_some_iff] at found
    obtain ⟨value, present, rfl⟩ := found
    exact lt_length_of_getElem? present

/-- A character of a range is matched by looking at it. -/
theorem matchRange_looksAhead (range : CharRange) : LooksAhead (matchRange range) where
  rest stream position := by
    simp only [matchRange, getElem?_eq_drop stream position]
    split
    · split
      · simp [Hit.shift, Nat.add_comm]
      · rfl
    · rfl
  inside := by
    intro stream hit found
    simp only [matchRange] at found
    split at found
    · next present =>
        split at found
        · cases found
          exact lt_length_of_getElem? present
        · cases found
    · cases found

/-- A value is matched by looking at an element, or at as many as it has
characters. -/
theorem matchPrim_looksAhead (expected : Value) : LooksAhead (matchPrim expected) where
  rest stream position := by
    simp only [matchPrim, getElem?_eq_drop stream position, List.drop_zero, Nat.zero_add]
    split
    · simp [Hit.shift, Nat.add_comm]
    · split
      · split_ifs <;> simp [Hit.shift, Nat.add_comm]
      · rfl
  inside := by
    intro stream hit found
    simp only [matchPrim, List.drop_zero, Nat.zero_add] at found
    split at found
    · next present =>
        cases found
        exact lt_length_of_getElem? present
    · split at found
      · next text _ =>
          split_ifs at found with _ _ spelled
          · cases found
            exact Nat.zero_le _
          · cases found
            rw [Bool.and_eq_true, List.isPrefixOf_iff_prefix] at spelled
            have extent := spelled.2.length_le
            rw [Value.chars, List.length_map, String.length_toList] at extent
            exact extent
      · cases found

/-- The characters at the start of a stream are no more than its elements. -/
theorem length_leadingChars_le (stream : List Value) :
    (leadingChars stream).length ≤ stream.length := by
  fun_induction leadingChars stream with
  | case1 c rest inductionHypothesis => exact Nat.succ_le_succ inductionHypothesis
  | case2 stream _ => exact Nat.zero_le _

/-- A regular expression is matched by looking at a string or at the run of
characters ahead. -/
theorem matchRegex_looksAhead (literal : Regex.Literal) : LooksAhead (matchRegex literal) where
  rest stream position := by
    simp only [matchRegex, getElem?_eq_drop stream position, List.drop_zero, Nat.zero_add]
    split
    · split
      · simp [Hit.shift, Nat.add_comm]
      · rfl
    · rw [Option.map_map]
      congr 1
      funext length
      simp [Hit.shift, Nat.add_comm]
    · rfl
  inside := by
    intro stream hit found
    simp only [matchRegex, List.drop_zero, Nat.zero_add] at found
    split at found
    · next present =>
        split at found
        · cases found
          exact lt_length_of_getElem? present
        · cases found
    · rw [Option.map_eq_some_iff] at found
      obtain ⟨length, found, rfl⟩ := found
      exact Nat.le_trans (Regex.Literal.leadLength?_le found) (length_leadingChars_le stream)
    · cases found

end Matching
end Heirloom
