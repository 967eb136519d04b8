import Heirloom.Text.Ranges

/-!
# Sets of characters

A set is the ascending list of the code points where membership changes: a
character is a member when an odd number of bounds are at most its code point.
Every operation on two sets is one sweep over both lists that writes a bound
where the outcome changes, so equal sets have equal bounds. Main statement:
membership in a combination is the combination of the memberships.
-/

namespace Heirloom
namespace Text

/-- A set of characters as the ascending code points where membership changes. -/
structure CharSet where
  /-- The code points where membership changes. -/
  bounds : List Nat
  /-- The bounds ascend. -/
  ascending : bounds.Pairwise (· < ·)
deriving DecidableEq

namespace CharSet

/-- The membership of a code point, given the membership before the bounds. -/
def scan (code : Nat) : Bool → List Nat → Bool
  | inside, [] => inside
  | inside, bound :: bounds => if code < bound then inside else scan code (!inside) bounds

/-- Whether a character is a member. -/
def contains (set : CharSet) (c : Char) : Bool :=
  scan c.toNat false set.bounds

/-- Put a bound in front if the outcome changes there. -/
def mark (before after : Bool) (bound : Nat) (bounds : List Nat) : List Nat :=
  if before == after then bounds else bound :: bounds

/-- The part of a sweep up to a bound of the left set. -/
def sweepTo
    (outcome : Bool → Bool → Bool)
    (bound : Nat)
    (rest : Bool → Bool → List Nat → List Nat) :
    Bool → Bool → List Nat → List Nat
  | left, right, [] =>
      mark (outcome left right) (outcome (!left) right) bound (rest (!left) right [])
  | left, right, other :: others =>
      if other < bound then
        mark (outcome left right) (outcome left (!right)) other
          (sweepTo outcome bound rest left (!right) others)
      else if bound < other then
        mark (outcome left right) (outcome (!left) right) bound
          (rest (!left) right (other :: others))
      else
        mark (outcome left right) (outcome (!left) (!right)) bound
          (rest (!left) (!right) others)

/-- The bounds of a combination, given the memberships before the bounds. Once
the left bounds are used up the outcome follows the right set or is fixed. -/
def sweep (outcome : Bool → Bool → Bool) : List Nat → Bool → Bool → List Nat → List Nat
  | [], left, _, others => if outcome left true == outcome left false then [] else others
  | bound :: bounds, left, right, others =>
      sweepTo outcome bound (sweep outcome bounds) left right others

/-! ## The sweep -/

theorem scan_eq_of_lt
    {code : Nat}
    {bounds : List Nat}
    (below : ∀ bound ∈ bounds, code < bound)
    (inside : Bool) :
    scan code inside bounds = inside := by
  cases bounds with
  | nil => rfl
  | cons bound bounds => simp [scan, below bound (by simp)]

/-- A test that turns with its argument commutes with scanning. -/
theorem scan_turning
    {test : Bool → Bool}
    (turns : ∀ value, test (!value) = !test value)
    (code : Nat)
    (bounds : List Nat) (inside : Bool) :
    scan code (test inside) bounds = test (scan code inside bounds) := by
  induction bounds generalizing inside with
  | nil => rfl
  | cons bound bounds ih =>
      simp only [scan]
      split
      · rfl
      · rw [← turns, ih]

theorem mem_mark
    {before after : Bool}
    {bound member : Nat}
    {bounds : List Nat}
    (found : member ∈ mark before after bound bounds) :
    member = bound ∨ member ∈ bounds := by
  unfold mark at found
  split at found
  · exact .inr found
  · simpa using found

theorem mem_sweepTo
    {outcome : Bool → Bool → Bool}
    {bound member : Nat}
    {rest : Bool → Bool → List Nat → List Nat}
    {bounds : List Nat}
    (restMembers : ∀ left right others,
      member ∈ rest left right others → member ∈ bounds ∨ member ∈ others)
    {left right : Bool}
    {others : List Nat}
    (found : member ∈ sweepTo outcome bound rest left right others) :
    member = bound ∨ member ∈ bounds ∨ member ∈ others := by
  induction others generalizing right with
  | nil =>
      rcases mem_mark found with here | later
      · exact .inl here
      · exact .inr (restMembers _ _ _ later)
  | cons other others ih =>
      simp only [sweepTo] at found
      split at found
      · rcases mem_mark found with here | later
        · simp [here]
        · rcases ih later with equal | inBounds | inOthers <;> simp_all
      · split at found
        · rcases mem_mark found with here | later
          · exact .inl here
          · exact .inr (restMembers _ _ _ later)
        · rcases mem_mark found with here | later
          · exact .inl here
          · rcases restMembers _ _ _ later with inBounds | inOthers <;> simp_all

theorem mem_sweep
    {outcome : Bool → Bool → Bool}
    {member : Nat}
    {bounds : List Nat}
    {left right : Bool}
    {others : List Nat}
    (found : member ∈ sweep outcome bounds left right others) :
    member ∈ bounds ∨ member ∈ others := by
  induction bounds generalizing left right others with
  | nil =>
      simp only [sweep] at found
      split at found
      · simp at found
      · exact .inr found
  | cons bound bounds ih =>
      rcases mem_sweepTo (fun _ _ _ => ih) found with equal | inBounds | inOthers <;> simp_all

theorem pairwise_mark
    {before after : Bool}
    {bound : Nat}
    {bounds : List Nat}
    (below : ∀ other ∈ bounds, bound < other)
    (ascending : bounds.Pairwise (· < ·)) :
    (mark before after bound bounds).Pairwise (· < ·) := by
  unfold mark
  split
  · exact ascending
  · exact List.pairwise_cons.2 ⟨below, ascending⟩

theorem pairwise_sweep
    (outcome : Bool → Bool → Bool)
    {bounds : List Nat}
    (ascending : bounds.Pairwise (· < ·))
    (left right : Bool)
    {others : List Nat}
    (othersAscending : others.Pairwise (· < ·)) :
    (sweep outcome bounds left right others).Pairwise (· < ·) := by
  induction bounds generalizing left right others with
  | nil =>
      simp only [sweep]
      split
      · exact .nil
      · exact othersAscending
  | cons bound bounds ih =>
      obtain ⟨boundBelow, boundsAscending⟩ := List.pairwise_cons.1 ascending
      simp only [sweep]
      induction others generalizing right with
      | nil =>
          refine pairwise_mark (fun member found => ?_) (ih boundsAscending _ _ .nil)
          rcases mem_sweep found with inBounds | inOthers
          · exact boundBelow member inBounds
          · simp at inOthers
      | cons other others ihOthers =>
          obtain ⟨otherBelow, tailAscending⟩ := List.pairwise_cons.1 othersAscending
          simp only [sweepTo]
          split
          next less =>
            refine pairwise_mark (fun member found => ?_) (ihOthers _ tailAscending)
            rcases mem_sweepTo (fun _ _ _ => mem_sweep) found with equal | inBounds | inOthers
            · exact equal ▸ less
            · exact Nat.lt_trans less (boundBelow member inBounds)
            · exact otherBelow member inOthers
          next notLess =>
            split
            next greater =>
              refine pairwise_mark (fun member found => ?_) (ih boundsAscending _ _ othersAscending)
              rcases mem_sweep found with inBounds | inOthers
              · exact boundBelow member inBounds
              · rcases List.mem_cons.1 inOthers with equal | inTail
                · exact equal ▸ greater
                · exact Nat.lt_trans greater (otherBelow member inTail)
            next notGreater =>
              have same : other = bound := by omega
              refine pairwise_mark (fun member found => ?_) (ih boundsAscending _ _ tailAscending)
              rcases mem_sweep found with inBounds | inOthers
              · exact boundBelow member inBounds
              · exact same ▸ otherBelow member inOthers

/-- A bound is marked exactly where the outcome changes, so a scan may pass it
either way. -/
theorem scan_mark
    (code : Nat)
    (before after : Bool)
    (bound : Nat)
    (bounds : List Nat) :
    scan code before (mark before after bound bounds) =
      if before == after || !(decide (code < bound)) then scan code after bounds else before := by
  unfold mark
  by_cases same : before = after
  · simp [same]
  · have turned : after = !before := by cases before <;> cases after <;> simp_all
    subst turned
    by_cases less : code < bound <;> simp [scan, less]

theorem scan_sweep
    (outcome : Bool → Bool → Bool)
    (code : Nat)
    {bounds : List Nat}
    (ascending : bounds.Pairwise (· < ·))
    (left right : Bool)
    {others : List Nat}
    (othersAscending : others.Pairwise (· < ·)) :
    scan code (outcome left right) (sweep outcome bounds left right others) =
      outcome (scan code left bounds) (scan code right others) := by
  induction bounds generalizing left right others with
  | nil =>
      simp only [sweep, scan]
      by_cases fixed : outcome left true = outcome left false
      · simp only [fixed, BEq.rfl, if_true, scan]
        cases right <;> cases scan code _ others <;> simp [fixed]
      · have turns : ∀ value, outcome left (!value) = !outcome left value := by
          intro value
          cases value <;> cases trueCase : outcome left true <;>
            cases falseCase : outcome left false <;> simp_all
        simp only [beq_iff_eq, fixed, if_false]
        exact scan_turning turns code others right
  | cons bound bounds ih =>
      obtain ⟨boundBelow, boundsAscending⟩ := List.pairwise_cons.1 ascending
      simp only [sweep]
      induction others generalizing right with
      | nil =>
          simp only [sweepTo, scan_mark, ih boundsAscending _ _ .nil, scan]
          by_cases less : code < bound
          · have after : scan code (!left) bounds = !left :=
              scan_eq_of_lt (fun other found => Nat.lt_trans less (boundBelow other found)) _
            simp only [less, after, if_true]
            by_cases same : outcome left right = outcome (!left) right <;> simp [same]
          · simp [less]
      | cons other others ihOthers =>
          obtain ⟨otherBelow, tailAscending⟩ := List.pairwise_cons.1 othersAscending
          simp only [sweepTo]
          split
          next otherFirst =>
            rw [scan_mark, ihOthers _ tailAscending]
            by_cases less : code < other
            · have belowBound : code < bound := Nat.lt_trans less otherFirst
              have after : scan code (!right) others = !right :=
                scan_eq_of_lt (fun member found => Nat.lt_trans less (otherBelow member found)) _
              simp only [scan, less, belowBound, after, if_true]
              by_cases same : outcome left right = outcome left (!right) <;> simp [same]
            · simp [scan, less]
          next notOtherFirst =>
            split
            next boundFirst =>
              rw [scan_mark, ih boundsAscending _ _ othersAscending]
              by_cases less : code < bound
              · have belowOther : code < other := Nat.lt_trans less boundFirst
                have after : scan code (!left) bounds = !left :=
                  scan_eq_of_lt (fun member found => Nat.lt_trans less (boundBelow member found)) _
                simp only [scan, less, belowOther, after, if_true]
                by_cases same : outcome left right = outcome (!left) right <;> simp [same]
              · simp [scan, less]
            next notBoundFirst =>
              have same : other = bound := by omega
              subst same
              rw [scan_mark, ih boundsAscending _ _ tailAscending]
              by_cases less : code < other
              · have leftAfter : scan code (!left) bounds = !left :=
                  scan_eq_of_lt (fun member found => Nat.lt_trans less (boundBelow member found)) _
                have rightAfter : scan code (!right) others = !right :=
                  scan_eq_of_lt (fun member found => Nat.lt_trans less (otherBelow member found)) _
                simp only [scan, less, leftAfter, rightAfter, if_true]
                by_cases same : outcome left right = outcome (!left) (!right) <;> simp [same]
              · simp [scan, less]

/-! ## Operations -/

/-- The characters whose memberships in two sets have the given outcome, which
has to be no for a member of neither. -/
def combine (outcome : Bool → Bool → Bool) (left right : CharSet) : CharSet where
  bounds := sweep outcome left.bounds false false right.bounds
  ascending := pairwise_sweep outcome left.ascending false false right.ascending

theorem contains_combine
    {outcome : Bool → Bool → Bool}
    (neither : outcome false false = false)
    (left right : CharSet)
    (c : Char) :
    (combine outcome left right).contains c = outcome (left.contains c) (right.contains c) := by
  have law := scan_sweep outcome c.toNat left.ascending false false right.ascending
  rwa [neither] at law

/-- The set without characters. -/
def empty : CharSet := ⟨[], .nil⟩

/-- The characters in either set. -/
def union (left right : CharSet) : CharSet := combine or left right

/-- The characters in both sets. -/
def inter (left right : CharSet) : CharSet := combine and left right

/-- The characters in the first set only. -/
def diff (left right : CharSet) : CharSet :=
  combine (fun inLeft inRight => inLeft && !inRight) left right

/-- The characters in exactly one of the sets. -/
def symmDiff (left right : CharSet) : CharSet := combine xor left right

@[simp] theorem contains_empty (c : Char) : empty.contains c = false := rfl

@[simp] theorem contains_union (left right : CharSet) (c : Char) :
    (left.union right).contains c = (left.contains c || right.contains c) :=
  contains_combine rfl left right c

@[simp] theorem contains_inter (left right : CharSet) (c : Char) :
    (left.inter right).contains c = (left.contains c && right.contains c) :=
  contains_combine rfl left right c

@[simp] theorem contains_diff (left right : CharSet) (c : Char) :
    (left.diff right).contains c = (left.contains c && !right.contains c) :=
  contains_combine rfl left right c

@[simp] theorem contains_symmDiff (left right : CharSet) (c : Char) :
    (left.symmDiff right).contains c = xor (left.contains c) (right.contains c) :=
  contains_combine rfl left right c

/-- The set of all characters: every code point but the surrogates. -/
def all : CharSet := ⟨[0, 0xD800, 0xE000, 0x110000], by decide⟩

@[simp] theorem contains_all (c : Char) : all.contains c = true := by
  have valid := c.valid
  have code : c.toNat = c.val.toNat := rfl
  simp only [UInt32.isValidChar, Nat.isValidChar] at valid
  simp only [contains, all, scan, code]
  repeat' split
  all_goals first | rfl | omega

/-- The characters outside the set. -/
def complement (set : CharSet) : CharSet := all.diff set

@[simp] theorem contains_complement (set : CharSet) (c : Char) :
    set.complement.contains c = !set.contains c := by
  simp [complement]

/-- The set or its complement. -/
def complementIf (negated : Bool) (set : CharSet) : CharSet :=
  if negated then set.complement else set

/-- The characters with code points from the first to the last. -/
def range (first last : Nat) : CharSet :=
  if ordered : first ≤ last then
    all.inter ⟨[first, last + 1], by simpa using Nat.lt_succ_of_le ordered⟩
  else
    empty

@[simp] theorem contains_range (first last : Nat) (c : Char) :
    (range first last).contains c = (decide (first ≤ c.toNat) && decide (c.toNat ≤ last)) := by
  unfold range
  split
  next ordered =>
    rw [contains_inter, contains_all]
    simp only [contains, scan, Bool.true_and]
    split
    · have : ¬ first ≤ c.toNat := by omega
      simp [this]
    · have : first ≤ c.toNat := by omega
      by_cases inside : c.toNat ≤ last
      · simp [this, inside, Nat.lt_succ_of_le inside]
      · simp [this, inside, show ¬ c.toNat < last + 1 by omega]
  next disordered =>
    rw [contains_empty]
    by_cases lower : first ≤ c.toNat
    · simp [lower, show ¬ c.toNat ≤ last by omega]
    · simp [lower]

/-- The set of one character. -/
def single (c : Char) : CharSet := range c.toNat c.toNat

@[simp] theorem contains_single (c other : Char) :
    (single c).contains other = true ↔ other = c := by
  rw [single, contains_range, ← Char.toNat_inj]
  simp only [Bool.and_eq_true, decide_eq_true_eq]
  omega

/-- The characters of a table. -/
def ofRanges (ranges : Ranges) : CharSet :=
  ranges.foldr (fun limits set => (range limits.1 limits.2).union set) empty

@[simp] theorem contains_ofRanges (ranges : Ranges) (c : Char) :
    (ofRanges ranges).contains c = ranges.contains c := by
  induction ranges with
  | nil => rfl
  | cons limits ranges ih =>
      have step : ofRanges (limits :: ranges) =
          (range limits.1 limits.2).union (ofRanges ranges) := rfl
      rw [step, contains_union, ih, contains_range, Ranges.contains_cons]

/-- The characters of a table written as lines of words. -/
def ofLines (lines : List String) : CharSet :=
  ofRanges (.ofLines lines)

/-- The characters in some set of a list. -/
def unions (sets : List CharSet) : CharSet :=
  sets.foldr union empty

@[simp] theorem contains_unions (sets : List CharSet) (c : Char) :
    (unions sets).contains c = sets.any fun set => set.contains c := by
  induction sets with
  | nil => rfl
  | cons set sets ih =>
      have step : unions (set :: sets) = set.union (unions sets) := rfl
      rw [step, contains_union, ih, List.any_cons]

/-- The ranges of code points between bounds. -/
def rangesOf : List Nat → Ranges
  | first :: next :: bounds => (first, next - 1) :: rangesOf bounds
  | _ => []

/-- The members as ranges of code points. -/
def toRanges (set : CharSet) : Ranges :=
  rangesOf set.bounds

/-- The characters whose code point is a member's, moved up by one distance and
down by another. -/
def shift (up down : Nat) (set : CharSet) : CharSet :=
  ofRanges (set.toRanges.map fun limits => (limits.1 + up - down, limits.2 + up - down))

/-- Whether there is no member. -/
def isEmpty (set : CharSet) : Bool :=
  set.bounds.isEmpty

/-- Whether every member is an ASCII character. -/
def isAscii (set : CharSet) : Bool :=
  set.bounds.all (· ≤ 0x80)

/-- The only member, if there is exactly one. -/
def single? (set : CharSet) : Option Char :=
  match set.bounds with
  | [first, next] =>
      if next = first + 1 ∧ first.isValidChar then some (Char.ofNat first) else none
  | _ => none

/-- The code point of a character is the one it was made from. -/
theorem toNat_ofNat
    {code : Nat}
    (valid : code.isValidChar) :
    (Char.ofNat code).toNat = code := by
  rw [Char.ofNat, dif_pos valid]
  rfl

/-- A set with a single member holds no other character. -/
theorem contains_of_single?
    {set : CharSet}
    {c : Char}
    (single : set.single? = some c)
    (other : Char) :
    set.contains other = true ↔ other = c := by
  unfold single? at single
  split at single
  · next first next bounds =>
      split at single
      · next limits =>
          rw [← Option.some.inj single, ← Char.toNat_inj, toNat_ofNat limits.2, contains, bounds,
            limits.1]
          simp only [scan]
          split <;> simp <;> omega
      · cases single
  · cases single

/-- Whether a set holds the first character of a list. -/
def holdsHead (set : CharSet) : List Char → Bool
  | [] => false
  | c :: _ => set.contains c

end CharSet
end Text
end Heirloom
