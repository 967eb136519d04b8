import Heirloom.Value

/-!
# Memory of rule applications

What is known about applying rules at the positions of one stream. An
application is pending while its rule is being evaluated for the first time,
and done once it has an answer. Entries are replaced but never removed.
-/

namespace Heirloom
namespace Matching

/-- A match: its value and the position after it. -/
structure Hit where
  /-- The value of the match. -/
  value : Value
  /-- The position after the match. -/
  finish : Nat
  deriving DecidableEq

/-- What is known about one application. -/
inductive Entry
  /-- In progress; whether it has been met again meanwhile. -/
  | pending (reentered : Bool)
  /-- Answered, by a match or a mismatch. -/
  | done (result : Option Hit)
  deriving DecidableEq

/-- For each position the rules applied there, with what is known. Nothing is
known at the positions beyond the last row. -/
abbrev Memo := Array (List (String × Entry))

namespace Memo

/-- Nothing is known. -/
def empty : Memo := #[]

/-- The rules applied at a position, with what is known. -/
def row (memo : Memo) (position : Nat) : List (String × Entry) :=
  (memo[position]?).getD []

/-- What is known about a rule at a position. -/
def find? (memo : Memo) (rule : String) (position : Nat) : Option Entry :=
  (memo.row position).lookup rule

/-- Put an entry in the place of the one for its rule, or at the end. -/
def putInRow (rule : String) (entry : Entry) : List (String × Entry) → List (String × Entry)
  | [] => [(rule, entry)]
  | (other, known) :: row =>
      if rule == other then (rule, entry) :: row else (other, known) :: putInRow rule entry row

/-- Add rows without entries, so that a position has a row. -/
def extendTo (memo : Memo) (position : Nat) : Memo :=
  memo ++ Array.replicate (position + 1 - memo.size) []

/-- Note what is known about a rule at a position. -/
def put (rule : String) (entry : Entry) (position : Nat) (memo : Memo) : Memo :=
  let noted := putInRow rule entry (memo.row position)
  (memo.extendTo position).setIfInBounds position noted

/-- The entry put into a row is found there, and no other one changes. -/
theorem lookup_putInRow
    (rule other : String)
    (entry : Entry)
    (row : List (String × Entry)) :
    (putInRow rule entry row).lookup other =
      if other == rule then some entry else row.lookup other := by
  induction row with
  | nil => cases found : other == rule <;> simp [putInRow, List.lookup_cons, found]
  | cons head row inductionHypothesis =>
      obtain ⟨name, known⟩ := head
      by_cases same : rule = name
      · subst same
        cases found : other == rule <;> simp [putInRow, List.lookup_cons, found]
      · have different : (rule == name) = false := by simpa using same
        cases found : other == name with
        | false => simp [putInRow, different, List.lookup_cons, found, inductionHypothesis]
        | true =>
            have equal : other = name := by simpa using found
            have apart : (other == rule) = false := by
              simpa [equal] using fun equal => same equal.symm
            simp [putInRow, different, List.lookup_cons, found, apart]

/-- Every position up to the one extended to has a row. -/
theorem lt_size_extendTo
    (memo : Memo)
    (position : Nat) :
    position < (memo.extendTo position).size := by
  simp only [extendTo, Array.size_append, Array.size_replicate]
  omega

/-- Rows without entries change no row. -/
theorem row_extendTo
    (memo : Memo)
    (position place : Nat) :
    (memo.extendTo position).row place = memo.row place := by
  by_cases inside : place < memo.size
  · simp [row, extendTo, Array.getElem?_append_left inside]
  · have outside := Nat.le_of_not_lt inside
    simp only [row, extendTo, Array.getElem?_append_right outside,
      Array.getElem?_eq_none outside, Array.getElem?_replicate]
    split <;> rfl

/-- Noting an entry changes the row of its position and no other. -/
theorem row_put
    (rule : String)
    (entry : Entry)
    (position place : Nat)
    (memo : Memo) :
    (put rule entry position memo).row place =
      if place = position then putInRow rule entry (memo.row place) else memo.row place := by
  by_cases same : place = position
  · subst same
    simp [row, put, lt_size_extendTo]
  · rw [if_neg same, ← row_extendTo memo position place]
    simp only [row, put]
    rw [Array.getElem?_setIfInBounds_ne (Ne.symm same)]

/-- The entry that was put last is found, and no other entry changes. -/
theorem find?_put
    (rule other : String)
    (entry : Entry)
    (position place : Nat)
    (memo : Memo) :
    find? (put rule entry position memo) other place =
      if other = rule ∧ place = position then some entry else find? memo other place := by
  by_cases same : place = position
  · simp [find?, row_put, lookup_putInRow, same]
  · simp [find?, row_put, same]

end Memo
end Matching
end Heirloom
