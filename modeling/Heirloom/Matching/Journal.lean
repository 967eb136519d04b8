/-!
# Journals

A journal is a list of entries in order that is only ever added to. It is held
as the way to put its entries before others, so that joining two journals takes
the same time however long they are. The list of entries determines a journal.
-/

namespace Heirloom
namespace Matching

/-- A list of entries, as the way to put them before others. -/
structure Journal (ε : Type) where
  /-- The entries with others after them. -/
  before : List ε → List ε
  /-- What comes after plays no part in the entries. -/
  before_eq_append : ∀ others, before others = before [] ++ others

namespace Journal

/-- The entries in order. -/
def entries (journal : Journal ε) : List ε := journal.before []

/-- Journals with the same entries are equal. -/
@[ext] theorem ext_entries
    {left right : Journal ε}
    (same : left.entries = right.entries) :
    left = right := by
  obtain ⟨leftBefore, leftAppends⟩ := left
  obtain ⟨rightBefore, rightAppends⟩ := right
  have equal : leftBefore = rightBefore := by
    funext others
    rw [leftAppends, rightAppends]
    exact congrArg (· ++ others) same
  subst equal
  rfl

/-- The journal without entries. -/
def empty : Journal ε := ⟨id, fun _ => rfl⟩

/-- The journal of one entry. -/
def single (entry : ε) : Journal ε := ⟨(entry :: ·), fun _ => rfl⟩

/-- The entries of one journal and then those of another. -/
def append (first second : Journal ε) : Journal ε where
  before := fun others => first.before (second.before others)
  before_eq_append others := by
    rw [first.before_eq_append, second.before_eq_append,
      first.before_eq_append (second.before []), List.append_assoc]

instance : Append (Journal ε) := ⟨append⟩

@[simp] theorem entries_empty :
    (empty : Journal ε).entries = [] := rfl

@[simp] theorem entries_single (entry : ε) :
    (single entry).entries = [entry] := rfl

@[simp] theorem entries_append (first second : Journal ε) :
    (first ++ second).entries = first.entries ++ second.entries :=
  first.before_eq_append second.entries

@[simp] theorem empty_append (journal : Journal ε) :
    empty ++ journal = journal := by
  ext1
  simp

@[simp] theorem append_empty (journal : Journal ε) :
    journal ++ empty = journal := by
  ext1
  simp

/-- Joining journals is associative. -/
@[simp] theorem append_assoc (first second third : Journal ε) :
    first ++ second ++ third = first ++ (second ++ third) := by
  ext1
  simp

end Journal
end Matching
end Heirloom
