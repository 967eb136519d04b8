/-!
# Ranges of code points

A set of characters given by inclusive ranges of code points. Tables of
Unicode properties are written either as literal ranges or as text, where each
word is a hexadecimal code point or two of them joined by a hyphen.
-/

namespace Heirloom
namespace Text

/-- A set of characters as inclusive ranges of code points. -/
abbrev Ranges := List (Nat × Nat)

namespace Ranges

/-- Whether some range holds the character. -/
def contains (ranges : Ranges) (c : Char) : Bool :=
  ranges.any fun range => range.1 ≤ c.toNat && c.toNat ≤ range.2

@[simp] theorem contains_nil (c : Char) :
    contains [] c = false := rfl

@[simp] theorem contains_cons
    (range : Nat × Nat)
    (ranges : Ranges)
    (c : Char) :
    contains (range :: ranges) c =
      ((range.1 ≤ c.toNat && c.toNat ≤ range.2) || contains ranges c) := rfl

theorem contains_eq_false_of_lt
    {ranges : Ranges}
    {bound : Nat}
    {c : Char}
    (beyond : ∀ range ∈ ranges, bound ≤ range.1)
    (low : c.toNat < bound) :
    ranges.contains c = false := by
  simp only [contains, List.any_eq_false, Bool.and_eq_true, decide_eq_true_eq, not_and]
  intro range mem atLeast
  have := beyond range mem
  omega

/-- The value of a hexadecimal digit in lower case. -/
def hexDigitValue (c : Char) : Nat :=
  if c.isDigit then c.toNat - '0'.toNat else c.toNat - 'a'.toNat + 10

/-- Read ranges from text. The pending start and the digits read so far are
carried along; a space ends a word. -/
def ofChars : Option Nat → Nat → List Char → Ranges
  | start, code, [] => [(start.getD code, code)]
  | start, code, c :: rest =>
      if c == ' ' then (start.getD code, code) :: ofChars none 0 rest
      else if c == '-' then ofChars (some code) 0 rest
      else ofChars start (16 * code + hexDigitValue c) rest

/-- Read ranges from words separated by single spaces. -/
def ofText (text : String) : Ranges :=
  ofChars none 0 text.toList

/-- Read ranges from lines of words. -/
def ofLines (lines : List String) : Ranges :=
  lines.flatMap ofText

end Ranges
end Text
end Heirloom
