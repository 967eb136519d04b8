/-!
# Positions in source text

Lines count from one and columns from zero, in characters. Only the line feed
ends a line.
-/

namespace Heirloom

/-- A place in source text. -/
structure Position where
  /-- The line, counted from one. -/
  line : Nat
  /-- The column, counted from zero. -/
  column : Nat
  deriving DecidableEq

namespace Position

/-- The start of a text. -/
def start : Position := ⟨1, 0⟩

/-- The place after one more character. -/
def next (position : Position) (c : Char) : Position :=
  if c == '\n' then ⟨position.line + 1, 0⟩ else ⟨position.line, position.column + 1⟩

/-- The place after more characters. -/
def advance (position : Position) (chars : List Char) : Position :=
  chars.foldl next position

end Position
end Heirloom
