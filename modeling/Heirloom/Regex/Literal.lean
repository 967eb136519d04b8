import Heirloom.Regex.Parser
import Heirloom.Regex.Program

/-!
# Regular expression literals

A literal is used in two ways: to match a whole text, and to match at the start
of one. For each its source is put into a frame, between an anchored group and
perhaps an anchor at the end, and the framed text is read as one expression.
-/

namespace Heirloom
namespace Regex

/-- The source framed to match at the start of a text. -/
def leadFrame (source : List Char) : List Char :=
  ['^', '(', '?', ':'] ++ source ++ [')']

/-- The source framed to match a whole text. -/
def wholeFrame (source : List Char) : List Char :=
  leadFrame source ++ ['$']

/-- The programs for a whole text and for the start of one, if both framed
sources are regular expressions. -/
def compileFrames? (source : String) : Option (Program × Program) :=
  match ofChars? (wholeFrame source.toList), ofChars? (leadFrame source.toList) with
  | some whole, some lead => some (whole.compile, lead.compile)
  | _, _ => none

/-- A source text together with its programs. -/
structure Literal where
  /-- The text as written. -/
  source : String
  /-- The program that matches whole texts. -/
  whole : Program
  /-- The program that matches at the start of texts. -/
  lead : Program
  /-- The programs are those of the source. -/
  compiled : compileFrames? source = some (whole, lead)

namespace Literal

/-- The literal of a source, if it compiles. -/
def ofSource? (source : String) : Option Literal :=
  match compiled : compileFrames? source with
  | some (whole, lead) => some ⟨source, whole, lead, compiled⟩
  | none => none

/-- Literals with one source are equal. -/
theorem eq_of_source_eq
    {left right : Literal}
    (sources : left.source = right.source) :
    left = right := by
  obtain ⟨leftSource, leftWhole, leftLead, leftCompiled⟩ := left
  obtain ⟨rightSource, rightWhole, rightLead, rightCompiled⟩ := right
  dsimp only at sources
  subst sources
  rw [leftCompiled] at rightCompiled
  injection rightCompiled with programs
  injection programs with wholes leads
  subst wholes
  subst leads
  rfl

instance : DecidableEq Literal := fun left right =>
  decidable_of_iff (left.source = right.source)
    ⟨eq_of_source_eq, fun equal => equal ▸ rfl⟩

/-- Whether the literal matches a whole text. -/
def matchesWhole (literal : Literal) (chars : List Char) : Bool :=
  (literal.whole.search? [] chars 0).isSome

/-- The number of characters up to the end of the match at the start. -/
def leadLength? (literal : Literal) (chars : List Char) : Option Nat :=
  (literal.lead.search? [] chars 0).map Prod.snd

/-- The number of bytes up to the end of the match at the start. -/
def leadSize? (literal : Literal) (text : String) : Option Nat :=
  (literal.leadLength? text.toList).map fun length =>
    (text.toList.take length).foldr (fun c size => c.utf8Size + size) 0

end Literal
end Regex
end Heirloom
