import Heirloom.Text.CaseFold
import Heirloom.Text.Word

/-!
# Named sets of characters

The sets that regular expressions name by an escape or between colons.
-/

namespace Heirloom
namespace Regex
namespace NamedSet

open Text

/-- The decimal digits of every script. -/
def digit : CharSet := Category.decimalNumber

/-- White space. -/
def space : CharSet := Property.whiteSpace

/-- Word characters of every script. -/
def word : CharSet := wordCharacters

/-- The ASCII digits. -/
def asciiDigit : CharSet := .range 0x30 0x39

/-- The ASCII white space characters. -/
def asciiSpace : CharSet := .ofRanges [(0x9, 0xD), (0x20, 0x20)]

/-- The ASCII letters and digits and the underscore. -/
def asciiWord : CharSet := asciiWordCharacters

/-- The ASCII characters. -/
def ascii : CharSet := .range 0 0x7F

/-- The word characters of every script or of ASCII. -/
def wordFor (unicode : Bool) : CharSet :=
  if unicode then word else asciiWord

/-- The sets named between colons. -/
def bracketed? : String → Option CharSet
  | "alnum" => some (.ofRanges [(0x30, 0x39), (0x41, 0x5A), (0x61, 0x7A)])
  | "alpha" => some (.ofRanges [(0x41, 0x5A), (0x61, 0x7A)])
  | "ascii" => some ascii
  | "blank" => some (.ofRanges [(0x9, 0x9), (0x20, 0x20)])
  | "cntrl" => some (.ofRanges [(0x0, 0x1F), (0x7F, 0x7F)])
  | "digit" => some asciiDigit
  | "graph" => some (.range 0x21 0x7E)
  | "lower" => some (.range 0x61 0x7A)
  | "print" => some (.range 0x20 0x7E)
  | "punct" => some (.ofRanges [(0x21, 0x2F), (0x3A, 0x40), (0x5B, 0x60), (0x7B, 0x7E)])
  | "space" => some asciiSpace
  | "upper" => some (.range 0x41 0x5A)
  | "word" => some asciiWord
  | "xdigit" => some (.ofRanges [(0x30, 0x39), (0x41, 0x46), (0x61, 0x66)])
  | _ => none

end NamedSet
end Regex
end Heirloom
