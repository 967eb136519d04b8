import Heirloom.Text.Property.Derived

/-!
# Word characters

A word character is alphabetic, a combining mark, a decimal digit, connecting
punctuation or a joiner.
-/

namespace Heirloom
namespace Text

/-- The characters that can be part of a word of any script. -/
def wordCharacters : CharSet :=
  .unions [Category.connectorPunctuation, Property.joinControl, Category.decimalNumber,
    Category.mark, Property.alphabetic]

/-- The ASCII letters and digits and the underscore. -/
def asciiWordCharacters : CharSet :=
  .ofRanges [(0x30, 0x39), (0x41, 0x5A), (0x5F, 0x5F), (0x61, 0x7A)]

end Text
end Heirloom
