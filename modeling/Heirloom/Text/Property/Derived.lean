import Heirloom.Text.Category
import Heirloom.Text.Property

/-!
# Derived properties

Yes-or-no properties of characters that follow from the general category and
from listed properties. The table gives every binary property under its short
and long names, in lower case and without separators.
-/

namespace Heirloom
namespace Text
namespace Property

open Category

/-- Lowercase characters. -/
def lowercase : CharSet := lowercaseLetter.union otherLowercase

/-- Uppercase characters. -/
def uppercase : CharSet := uppercaseLetter.union otherUppercase

/-- Characters with case. -/
def cased : CharSet := .unions [lowercase, uppercase, titlecaseLetter]

/-- Alphabetic characters. -/
def alphabetic : CharSet := .unions [letter, letterNumber, otherAlphabetic, lowercase, uppercase]

/-- Mathematical characters. -/
def math : CharSet := mathSymbol.union otherMath

/-- Characters that case mappings pass over when they look at the context. -/
def caseIgnorable : CharSet :=
  .unions [nonspacingMark, enclosingMark, format, modifierLetter, modifierSymbol,
    .ofLines ["27 2e 3a b7 387 55f 5f4 2018-2019 2024 2027 fe13 fe52 fe55 ff07 ff0e ff1a"]]

/-- Characters that differ from their titlecase form: those that differ from
their uppercase form, but for digraphs with a form of their own and for letters
whose titlecase form is their lowercase one. -/
def changesWhenTitlecased : CharSet :=
  changesWhenUppercased.symmDiff (.ofLines
    ["1c4-1c5 1c7-1c8 1ca-1cb 1f1-1f2 10d0-10fa 10fd-10ff 1f88-1f8f 1f98-1f9f 1fa8-1faf 1fbc",
    "1fcc 1ffc"])

/-- Characters that differ from their case folding: those that differ from their
lowercase form, but for letters that fold to another lowercase or to an
uppercase letter. -/
def changesWhenCasefolded : CharSet :=
  changesWhenLowercased.symmDiff (.ofLines
    ["b5 df 149 17f 345 3c2 3d0-3d1 3d5-3d6 3f0-3f1 3f5 587 13a0-13f5 13f8-13fd 1c80-1c88",
    "1e9a-1e9b 1f80-1f87 1f90-1f97 1fa0-1fa7 1fb2-1fb4 1fb7 1fc2-1fc4 1fc7 1ff2-1ff4 1ff7",
    "ab70-abbf fb00-fb06 fb13-fb17"])

/-- Characters that some case mapping changes. -/
def changesWhenCasemapped : CharSet :=
  .unions [changesWhenLowercased, changesWhenUppercased, changesWhenTitlecased]

/-- Characters without a visible form that may be passed over. -/
def defaultIgnorableCodePoint : CharSet :=
  (CharSet.unions [otherDefaultIgnorableCodePoint, format, variationSelector]).diff
    (.unions [whiteSpace, prependedConcatenationMark, .ofLines ["fff9-fffb 13430-13440"]])

/-- Characters that extend the grapheme before them. -/
def graphemeExtend : CharSet := .unions [nonspacingMark, enclosingMark, otherGraphemeExtend]

/-- Characters that a grapheme can be built on. -/
def graphemeBase : CharSet :=
  (CharSet.unions [other, lineSeparator, paragraphSeparator, graphemeExtend]).complement

/-- Characters kept for patterns, which are never part of an identifier. -/
def patternCharacters : CharSet := patternSyntax.union patternWhiteSpace

/-- Characters that may start an identifier. -/
def idStart : CharSet :=
  (CharSet.unions [letter, letterNumber, otherIdStart]).diff patternCharacters

/-- Characters that may continue an identifier. -/
def idContinue : CharSet :=
  (CharSet.unions [idStart, nonspacingMark, spacingMark, decimalNumber, connectorPunctuation,
    otherIdContinue]).diff patternCharacters

/-- Characters that no longer start an identifier after compatibility
decomposition of the text. -/
def notStartAfterDecomposition : CharSet := .ofLines
  ["37a e33 eb3 309b-309c fc5e-fc63 fdfa-fdfb fe70 fe72 fe74 fe76 fe78 fe7a fe7c fe7e ff9e-ff9f"]

/-- Characters that no longer continue an identifier after compatibility
decomposition of the text. -/
def notContinueAfterDecomposition : CharSet := .ofLines
  ["37a 309b-309c fc5e-fc63 fdfa-fdfb fe70 fe72 fe74 fe76 fe78 fe7a fe7c fe7e"]

/-- Characters that start an identifier under every normalization. -/
def xidStart : CharSet := idStart.diff notStartAfterDecomposition

/-- Characters that continue an identifier under every normalization. -/
def xidContinue : CharSet := idContinue.diff notContinueAfterDecomposition

/-- Every binary property by name. -/
def byName : List (List String × CharSet) := [
  (["alpha", "alphabetic"], alphabetic),
  (["ci", "caseignorable"], caseIgnorable),
  (["cased"], cased),
  (["cwcf", "changeswhencasefolded"], changesWhenCasefolded),
  (["cwcm", "changeswhencasemapped"], changesWhenCasemapped),
  (["cwt", "changeswhentitlecased"], changesWhenTitlecased),
  (["di", "defaultignorablecodepoint"], defaultIgnorableCodePoint),
  (["grbase", "graphemebase"], graphemeBase),
  (["grext", "graphemeextend"], graphemeExtend),
  (["idc", "idcontinue"], idContinue),
  (["ids", "idstart"], idStart),
  (["lower", "lowercase"], lowercase),
  (["math"], math),
  (["upper", "uppercase"], uppercase),
  (["xidc", "xidcontinue"], xidContinue),
  (["xids", "xidstart"], xidStart)] ++ listedByName

end Property
end Text
end Heirloom
