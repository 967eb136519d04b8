import Heirloom.Text.Property.Derived
import Heirloom.Text.Script

/-!
# Classes of text segmentation

Where text may be divided into graphemes, words and sentences depends on the
class of each character. Most classes follow from other properties. The tables
give the classes under their short and long names, in lower case and without
separators; a character in none of them is in the remaining class, which has no
name.
-/

namespace Heirloom
namespace Text
namespace Segmentation

open Category Property

/-- The carriage return. -/
def carriageReturn : CharSet := .ofLines ["d"]

/-- The line feed. -/
def lineFeed : CharSet := .ofLines ["a"]

/-- The joiner. -/
def joiner : CharSet := .ofLines ["200d"]

/-! ## Graphemes -/

/-- Characters that belong to the grapheme after them. -/
def prepended : CharSet := .ofLines
  ["600-605 6dd 70f 890-891 8e2 d4e 110bd 110cd 111c2-111c3 113d1 1193f 11941 11a3a 11a84-11a89",
  "11d46 11f02"]

/-- Characters that extend a grapheme, modifiers of emoji among them. -/
def extending : CharSet := graphemeExtend.union emojiModifier

/-- Characters that a grapheme never holds together with another. -/
def control : CharSet :=
  (CharSet.unions [Category.control, format, lineSeparator, paragraphSeparator,
    unassigned.inter defaultIgnorableCodePoint]).diff
    (.unions [carriageReturn, lineFeed, joiner, prepended, extending])

/-- Spacing marks that belong to the grapheme before them. -/
def attachedMark : CharSet :=
  ((spacingMark.diff graphemeExtend).diff (.ofLines
    ["102b-102c 1038 1062-1064 1067-106d 1083 1087-108c 108f 109a-109c 1a61 1a63-1a64 aa7b aa7d",
    "11720-11721"])).union (.ofLines ["e33 eb3"])

/-- Hangul syllables of a consonant and a vowel, one in every twenty-eight. -/
def openSyllable : CharSet :=
  .ofRanges ((List.range 399).map fun index => (0xAC00 + 28 * index, 0xAC00 + 28 * index))

/-- Hangul syllables that end in a consonant. -/
def closedSyllable : CharSet := (CharSet.range 0xAC00 0xD7A3).diff openSyllable

/-- The classes of graphemes by name. -/
def graphemeByName : List (List String × CharSet) := [
  (["cn", "control"], control),
  (["cr"], carriageReturn),
  (["ex", "extend"], extending),
  (["l"], .ofLines ["1100-115f a960-a97c"]),
  (["lf"], lineFeed),
  (["lv"], openSyllable),
  (["lvt"], closedSyllable),
  (["pp", "prepend"], prepended),
  (["ri", "regionalindicator"], regionalIndicator),
  (["sm", "spacingmark"], attachedMark),
  (["t"], .ofLines ["11a8-11ff d7cb-d7fb"]),
  (["v"], .ofLines ["1160-11a7 d7b0-d7c6 16d63 16d67-16d6a"]),
  (["zwj"], joiner)]

/-! ## Words -/

/-- Marks and other characters that extend a word without changing it. -/
def wordExtending : CharSet := extending.union spacingMark

/-- Katakana and the signs written with it. -/
def katakana : CharSet :=
  (Script.members "kana").union (.ofLines ["3031-3035 309b-309c 30a0 30fc ff70"])

/-- Hebrew letters. -/
def hebrewLetter : CharSet := (Script.members "hebr").inter otherLetter

/-- Scripts that write words without spaces between them. -/
def unspacedScripts : CharSet :=
  .unions (["thai", "laoo", "khmr", "mymr", "talu", "lana", "tavt", "ahom", "tale", "hira"].map
    Script.members)

/-- Letters of scripts with spaces between words. -/
def wordLetter : CharSet :=
  (alphabetic.union (.ofLines
    ["2c2-2c5 2d2-2d7 2de-2df 2e5-2eb 2ed 2ef-2ff 55a-55c 55e 58a 5f3 70f a708-a716 a720-a721",
    "a789-a78a ab5b"])).diff
    (.unions [ideographic, katakana, unspacedScripts, wordExtending, hebrewLetter])

/-- Signs that precede a number and belong to it. -/
def numberSign : CharSet := prependedConcatenationMark.diff (.ofLines ["70f"])

/-- The classes of words by name. -/
def wordByName : List (List String × CharSet) := [
  (["cr"], carriageReturn),
  (["dq", "doublequote"], .ofLines ["22"]),
  (["ex", "extendnumlet"], connectorPunctuation.union (.ofLines ["202f"])),
  (["extend"], wordExtending),
  (["fo", "format"], format.diff (.unions [prepended, extending, .ofLines ["200b 200d"]])),
  (["hl", "hebrewletter"], hebrewLetter),
  (["ka", "katakana"], katakana),
  (["le", "aletter"], wordLetter),
  (["lf"], lineFeed),
  (["mb", "midnumlet"], .ofLines ["2e 2018-2019 2024 fe52 ff07 ff0e"]),
  (["ml", "midletter"], .ofLines ["3a b7 387 55f 5f4 2027 fe13 fe55 ff1a"]),
  (["mn", "midnum"], .ofLines
    ["2c 3b 37e 589 60c-60d 66c 7f8 2044 fe10 fe14 fe50 fe54 ff0c ff1b"]),
  (["nl", "newline"], .ofLines ["b-c 85 2028-2029"]),
  (["nu", "numeric"], .unions [decimalNumber, numberSign, .ofLines ["66b"]]),
  (["ri", "regionalindicator"], regionalIndicator),
  (["sq", "singlequote"], .ofLines ["27"]),
  (["wsegspace"], .ofLines ["20 1680 2000-2006 2008-200a 205f 3000"]),
  (["zwj"], joiner)]

/-! ## Sentences -/

/-- Full stops, which may end a sentence. -/
def fullStop : CharSet := .ofLines ["2e 2024 fe52 ff0e"]

/-- Marks that extend the character before them in a sentence. -/
def sentenceExtending : CharSet := .unions [graphemeExtend, spacingMark, joiner]

/-- Lowercase letters of scripts with two cases. -/
def sentenceLower : CharSet :=
  lowercase.diff (.unions [graphemeExtend, .ofLines ["10d0-10fa 10fd-10ff"]])

/-- Uppercase and titlecase letters of scripts with two cases. -/
def sentenceUpper : CharSet :=
  (titlecaseLetter.union uppercase).diff (.ofLines ["1c90-1cba 1cbd-1cbf"])

/-- The classes of sentences by name. -/
def sentenceByName : List (List String × CharSet) := [
  (["at", "aterm"], fullStop),
  (["cl", "close"], .unions [openPunctuation, closePunctuation, initialPunctuation,
    finalPunctuation, .ofLines ["22 27 275b-2760 2e00-2e01 2e06-2e08 2e0b 1f676-1f678"]]),
  (["cr"], carriageReturn),
  (["ex", "extend"], sentenceExtending),
  (["fo", "format"], format.diff (.unions [numberSign, sentenceExtending])),
  (["le", "oletter"], (alphabetic.union (.ofLines ["5f3"])).diff
    (.unions [sentenceLower, sentenceUpper, sentenceExtending])),
  (["lf"], lineFeed),
  (["lo", "lower"], sentenceLower),
  (["nu", "numeric"], .unions [decimalNumber, numberSign, .ofLines ["66b-66c"]]),
  (["sc", "scontinue"], .ofLines
    ["2c-2d 3a-3b 37e 55d 60c-60d 7f8 1802 1808 2013-2014 3001 fe10-fe11 fe13-fe14 fe31-fe32",
    "fe50-fe51 fe54-fe55 fe58 fe63 ff0c-ff0d ff1a-ff1b ff64"]),
  (["se", "sep"], .ofLines ["85 2028-2029"]),
  (["sp"], whiteSpace.diff (.ofLines ["a d 85 2028-2029"])),
  (["st", "sterm"], sentenceTerminal.diff fullStop),
  (["up", "upper"], sentenceUpper)]

end Segmentation
end Text
end Heirloom
