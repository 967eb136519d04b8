import Heirloom.Text.Printable

/-!
# Quoted text

A character or a text is written between quotes with the characters that have
no visible form of their own escaped, so that the written form is one line of
printable characters. Inside a quoted character the apostrophe is escaped,
inside a quoted text the quotation mark is.
-/

namespace Heirloom
namespace Text
namespace Quoted

/-- The escape that names a character by its code point. -/
def codeEscape (c : Char) : List Char :=
  ['\\', 'u', '\x7b'] ++ Nat.toDigits 16 c.toNat ++ ['\x7d']

/-- The written form of a character between the given quotes. -/
def escape (quote : Char) (c : Char) : List Char :=
  if c == '\x00' then ['\\', '0']
  else if c == '\t' then ['\\', 't']
  else if c == '\r' then ['\\', 'r']
  else if c == '\n' then ['\\', 'n']
  else if c == '\\' || c == quote then ['\\', c]
  else if extendsGrapheme c || !isPrintable c then codeEscape c
  else [c]

/-- Characters between quotes, each in its written form. -/
def encode (quote : Char) (chars : List Char) : List Char :=
  quote :: (chars.flatMap (escape quote) ++ [quote])

/-- A character between apostrophes. -/
def char (c : Char) : String :=
  String.ofList (encode '\'' [c])

/-- A text between quotation marks. -/
def text (s : String) : String :=
  String.ofList (encode '"' s.toList)

end Quoted
end Text
end Heirloom
