import Heirloom.Text.CharSet

/-!
# Ranges of characters as ranges of bytes

A range of code points is written as sequences of byte ranges: a text is the
encoding of a character in the range exactly when its bytes are, one by one, in
the ranges of some sequence. Every sequence is for encodings of one length, and
they come in the order of the characters.
-/

namespace Heirloom
namespace Text
namespace Encoding

/-- The bytes from a lowest to a highest one. -/
structure ByteRange where
  /-- The lowest byte. -/
  low : Nat
  /-- The highest byte. -/
  high : Nat
deriving DecidableEq

/-- The bytes of a code point in UTF-8. -/
def bytes (code : Nat) : List Nat :=
  if code < 0x80 then [code]
  else if code < 0x800 then [0xC0 + code / 64, 0x80 + code % 64]
  else if code < 0x10000 then [0xE0 + code / 4096, 0x80 + code / 64 % 64, 0x80 + code % 64]
  else
    [0xF0 + code / 262144, 0x80 + code / 4096 % 64, 0x80 + code / 64 % 64, 0x80 + code % 64]

/-- The bytes of a text in UTF-8. -/
def textBytes (chars : List Char) : List Nat :=
  chars.flatMap fun c => bytes c.toNat

/-- Where a range has to be divided so that its parts align with the blocks of
one size: after an incomplete first block or before an incomplete last one. -/
def blockSplit? (first last size : Nat) : Option Nat :=
  if first / size = last / size then none
  else if first % size ≠ 0 then some (first / size * size + size - 1)
  else if last % size ≠ size - 1 then some (last / size * size - 1)
  else none

/-- The last code point of the first part of a range that needs more than one
sequence: encodings of another length follow it, or another block. -/
def split? (first last : Nat) : Option Nat :=
  if first ≤ 0x7F ∧ 0x7F < last then some 0x7F
  else if first ≤ 0x7FF ∧ 0x7FF < last then some 0x7FF
  else if first ≤ 0xFFFF ∧ 0xFFFF < last then some 0xFFFF
  else if last ≤ 0x7F then none
  else blockSplit? first last 64 <|> blockSplit? first last 4096 <|> blockSplit? first last 262144

/-- The sequences of byte ranges for a range of code points. -/
def sequences (first last : Nat) : List (List ByteRange) :=
  match split? first last with
  | none => [List.zipWith ByteRange.mk (bytes first) (bytes last)]
  | some middle =>
      if _ : first ≤ middle ∧ middle < last then
        sequences first middle ++ sequences (middle + 1) last
      else
        []
termination_by last - first

/-- The sequences of byte ranges for a set of characters. -/
def ofSet (set : CharSet) : List (List ByteRange) :=
  set.toRanges.flatMap fun limits => sequences limits.1 limits.2

end Encoding
end Text
end Heirloom
