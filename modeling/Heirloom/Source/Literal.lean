import Heirloom.Text.Identifier

/-!
# Literals of source text

Texts, characters and numbers as they are written in grammar source. A text is
written between quotation marks with escapes, or raw between hashes. Bytes,
texts of bytes, texts for C and numbers with a fraction or an exponent are read
too, but they stand for no value. Every literal may carry a suffix, which is
passed over.

Reading a literal at the start of a text returns the literal and what follows
it, or nothing if there is none.
-/

namespace Heirloom
namespace Source

/-- A literal. -/
inductive Literal
  | text (value : String)
  | char (value : Char)
  | integer (value : Nat)
  /-- A literal that stands for no value. -/
  | other
  deriving DecidableEq

/-- The kinds of written text. -/
inductive TextKind
  | text
  | bytes
  | cText
  deriving DecidableEq

namespace TextKind

/-- Whether a character may stand unescaped. -/
def allows : TextKind → Char → Bool
  | text, _ => true
  | bytes, c => c.toNat < 0x80
  | cText, c => c != '\x00'

/-- Whether two hexadecimal digits may name a character. -/
def allowsCode : TextKind → Nat → Bool
  | text, code => code < 0x80
  | bytes, _ => true
  | cText, code => code != 0

end TextKind

/-- The value of a hexadecimal digit. -/
def digitValue? (c : Char) : Option Nat :=
  if c.isDigit then some (c.toNat - '0'.toNat)
  else if 'a' ≤ c && c ≤ 'f' then some (c.toNat - 'a'.toNat + 10)
  else if 'A' ≤ c && c ≤ 'F' then some (c.toNat - 'A'.toNat + 10)
  else none

/-! ## Escapes -/

/-- The code point between braces, after the opening one: up to six digits,
between and after which underscores may stand. -/
def readCode : Nat → Nat → List Char → Option (Char × List Char)
  | _, _, [] => none
  | count, code, c :: rest =>
      if c == '_' && 0 < count then readCode count code rest
      else if c == '\x7d' && 0 < count then
        if code.isValidChar then some (Char.ofNat code, rest) else none
      else
        match digitValue? c with
        | some value => if count < 6 then readCode (count + 1) (16 * code + value) rest else none
        | none => none

/-- The character of an escape, after its backslash. -/
def readEscape (kind : TextKind) : List Char → Option (Char × List Char)
  | 'n' :: rest => some ('\n', rest)
  | 'r' :: rest => some ('\r', rest)
  | 't' :: rest => some ('\t', rest)
  | '\\' :: rest => some ('\\', rest)
  | '\'' :: rest => some ('\'', rest)
  | '"' :: rest => some ('"', rest)
  | '0' :: rest => if kind == .cText then none else some ('\x00', rest)
  | 'x' :: high :: low :: rest =>
      match digitValue? high, digitValue? low with
      | some high, some low =>
          let code := 16 * high + low
          if kind.allowsCode code then some (Char.ofNat code, rest) else none
      | _, _ => none
  | 'u' :: '\x7b' :: rest =>
      match readCode 0 0 rest with
      | some (c, rest) =>
          if kind == .bytes || (kind == .cText && c == '\x00') then none else some (c, rest)
      | none => none
  | _ => none

/-- Pass over the blanks that continue a text on the next line. A carriage
return has to be followed by a line feed. -/
def skipContinuation : Bool → List Char → Option (List Char)
  | true, '\n' :: rest => skipContinuation false rest
  | true, _ => none
  | false, [] => none
  | false, c :: rest =>
      if c == ' ' || c == '\t' || c == '\n' then skipContinuation false rest
      else if c == '\r' then skipContinuation true rest
      else some (c :: rest)

/-! ## Texts -/

/-- The characters of a text with escapes, after its opening quotation mark.
Each round takes at least one character. A line end is read as a line feed. -/
def readCooked (kind : TextKind) : Nat → List Char → Option (List Char × List Char)
  | 0, _ => none
  | _ + 1, [] => none
  | _ + 1, '"' :: rest => some ([], rest)
  | fuel + 1, '\r' :: '\n' :: rest =>
      (readCooked kind fuel rest).map fun (chars, rest) => ('\n' :: chars, rest)
  | _ + 1, '\r' :: _ => none
  | fuel + 1, '\\' :: '\n' :: rest =>
      (skipContinuation false rest).bind (readCooked kind fuel)
  | fuel + 1, '\\' :: '\r' :: rest =>
      (skipContinuation true rest).bind (readCooked kind fuel)
  | fuel + 1, '\\' :: rest =>
      (readEscape kind rest).bind fun (c, rest) =>
        (readCooked kind fuel rest).map fun (chars, rest) => (c :: chars, rest)
  | fuel + 1, c :: rest =>
      if kind.allows c then
        (readCooked kind fuel rest).map fun (chars, rest) => (c :: chars, rest)
      else
        none

/-- The characters of a raw text up to a quotation mark and its hashes. -/
def readRaw (kind : TextKind) (hashes : List Char) : List Char → Option (List Char × List Char)
  | [] => none
  | '\r' :: '\n' :: rest =>
      (readRaw kind hashes rest).map fun (chars, rest) => ('\r' :: '\n' :: chars, rest)
  | '\r' :: _ => none
  | c :: rest =>
      if c == '"' && hashes.isPrefixOf rest then some ([], rest.drop hashes.length)
      else if kind.allows c then
        (readRaw kind hashes rest).map fun (chars, rest) => (c :: chars, rest)
      else
        none

/-- The largest number of hashes around a raw text. -/
def hashLimit : Nat := 255

/-- A raw text, after its letters: hashes and a quotation mark open it. -/
def readRawText (kind : TextKind) (chars : List Char) : Option (List Char × List Char) :=
  let hashes := chars.takeWhile (· == '#')
  match chars.dropWhile (· == '#') with
  | '"' :: rest => if hashes.length ≤ hashLimit then readRaw kind hashes rest else none
  | _ => none

/-- A text of some kind with its letters, and the kind. -/
def readText : List Char → Option (TextKind × List Char × List Char)
  | '"' :: rest => (readCooked .text (rest.length + 1) rest).map fun read => (.text, read)
  | 'r' :: rest => (readRawText .text rest).map fun read => (.text, read)
  | 'b' :: '"' :: rest =>
      (readCooked .bytes (rest.length + 1) rest).map fun read => (.bytes, read)
  | 'b' :: 'r' :: rest => (readRawText .bytes rest).map fun read => (.bytes, read)
  | 'c' :: '"' :: rest =>
      (readCooked .cText (rest.length + 1) rest).map fun read => (.cText, read)
  | 'c' :: 'r' :: rest => (readRawText .cText rest).map fun read => (.cText, read)
  | _ => none

/-! ## Characters -/

/-- A character or an escape and its closing apostrophe. -/
def readQuotedChar (kind : TextKind) (chars : List Char) : Option (Char × List Char) :=
  let first := match chars with
    | [] => none
    | '\\' :: rest => readEscape kind rest
    | c :: rest => if kind.allows c then some (c, rest) else none
  match first with
  | some (c, '\'' :: rest) => some (c, rest)
  | _ => none

/-! ## Numbers -/

/-- The digits before an exponent: whether they hold a point, and what follows.
A point that is followed by another one or by a name is no part of a number. -/
def readMantissa : Bool → List Char → Option (Bool × List Char)
  | hasPoint, [] => some (hasPoint, [])
  | hasPoint, c :: rest =>
      if c.isDigit || c == '_' then readMantissa hasPoint rest
      else if c == '.' && !hasPoint then
        if rest.head?.any fun next => next == '.' || Text.isIdentStart next then none
        else readMantissa true rest
      else some (hasPoint, c :: rest)

/-- What follows an exponent, after its letter, if the exponent has a digit. -/
def readExponent : Bool → Bool → List Char → Option (List Char)
  | _, hasDigit, [] => if hasDigit then some [] else none
  | hasSign, hasDigit, c :: rest =>
      if c.isDigit then readExponent hasSign true rest
      else if c == '_' then readExponent hasSign hasDigit rest
      else if (c == '+' || c == '-') && !hasDigit then
        if hasSign then none else readExponent true hasDigit rest
      else if hasDigit then some (c :: rest) else none

/-- What follows a number with a point or an exponent. -/
def readFraction (chars : List Char) : Option (List Char) :=
  if chars.head?.any Char.isDigit then
    match readMantissa false chars with
    | none => none
    | some (hasPoint, rest) =>
        let beforeExponent := if hasPoint then some rest else none
        match rest with
        | [] => beforeExponent
        | c :: afterLetter =>
            if c == 'e' || c == 'E' then
              match readExponent false false afterLetter with
              | some rest => some rest
              | none => beforeExponent
            else
              beforeExponent
  else
    none

/-- The base of an integer and its digits after the mark of the base. -/
def splitBase : List Char → Nat × List Char
  | '0' :: 'x' :: rest => (16, rest)
  | '0' :: 'o' :: rest => (8, rest)
  | '0' :: 'b' :: rest => (2, rest)
  | chars => (10, chars)

/-- What follows the digits of an integer. A decimal digit beyond the base is an
error, a letter beyond it ends the digits. -/
def readDigits (base : Nat) : Bool → List Char → Option (List Char)
  | isEmpty, [] => if isEmpty then none else some []
  | isEmpty, c :: rest =>
      if c == '_' then
        if isEmpty && base == 10 then none else readDigits base isEmpty rest
      else
        match digitValue? c with
        | some value =>
            if value < base then readDigits base false rest
            else if c.isDigit || isEmpty then none
            else some (c :: rest)
        | none => if isEmpty then none else some (c :: rest)

/-- Pass over a suffix. -/
def skipSuffix (chars : List Char) : List Char :=
  if chars.head?.any Text.isIdentStart then chars.dropWhile Text.isIdentContinue else chars

/-- Pass over a suffix and make sure that the word ends. -/
def endNumber (chars : List Char) : Option (List Char) :=
  let rest := skipSuffix chars
  if rest.head?.any Text.isIdentContinue then none else some rest

/-- Whether the characters after the letter of an exponent make a number one
with an exponent, rather than an integer with a suffix. -/
def isExponent : Bool → List Char → Bool
  | hasDigit, [] => hasDigit
  | hasDigit, c :: rest =>
      if c == '_' then isExponent hasDigit rest
      else if c == '+' || c == '-' then true
      else if c.isDigit then isExponent true rest
      else hasDigit && Text.isIdent (c :: rest)

/-- The value of the digits of an integer, unless the text is that of another
kind of number. What follows the digits has to be a suffix. -/
def integerValue? (base : Nat) : Nat → List Char → Option Nat
  | value, [] => some value
  | value, c :: rest =>
      let suffixed := if Text.isIdent (c :: rest) then some value else none
      if c == '_' then integerValue? base value rest
      else if base == 10 && c == '.' then none
      else if base == 10 && (c == 'e' || c == 'E') then
        if isExponent false rest then none else suffixed
      else
        match digitValue? c with
        | some digit =>
            if digit < base then integerValue? base (base * value + digit) rest else suffixed
        | none => suffixed

/-- A number. -/
def readNumber (chars : List Char) : Option (Literal × List Char) :=
  let (base, digits) := splitBase chars
  let ending := match (readFraction chars).bind endNumber with
    | some rest => some rest
    | none => (readDigits base true digits).bind endNumber
  ending.map fun rest =>
    let written := digits.take (digits.length - rest.length)
    match integerValue? base 0 written with
    | some value => (.integer value, rest)
    | none => (.other, rest)

/-! ## All literals -/

/-- The literal at the start of a text. -/
def readLiteral (chars : List Char) : Option (Literal × List Char) :=
  match readText chars with
  | some (.text, value, rest) => some (.text (String.ofList value), skipSuffix rest)
  | some (_, _, rest) => some (.other, skipSuffix rest)
  | none =>
      match chars with
      | 'b' :: '\'' :: rest =>
          (readQuotedChar .bytes rest).map fun (_, rest) => (.other, skipSuffix rest)
      | '\'' :: rest =>
          (readQuotedChar .text rest).map fun (c, rest) => (.char c, skipSuffix rest)
      | _ => readNumber chars

end Source
end Heirloom
