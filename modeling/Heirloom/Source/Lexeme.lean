import Heirloom.Source.Literal
import Heirloom.Source.Position
import Heirloom.Text.Blank

/-!
# Lexemes

The smallest units of source text: names, marks, literals, delimiters and
documentation comments. Blanks and plain comments stand between them and are
passed over. Block comments nest. A mark is joint when another mark follows it
without a gap.
-/

namespace Heirloom
namespace Source

/-- The delimiters that enclose groups. -/
inductive Delimiter
  | paren
  | bracket
  | brace
  deriving DecidableEq

/-- A unit of source text. -/
inductive Lexeme
  | ident (name : String)
  | mark (char : Char) (joint : Bool)
  | literal (value : Literal)
  | opening (delimiter : Delimiter)
  | closing (delimiter : Delimiter)
  /-- A documentation comment; an inner one describes what it stands in. -/
  | doc (inner : Bool) (text : List Char)
  deriving DecidableEq

/-! ## Blanks and comments -/

/-- Whether a character separates lexemes: white space or a direction mark. -/
def isSeparator (c : Char) : Bool :=
  Text.isBlank c || c.toNat == 0x200E || c.toNat == 0x200F

/-- The rest of a line and what follows it, from the line feed on. -/
def takeLine : List Char → List Char × List Char
  | [] => ([], [])
  | '\n' :: rest => ([], '\n' :: rest)
  | '\r' :: '\n' :: rest => ([], '\n' :: rest)
  | c :: rest =>
      let (line, after) := takeLine rest
      (c :: line, after)

/-- The inside of a block comment up to the end of the outermost of the given
number of comments, and what follows. -/
def takeBlock : Nat → List Char → Option (List Char × List Char)
  | _, [] => none
  | depth, '/' :: '*' :: rest =>
      (takeBlock (depth + 1) rest).map fun (text, after) => ('/' :: '*' :: text, after)
  | 0, '*' :: '/' :: rest => some ([], rest)
  | depth + 1, '*' :: '/' :: rest =>
      (takeBlock depth rest).map fun (text, after) => ('*' :: '/' :: text, after)
  | depth, c :: rest => (takeBlock depth rest).map fun (text, after) => (c :: text, after)

/-- Whether every carriage return is followed by a line feed. -/
def hasNoBareReturn : List Char → Bool
  | [] => true
  | '\r' :: '\n' :: rest => hasNoBareReturn rest
  | '\r' :: _ => false
  | _ :: rest => hasNoBareReturn rest

/-- What a comment at the start of a text is. -/
inductive Comment
  /-- Passed over. -/
  | plain
  /-- Kept as a lexeme. -/
  | doc (inner : Bool) (text : List Char)

/-- The comment at the start of a text, and what follows it. -/
def readComment : List Char → Option (Comment × List Char)
  | '/' :: '/' :: '!' :: rest =>
      let (text, after) := takeLine rest
      some (.doc true text, after)
  | '/' :: '/' :: '/' :: '/' :: rest => some (.plain, (takeLine rest).2)
  | '/' :: '/' :: '/' :: rest =>
      let (text, after) := takeLine rest
      some (.doc false text, after)
  | '/' :: '/' :: rest => some (.plain, (takeLine rest).2)
  | '/' :: '*' :: '*' :: '/' :: rest => some (.plain, rest)
  | '/' :: '*' :: '!' :: rest =>
      (takeBlock 0 rest).map fun (text, after) => (.doc true text, after)
  | '/' :: '*' :: '*' :: '*' :: rest =>
      (takeBlock 0 ('*' :: '*' :: rest)).map fun (_, after) => (.plain, after)
  | '/' :: '*' :: '*' :: rest =>
      (takeBlock 0 rest).map fun (text, after) => (.doc false text, after)
  | '/' :: '*' :: rest => (takeBlock 0 rest).map fun (_, after) => (.plain, after)
  | _ => none

/-! ## Marks -/

/-- The characters that are marks. -/
def markChars : List Char := "~!@#$%^&*-=+|;:,<.>/?'".toList

/-- Whether a text starts with a mark, rather than with a comment. -/
def startsWithMark : List Char → Bool
  | '/' :: '/' :: _ => false
  | '/' :: '*' :: _ => false
  | c :: _ => markChars.contains c
  | [] => false

/-! ## Names -/

/-- A name without a raw mark. -/
def readPlainIdent (chars : List Char) : Option (List Char × List Char) :=
  match chars with
  | [] => none
  | c :: rest =>
      if Text.isIdentStart c then
        some (c :: rest.takeWhile Text.isIdentContinue, rest.dropWhile Text.isIdentContinue)
      else
        none

/-- Names that may not carry the raw mark. -/
def neverRawNames : List (List Char) :=
  ["_", "super", "self", "Self", "crate"].map String.toList

/-- A name, perhaps with the raw mark, which is kept as part of it. -/
def readIdent : List Char → Option (List Char × List Char)
  | 'r' :: '#' :: rest =>
      match readPlainIdent rest with
      | some (name, after) =>
          if neverRawNames.contains name then none else some ('r' :: '#' :: name, after)
      | none => none
  | chars => readPlainIdent chars

/-- The beginnings of literals that no name can have. -/
def literalOpenings : List (List Char) :=
  ["r\"", "r#\"", "r##", "b\"", "b'", "br\"", "br#", "c\"", "cr\"", "cr#"].map String.toList

/-! ## Units -/

/-- A group that stands for what could not be read; it counts as a literal. -/
def errorGroup : List Char := "(/*ERROR*/)".toList

/-- The delimiter that a character opens or closes, and whether it opens. -/
def delimiter? : Char → Option (Delimiter × Bool)
  | '(' => some (.paren, true)
  | '[' => some (.bracket, true)
  | '\x7b' => some (.brace, true)
  | ')' => some (.paren, false)
  | ']' => some (.bracket, false)
  | '\x7d' => some (.brace, false)
  | _ => none

/-- An apostrophe starts a label: a name follows, and no second apostrophe
closes it. -/
def readLabelMark (rest : List Char) : Option (Lexeme × List Char) :=
  match readIdent rest with
  | some (name, after) =>
      if after.head? == some '\'' then none
      else if after.head? == some '#' && !(['r', '#'].isPrefixOf name) then none
      else some (.mark '\'' true, rest)
  | none => none

/-- A mark. -/
def readMark (chars : List Char) : Option (Lexeme × List Char) :=
  if startsWithMark chars then
    match chars with
    | '\'' :: rest => readLabelMark rest
    | c :: rest => some (.mark c (startsWithMark rest), rest)
    | [] => none
  else
    none

/-- A literal, a mark or a name, looked for in this order. -/
def readLeaf (chars : List Char) : Option (Lexeme × List Char) :=
  match readLiteral chars with
  | some (value, rest) => some (.literal value, rest)
  | none =>
      match readMark chars with
      | some read => some read
      | none =>
          if literalOpenings.any (·.isPrefixOf chars) then none
          else
            (readIdent chars).map fun (name, rest) => (.ident (String.ofList name), rest)

/-- What stands at the start of a text. -/
inductive Scanned
  /-- Nothing that is kept. -/
  | gap (rest : List Char)
  /-- A lexeme. -/
  | unit (lexeme : Lexeme) (rest : List Char)
  /-- Nothing that can be read. -/
  | stuck

/-- A delimiter or a leaf. -/
def scanUnit (chars : List Char) : Scanned :=
  match chars with
  | [] => .stuck
  | c :: rest =>
      match delimiter? c with
      | some (delimiter, true) =>
          if errorGroup.isPrefixOf chars then
            .unit (.literal .other) (chars.drop errorGroup.length)
          else
            .unit (.opening delimiter) rest
      | some (delimiter, false) => .unit (.closing delimiter) rest
      | none =>
          match readLeaf chars with
          | some (lexeme, rest) => .unit lexeme rest
          | none => .stuck

/-- Look at the start of a text. A documentation comment with a bare carriage
return cannot be read. -/
def scan (chars : List Char) : Scanned :=
  match readComment chars with
  | some (.plain, rest) => .gap rest
  | some (.doc inner text, rest) =>
      if hasNoBareReturn text then .unit (.doc inner text) rest else .stuck
  | none =>
      match chars with
      | [] => .stuck
      | c :: rest => if isSeparator c then .gap rest else scanUnit chars

/-- The lexemes of a text with their positions, and the position where reading
got stuck, if it did. Each round takes at least one character. -/
def lexemesFrom :
    Nat → Position → List Char → List (Position × Lexeme) × Option Position
  | _, _, [] => ([], none)
  | 0, position, _ => ([], some position)
  | fuel + 1, position, chars =>
      let after (rest : List Char) : Position :=
        position.advance (chars.take (chars.length - rest.length))
      match scan chars with
      | .gap rest => lexemesFrom fuel (after rest) rest
      | .unit lexeme rest =>
          let (lexemes, stuck) := lexemesFrom fuel (after rest) rest
          ((position, lexeme) :: lexemes, stuck)
      | .stuck => ([], some position)

/-- The lexemes of a text. A byte order mark at its start takes up a column and
is passed over. -/
def lexemes (chars : List Char) : List (Position × Lexeme) × Option Position :=
  match chars with
  | [] => ([], none)
  | c :: rest =>
      if c.toNat == 0xFEFF then
        lexemesFrom rest.length (Position.start.next c) rest
      else
        lexemesFrom chars.length Position.start chars

end Source
end Heirloom
