import Heirloom.Regex.Footprint
import Heirloom.Regex.Property
import Heirloom.Text.Blank
import Heirloom.Text.Letter

/-!
# Reading regular expressions

The written form of regular expressions: alternation, concatenation,
repetition, groups with flags or names, character classes with set operations,
escapes and assertions. Reading walks the text once and keeps the groups that
are still open on a stack. A text that is no regular expression has no reading.

Without the Unicode flag a set of characters is a set of bytes, and it is
refused when it could match a byte beyond ASCII.
-/

namespace Heirloom
namespace Regex

open Text (CharSet)

/-- The flags in force at a place of the text. -/
structure Flags where
  /-- Letters match regardless of case. -/
  ignoreCase : Bool := false
  /-- Anchors match at lines. -/
  multiLine : Bool := false
  /-- The dot matches line ends too. -/
  dotAll : Bool := false
  /-- Greedy and lazy repetition are swapped. -/
  swapGreed : Bool := false
  /-- Sets are sets of characters rather than bytes. -/
  unicode : Bool := true
  /-- A carriage return ends lines too. -/
  crlf : Bool := false
  /-- Blanks and comments in the expression are passed over. -/
  verbose : Bool := false

namespace Flags

/-- Set the flag with the given letter. -/
def set? (flags : Flags) (value : Bool) : Char → Option Flags
  | 'i' => some { flags with ignoreCase := value }
  | 'm' => some { flags with multiLine := value }
  | 's' => some { flags with dotAll := value }
  | 'U' => some { flags with swapGreed := value }
  | 'u' => some { flags with unicode := value }
  | 'R' => some { flags with crlf := value }
  | 'x' => some { flags with verbose := value }
  | _ => none

/-- Set flags by their letters. Those after a hyphen are cleared; a letter or
the hyphen stands once, and the hyphen not last. -/
def update? (flags : Flags) (value : Bool) (seen : List Char) : List Char → Option Flags
  | [] => if seen.head? == some '-' then none else some flags
  | c :: rest =>
      if seen.contains c then none
      else if c == '-' then flags.update? false (c :: seen) rest
      else (flags.set? value c).bind fun updated => updated.update? value (c :: seen) rest

/-- Close a set under equality up to case if the flags ask for it. -/
def folded (flags : Flags) (members : CharSet) : CharSet :=
  if !flags.ignoreCase then members
  else if flags.unicode then members.foldCase
  else members.foldAsciiCase

/-- The set behind an escape such as `\d`. -/
def shorthand? (flags : Flags) (negated : Bool) (members ascii : CharSet) : Option CharSet :=
  if flags.unicode then some (members.complementIf negated)
  else if negated then none
  else some ascii

/-- The set of a class: closed up to case and then perhaps complemented. -/
def classSet? (flags : Flags) (negated : Bool) (members : CharSet) : Option CharSet :=
  let members := (flags.folded members).complementIf negated
  if flags.unicode || members.isAscii then some members else none

/-- The assertion of the anchor at the start. -/
def startAnchor (flags : Flags) : Look :=
  if !flags.multiLine then .textStart else if flags.crlf then .crlfLineStart else .lineStart

/-- The assertion of the anchor at the end. -/
def endAnchor (flags : Flags) : Look :=
  if !flags.multiLine then .textEnd else if flags.crlf then .crlfLineEnd else .lineEnd

/-- The set that the dot stands for. -/
def dot? (flags : Flags) : Option CharSet :=
  if !flags.unicode then none
  else if flags.dotAll then some .all
  else if flags.crlf then some (CharSet.ofRanges [(0xA, 0xA), (0xD, 0xD)]).complement
  else some (CharSet.single '\n').complement

end Flags

/-! ## Blanks and comments -/

/-- Pass over blanks and comments, starting inside a comment or not. -/
def skipVerbose : Bool → List Char → List Char
  | _, [] => []
  | true, c :: rest => skipVerbose (c != '\n') rest
  | false, c :: rest =>
      if Text.isBlank c then skipVerbose false rest
      else if c == '#' then skipVerbose true rest
      else c :: rest

/-- Pass over what the flags say to ignore. -/
def skipIgnored (flags : Flags) (chars : List Char) : List Char :=
  if flags.verbose then skipVerbose false chars else chars

/-- The characters up to a closing brace, without what is ignored, and the text
after the brace. -/
def takeBraced? (verbose : Bool) : Bool → List Char → Option (List Char × List Char)
  | _, [] => none
  | true, c :: rest => takeBraced? verbose (c != '\n') rest
  | false, c :: rest =>
      if c == '\x7d' then some ([], rest)
      else if verbose && Text.isBlank c then takeBraced? verbose false rest
      else if verbose && c == '#' then takeBraced? verbose true rest
      else (takeBraced? verbose false rest).map fun parts => (c :: parts.1, parts.2)

/-- The decimal number at the start of a text, where verbose text may hold
blanks and comments between digits. -/
def takeDecimal (verbose : Bool) : Option Nat → Bool → List Char → Option Nat × List Char
  | number, _, [] => (number, [])
  | number, true, c :: rest => takeDecimal verbose number (c != '\n') rest
  | number, false, c :: rest =>
      if c.isDigit then
        takeDecimal verbose (some (10 * number.getD 0 + (c.toNat - '0'.toNat))) false rest
      else if verbose && Text.isBlank c then takeDecimal verbose number false rest
      else if verbose && c == '#' then takeDecimal verbose number true rest
      else (number, c :: rest)

/-! ## Escapes -/

/-- What a single character or escape stands for. -/
inductive Primitive
  /-- A character; whether it was written as a byte. -/
  | literal (char : Char) (byte : Bool)
  /-- A set of characters. -/
  | members (found : CharSet)
  /-- An assertion. -/
  | assertion (condition : Look)

/-- The value of a hexadecimal digit. -/
def hexValue? (c : Char) : Option Nat :=
  if c.isDigit then some (c.toNat - '0'.toNat)
  else if 'a' ≤ c && c ≤ 'f' then some (c.toNat - 'a'.toNat + 10)
  else if 'A' ≤ c && c ≤ 'F' then some (c.toNat - 'A'.toNat + 10)
  else none

/-- The number written by hexadecimal digits only. -/
def hexNumber? (digits : List Char) : Option Nat :=
  digits.foldlM (fun number c => (hexValue? c).map (16 * number + ·)) 0

/-- The character with a code point, if there is one. -/
def charOfCode? (code : Nat) : Option Char :=
  if code.isValidChar then some (Char.ofNat code) else none

/-- A fixed number of hexadecimal digits. -/
def takeHexDigits? (flags : Flags) : Nat → Nat → List Char → Option (Nat × List Char)
  | 0, number, chars => some (number, chars)
  | _ + 1, _, [] => none
  | count + 1, number, c :: rest =>
      (hexValue? c).bind fun value =>
        takeHexDigits? flags count (16 * number + value) (skipIgnored flags rest)

/-- The rest of an escape by code point: digits between braces, or as many as
the letter of the escape asks for. -/
def codeEscape? (flags : Flags) (digits : Nat) (chars : List Char) :
    Option (Primitive × List Char) :=
  match skipIgnored flags chars with
  | [] => none
  | '\x7b' :: rest => do
      let (content, rest) ← takeBraced? flags.verbose false rest
      if content.isEmpty then none
      else
        let c ← (hexNumber? content).bind charOfCode?
        some (.literal c false, skipIgnored flags rest)
  | rest => do
      let (code, rest) ← takeHexDigits? flags digits 0 rest
      let c ← charOfCode? code
      some (.literal c (digits == 2), rest)

/-- The name of a property, between braces or a single character. -/
def propertyName? (flags : Flags) (chars : List Char) : Option (List Char × List Char) :=
  match skipIgnored flags chars with
  | [] => none
  | '\x7b' :: rest => takeBraced? flags.verbose false rest
  | '\\' :: _ => none
  | c :: rest => some ([c], skipIgnored flags rest)

/-- The rest of an escape by property. -/
def propertyEscape? (flags : Flags) (negated : Bool) (chars : List Char) :
    Option (Primitive × List Char) := do
  let (name, rest) ← propertyName? flags chars
  if !flags.unicode then none
  else
    let (members, excluded) ← property? name
    some (.members ((flags.folded members).complementIf (negated != excluded)), rest)

/-- The assertion named between braces after `\b`. -/
def namedBoundary? (unicode : Bool) : String → Option Look
  | "start" => some (.wordStart unicode)
  | "end" => some (.wordEnd unicode)
  | "start-half" => some (.wordStartHalf unicode)
  | "end-half" => some (.wordEndHalf unicode)
  | _ => none

/-- The rest of the escape `\b`. A brace names a kind of boundary if a letter or
a hyphen follows it; otherwise it is left for a repetition. -/
def boundaryEscape? (flags : Flags) (chars : List Char) : Option (Primitive × List Char) :=
  match chars with
  | '\x7b' :: rest =>
      match skipIgnored flags rest with
      | [] => none
      | c :: _ =>
          if c.isAlpha || c == '-' then do
            let (name, rest) ← takeBraced? flags.verbose false rest
            let boundary ← namedBoundary? flags.unicode (String.ofList name)
            some (.assertion boundary, rest)
          else
            some (.assertion (.wordBoundary flags.unicode), chars)
  | _ => some (.assertion (.wordBoundary flags.unicode), chars)

/-- Whether a backslash may stand before a character that it does not change. -/
def isEscapable (c : Char) : Bool :=
  c.toNat < 0x80 && !c.isAlphanum && c != '<' && c != '>'

/-- The escape after a backslash. -/
def escape? (flags : Flags) : List Char → Option (Primitive × List Char)
  | [] => none
  | c :: rest =>
      let plain (c : Char) : Option (Primitive × List Char) := some (.literal c false, rest)
      let condition (assertion : Look) : Option (Primitive × List Char) :=
        some (.assertion assertion, rest)
      let shorthand (negated : Bool) (members ascii : CharSet) :
          Option (Primitive × List Char) :=
        (flags.shorthand? negated members ascii).map fun found => (.members found, rest)
      match c with
      | 'x' => codeEscape? flags 2 rest
      | 'u' => codeEscape? flags 4 rest
      | 'U' => codeEscape? flags 8 rest
      | 'p' => propertyEscape? flags false rest
      | 'P' => propertyEscape? flags true rest
      | 'd' => shorthand false NamedSet.digit NamedSet.asciiDigit
      | 'D' => shorthand true NamedSet.digit NamedSet.asciiDigit
      | 's' => shorthand false NamedSet.space NamedSet.asciiSpace
      | 'S' => shorthand true NamedSet.space NamedSet.asciiSpace
      | 'w' => shorthand false NamedSet.word NamedSet.asciiWord
      | 'W' => shorthand true NamedSet.word NamedSet.asciiWord
      | 'a' => plain '\x07'
      | 'f' => plain '\x0c'
      | 't' => plain '\t'
      | 'n' => plain '\n'
      | 'r' => plain '\r'
      | 'v' => plain '\x0b'
      | 'A' => condition .textStart
      | 'z' => condition .textEnd
      | 'b' => boundaryEscape? flags rest
      | 'B' => condition (.notWordBoundary flags.unicode)
      | '<' => condition (.wordStart flags.unicode)
      | '>' => condition (.wordEnd flags.unicode)
      | _ => if isEscapable c then plain c else none

/-! ## Character classes -/

/-- An operation between two operands of a class. -/
inductive SetOperation
  | inter
  | diff
  | symmDiff

namespace SetOperation

/-- The set that an operation makes of its operands. -/
def apply : SetOperation → CharSet → CharSet → CharSet
  | inter => CharSet.inter
  | diff => CharSet.diff
  | symmDiff => CharSet.symmDiff

end SetOperation

/-- Where a class that is being read stands. -/
inductive ClassPhase
  /-- Nothing but the opening has been read. -/
  | opening
  /-- Only hyphens have been read. -/
  | hyphens
  /-- Anything may follow. -/
  | body

/-- An operand of a class that is being read. -/
structure Operand where
  /-- The members read so far. -/
  members : CharSet := .empty
  /-- The number of items read so far. -/
  items : Nat := 0
  /-- How deep the deepest item is nested. -/
  itemDepth : Nat := 0

namespace Operand

/-- Add an item. -/
def add (operand : Operand) (members : CharSet) (depth : Nat) : Operand where
  members := members.union operand.members
  items := operand.items + 1
  itemDepth := Nat.max operand.itemDepth depth

/-- How deep the operand is nested. Two or more items make a level. -/
def depth (operand : Operand) : Nat :=
  if operand.items ≤ 1 then operand.itemDepth else operand.itemDepth + 1

end Operand

/-- A class that is being read. -/
structure OpenClass where
  /-- Whether the class is complemented. -/
  negated : Bool
  /-- The operation that waits for its right operand, with the members and the
  depth of its left one. -/
  pending : Option (SetOperation × CharSet × Nat) := none
  /-- The operand being read. -/
  operand : Operand := {}

namespace OpenClass

/-- Add an item to the operand being read. -/
def add (level : OpenClass) (members : CharSet) (depth : Nat) : OpenClass :=
  { level with operand := level.operand.add members depth }

/-- The members read so far, with a pending operation applied. -/
def members (flags : Flags) (level : OpenClass) : CharSet :=
  match level.pending with
  | none => level.operand.members
  | some (operation, left, _) =>
      operation.apply (flags.folded left) (flags.folded level.operand.members)

/-- How deep the class is nested below its brackets. -/
def depth (level : OpenClass) : Nat :=
  match level.pending with
  | none => level.operand.depth
  | some (_, _, left) => Nat.max left level.operand.depth + 1

/-- Start the right operand of an operation. -/
def operate (flags : Flags) (level : OpenClass) (operation : SetOperation) : OpenClass where
  negated := level.negated
  pending := some (operation, level.members flags, level.depth)

/-- The set of a class that has been read to its end. -/
def close? (flags : Flags) (level : OpenClass) : Option CharSet :=
  flags.classSet? level.negated (level.members flags)

end OpenClass

/-- A mark that complements the class it stands at the start of. -/
def takeCaret : List Char → Bool × List Char
  | '^' :: rest => (true, rest)
  | rest => (false, rest)

/-- The named ASCII class at the start of a text, after its bracket, and whether
it is complemented. -/
def namedClass? (chars : List Char) : Option ((CharSet × Bool) × List Char) :=
  match chars with
  | ':' :: rest =>
      let (negated, rest) := takeCaret rest
      let name := rest.takeWhile (· != ':')
      match rest.dropWhile (· != ':') with
      | ':' :: ']' :: rest =>
          (NamedSet.bracketed? (String.ofList name)).map fun members =>
            ((members, negated), rest)
      | _ => none
  | _ => none

/-- One item of a class. -/
def classItem? (flags : Flags) : List Char → Option (Primitive × List Char)
  | [] => none
  | '\\' :: rest => escape? flags rest
  | c :: rest => some (.literal c false, rest)

/-- A character as a member of a class: without the Unicode flag it is ASCII. -/
def classChar? (flags : Flags) : Primitive → Option Char
  | .literal c _ => if flags.unicode || c.toNat < 0x80 then some c else none
  | _ => none

/-- An item of a class or a range between two of them. -/
def classRange? (flags : Flags) (chars : List Char) : Option (CharSet × List Char) := do
  let (first, rest) ← classItem? flags chars
  let single : Option CharSet := match first with
    | .literal _ _ => (classChar? flags first).map CharSet.single
    | .members found => some found
    | .assertion _ => none
  match skipIgnored flags rest with
  | [] => none
  | '-' :: rest =>
      match skipIgnored flags rest with
      | [] => none
      | ']' :: _ => single.map fun members => (members, '-' :: rest)
      | '-' :: _ => single.map fun members => (members, '-' :: rest)
      | rest => do
          let (last, rest) ← classItem? flags rest
          let low ← classChar? flags first
          let high ← classChar? flags last
          if low ≤ high then some (CharSet.range low.toNat high.toNat, rest) else none
  | rest => single.map fun members => (members, rest)

/-- Read a class to its end. Each round takes at least one character. Returned
are the set, the depth of the nesting and the text after the class. -/
def readClass? (flags : Flags) :
    Nat → List OpenClass → OpenClass → ClassPhase → List Char →
      Option (CharSet × Nat × List Char)
  | 0, _, _, _, _ => none
  | fuel + 1, outer, level, phase, chars =>
      let more := readClass? flags fuel
      let opened (outer : List OpenClass) (rest : List Char) :=
        let (negated, rest) := takeCaret (skipIgnored flags rest)
        more outer { negated := negated } .opening rest
      match phase, skipIgnored flags chars with
      | _, [] => none
      | .opening, '-' :: rest => more outer (level.add (.single '-') 0) .hyphens rest
      | .hyphens, '-' :: rest => more outer (level.add (.single '-') 0) .hyphens rest
      | .opening, ']' :: rest => more outer (level.add (.single ']') 0) .body rest
      | _, '[' :: rest =>
          match namedClass? rest with
          | some ((members, negated), rest) => do
              let members ← flags.classSet? negated members
              more outer (level.add members 0) .body rest
          | none => opened (level :: outer) rest
      | _, ']' :: rest => do
          let members ← level.close? flags
          match outer with
          | [] => some (members, level.depth + 1, rest)
          | enclosing :: outer =>
              more outer (enclosing.add members (level.depth + 1)) .body rest
      | _, '&' :: '&' :: rest => more outer (level.operate flags .inter) .body rest
      | _, '-' :: '-' :: rest => more outer (level.operate flags .diff) .body rest
      | _, '~' :: '~' :: rest => more outer (level.operate flags .symmDiff) .body rest
      | _, rest => do
          let (members, rest) ← classRange? flags rest
          more outer (level.add members 0) .body rest

/-- The class at the start of a text, after its bracket. -/
def class? (flags : Flags) (chars : List Char) : Option (CharSet × Nat × List Char) :=
  let (negated, rest) := takeCaret (skipIgnored flags chars)
  readClass? flags (chars.length + 1) [] { negated := negated } .opening rest

/-! ## Expressions -/

/-- A part of a concatenation. -/
structure Piece where
  /-- The expression. -/
  regex : Regex
  /-- How deep the written form is nested. -/
  depth : Nat := 0
  /-- Whether a repetition may follow. -/
  repeatable : Bool := true

/-- The piece of a primitive. -/
def Primitive.piece? (flags : Flags) : Primitive → Option Piece
  | literal c byte =>
      if !flags.unicode && byte && 0x80 ≤ c.toNat then none
      else if flags.unicode || c.toNat < 0x80 then
        some { regex := .ofSet (flags.folded (.single c)) }
      else some { regex := .literal [c] }
  | members found => some { regex := .ofSet found }
  | assertion condition => some { regex := .look condition }

/-- A group that is being read. -/
structure OpenGroup where
  /-- The alternatives read so far, the last one first. -/
  branches : List Piece := []
  /-- The parts of the alternative being read, the last one first. -/
  items : List Piece := []
  /-- The flags to return to when the group ends. -/
  outerFlags : Flags := {}
  /-- The number of the group, if it has one. -/
  index : Option Nat := none

namespace OpenGroup

/-- Add a part to the alternative being read. -/
def add (group : OpenGroup) (piece : Piece) : OpenGroup :=
  { group with items := piece :: group.items }

/-- The alternative being read, as one piece. -/
def branch (group : OpenGroup) : Piece :=
  match group.items with
  | [] => { regex := .empty }
  | [item] => item
  | items =>
      { regex := .concat (items.reverse.map Piece.regex)
        depth := (items.map Piece.depth).foldl Nat.max 0 + 1 }

/-- End the alternative being read and start the next one. -/
def alternate (group : OpenGroup) : OpenGroup :=
  { group with branches := group.branch :: group.branches, items := [] }

/-- The group as one piece. -/
def close (group : OpenGroup) : Piece :=
  match (group.branch :: group.branches).reverse with
  | [] => { regex := .empty }
  | [only] => only
  | first :: others =>
      { regex := .alternation ((first :: others).map Piece.regex)
        depth := ((first :: others).map Piece.depth).foldl Nat.max 0 + 1 }

/-- The group between its parentheses as one piece. -/
def enclosed (group : OpenGroup) : Piece :=
  let inner := group.close
  let regex := match group.index with
    | some index => .capture index inner.regex
    | none => inner.regex
  { regex := regex, depth := inner.depth + 1 }

/-- Replace the last part by its repetition. -/
def repeatLast?
    (group : OpenGroup)
    (min : Nat)
    (max : Option Nat)
    (greedy : Bool) : Option OpenGroup :=
  match group.items with
  | [] => none
  | item :: items =>
      if item.repeatable then
        some { group with items :=
          { regex := .repeated min max greedy item.regex, depth := item.depth + 1 } :: items }
      else
        none

end OpenGroup

/-- A mark that makes the repetition before it lazy. -/
def takeLazy : List Char → Bool × List Char
  | '?' :: rest => (true, rest)
  | rest => (false, rest)

/-- The largest count of a repetition. -/
def countLimit : Nat := 0x100000000

/-- The bounds of a counted repetition, after its brace. -/
def counts? (flags : Flags) (chars : List Char) :
    Option ((Nat × Option Nat) × List Char) := do
  let decimal (chars : List Char) : Option Nat × List Char :=
    let (number, rest) := takeDecimal flags.verbose none false (chars.dropWhile Text.isBlank)
    (number.filter (· < countLimit), skipIgnored flags (rest.dropWhile Text.isBlank))
  let (min, rest) := decimal (skipIgnored flags chars)
  let min ← min
  match rest with
  | '\x7d' :: rest => some ((min, some min), rest)
  | ',' :: rest =>
      match skipIgnored flags rest with
      | '\x7d' :: rest => some ((min, none), rest)
      | rest =>
          let (max, rest) := decimal rest
          let max ← max
          match rest with
          | '\x7d' :: rest => if min ≤ max then some ((min, some max), rest) else none
          | _ => none
  | _ => none

/-- What the opening of a group says. -/
inductive Opening
  /-- Flags for the rest of the enclosing group. -/
  | setFlags (flags : Flags)
  /-- A group without a number, with its flags. -/
  | plain (flags : Flags)
  /-- A group with a number and perhaps a name. -/
  | numbered (name : Option String)

/-- Whether a character may stand in the name of a group. -/
def isNameChar (first : Bool) (c : Char) : Bool :=
  c == '_' ||
    if first then Text.isAlphabetic c
    else c == '.' || c == '[' || c == ']' || Text.isAlphanumeric c

/-- The name of a group, after its angle bracket. -/
def groupName? (chars : List Char) : Option (String × List Char) :=
  match chars.takeWhile (· != '>'), chars.dropWhile (· != '>') with
  | first :: others, '>' :: rest =>
      if isNameChar true first && others.all (isNameChar false) then
        some (String.ofList (first :: others), rest)
      else
        none
  | _, _ => none

/-- The opening of a group, after its parenthesis. -/
def opening? (flags : Flags) (chars : List Char) : Option (Opening × List Char) :=
  match chars with
  | '?' :: '=' :: _ => none
  | '?' :: '!' :: _ => none
  | '?' :: '<' :: '=' :: _ => none
  | '?' :: '<' :: '!' :: _ => none
  | '?' :: 'P' :: '<' :: rest =>
      (groupName? rest).map fun (name, rest) => (.numbered (some name), rest)
  | '?' :: '<' :: rest =>
      (groupName? rest).map fun (name, rest) => (.numbered (some name), rest)
  | '?' :: rest =>
      let isLetter (c : Char) : Bool := c != ':' && c != ')'
      let letters := rest.takeWhile isLetter
      match rest.dropWhile isLetter with
      | ':' :: rest => (flags.update? true [] letters).map fun flags => (.plain flags, rest)
      | ')' :: rest =>
          if letters.isEmpty then none
          else (flags.update? true [] letters).map fun flags => (.setFlags flags, rest)
      | _ => none
  | _ => some (.numbered none, chars)

/-- The deepest nesting of a written expression. -/
def depthLimit : Nat := 250

/-- The groups seen so far: how many have a number, and the names. -/
structure SeenGroups where
  /-- The number of numbered groups. -/
  count : Nat := 0
  /-- The names of groups. -/
  names : List String := []

/-- The next numbered group, unless its name has been used. -/
def SeenGroups.next? (seen : SeenGroups) : Option String → Option SeenGroups
  | none => some { seen with count := seen.count + 1 }
  | some name =>
      if seen.names.contains name then none
      else some { count := seen.count + 1, names := name :: seen.names }

/-- Read an expression to the end of the text. Each round takes at least one
character. -/
def readGroups? :
    Nat → List OpenGroup → OpenGroup → Flags → SeenGroups → List Char → Option Piece
  | 0, _, _, _, _, _ => none
  | fuel + 1, outer, group, flags, seen, chars =>
      let more := readGroups? fuel
      let uncounted (min : Nat) (max : Option Nat) (rest : List Char) := do
        let (isLazy, rest) := takeLazy rest
        let group ← group.repeatLast? min max (isLazy == flags.swapGreed)
        more outer group flags seen rest
      match skipIgnored flags chars with
      | [] => if outer.isEmpty then some group.close else none
      | '(' :: rest => do
          let (opening, rest) ← opening? flags (skipIgnored flags rest)
          match opening with
          | .setFlags updated =>
              more outer (group.add { regex := .empty, repeatable := false }) updated seen rest
          | .plain inner => more (group :: outer) { outerFlags := flags } inner seen rest
          | .numbered name => do
              let seen ← seen.next? name
              more (group :: outer) { outerFlags := flags, index := some seen.count } flags seen
                rest
      | ')' :: rest =>
          match outer with
          | [] => none
          | enclosing :: outer =>
              more outer (enclosing.add group.enclosed) group.outerFlags seen rest
      | '|' :: rest => more outer group.alternate flags seen rest
      | '[' :: rest => do
          let (members, depth, rest) ← class? flags rest
          more outer (group.add { regex := .ofSet members, depth := depth }) flags seen rest
      | '?' :: rest => uncounted 0 (some 1) rest
      | '*' :: rest => uncounted 0 none rest
      | '+' :: rest => uncounted 1 none rest
      | '\x7b' :: rest => do
          let ((min, max), rest) ← counts? flags rest
          let (isLazy, rest) := takeLazy (skipIgnored flags rest)
          let group ← group.repeatLast? min max (isLazy == flags.swapGreed)
          more outer group flags seen rest
      | '.' :: rest => do
          let members ← flags.dot?
          more outer (group.add { regex := .ofSet members }) flags seen rest
      | '^' :: rest =>
          more outer (group.add { regex := .look flags.startAnchor }) flags seen rest
      | '$' :: rest =>
          more outer (group.add { regex := .look flags.endAnchor }) flags seen rest
      | '\\' :: rest => do
          let (primitive, rest) ← escape? flags rest
          let piece ← primitive.piece? flags
          more outer (group.add piece) flags seen rest
      | c :: rest => do
          let piece ← (Primitive.literal c false).piece? flags
          more outer (group.add piece) flags seen rest

/-- The regular expression that a text writes, if it writes one that is neither
nested too deeply nor too large. -/
def ofChars? (chars : List Char) : Option Regex := do
  let piece ← readGroups? (chars.length + 1) [] {} {} {} chars
  if piece.depth ≤ depthLimit && piece.regex.fits then some piece.regex
  else none

end Regex
end Heirloom
