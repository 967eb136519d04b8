import Heirloom.Source.Lexeme

/-!
# Tokens

Lexemes grouped by their delimiters. A group knows where it opens and where it
closes; the end of the whole text counts as its start. A documentation comment
becomes a hash mark and a bracketed group, at the place of the comment.
-/

namespace Heirloom
namespace Source

/-- A unit of source text or a group of them. -/
inductive Token
  | ident (position : Position) (name : String)
  | mark (position : Position) (char : Char) (joint : Bool)
  | literal (position : Position) (value : Literal)
  | group (delimiter : Delimiter) (opening closing : Position) (content : List Token)

namespace Token

/-- Where a token starts. -/
def position : Token → Position
  | ident position _ => position
  | mark position _ _ => position
  | literal position _ => position
  | group _ opening _ _ => opening

mutual

/-- The number of tokens in a token, itself included. -/
def count : Token → Nat
  | ident _ _ => 1
  | mark _ _ _ => 1
  | literal _ _ => 1
  | group _ _ _ content => countAll content + 1

/-- The number of tokens in a list of tokens. -/
def countAll : List Token → Nat
  | [] => 0
  | token :: tokens => count token + countAll tokens

end

/-- The tokens of a documentation comment. -/
def ofDoc (position : Position) (inner : Bool) (text : List Char) : List Token :=
  let content := [
    ident position "doc",
    mark position '=' false,
    literal position (.text (String.ofList text))]
  mark position '#' false ::
    ((if inner then [mark position '!' false] else []) ++
      [group .bracket position position content])

end Token

/-- A group that has been opened: its delimiter, where it opened and the tokens
before it, the last one first. -/
structure OpenDelimiter where
  /-- The delimiter that has to close it. -/
  delimiter : Delimiter
  /-- Where it opened. -/
  opening : Position
  /-- The tokens before it, the last one first. -/
  before : List Token

/-- Group lexemes. The tokens of the group being read are kept in reverse. The
error is the position of the delimiter that does not fit, of the innermost group
that is never closed, or of the place where the lexemes got stuck. -/
def groupLexemes (stuck : Option Position) :
    List OpenDelimiter → List Token → List (Position × Lexeme) →
      Except Position (List Token)
  | frames, tokens, [] =>
      match stuck, frames with
      | some position, _ => .error position
      | none, [] => .ok tokens.reverse
      | none, frame :: _ => .error frame.opening
  | frames, tokens, (position, .ident name) :: rest =>
      groupLexemes stuck frames (.ident position name :: tokens) rest
  | frames, tokens, (position, .mark char joint) :: rest =>
      groupLexemes stuck frames (.mark position char joint :: tokens) rest
  | frames, tokens, (position, .literal value) :: rest =>
      groupLexemes stuck frames (.literal position value :: tokens) rest
  | frames, tokens, (position, .doc inner text) :: rest =>
      groupLexemes stuck frames ((Token.ofDoc position inner text).reverse ++ tokens) rest
  | frames, tokens, (position, .opening delimiter) :: rest =>
      groupLexemes stuck (⟨delimiter, position, tokens⟩ :: frames) [] rest
  | frames, tokens, (position, .closing delimiter) :: rest =>
      match frames with
      | [] => .error position
      | frame :: frames =>
          if frame.delimiter = delimiter then
            groupLexemes stuck frames
              (.group delimiter frame.opening position tokens.reverse :: frame.before) rest
          else
            .error position

/-- The tokens of a text, or the position where it cannot be read. -/
def tokenize (text : String) : Except Position (List Token) :=
  let (lexemes, stuck) := lexemes text.toList
  groupLexemes stuck [] [] lexemes

end Source
end Heirloom
