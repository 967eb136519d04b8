import Heirloom.Source.Complaint
import Heirloom.Source.Pattern
import Heirloom.Source.Token

/-!
# Reading patterns

Patterns are read from tokens. Alternatives are sequences separated by bars, a
sequence is any number of terms, and a term is an atom with signs before it,
repetition marks after it and perhaps a binding at its end:

```text
alt      ::= seq ('|' seq)*
seq      ::= term*
term     ::= prefixed ('*' | '+' | '?')* (':' ident)?
prefixed ::= ('~' | '&')* atom
```

Every reader takes the position at which its group closes, which is where a
fault is placed when the tokens run out.
-/

namespace Heirloom
namespace Source

/-- A way to read something from tokens, given where their group closes. The
tokens after it are returned too. -/
abbrev Reader (α : Type) := Position → List Token → Except Fault (α × List Token)

/-- The position of the next token, or where the group closes. -/
def nextPosition (close : Position) : List Token → Position
  | [] => close
  | token :: _ => token.position

/-- The fault that something else was expected next. -/
def expected (close : Position) (tokens : List Token) (complaint : Complaint) : Fault :=
  { position := nextPosition close tokens, complaint := complaint, atEnd := tokens.isEmpty }

/-- Read a mark. The fault of a missing mark does not mention the end. -/
def readMarkToken (mark : Char) (close : Position) : List Token → Except Fault (List Token)
  | .mark position found _ :: rest =>
      if found == mark then .ok rest else .error ⟨position, .expectedMark mark, false⟩
  | tokens => .error ⟨nextPosition close tokens, .expectedMark mark, false⟩

/-- Read a name; keywords are names too. -/
def readName (close : Position) : List Token → Except Fault ((String × Position) × List Token)
  | .ident position name :: rest => .ok ((name, position), rest)
  | tokens => .error (expected close tokens .expectedIdent)

/-- The tokens after marks that stand without gaps between them. -/
def afterMarks? : List Char → List Token → Option (List Token)
  | [], tokens => some tokens
  | [mark], .mark _ found _ :: rest => if found == mark then some rest else none
  | mark :: marks, .mark _ found joint :: rest =>
      if found == mark && joint then afterMarks? marks rest else none
  | _, _ => none

/-- Whether a term can start with the next token. -/
def startsTerm : List Token → Bool
  | .literal _ _ :: _ => true
  | .ident _ _ :: _ => true
  | .group _ _ _ _ :: _ => true
  | .mark _ mark _ :: _ => ['~', '&', '<', '#', '/', '-'].contains mark
  | [] => false

/-! ## Atoms -/

/-- The rest of a regular expression, after its first slash. -/
def readRegex (close : Position) : List Token → Except Fault (Pattern × List Token)
  | .literal position (.text source) :: rest => do
      let rest ← readMarkToken '/' close rest
      .ok (.regex position source, rest)
  | tokens => .error (expected close tokens .expectedText)

/-- The rest of a negative number, after its sign. -/
def readNegative (close : Position) : List Token → Except Fault (Pattern × List Token)
  | .literal position (.integer value) :: rest => .ok (.negative position false value, rest)
  | .mark position '-' _ :: .literal _ (.integer value) :: rest =>
      .ok (.negative position true value, rest)
  | tokens => .error (expected close tokens .expectedInteger)

/-- The rest of a range of characters, after its first character and its marks. -/
def readRange (first : Char) (close : Position) :
    List Token → Except Fault (Pattern × List Token)
  | .literal position (.char last) :: rest =>
      if first ≤ last then .ok (.range first last, rest)
      else .error ⟨position, .emptyRange, false⟩
  | tokens => .error (expected close tokens .expectedChar)

/-- The whole content of a group as one pattern. -/
def readGroup
    (alternatives : Reader Pattern)
    (close : Position)
    (content : List Token) : Except Fault Pattern := do
  let (body, rest) ← alternatives close content
  match rest with
  | [] => .ok body
  | token :: _ => .error ⟨token.position, .unexpectedInGroup, false⟩

/-- The key of a property: a text or a name. -/
def readKey (close : Position) : List Token → Except Fault (Key × List Token)
  | .literal position (.text name) :: rest => .ok (⟨name, position⟩, rest)
  | tokens => do
      let ((name, position), rest) ← readName close tokens
      .ok (⟨name, position⟩, rest)

/-- The properties of an object pattern and whether it is lenient. Each round
takes at least one token. -/
def readProperties
    (alternatives : Reader Pattern)
    (close : Position) :
    Nat → List Token → Except Fault (List (Key × Pattern) × Bool)
  | _, [] => .ok ([], false)
  | 0, tokens => .error (expected close tokens .expectedPattern)
  | fuel + 1, tokens =>
      match afterMarks? ['.', '.', '.'] tokens with
      | some [] => .ok ([], true)
      | some (token :: _) => .error ⟨token.position, .misplacedEllipsis, false⟩
      | none => do
          let (key, rest) ← readKey close tokens
          let rest ← readMarkToken ':' close rest
          let (body, rest) ← alternatives close rest
          match rest with
          | [] => .ok ([(key, body)], false)
          | _ => do
              let rest ← readMarkToken ',' close rest
              let (properties, lenient) ← readProperties alternatives close fuel rest
              .ok ((key, body) :: properties, lenient)

/-- Read an atom, given how the alternatives inside it are read. -/
def readAtom
    (alternatives : Reader Pattern)
    (close : Position)
    (tokens : List Token) : Except Fault (Pattern × List Token) :=
  match tokens with
  | .ident _ name :: rest =>
      if name == "_" then .ok (.any, rest)
      else if name == "undefined" then .ok (.undefined, rest)
      else if name == "null" then .ok (.null, rest)
      else if name == "true" then .ok (.bool true, rest)
      else if name == "false" then .ok (.bool false, rest)
      else .ok (.call name, rest)
  | .literal position value :: rest =>
      match value, afterMarks? ['.', '.', '='] rest with
      | .char first, some rest => readRange first close rest
      | _, _ => .ok (.literal position value, rest)
  | .mark _ '/' _ :: rest => readRegex close rest
  | .mark _ '-' _ :: rest => readNegative close rest
  | .mark _ '<' _ :: rest => do
      let (body, rest) ← alternatives close rest
      let rest ← readMarkToken '>' close rest
      .ok (.str body, rest)
  | .mark _ '#' _ :: rest =>
      match rest with
      | .group .paren _ closing content :: rest => do
          let body ← readGroup alternatives closing content
          .ok (.inline body, rest)
      | _ => .error (expected close rest .expectedParens)
  | .group .paren _ closing content :: rest => do
      let body ← readGroup alternatives closing content
      .ok (body, rest)
  | .group .bracket _ closing content :: rest => do
      let body ← readGroup alternatives closing content
      .ok (.list body, rest)
  | .group .brace _ closing content :: rest => do
      let (properties, lenient) ←
        readProperties alternatives closing (content.length + 1) content
      .ok (.object properties lenient, rest)
  | _ => .error (expected close tokens .expectedPattern)

/-! ## Terms, sequences and alternatives -/

/-- Read an atom and the signs before it. -/
def readPrefixed
    (alternatives : Reader Pattern)
    (close : Position) : List Token → Except Fault (Pattern × List Token)
  | [] => readAtom alternatives close []
  | .mark position mark joint :: rest =>
      if mark == '~' then do
        let (body, rest) ← readPrefixed alternatives close rest
        .ok (.not body, rest)
      else if mark == '&' then do
        let (body, rest) ← readPrefixed alternatives close rest
        .ok (.peek body, rest)
      else
        readAtom alternatives close (.mark position mark joint :: rest)
  | token :: rest => readAtom alternatives close (token :: rest)

/-- Whether the next token is an equals sign. -/
def startsWithEquals : List Token → Bool
  | .mark _ mark _ :: _ => mark == '='
  | _ => false

/-- Wrap a pattern in the repetitions whose marks follow it. A plus sign that is
joined to an equals sign is none. -/
def readRepetitions (body : Pattern) : List Token → Pattern × List Token
  | [] => (body, [])
  | .mark position mark joint :: rest =>
      if mark == '*' then readRepetitions (.star body) rest
      else if mark == '?' then readRepetitions (.opt body) rest
      else if mark == '+' && !(joint && startsWithEquals rest) then
        readRepetitions (.plus body) rest
      else (body, .mark position mark joint :: rest)
  | token :: rest => (body, token :: rest)

/-- Bind a pattern to the name that follows a colon. -/
def readBinding (body : Pattern) : List Token → Pattern × List Token
  | .mark position mark joint :: .ident namePosition name :: rest =>
      if mark == ':' then (.bind body name, rest)
      else (body, .mark position mark joint :: .ident namePosition name :: rest)
  | tokens => (body, tokens)

/-- Read a term. -/
def readTerm
    (alternatives : Reader Pattern)
    (close : Position)
    (tokens : List Token) : Except Fault (Pattern × List Token) := do
  let (atom, rest) ← readPrefixed alternatives close tokens
  let (repeated, rest) := readRepetitions atom rest
  .ok (readBinding repeated rest)

/-- Read terms for as long as one can start. Each round takes at least one
token. -/
def readTerms
    (alternatives : Reader Pattern)
    (close : Position) : Nat → List Token → Except Fault (List Pattern × List Token)
  | 0, tokens => .ok ([], tokens)
  | fuel + 1, tokens =>
      if startsTerm tokens then do
        let (term, rest) ← readTerm alternatives close tokens
        let (terms, rest) ← readTerms alternatives close fuel rest
        .ok (term :: terms, rest)
      else
        .ok ([], tokens)

/-- Read one sequence or more, separated by bars. Each round takes at least one
token. -/
def readSequences
    (alternatives : Reader Pattern)
    (close : Position) : Nat → List Token → Except Fault (List Pattern × List Token)
  | 0, tokens => .error (expected close tokens .expectedPattern)
  | fuel + 1, tokens => do
      let (terms, rest) ← readTerms alternatives close (tokens.length + 1) tokens
      match rest with
      | .mark _ '|' _ :: rest => do
          let (sequences, rest) ← readSequences alternatives close fuel rest
          .ok (.ofSequence terms :: sequences, rest)
      | _ => .ok ([.ofSequence terms], rest)

/-- Read alternatives; the first argument bounds how deep they nest. -/
def readAlternatives : Nat → Reader Pattern
  | 0, close, tokens => .error (expected close tokens .expectedPattern)
  | depth + 1, close, tokens => do
      let (sequences, rest) ←
        readSequences (readAlternatives depth) close (tokens.length + 1) tokens
      .ok (.ofAlternatives sequences, rest)

/-- Read a pattern. Patterns cannot nest deeper than there are tokens. -/
def readPattern : Reader Pattern := fun close tokens =>
  readAlternatives (Token.countAll tokens + 1) close tokens

end Source
end Heirloom
