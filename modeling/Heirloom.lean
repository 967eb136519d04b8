import Heirloom.Assertion
import Heirloom.Builder
import Heirloom.Error
import Heirloom.Expr
import Heirloom.Expr.Names
import Heirloom.Expr.Printer
import Heirloom.Grammar
import Heirloom.Grammar.Base
import Heirloom.Grammar.Printer
import Heirloom.Grammar.Validation
import Heirloom.Loading
import Heirloom.Log
import Heirloom.Matching.Bindings
import Heirloom.Matching.Eval
import Heirloom.Matching.Journal
import Heirloom.Matching.Matcher
import Heirloom.Matching.Memo
import Heirloom.Matching.Run
import Heirloom.Matching.StandardActions
import Heirloom.Proofs.Acceptance
import Heirloom.Proofs.Building
import Heirloom.Proofs.Calls
import Heirloom.Proofs.Composition
import Heirloom.Proofs.Extending
import Heirloom.Proofs.Freshness
import Heirloom.Proofs.Inlining
import Heirloom.Proofs.Linking
import Heirloom.Proofs.Loading
import Heirloom.Proofs.Lowering
import Heirloom.Proofs.Matching.Afresh
import Heirloom.Proofs.Matching.Ahead
import Heirloom.Proofs.Matching.Alternatives
import Heirloom.Proofs.Matching.Application
import Heirloom.Proofs.Matching.Blanks
import Heirloom.Proofs.Matching.Choice
import Heirloom.Proofs.Matching.Collisions
import Heirloom.Proofs.Matching.Descent
import Heirloom.Proofs.Matching.Discipline
import Heirloom.Proofs.Matching.Fields
import Heirloom.Proofs.Matching.Finality
import Heirloom.Proofs.Matching.Growth
import Heirloom.Proofs.Matching.History
import Heirloom.Proofs.Matching.Independence
import Heirloom.Proofs.Matching.Inheritance
import Heirloom.Proofs.Matching.Invariant
import Heirloom.Proofs.Matching.LeadingBlanks
import Heirloom.Proofs.Matching.Leaf
import Heirloom.Proofs.Matching.LeftRecursion
import Heirloom.Proofs.Matching.Lockstep
import Heirloom.Proofs.Matching.Memoized
import Heirloom.Proofs.Matching.Packrat
import Heirloom.Proofs.Matching.Progress
import Heirloom.Proofs.Matching.Recognition
import Heirloom.Proofs.Matching.Renamed
import Heirloom.Proofs.Matching.Replay
import Heirloom.Proofs.Matching.Report
import Heirloom.Proofs.Matching.Respelling
import Heirloom.Proofs.Matching.Retention
import Heirloom.Proofs.Matching.Safety
import Heirloom.Proofs.Matching.Shadowing
import Heirloom.Proofs.Matching.Sharing
import Heirloom.Proofs.Matching.Shifting
import Heirloom.Proofs.Matching.Simulation
import Heirloom.Proofs.Matching.Termination
import Heirloom.Proofs.Matching.Unskipped
import Heirloom.Proofs.Matching.Wrapping
import Heirloom.Proofs.Performing
import Heirloom.Proofs.Placement
import Heirloom.Proofs.Regex.Classes
import Heirloom.Proofs.Regex.Frames
import Heirloom.Proofs.Regex.Language
import Heirloom.Proofs.Regex.Locality
import Heirloom.Proofs.Regex.Meaning
import Heirloom.Proofs.Regex.Nullable
import Heirloom.Proofs.Regex.Program
import Heirloom.Proofs.Regex.Readers
import Heirloom.Proofs.Regex.Reading
import Heirloom.Proofs.Regex.Search
import Heirloom.Proofs.Registration
import Heirloom.Proofs.Registry.Atomicity
import Heirloom.Proofs.Registry.Entries
import Heirloom.Proofs.Registry.Increments
import Heirloom.Proofs.Registry.Parentage
import Heirloom.Proofs.Registry.Permanence
import Heirloom.Proofs.Registry.Qualification
import Heirloom.Proofs.Reloading
import Heirloom.Proofs.Renaming
import Heirloom.Proofs.Settling
import Heirloom.Proofs.Source.Derivation
import Heirloom.Proofs.Source.Layout
import Heirloom.Proofs.Source.Lexing
import Heirloom.Proofs.Source.Literal
import Heirloom.Proofs.Source.Names
import Heirloom.Proofs.Source.Outline
import Heirloom.Proofs.Source.Parsing
import Heirloom.Proofs.Source.PrintedGrammar
import Heirloom.Proofs.Source.PrintedPieces
import Heirloom.Proofs.Source.Printing
import Heirloom.Proofs.Source.Surface
import Heirloom.Proofs.Source.Tokens
import Heirloom.Proofs.Source.Unambiguity
import Heirloom.Proofs.Task
import Heirloom.Proofs.Validation
import Heirloom.Proofs.Wrapping.Assembly
import Heirloom.Proofs.Wrapping.Expression
import Heirloom.Proofs.Wrapping.Loading
import Heirloom.Proofs.Wrapping.Matching
import Heirloom.Proofs.Wrapping.Recognition
import Heirloom.Proofs.Wrapping.Source
import Heirloom.Proofs.Wrapping.Validity
import Heirloom.Regex.Basic
import Heirloom.Regex.Footprint
import Heirloom.Regex.Literal
import Heirloom.Regex.NamedSet
import Heirloom.Regex.Parser
import Heirloom.Regex.Program
import Heirloom.Regex.Property
import Heirloom.Registry
import Heirloom.Rule
import Heirloom.Source.Complaint
import Heirloom.Source.Declaration
import Heirloom.Source.Declaration.Check
import Heirloom.Source.Lexeme
import Heirloom.Source.Literal
import Heirloom.Source.Pattern
import Heirloom.Source.Pattern.Parser
import Heirloom.Source.Position
import Heirloom.Source.Token
import Heirloom.Text.Age
import Heirloom.Text.Blank
import Heirloom.Text.CaseFold
import Heirloom.Text.Category
import Heirloom.Text.CharSet
import Heirloom.Text.Encoding
import Heirloom.Text.Identifier
import Heirloom.Text.Letter
import Heirloom.Text.Printable
import Heirloom.Text.Property
import Heirloom.Text.Property.Derived
import Heirloom.Text.Quoted
import Heirloom.Text.Ranges
import Heirloom.Text.Script
import Heirloom.Text.Segmentation
import Heirloom.Text.Word
import Heirloom.Value
import Heirloom.Value.Printer
