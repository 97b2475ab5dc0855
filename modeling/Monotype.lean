import Monotype.Command.Arguments
import Monotype.Command.Run
import Monotype.Configuration
import Monotype.Entries
import Monotype.Environment.Basic
import Monotype.Environment.Program
import Monotype.Expr.Basic
import Monotype.Expr.Lexer
import Monotype.Expr.Parser
import Monotype.Expr.Printer
import Monotype.Expr.Reader
import Monotype.Expr.Token
import Monotype.Files
import Monotype.Inference.Session
import Monotype.Literal.Evaluation
import Monotype.Literal.Field
import Monotype.Literal.Grammar
import Monotype.Literal.Number
import Monotype.Literal.Term
import Monotype.Literal.Text
import Monotype.Literal.Token
import Monotype.Log.Catalogue
import Monotype.Log.Factory
import Monotype.Log.Format
import Monotype.Log.Level
import Monotype.Log.Reference
import Monotype.Log.Setup
import Monotype.Main
import Monotype.Number.Binary64
import Monotype.Number.Reader
import Monotype.Number.Shortest
import Monotype.Override
import Monotype.Path
import Monotype.Proofs.Entries
import Monotype.Proofs.Expr.Cutting
import Monotype.Proofs.Expr.Extent
import Monotype.Proofs.Expr.Grammar
import Monotype.Proofs.Expr.Parsing
import Monotype.Proofs.Expr.Places
import Monotype.Proofs.Expr.RoundTrip
import Monotype.Proofs.Expr.Scanning
import Monotype.Proofs.Expr.Spans
import Monotype.Proofs.Inference.Constructors
import Monotype.Proofs.Inference.Emission
import Monotype.Proofs.Inference.History
import Monotype.Proofs.Inference.Principal
import Monotype.Proofs.Inference.Renaming
import Monotype.Proofs.Inference.Typing
import Monotype.Proofs.Store.Bindings
import Monotype.Proofs.Store.Comparison
import Monotype.Proofs.Store.Depth
import Monotype.Proofs.Store.Rearrangement
import Monotype.Proofs.Store.Resolution
import Monotype.Proofs.Store.Run
import Monotype.Proofs.Store.Solutions
import Monotype.Proofs.Ty.Assignment
import Monotype.Proofs.Ty.Reading
import Monotype.Repl
import Monotype.Settings
import Monotype.Store.Basic
import Monotype.Store.Resolve
import Monotype.Store.Unify
import Monotype.Text.Blank
import Monotype.Text.CharName
import Monotype.Text.CharName.Aliases
import Monotype.Text.CharName.Alphabets
import Monotype.Text.CharName.Pictures
import Monotype.Text.CharName.Scripts
import Monotype.Text.CharName.Syllables
import Monotype.Text.CharName.Symbols
import Monotype.Text.Digit
import Monotype.Text.Identifier
import Monotype.Text.Letter
import Monotype.Text.Line
import Monotype.Text.Lower
import Monotype.Text.Printable
import Monotype.Text.Quoted
import Monotype.Text.Range
import Monotype.Text.Split
import Monotype.Text.Utf8
import Monotype.Trace
import Monotype.Ty.Basic
import Monotype.Ty.Parser
import Monotype.Value.Basic
import Monotype.Value.Order
import Monotype.Value.Printer
import Monotype.Yaml.Atom
import Monotype.Yaml.Cursor
import Monotype.Yaml.Document
import Monotype.Yaml.Error
import Monotype.Yaml.Merge
import Monotype.Yaml.Node
import Monotype.Yaml.Scalar
import Monotype.Yaml.Tag
import Monotype.Yaml.Token
import Monotype.Proofs.Settings.Merging
import Monotype.Proofs.Inference.Failures
import Monotype.Proofs.Store.Termination
import Monotype.Proofs.Inference.Schedule
import Monotype.Proofs.Command.Writing
import Monotype.Proofs.Command.Agreement
import Monotype.Proofs.Store.Views
import Monotype.Proofs.Store.Conflict
import Monotype.Proofs.Inference.Retrying
import Monotype.Proofs.Store.Evidence
import Monotype.Proofs.Store.Journal
import Monotype.Proofs.Inference.Journal
import Monotype.Proofs.Inference.Footprint
import Monotype.Proofs.Inference.Recursion
import Monotype.Proofs.Expr.Viable
import Monotype.Proofs.Ty.Display
import Monotype.Proofs.Override
import Monotype.Proofs.Literal.Faults
import Monotype.Proofs.Override.Refusal
import Monotype.Proofs.Environment
import Monotype.Proofs.Expr.Outline
