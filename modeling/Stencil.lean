import Stencil.Text.Letter
import Stencil.Text.Numeral
import Stencil.Text.Basic
import Stencil.Text.Blank
import Stencil.Text.Case
import Stencil.Text.Quoted
import Stencil.Decimal.Layout
import Stencil.Decimal.Reading
import Stencil.Value.Compare
import Stencil.Value.Access
import Stencil.Value.Compact
import Stencil.Value.Json
import Stencil.Expr.Lexer
import Stencil.Statement
import Stencil.Expr.Eval
import Stencil.Scan
import Stencil.Render
import Stencil.Session
import Stencil.Toml.Document
import Stencil.Command.Run
import Stencil.Main
import Stencil.Proofs.Grammar
import Stencil.Proofs.Parsing
import Stencil.Proofs.Acceptance
import Stencil.Proofs.Division
import Stencil.Proofs.Remembering
import Stencil.Proofs.Conservation
import Stencil.Proofs.Caching
import Stencil.Proofs.Pairing
import Stencil.Proofs.Scoping
import Stencil.Proofs.ScopeStack
import Stencil.Proofs.Opacity
import Stencil.Proofs.Column
import Stencil.Proofs.Context
import Stencil.Proofs.SyntaxMode
import Stencil.Proofs.OutputDirective
import Stencil.Proofs.Passthrough
import Stencil.Proofs.Phases
import Stencil.Proofs.Commands
import Stencil.Proofs.Slicing
import Stencil.Proofs.CheckedReading
import Stencil.Proofs.CheckedScan
import Stencil.Proofs.Definedness
import Stencil.Proofs.Lexeme
import Stencil.Proofs.Tokenization
import Stencil.Proofs.Rejection
import Stencil.Proofs.FirstMistake
import Stencil.Proofs.Escaping
import Stencil.Proofs.SilentComments
import Stencil.Proofs.Nesting
import Stencil.Proofs.ErrorPlace
import Stencil.Proofs.FirstFault
import Stencil.Proofs.FirstMatch
import Stencil.Proofs.Registering
import Stencil.Proofs.ElementAccess
import Stencil.Proofs.Equality
import Stencil.Proofs.Comparison
import Stencil.Proofs.Caret
import Stencil.Proofs.EscapedSigns
import Stencil.Proofs.WholeFloat
import Stencil.Proofs.WholeText
import Stencil.Proofs.Indistinguishable
import Stencil.Proofs.TestChains
