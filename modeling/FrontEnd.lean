import FrontEnd.Main
import FrontEnd.Node.Equality
import FrontEnd.Node.Describe
import FrontEnd.Parser.Call
import FrontEnd.Token.Call
import FrontEnd.Proofs.Reader.Basic
import FrontEnd.Proofs.Reader.Run
import FrontEnd.Proofs.Reader.Program
import FrontEnd.Proofs.Grammar.Climbing
import FrontEnd.Proofs.Lexing.Read
import FrontEnd.Proofs.Lexing.Stream
import FrontEnd.Proofs.Reader.Source
import FrontEnd.Proofs.Grammar.Statement
import FrontEnd.Proofs.Lexing.Append
import FrontEnd.Proofs.Reader.Append
import FrontEnd.Proofs.Reader.Fault
import FrontEnd.Proofs.Lexing.Valid
import FrontEnd.Proofs.Printing.Written
import FrontEnd.Proofs.Lexing.Lexes
import FrontEnd.Proofs.Printing.Text
import FrontEnd.Proofs.Printing.RoundTrip
import FrontEnd.Proofs.Lexing.Grammar
import FrontEnd.Proofs.Lexing.Munch
import FrontEnd.Proofs.Reader.Accounting
import FrontEnd.Proofs.Grammar.Skipped
import FrontEnd.Proofs.Lexing.Numbers
import FrontEnd.Proofs.Reader.Outcome
import FrontEnd.Proofs.Reader.Window
import FrontEnd.Proofs.Reader.Order
import FrontEnd.Proofs.Reader.Layout
import FrontEnd.Proofs.Node.Equality
import FrontEnd.Proofs.Printing.WellFormed
import FrontEnd.Proofs.Printing.Parentheses
import FrontEnd.Proofs.Reader.Nesting
import FrontEnd.Proofs.Lexing.Strings
import FrontEnd.Proofs.Node.Tree
import FrontEnd.Proofs.Node.Comparison
import FrontEnd.Proofs.Printing.Recursive
import FrontEnd.Proofs.Text.Quoted
import FrontEnd.Proofs.Text.Markup
import FrontEnd.Proofs.Node.Describe
import FrontEnd.Proofs.Node.Outline
import FrontEnd.Proofs.Lexing.Notes
import FrontEnd.Proofs.Reader.Rules
import FrontEnd.Proofs.Reader.Journal
import FrontEnd.Proofs.Reader.Illegal
import FrontEnd.Proofs.Command.Debug
import FrontEnd.Proofs.Printing.Lines
import FrontEnd.Proofs.Node.Strings
import FrontEnd.Proofs.Reader.Strings
import FrontEnd.Proofs.Lexing.LineFeeds
import FrontEnd.Proofs.Command.LineFeeds
