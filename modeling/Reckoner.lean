import Reckoner.Attempt
import Reckoner.Bindings
import Reckoner.Builtin
import Reckoner.CommandLine
import Reckoner.CommandLine.Arguments
import Reckoner.EvalError
import Reckoner.Evaluation
import Reckoner.Machine
import Reckoner.Main
import Reckoner.Number.Arithmetic
import Reckoner.Number.Decimal
import Reckoner.Number.Reading
import Reckoner.Number.Units
import Reckoner.Number.Writing
import Reckoner.Operator
import Reckoner.Place
import Reckoner.Session.Basic
import Reckoner.Session.Batch
import Reckoner.Session.Console
import Reckoner.Session.Line
import Reckoner.Stack
import Reckoner.Text.Ascii
import Reckoner.Text.Blank
import Reckoner.Text.Case
import Reckoner.Text.CaseContext
import Reckoner.Text.CaseTable
import Reckoner.Text.Digit
import Reckoner.Text.Letter
import Reckoner.Text.Lines
import Reckoner.Text.Printable
import Reckoner.Text.Quoted
import Reckoner.Text.Ranges
import Reckoner.Token.Basic
import Reckoner.Token.Cursor
import Reckoner.Token.Scanner
import Reckoner.Tree.Basic
import Reckoner.Tree.Desk
import Reckoner.Tree.Json
import Reckoner.Tree.Outline
import Reckoner.Tree.Parser
import Reckoner.Value
import Reckoner.Proofs.Tree.Grammar
import Reckoner.Proofs.Tree.Soundness
import Reckoner.Proofs.Tree.Completeness
import Reckoner.Proofs.Tree.Merging
import Reckoner.Proofs.Tree.Acceptance
import Reckoner.Proofs.Text.Classes
import Reckoner.Proofs.Text.Lines
import Reckoner.Proofs.Text.Quotation
import Reckoner.Proofs.Token.Pieces
import Reckoner.Proofs.Token.Cursor
import Reckoner.Proofs.Token.Tiling
import Reckoner.Proofs.Token.Spelling
import Reckoner.Proofs.Number.Numeral
import Reckoner.Proofs.Number.Digits
import Reckoner.Proofs.Tree.Expression
import Reckoner.Proofs.Tree.RoundTrip
import Reckoner.Proofs.Evaluation.Induction
import Reckoner.Proofs.Evaluation.Justification
import Reckoner.Proofs.Evaluation.Output
import Reckoner.Proofs.Evaluation.Recursion
import Reckoner.Proofs.Session.Faults
import Reckoner.Proofs.Session.History
import Reckoner.Proofs.Session.Transcript
import Reckoner.Proofs.CommandLine.Sources
import Reckoner.Proofs.Session.Dialogue
import Reckoner.Proofs.Tree.Places
import Reckoner.Proofs.Session.Recall
import Reckoner.Proofs.Session.Verbosity
import Reckoner.Proofs.Evaluation.ShortCircuit
import Reckoner.Proofs.Evaluation.Length
import Reckoner.Proofs.Token.Openings
import Reckoner.Proofs.Token.Unreadable
import Reckoner.Proofs.Tree.Blame
import Reckoner.Proofs.Tree.Halting
import Reckoner.Proofs.Tree.Position
import Reckoner.Proofs.Tree.Discarding
import Reckoner.Proofs.Token.Seams
import Reckoner.Proofs.Evaluation.Dependence
import Reckoner.Proofs.Builtin.Contract
import Reckoner.Proofs.Evaluation.Frame
import Reckoner.Proofs.Evaluation.Respelling
import Reckoner.Proofs.Number.Bits
import Reckoner.Proofs.Number.Nearest
import Reckoner.Proofs.Number.Layout
import Reckoner.Proofs.Number.Recovery
import Reckoner.Proofs.Json.Reading
import Reckoner.Proofs.Json.Texts
import Reckoner.Proofs.Json.Numerals
import Reckoner.Proofs.Json.Blocks
import Reckoner.Proofs.Tree.Document
import Reckoner.Proofs.Number.Comparison
import Reckoner.Proofs.Value.Relations
import Reckoner.Proofs.Number.Rendering
import Reckoner.Proofs.Session.Literals
import Reckoner.Proofs.Number.Guards
import Reckoner.Proofs.Number.Index
import Reckoner.Proofs.Builtin.Calls
import Reckoner.Proofs.Builtin.Slicing
import Reckoner.Proofs.Builtin.Casing
import Reckoner.Proofs.Session.LineBreaks
