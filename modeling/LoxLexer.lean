import LoxLexer.CommandLine.Arguments
import LoxLexer.Text.Characters
import LoxLexer.Token.Kind
import LoxLexer.Diagnostic.Basic
import LoxLexer.Interaction.Basic
import LoxLexer.Text.Line
import LoxLexer.Diagnostic.Snippet
import LoxLexer.Text.Utf8
import LoxLexer.FileTree.Basic
import LoxLexer.Interaction.Outlet
import LoxLexer.Number.Binary64
import LoxLexer.Segment.Basic
import LoxLexer.Number.Notation
import LoxLexer.Token.Basic
import LoxLexer.Scan.Finding
import LoxLexer.Scan.Cursor
import LoxLexer.Scan.Scanner
import LoxLexer.Session.Basic
import LoxLexer.Session.Prompt
import LoxLexer.CommandLine.Run
import LoxLexer.Main
import LoxLexer.Proofs.Interaction.Perform
import LoxLexer.Proofs.Interaction.Actions
import LoxLexer.Proofs.Interaction.Room
import LoxLexer.Proofs.Text.Lines
import LoxLexer.Proofs.Text.SingleLine
import LoxLexer.Proofs.Diagnostic.Snippet
import LoxLexer.Segment.Lemmas
import LoxLexer.Proofs.Segment.Grammar
import LoxLexer.Proofs.Segment.First
import LoxLexer.Proofs.Segment.Division
import LoxLexer.Proofs.Scan.Lexeme
import LoxLexer.Proofs.Scan.Findings
import LoxLexer.Proofs.Scan.Layout
import LoxLexer.Proofs.Scan.Lines
import LoxLexer.Proofs.Scan.Reported
import LoxLexer.Proofs.Session.Completion
import LoxLexer.Proofs.Session.Bytes
import LoxLexer.Proofs.Session.Independence
import LoxLexer.Proofs.Session.Severity
import LoxLexer.Proofs.CommandLine.ExitStatus
import LoxLexer.Proofs.Text.Boundary
import LoxLexer.Proofs.Text.Utf8
import LoxLexer.Proofs.Text.Locate
import LoxLexer.Proofs.Diagnostic.Outcome
import LoxLexer.Proofs.Diagnostic.Caret
import LoxLexer.Proofs.Number.Codes
import LoxLexer.Proofs.Number.Rounding
import LoxLexer.Proofs.Number.Shortest
import LoxLexer.Proofs.Number.Positional
import LoxLexer.Proofs.Scan.Shift
import LoxLexer.Proofs.Scan.Barrier
import LoxLexer.Proofs.Scan.Appended
import LoxLexer.Proofs.Scan.CarriageReturn
import LoxLexer.Proofs.Scan.Events
import LoxLexer.Proofs.Scan.Keywords
import LoxLexer.Proofs.Scan.Numbers
import LoxLexer.Proofs.Session.LineByLine
import LoxLexer.Proofs.Session.Agreement
import LoxLexer.Proofs.Session.Composition
import LoxLexer.Proofs.Text.Lossy
import LoxLexer.Proofs.Session.Decoding
import LoxLexer.Proofs.Session.Dump
import LoxLexer.Proofs.Session.EventLog
import LoxLexer.Proofs.Session.Flag
import LoxLexer.Proofs.Session.Limited
import LoxLexer.Proofs.Session.Shown
