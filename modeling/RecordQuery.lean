import RecordQuery.Command.Arguments
import RecordQuery.Command.Invocation
import RecordQuery.Command.Run
import RecordQuery.Config
import RecordQuery.Decimal.Double
import RecordQuery.Decimal.Layout
import RecordQuery.Decimal.Numeral
import RecordQuery.Decimal.Shortest
import RecordQuery.Files
import RecordQuery.Glob
import RecordQuery.Json.Digits
import RecordQuery.Json.Escape
import RecordQuery.Json.Printer
import RecordQuery.Json.Reader
import RecordQuery.Json.Relaxed
import RecordQuery.Json.Token
import RecordQuery.Json.Value
import RecordQuery.Log
import RecordQuery.Main
import RecordQuery.Proofs.Arrangement
import RecordQuery.Proofs.Comparison
import RecordQuery.Proofs.Composition
import RecordQuery.Proofs.Defaults
import RecordQuery.Proofs.Descriptions
import RecordQuery.Proofs.FieldNames
import RecordQuery.Proofs.Folding
import RecordQuery.Proofs.Formats
import RecordQuery.Proofs.Groups
import RecordQuery.Proofs.Image
import RecordQuery.Proofs.Inputs
import RecordQuery.Proofs.Insertion
import RecordQuery.Proofs.Integers
import RecordQuery.Proofs.Joining
import RecordQuery.Proofs.Lines
import RecordQuery.Proofs.Matching
import RecordQuery.Proofs.Names
import RecordQuery.Proofs.Negation
import RecordQuery.Proofs.Parts
import RecordQuery.Proofs.Reports
import RecordQuery.Proofs.Rows
import RecordQuery.Proofs.Runs
import RecordQuery.Proofs.Scan
import RecordQuery.Proofs.Separators
import RecordQuery.Proofs.Sessions
import RecordQuery.Proofs.Spacing
import RecordQuery.Proofs.Trailing
import RecordQuery.Proofs.Verdicts
import RecordQuery.Proofs.Views
import RecordQuery.Proofs.Warnings
import RecordQuery.Proofs.Widening
import RecordQuery.Proofs.Wildcards
import RecordQuery.Proofs.Wording
import RecordQuery.Query.Compile
import RecordQuery.Query.Filter
import RecordQuery.Query.Phrase
import RecordQuery.Query.Token
import RecordQuery.Query.Tree
import RecordQuery.Record
import RecordQuery.Records
import RecordQuery.Report
import RecordQuery.Report.Table
import RecordQuery.Text.BareName
import RecordQuery.Text.Characters
import RecordQuery.Text.Columns
import RecordQuery.Text.Emoji
import RecordQuery.Text.Fold
import RecordQuery.Text.Ligature
import RecordQuery.Text.Pieces
import RecordQuery.Text.Width
import RecordQuery.Toml.Document
import RecordQuery.Toml.Item
import RecordQuery.Toml.Scalar
import RecordQuery.Toml.Text
