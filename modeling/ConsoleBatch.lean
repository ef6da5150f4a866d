import ConsoleBatch.Action
import ConsoleBatch.Batch.Line
import ConsoleBatch.Batch.Notice
import ConsoleBatch.Batch.Parsed
import ConsoleBatch.Batch.Warning
import ConsoleBatch.Cli.Arguments
import ConsoleBatch.Cli.Commands
import ConsoleBatch.Cli.Report
import ConsoleBatch.Command
import ConsoleBatch.Config.Basic
import ConsoleBatch.Config.Discover
import ConsoleBatch.Config.Load
import ConsoleBatch.Config.Save
import ConsoleBatch.Config.Schema
import ConsoleBatch.Decimal.Binary
import ConsoleBatch.Decimal.Double
import ConsoleBatch.Decimal.Fixed
import ConsoleBatch.Decimal.Layout
import ConsoleBatch.Decimal.Reading
import ConsoleBatch.Decimal.Shortest
import ConsoleBatch.Error
import ConsoleBatch.Files.Folder
import ConsoleBatch.Files.Tree
import ConsoleBatch.Json.Numeral
import ConsoleBatch.Json.Reading
import ConsoleBatch.Json.Token
import ConsoleBatch.Json.Value
import ConsoleBatch.Json.Writing
import ConsoleBatch.Lint.Check
import ConsoleBatch.Lint.Clock
import ConsoleBatch.Lint.Duration
import ConsoleBatch.Lint.Linter
import ConsoleBatch.Lint.Suggestion
import ConsoleBatch.Lint.Timings
import ConsoleBatch.Main
import ConsoleBatch.Message.Catalog
import ConsoleBatch.Message.Key
import ConsoleBatch.Message.Template
import ConsoleBatch.Proofs.Accounting
import ConsoleBatch.Proofs.Advisory
import ConsoleBatch.Proofs.Agreement
import ConsoleBatch.Proofs.Blocks
import ConsoleBatch.Proofs.Casing
import ConsoleBatch.Proofs.CheckOrder
import ConsoleBatch.Proofs.ClosestMatch
import ConsoleBatch.Proofs.Confinement
import ConsoleBatch.Proofs.Conformance
import ConsoleBatch.Proofs.Contexts
import ConsoleBatch.Proofs.Course
import ConsoleBatch.Proofs.Deadline
import ConsoleBatch.Proofs.Directives
import ConsoleBatch.Proofs.Draining
import ConsoleBatch.Proofs.DryRun
import ConsoleBatch.Proofs.EditScripts
import ConsoleBatch.Proofs.Fidelity
import ConsoleBatch.Proofs.FirstWarning
import ConsoleBatch.Proofs.Isolation
import ConsoleBatch.Proofs.Journal
import ConsoleBatch.Proofs.LineChecks
import ConsoleBatch.Proofs.LineEndings
import ConsoleBatch.Proofs.LintTime
import ConsoleBatch.Proofs.Listing
import ConsoleBatch.Proofs.LowerRuns
import ConsoleBatch.Proofs.Members
import ConsoleBatch.Proofs.Merging
import ConsoleBatch.Proofs.Moves
import ConsoleBatch.Proofs.NameMatching
import ConsoleBatch.Proofs.NameStarts
import ConsoleBatch.Proofs.Nearest
import ConsoleBatch.Proofs.NormalForm
import ConsoleBatch.Proofs.Numerals
import ConsoleBatch.Proofs.Overlay
import ConsoleBatch.Proofs.Ownership
import ConsoleBatch.Proofs.Passes
import ConsoleBatch.Proofs.Paths
import ConsoleBatch.Proofs.PauseLine
import ConsoleBatch.Proofs.Readable
import ConsoleBatch.Proofs.Reports
import ConsoleBatch.Proofs.RoundTrip
import ConsoleBatch.Proofs.Safety
import ConsoleBatch.Proofs.Saving
import ConsoleBatch.Proofs.Script
import ConsoleBatch.Proofs.Spelling
import ConsoleBatch.Proofs.Stages
import ConsoleBatch.Proofs.Substitution
import ConsoleBatch.Proofs.Suggestions
import ConsoleBatch.Proofs.Switches
import ConsoleBatch.Proofs.Timeout
import ConsoleBatch.Proofs.Timetable
import ConsoleBatch.Proofs.TimingTables
import ConsoleBatch.Proofs.Traversal
import ConsoleBatch.Proofs.Trees
import ConsoleBatch.Proofs.Trimming
import ConsoleBatch.Proofs.WarningOrder
import ConsoleBatch.Proofs.Workload
import ConsoleBatch.Proofs.Written
import ConsoleBatch.Run.Event
import ConsoleBatch.Run.Execution
import ConsoleBatch.Run.Job
import ConsoleBatch.Run.Progress
import ConsoleBatch.Run.Session
import ConsoleBatch.Sleep
import ConsoleBatch.Text.Alphanumeric
import ConsoleBatch.Text.Blank
import ConsoleBatch.Text.CaseRanges
import ConsoleBatch.Text.CodeRange
import ConsoleBatch.Text.Lines
import ConsoleBatch.Text.Lower
import ConsoleBatch.Text.LowerRuns
import ConsoleBatch.Text.Utf8
