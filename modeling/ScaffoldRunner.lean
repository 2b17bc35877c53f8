import ScaffoldRunner.Command.Classification
import ScaffoldRunner.Command.Diagnosis
import ScaffoldRunner.Command.Execution
import ScaffoldRunner.Command.Result
import ScaffoldRunner.Command.Summary
import ScaffoldRunner.CommandLine.Arguments
import ScaffoldRunner.CommandLine.Conclusion
import ScaffoldRunner.CommandLine.Request
import ScaffoldRunner.Config.Basic
import ScaffoldRunner.Config.Text
import ScaffoldRunner.Context.Merge
import ScaffoldRunner.Context.Store
import ScaffoldRunner.Data.Dict
import ScaffoldRunner.Data.Distinct
import ScaffoldRunner.Data.Power
import ScaffoldRunner.Frame.Attempts
import ScaffoldRunner.Frame.Basic
import ScaffoldRunner.Frame.Call
import ScaffoldRunner.Frame.Error
import ScaffoldRunner.Frame.Launch
import ScaffoldRunner.Frame.Response
import ScaffoldRunner.Frame.Script
import ScaffoldRunner.Instant
import ScaffoldRunner.Json.Basic
import ScaffoldRunner.Json.Decimal
import ScaffoldRunner.Json.Number
import ScaffoldRunner.Json.Parser
import ScaffoldRunner.Json.Printer
import ScaffoldRunner.Json.Record
import ScaffoldRunner.Json.Skip
import ScaffoldRunner.Logging
import ScaffoldRunner.Machine
import ScaffoldRunner.Main
import ScaffoldRunner.Metrics
import ScaffoldRunner.Pattern.Basic
import ScaffoldRunner.Pattern.ClassSyntax
import ScaffoldRunner.Pattern.Matching
import ScaffoldRunner.Pattern.PlainSyntax
import ScaffoldRunner.Pattern.PosixSyntax
import ScaffoldRunner.Pattern.WideSyntax
import ScaffoldRunner.Programs
import ScaffoldRunner.Proofs.Action
import ScaffoldRunner.Proofs.Command.Classification
import ScaffoldRunner.Proofs.Command.Diagnosis
import ScaffoldRunner.Proofs.Command.Failures
import ScaffoldRunner.Proofs.Config.Records
import ScaffoldRunner.Proofs.Config.RoundTrip
import ScaffoldRunner.Proofs.Context
import ScaffoldRunner.Proofs.Context.Accumulation
import ScaffoldRunner.Proofs.Context.Saving
import ScaffoldRunner.Proofs.Dict
import ScaffoldRunner.Proofs.Frame.Attempts
import ScaffoldRunner.Proofs.Frame.Launch
import ScaffoldRunner.Proofs.Frame.Response
import ScaffoldRunner.Proofs.Frame.Script
import ScaffoldRunner.Proofs.Json.Everywhere
import ScaffoldRunner.Proofs.Json.Number
import ScaffoldRunner.Proofs.Json.Reading
import ScaffoldRunner.Proofs.Json.Record
import ScaffoldRunner.Proofs.Json.RoundTrip
import ScaffoldRunner.Proofs.Metrics
import ScaffoldRunner.Proofs.Redaction
import ScaffoldRunner.Proofs.Redaction.Residue
import ScaffoldRunner.Proofs.References
import ScaffoldRunner.Proofs.Registration
import ScaffoldRunner.Proofs.Registry
import ScaffoldRunner.Proofs.Report.Counts
import ScaffoldRunner.Proofs.Run.Acts
import ScaffoldRunner.Proofs.Run.Conduct
import ScaffoldRunner.Proofs.Run.Consistency
import ScaffoldRunner.Proofs.Run.Counting
import ScaffoldRunner.Proofs.Run.Courses
import ScaffoldRunner.Proofs.Run.Determinism
import ScaffoldRunner.Proofs.Run.Effects
import ScaffoldRunner.Proofs.Run.Ending
import ScaffoldRunner.Proofs.Run.Entries
import ScaffoldRunner.Proofs.Run.Errors
import ScaffoldRunner.Proofs.Run.Failure
import ScaffoldRunner.Proofs.Run.History
import ScaffoldRunner.Proofs.Run.Interruption
import ScaffoldRunner.Proofs.Run.Inward
import ScaffoldRunner.Proofs.Run.Isolation
import ScaffoldRunner.Proofs.Run.Learning
import ScaffoldRunner.Proofs.Run.Likeness
import ScaffoldRunner.Proofs.Run.Masking
import ScaffoldRunner.Proofs.Run.Outline
import ScaffoldRunner.Proofs.Run.Publishing
import ScaffoldRunner.Proofs.Run.Repetition
import ScaffoldRunner.Proofs.Run.Replies
import ScaffoldRunner.Proofs.Run.Schedule
import ScaffoldRunner.Proofs.Run.Sight
import ScaffoldRunner.Proofs.Run.Steps
import ScaffoldRunner.Proofs.Run.Tally
import ScaffoldRunner.Proofs.Run.Unreadable
import ScaffoldRunner.Proofs.Stage
import ScaffoldRunner.Proofs.Text.Search
import ScaffoldRunner.Proofs.Text.Utf8
import ScaffoldRunner.Proofs.Toml
import ScaffoldRunner.Proofs.Workspace.Documents
import ScaffoldRunner.Proofs.Workspace.FileTree
import ScaffoldRunner.Proofs.Workspace.Likeness
import ScaffoldRunner.Proofs.Workspace.Path
import ScaffoldRunner.Proofs.Workspace.Reports
import ScaffoldRunner.Publication
import ScaffoldRunner.Redaction
import ScaffoldRunner.Registry
import ScaffoldRunner.Report.Audit
import ScaffoldRunner.Report.Directory
import ScaffoldRunner.Report.Documents
import ScaffoldRunner.Report.Recommendations
import ScaffoldRunner.Run.Basic
import ScaffoldRunner.Run.Execution
import ScaffoldRunner.Run.Stages
import ScaffoldRunner.Scaffold.Basic
import ScaffoldRunner.Schema.Number
import ScaffoldRunner.Schema.Validation
import ScaffoldRunner.Session
import ScaffoldRunner.Shell.Arithmetic
import ScaffoldRunner.Shell.Builtin
import ScaffoldRunner.Shell.Builtin.Control
import ScaffoldRunner.Shell.Builtin.Processes
import ScaffoldRunner.Shell.Builtin.Texts
import ScaffoldRunner.Shell.Builtin.Variables
import ScaffoldRunner.Shell.Evaluation
import ScaffoldRunner.Shell.Expansion
import ScaffoldRunner.Shell.Fields
import ScaffoldRunner.Shell.Grammar
import ScaffoldRunner.Shell.Jobs
import ScaffoldRunner.Shell.Lookup
import ScaffoldRunner.Shell.Reader
import ScaffoldRunner.Shell.Redirection
import ScaffoldRunner.Shell.Script
import ScaffoldRunner.Shell.Simple
import ScaffoldRunner.Shell.State
import ScaffoldRunner.Shell.Syntax
import ScaffoldRunner.Shell.Tokens
import ScaffoldRunner.Shell.Wildcard
import ScaffoldRunner.Shell.Words
import ScaffoldRunner.Stage
import ScaffoldRunner.Stage.Result
import ScaffoldRunner.System.Kernel
import ScaffoldRunner.System.Program
import ScaffoldRunner.System.Setting
import ScaffoldRunner.System.Signal
import ScaffoldRunner.Text.Basic
import ScaffoldRunner.Text.Search
import ScaffoldRunner.Text.Utf8
import ScaffoldRunner.Toml.Parser
import ScaffoldRunner.Toml.Printer
import ScaffoldRunner.Toml.Scalar
import ScaffoldRunner.Toml.Table
import ScaffoldRunner.Toml.Text
import ScaffoldRunner.Unicode.Category
import ScaffoldRunner.Unicode.Folding
import ScaffoldRunner.Unicode.Property
import ScaffoldRunner.Unicode.PropertyTables
import ScaffoldRunner.Unicode.Runs
import ScaffoldRunner.Unicode.Script
import ScaffoldRunner.Utility.Arranging
import ScaffoldRunner.Utility.Awk
import ScaffoldRunner.Utility.Awk.Evaluation
import ScaffoldRunner.Utility.Awk.Expressions
import ScaffoldRunner.Utility.Awk.Functions
import ScaffoldRunner.Utility.Awk.Parser
import ScaffoldRunner.Utility.Awk.Records
import ScaffoldRunner.Utility.Awk.Streams
import ScaffoldRunner.Utility.Awk.Syntax
import ScaffoldRunner.Utility.Awk.Table
import ScaffoldRunner.Utility.Awk.Tokens
import ScaffoldRunner.Utility.Awk.Value
import ScaffoldRunner.Utility.Basic
import ScaffoldRunner.Utility.Calendar
import ScaffoldRunner.Utility.Columns
import ScaffoldRunner.Utility.Comparing
import ScaffoldRunner.Utility.Condition
import ScaffoldRunner.Utility.Copying
import ScaffoldRunner.Utility.Counting
import ScaffoldRunner.Utility.Digest
import ScaffoldRunner.Utility.Encoding
import ScaffoldRunner.Utility.Escape
import ScaffoldRunner.Utility.Expression
import ScaffoldRunner.Utility.Find
import ScaffoldRunner.Utility.Format
import ScaffoldRunner.Utility.Grep
import ScaffoldRunner.Utility.Listing
import ScaffoldRunner.Utility.Real
import ScaffoldRunner.Utility.Running
import ScaffoldRunner.Utility.Sed
import ScaffoldRunner.Utility.Sed.Editing
import ScaffoldRunner.Utility.Sed.Script
import ScaffoldRunner.Utility.Sed.Streams
import ScaffoldRunner.Utility.Sed.Substitution
import ScaffoldRunner.Utility.Sorting
import ScaffoldRunner.Utility.Translation
import ScaffoldRunner.Utility.Words
import ScaffoldRunner.Workspace.FileMode
import ScaffoldRunner.Workspace.FileTree
import ScaffoldRunner.Workspace.Path
import ScaffoldRunner.World
