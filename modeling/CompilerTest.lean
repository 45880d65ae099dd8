import CompilerTest.Builds
import CompilerTest.Case.Baseline
import CompilerTest.Case.Basic
import CompilerTest.Case.Matching
import CompilerTest.Case.Run
import CompilerTest.Cli.Options
import CompilerTest.Cli.Run
import CompilerTest.Command
import CompilerTest.Config.Basic
import CompilerTest.Config.Error
import CompilerTest.Config.Loader
import CompilerTest.Decimal.Double
import CompilerTest.Decimal.Shortest
import CompilerTest.Diagnostics.Basic
import CompilerTest.Diagnostics.Decode
import CompilerTest.Directives.Basic
import CompilerTest.Directives.Error
import CompilerTest.Directives.Loader
import CompilerTest.Document
import CompilerTest.Failure
import CompilerTest.Fault
import CompilerTest.FileTree.Basic
import CompilerTest.FileTree.Resolve
import CompilerTest.Flag
import CompilerTest.Flag.Error
import CompilerTest.Json.Basic
import CompilerTest.Json.Parser
import CompilerTest.Json.Printer
import CompilerTest.Json.Schema
import CompilerTest.Level
import CompilerTest.Main
import CompilerTest.Mode
import CompilerTest.Normalization
import CompilerTest.Path
import CompilerTest.Pattern
import CompilerTest.Proofs.Assembly
import CompilerTest.Proofs.Baselines.Beside
import CompilerTest.Proofs.Baselines.Distinct
import CompilerTest.Proofs.Baselines.Edits
import CompilerTest.Proofs.Baselines.Names
import CompilerTest.Proofs.Baselines.Reconciling
import CompilerTest.Proofs.Baselines.RoundTrip
import CompilerTest.Proofs.Baselines.Settled
import CompilerTest.Proofs.Builds.Auxiliary
import CompilerTest.Proofs.Builds.Once
import CompilerTest.Proofs.Builds.Operations
import CompilerTest.Proofs.Builds.Ownership
import CompilerTest.Proofs.Builds.References
import CompilerTest.Proofs.Builds.Request
import CompilerTest.Proofs.Builds.Traffic
import CompilerTest.Proofs.Builds.Waiting
import CompilerTest.Proofs.Capture
import CompilerTest.Proofs.Cli.Report
import CompilerTest.Proofs.Decimals
import CompilerTest.Proofs.Decoding
import CompilerTest.Proofs.Decoding.Elsewhere
import CompilerTest.Proofs.Decoding.Lines
import CompilerTest.Proofs.Decoding.Preorder
import CompilerTest.Proofs.Decoding.Tolerance
import CompilerTest.Proofs.Directives.Accepted
import CompilerTest.Proofs.Directives.Faithful
import CompilerTest.Proofs.Directives.Flags
import CompilerTest.Proofs.Directives.Loading
import CompilerTest.Proofs.Directives.Rules
import CompilerTest.Proofs.Directives.Settings
import CompilerTest.Proofs.Directives.Union
import CompilerTest.Proofs.Documents
import CompilerTest.Proofs.FileTree.Changes
import CompilerTest.Proofs.FileTree.Following
import CompilerTest.Proofs.FileTree.Links
import CompilerTest.Proofs.FileTree.RealPaths
import CompilerTest.Proofs.FileTree.RealPlaces
import CompilerTest.Proofs.FileTree.Routes
import CompilerTest.Proofs.FileTree.Straight
import CompilerTest.Proofs.Lines
import CompilerTest.Proofs.Matching.Accepted
import CompilerTest.Proofs.Matching.Annotating
import CompilerTest.Proofs.Matching.Assignment
import CompilerTest.Proofs.Matching.ByLine
import CompilerTest.Proofs.Matching.Check
import CompilerTest.Proofs.Matching.Codes
import CompilerTest.Proofs.Matching.Faults
import CompilerTest.Proofs.Matching.Frame
import CompilerTest.Proofs.Matching.LeftOver
import CompilerTest.Proofs.Matching.Modes
import CompilerTest.Proofs.Matching.Positions
import CompilerTest.Proofs.Matching.Reordering
import CompilerTest.Proofs.Matching.Reports
import CompilerTest.Proofs.Matching.Steps
import CompilerTest.Proofs.Outcome
import CompilerTest.Proofs.OutputDirectories
import CompilerTest.Proofs.OutputDirectories.Lineages
import CompilerTest.Proofs.OutputDirectories.Placed
import CompilerTest.Proofs.Paths
import CompilerTest.Proofs.PostActions
import CompilerTest.Proofs.Preparation
import CompilerTest.Proofs.Regex.Templates
import CompilerTest.Proofs.Rendering
import CompilerTest.Proofs.RunScope
import CompilerTest.Proofs.Shapes
import CompilerTest.Proofs.Unfailing
import CompilerTest.Proofs.Utf8
import CompilerTest.Proofs.Verification
import CompilerTest.Regex.Basic
import CompilerTest.Regex.Cursor
import CompilerTest.Regex.Error
import CompilerTest.Regex.Matcher
import CompilerTest.Regex.Parser
import CompilerTest.Regex.Replacement
import CompilerTest.Session
import CompilerTest.Shell.Arithmetic
import CompilerTest.Shell.Basic
import CompilerTest.Shell.Condition
import CompilerTest.Shell.Execution
import CompilerTest.Shell.Expansion
import CompilerTest.Shell.Format
import CompilerTest.Shell.Glob
import CompilerTest.Shell.Host
import CompilerTest.Shell.Parser
import CompilerTest.Shell.State
import CompilerTest.Shell.Utilities
import CompilerTest.Shell.Word
import CompilerTest.Span
import CompilerTest.Text.Bytes
import CompilerTest.Text.Integer
import CompilerTest.Text.Lines
import CompilerTest.Text.Quoted
import CompilerTest.Text.Template
import CompilerTest.Unicode.Case
import CompilerTest.Unicode.Properties
import CompilerTest.Unicode.Ranges
import CompilerTest.Unicode.Tables
