import ImportLint.Main
import ImportLint.Proofs.Text.Case
import ImportLint.Proofs.Text.Fields
import ImportLint.Proofs.Text.LineEnd
import ImportLint.Proofs.Text.Layout
import ImportLint.Proofs.Text.Order
import ImportLint.Proofs.Text.Utf8
import ImportLint.Proofs.Import.Lines
import ImportLint.Proofs.Import.Group
import ImportLint.Proofs.Import.Extraction
import ImportLint.Proofs.Import.Prefix
import ImportLint.Proofs.Import.ShortName
import ImportLint.Proofs.Import.NormalForm
import ImportLint.Proofs.Import.Resolution
import ImportLint.Proofs.Usage.Interfaces
import ImportLint.Proofs.Usage.Lines
import ImportLint.Proofs.Usage.Mention
import ImportLint.Proofs.Usage.ParameterLayout
import ImportLint.Proofs.Usage.Parameters
import ImportLint.Proofs.Usage.ParameterTypes
import ImportLint.Proofs.Usage.Stability
import ImportLint.Proofs.Usage.StaticReference
import ImportLint.Proofs.Check.Basic
import ImportLint.Proofs.Check.Cleanup
import ImportLint.Proofs.Check.Duplicates
import ImportLint.Proofs.Check.Grouping
import ImportLint.Proofs.Check.Growth
import ImportLint.Proofs.Check.Unmentioned
import ImportLint.Proofs.Check.Unused
import ImportLint.Proofs.Extension
import ImportLint.Proofs.Glob
import ImportLint.Proofs.Tree.Places
import ImportLint.Proofs.Tree.Writing
import ImportLint.Proofs.Tree.Relisting
import ImportLint.Proofs.Discovery.Walk
import ImportLint.Proofs.Discovery.Collect
import ImportLint.Proofs.Tree.Below
import ImportLint.Proofs.Discovery.Frame
import ImportLint.Proofs.Discovery.Pruning
import ImportLint.Proofs.Discovery.Subtree
import ImportLint.Proofs.Report.Color
import ImportLint.Proofs.Report.Kinds
import ImportLint.Proofs.Analysis.Accounts
import ImportLint.Proofs.Analysis.LineEnds
import ImportLint.Proofs.Tree.Canonical
import ImportLint.Proofs.Analysis.ReportFiles
import ImportLint.Proofs.Analysis.Rerun
import ImportLint.Proofs.Command.Job
import ImportLint.Proofs.Command.Rerun
import ImportLint.Proofs.Tree.Written
import ImportLint.Proofs.Command.Modes
import ImportLint.Proofs.Json.Reader
import ImportLint.Proofs.Json.Written
import ImportLint.Proofs.Analysis.ReportData
import ImportLint.Proofs.Toml.Strings
import ImportLint.Proofs.Toml.Written
import ImportLint.Proofs.Toml.Statements
import ImportLint.Proofs.Config
import ImportLint.Proofs.Options.Settings
