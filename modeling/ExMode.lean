import ExMode.Address
import ExMode.Buffer
import ExMode.Cli
import ExMode.Cli.Dialogue
import ExMode.Cli.Request
import ExMode.Command
import ExMode.Command.Count
import ExMode.Command.Substitution
import ExMode.Command.Table
import ExMode.Console
import ExMode.Console.Markup
import ExMode.Console.Pictograph
import ExMode.Decimal.Binary64
import ExMode.Decimal.Numeral
import ExMode.Decimal.Shortest
import ExMode.Delegate
import ExMode.Disk
import ExMode.Document
import ExMode.Error
import ExMode.Fault
import ExMode.History
import ExMode.History.Format
import ExMode.History.Keeper
import ExMode.Json
import ExMode.Keyed
import ExMode.LineRange
import ExMode.Log
import ExMode.Main
import ExMode.Outcome
import ExMode.Path
import ExMode.Pattern
import ExMode.Pattern.Magic
import ExMode.Pattern.Matcher
import ExMode.Pattern.Reader
import ExMode.Pattern.Template
import ExMode.Proofs.Buffer
import ExMode.Proofs.Classified
import ExMode.Proofs.Command
import ExMode.Proofs.Disk
import ExMode.Proofs.Effect
import ExMode.Proofs.HistoryFile
import ExMode.Proofs.HistoryFormat
import ExMode.Proofs.HistoryReload
import ExMode.Proofs.Json
import ExMode.Proofs.LineRecord
import ExMode.Proofs.Provenance
import ExMode.Proofs.Reader
import ExMode.Proofs.Reload
import ExMode.Proofs.Route
import ExMode.Proofs.Session
import ExMode.Proofs.Spelling
import ExMode.Proofs.Substitution
import ExMode.Proofs.Table
import ExMode.Proofs.Tree
import ExMode.Proofs.Unfailing
import ExMode.Proofs.Unsaved
import ExMode.Register
import ExMode.Runtime
import ExMode.Session
import ExMode.Session.Engine
import ExMode.Session.InputBox
import ExMode.Settings
import ExMode.Settings.Coercion
import ExMode.Settings.File
import ExMode.Settings.Reading
import ExMode.Shell
import ExMode.Shell.Builtin
import ExMode.Shell.Glob
import ExMode.Shell.Machine
import ExMode.Shell.Program
import ExMode.Shell.Program.Edit
import ExMode.Shell.Program.File
import ExMode.Shell.Program.Layout
import ExMode.Shell.Program.Stream
import ExMode.Shell.Program.Toolbox
import ExMode.Shell.Run
import ExMode.Shell.Script
import ExMode.Shell.Sum
import ExMode.Span
import ExMode.Text
import ExMode.Text.Blank
import ExMode.Text.Casing
import ExMode.Text.Cell
import ExMode.Text.CodeRange
import ExMode.Text.Letter
import ExMode.Text.Line
import ExMode.Text.Numeral
import ExMode.Text.Quoted
import ExMode.Text.Utf8
import ExMode.Workspace
import ExMode.Yaml
import ExMode.Yaml.Date
import ExMode.Yaml.Node
import ExMode.Yaml.Scalar
import ExMode.Yaml.Token
import ExMode.Proofs.HistorySaved
import ExMode.Proofs.HistoryBuffered
import ExMode.Proofs.HistoryRefusal
import ExMode.Proofs.Pausing
import ExMode.Proofs.Submission
import ExMode.Proofs.Delegate
import ExMode.Proofs.Cursor
import ExMode.Proofs.Completion
import ExMode.Proofs.LineDisk
import ExMode.Proofs.HistoryGiven
import ExMode.Proofs.ProgramRun
import ExMode.Proofs.Register
import ExMode.Proofs.ReadWord
import ExMode.Proofs.HistoryRecovery
import ExMode.Proofs.YamlScanner
import ExMode.Proofs.YamlNode
import ExMode.Proofs.YamlReader
import ExMode.Proofs.SettingsFile
import ExMode.Proofs.RegisterTable
import ExMode.Proofs.HistoryLoading
import ExMode.Proofs.Box
import ExMode.Proofs.Resolution
import ExMode.Proofs.LineCount
import ExMode.Proofs.LineFront
import ExMode.Proofs.AddressGrammar
import ExMode.Proofs.RangeGrammar
import ExMode.Proofs.Removal
import ExMode.Proofs.Replacement
import ExMode.Proofs.Rewriting
import ExMode.Proofs.Literal
import ExMode.Proofs.Taking
import ExMode.Proofs.Expansion
import ExMode.Proofs.MagicTree
import ExMode.Proofs.SignReader
import ExMode.Proofs.TreeReader
import ExMode.Proofs.Counted
import ExMode.Proofs.Delimiter
import ExMode.Proofs.Lookup
import ExMode.Proofs.Cycle
import ExMode.Proofs.Directory
import ExMode.Proofs.Extension
import ExMode.Proofs.Fields
import ExMode.Proofs.Adoption
import ExMode.Proofs.Walk
import ExMode.Proofs.HistoryDocument
import ExMode.Proofs.TargetGrammar
