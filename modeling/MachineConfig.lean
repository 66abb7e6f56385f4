import MachineConfig.Arrays.Record
import MachineConfig.Arrays.Registry
import MachineConfig.Calendar
import MachineConfig.Command.Arguments
import MachineConfig.Command.Inspect
import MachineConfig.Command.Render
import MachineConfig.Command.Request
import MachineConfig.Command.Run
import MachineConfig.Command.Session
import MachineConfig.Command.Usage
import MachineConfig.Console
import MachineConfig.Decimal.Notation
import MachineConfig.Decimal.Shortest
import MachineConfig.Event
import MachineConfig.Failure
import MachineConfig.Generated.Batch
import MachineConfig.Generated.Drift
import MachineConfig.Generated.File
import MachineConfig.Generated.Listing
import MachineConfig.Host
import MachineConfig.Layers.Auto
import MachineConfig.Layers.Basic
import MachineConfig.Layers.Computed
import MachineConfig.Layers.Environment
import MachineConfig.Layers.Sources
import MachineConfig.Layout
import MachineConfig.Main
import MachineConfig.Outcome
import MachineConfig.Path
import MachineConfig.Proofs.Arrays.Fields
import MachineConfig.Proofs.Arrays.Notations
import MachineConfig.Proofs.Command.Attempts
import MachineConfig.Proofs.Command.ExitCode
import MachineConfig.Proofs.Command.Footprint
import MachineConfig.Proofs.Command.FootprintLemmas
import MachineConfig.Proofs.Command.Printing
import MachineConfig.Proofs.Command.PrintingLemmas
import MachineConfig.Proofs.Command.Refusal
import MachineConfig.Proofs.Generated.Agreement
import MachineConfig.Proofs.Generated.AttemptLemmas
import MachineConfig.Proofs.Generated.BatchLemmas
import MachineConfig.Proofs.Generated.DriftIsolation
import MachineConfig.Proofs.Generated.DryRun
import MachineConfig.Proofs.Generated.Fates
import MachineConfig.Proofs.Generated.FootprintLemmas
import MachineConfig.Proofs.Generated.Incremental
import MachineConfig.Proofs.Generated.Isolation
import MachineConfig.Proofs.Generated.Order
import MachineConfig.Proofs.Generated.Outputs
import MachineConfig.Proofs.Generated.PlaceLemmas
import MachineConfig.Proofs.Generated.Preparation
import MachineConfig.Proofs.Generated.RemovalLemmas
import MachineConfig.Proofs.Generated.RenderingLemmas
import MachineConfig.Proofs.Generated.ReportLemmas
import MachineConfig.Proofs.Generated.Verbatim
import MachineConfig.Proofs.Generated.Views
import MachineConfig.Proofs.Generated.Visibility
import MachineConfig.Proofs.Layers.ComputedDefaults
import MachineConfig.Proofs.Layers.LayerLemmas
import MachineConfig.Proofs.Layers.Provenance
import MachineConfig.Proofs.Layers.Resolution
import MachineConfig.Proofs.OverlayLemmas
import MachineConfig.Proofs.Setup.Completion
import MachineConfig.Proofs.Setup.Coverage
import MachineConfig.Proofs.Setup.EntryLemmas
import MachineConfig.Proofs.Setup.FileLemmas
import MachineConfig.Proofs.Setup.Interruption
import MachineConfig.Proofs.Store.Atomicity
import MachineConfig.Proofs.Store.FootprintLemmas
import MachineConfig.Proofs.Store.PathLemmas
import MachineConfig.Proofs.Store.ReadLemmas
import MachineConfig.Proofs.Store.RemovalLemmas
import MachineConfig.Proofs.Store.TreeLemmas
import MachineConfig.Proofs.Store.WriteLemmas
import MachineConfig.Proofs.TableLemmas
import MachineConfig.Proofs.Template.Balance
import MachineConfig.Proofs.Template.BalanceLemmas
import MachineConfig.Proofs.Template.Ceiling
import MachineConfig.Proofs.Template.Composition
import MachineConfig.Proofs.Template.Concatenation
import MachineConfig.Proofs.Template.ConditionLemmas
import MachineConfig.Proofs.Template.Conditions
import MachineConfig.Proofs.Template.Exchange
import MachineConfig.Proofs.Template.Form
import MachineConfig.Proofs.Template.FormLemmas
import MachineConfig.Proofs.Template.FormRendering
import MachineConfig.Proofs.Template.Frames
import MachineConfig.Proofs.Template.Limits
import MachineConfig.Proofs.Template.Meaning
import MachineConfig.Proofs.Template.Occurrences
import MachineConfig.Proofs.Template.OpenBraces
import MachineConfig.Proofs.Template.Partition
import MachineConfig.Proofs.Template.PieceLemmas
import MachineConfig.Proofs.Template.Reading
import MachineConfig.Proofs.Template.Recasing
import MachineConfig.Proofs.Template.RecasingLemmas
import MachineConfig.Proofs.Template.Relevance
import MachineConfig.Proofs.Template.Replacement
import MachineConfig.Proofs.Template.RoundTrip
import MachineConfig.Proofs.Template.Settling
import MachineConfig.Proofs.Template.Shape
import MachineConfig.Proofs.Template.Spelling
import MachineConfig.Proofs.Template.TokenLemmas
import MachineConfig.Proofs.Template.TreeLemmas
import MachineConfig.Proofs.Template.Unclosed
import MachineConfig.Proofs.Template.Unnoticed
import MachineConfig.Proofs.Template.Unresolved
import MachineConfig.Proofs.Template.Untagged
import MachineConfig.Proofs.Template.Walk
import MachineConfig.Proofs.Text.BlankLemmas
import MachineConfig.Proofs.Text.CasingLemmas
import MachineConfig.Proofs.Text.CodePointLemmas
import MachineConfig.Proofs.Text.DecodingLemmas
import MachineConfig.Proofs.Text.EditScriptLemmas
import MachineConfig.Proofs.Text.EncodingLemmas
import MachineConfig.Proofs.Text.RecasingLemmas
import MachineConfig.Proofs.Text.SortedLemmas
import MachineConfig.Proofs.Text.SplitLemmas
import MachineConfig.Proofs.Text.TrimmingLemmas
import MachineConfig.Proofs.Text.UnifiedDiffLemmas
import MachineConfig.Proofs.Variables.FileLemmas
import MachineConfig.Proofs.Variables.Issues
import MachineConfig.Proofs.Variables.Merging
import MachineConfig.Proofs.Variables.Refusal
import MachineConfig.Proofs.Variables.Rereading
import MachineConfig.Proofs.Variables.SectionLemmas
import MachineConfig.Root
import MachineConfig.Setup.IgnoreFile
import MachineConfig.Setup.LocalFile
import MachineConfig.Store.Basic
import MachineConfig.Store.Write
import MachineConfig.Table
import MachineConfig.Template.Balance
import MachineConfig.Template.Condition
import MachineConfig.Template.Evaluate
import MachineConfig.Template.Node
import MachineConfig.Template.Render
import MachineConfig.Template.Token
import MachineConfig.Template.Tree
import MachineConfig.Terminal
import MachineConfig.Terminal.Cell
import MachineConfig.Terminal.Cluster
import MachineConfig.Terminal.Emoji
import MachineConfig.Terminal.Emoji.Codes
import MachineConfig.Terminal.Fault
import MachineConfig.Terminal.Markup
import MachineConfig.Terminal.Table
import MachineConfig.Terminal.Width
import MachineConfig.Terminal.Width.Ranges
import MachineConfig.Text.Blank
import MachineConfig.Text.Casing
import MachineConfig.Text.Casing.Ranges
import MachineConfig.Text.CodePoint
import MachineConfig.Text.EditScript
import MachineConfig.Text.Lines
import MachineConfig.Text.Printable
import MachineConfig.Text.Quoted
import MachineConfig.Text.Search
import MachineConfig.Text.Stream
import MachineConfig.Text.UnifiedDiff
import MachineConfig.Text.Utf8
import MachineConfig.Value
import MachineConfig.Variables.File
import MachineConfig.Variables.Loading
import MachineConfig.Variables.Overlong
import MachineConfig.Yaml.Cursor
import MachineConfig.Yaml.Document
import MachineConfig.Yaml.Loader
import MachineConfig.Yaml.Node
import MachineConfig.Yaml.Resolve
import MachineConfig.Yaml.Scalar.Block
import MachineConfig.Yaml.Scalar.Plain
import MachineConfig.Yaml.Scalar.Quoted
import MachineConfig.Yaml.Source
import MachineConfig.Yaml.Token
