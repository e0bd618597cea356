import SchemaEvolution.Adapter
import SchemaEvolution.Column
import SchemaEvolution.CommandLine.Arguments
import SchemaEvolution.CommandLine.Command
import SchemaEvolution.Decimal.Binary
import SchemaEvolution.Decimal.Integer
import SchemaEvolution.Decimal.Layout
import SchemaEvolution.Decimal.Shortest
import SchemaEvolution.Delta.Basic
import SchemaEvolution.Delta.Entry
import SchemaEvolution.Delta.Reader
import SchemaEvolution.Delta.Writer
import SchemaEvolution.Element
import SchemaEvolution.Failure
import SchemaEvolution.Json.Field
import SchemaEvolution.Json.Number
import SchemaEvolution.Json.Printer
import SchemaEvolution.Json.Reader
import SchemaEvolution.Json.Token
import SchemaEvolution.Json.Value
import SchemaEvolution.Keyed
import SchemaEvolution.Limits
import SchemaEvolution.Main
import SchemaEvolution.Migration
import SchemaEvolution.Operation.Basic
import SchemaEvolution.Operation.Document
import SchemaEvolution.Operation.ScriptText
import SchemaEvolution.Options
import SchemaEvolution.Proofs.Keyed
import SchemaEvolution.Proofs.Rendering.Alike
import SchemaEvolution.Proofs.Rendering.Modes
import SchemaEvolution.Proofs.Schema.Creation
import SchemaEvolution.Proofs.Schema.Replay
import SchemaEvolution.Rendering
import SchemaEvolution.Run.CauseChain
import SchemaEvolution.Run.Dispatch
import SchemaEvolution.Run.Excerpt
import SchemaEvolution.Run.Execution
import SchemaEvolution.Run.Guard
import SchemaEvolution.Run.Host
import SchemaEvolution.Run.Trace
import SchemaEvolution.Schema.Basic
import SchemaEvolution.Schema.Replay
import SchemaEvolution.Script
import SchemaEvolution.Sql.Alteration
import SchemaEvolution.Sql.Column
import SchemaEvolution.Sql.Quote
import SchemaEvolution.Sql.Recognise
import SchemaEvolution.Sql.Statement
import SchemaEvolution.Sql.Table
import SchemaEvolution.Text.Blank
import SchemaEvolution.Text.Hidden
import SchemaEvolution.Text.Quoted
import SchemaEvolution.Text.Ranges
import SchemaEvolution.Text.Word
import SchemaEvolution.Proofs.Schema.Stages
import SchemaEvolution.Proofs.Schema.Tables
import SchemaEvolution.Proofs.Rendering.Plan
import SchemaEvolution.Proofs.Rendering.Fitting
import SchemaEvolution.Proofs.Rendering.Steps
import SchemaEvolution.Proofs.Rendering.Settling
import SchemaEvolution.Proofs.Rendering.Outcome
import SchemaEvolution.Proofs.Rendering.Renamed
import SchemaEvolution.Proofs.Run.Journal
import SchemaEvolution.Proofs.Run.Traffic
import SchemaEvolution.Proofs.Sql.Shape
import SchemaEvolution.Proofs.Run.DryRun
import SchemaEvolution.Proofs.Run.Inquiry
import SchemaEvolution.Proofs.Run.Moves
import SchemaEvolution.Proofs.Run.LiveRun
import SchemaEvolution.Proofs.Run.FailStop
import SchemaEvolution.Proofs.Script.Layout
import SchemaEvolution.Proofs.Sql.Members
import SchemaEvolution.Proofs.Run.Marking
import SchemaEvolution.Proofs.Run.Sendings
import SchemaEvolution.Proofs.Run.Attribution
import SchemaEvolution.Proofs.Rendering.Visible
import SchemaEvolution.Proofs.Rendering.Resolution
import SchemaEvolution.Proofs.Rendering.Segments
import SchemaEvolution.Proofs.Rendering.Order
import SchemaEvolution.Proofs.Schema.Naming
import SchemaEvolution.Proofs.Schema.References
import SchemaEvolution.Proofs.Schema.Growth
import SchemaEvolution.Proofs.Schema.Clashes
import SchemaEvolution.Proofs.Json.Mirror
import SchemaEvolution.Proofs.Delta.Entries
import SchemaEvolution.Proofs.Delta.Documents
import SchemaEvolution.Proofs.Json.Lexemes
import SchemaEvolution.Proofs.Json.Parse
import SchemaEvolution.Proofs.Delta.RoundTrip
import SchemaEvolution.Proofs.Sql.Quoting
import SchemaEvolution.Proofs.Sql.Runs
import SchemaEvolution.Proofs.Run.Coherence
import SchemaEvolution.Proofs.Schema.Footprints
import SchemaEvolution.Proofs.Rendering.Reordering
import SchemaEvolution.Proofs.Schema.Conflicts
import SchemaEvolution.Proofs.Rendering.Defects
import SchemaEvolution.Proofs.Run.Screening
import SchemaEvolution.Proofs.Script.Spacing
import SchemaEvolution.Proofs.Rendering.Parts
import SchemaEvolution.Proofs.Rendering.Undoing
import SchemaEvolution.Proofs.Sql.Recognition
import SchemaEvolution.Proofs.Run.Targets
import SchemaEvolution.Proofs.Rendering.Filling
import SchemaEvolution.Proofs.Sql.PrimaryKeys
import SchemaEvolution.Proofs.Sql.IndexDeclarations
import SchemaEvolution.Proofs.Text.UniqueReading
import SchemaEvolution.Proofs.Script.Options
import SchemaEvolution.Proofs.Script.Arguments
import SchemaEvolution.Proofs.Script.Calls
import SchemaEvolution.Proofs.Text.LineBreaks
import SchemaEvolution.Proofs.Script.BareWords
import SchemaEvolution.Proofs.Rendering.Portable
import SchemaEvolution.Proofs.Run.Window
import SchemaEvolution.Proofs.Rendering.PhysicalLines
import SchemaEvolution.Proofs.Rendering.Columns
