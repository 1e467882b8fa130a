import CallChart.Analysis
import CallChart.Cache
import CallChart.Cache.Flight
import CallChart.Cluster
import CallChart.Describe
import CallChart.Difference
import CallChart.Digest.Sha256
import CallChart.Digest.Checksums
import CallChart.Dot.Document
import CallChart.Engine
import CallChart.Executable
import CallChart.Export
import CallChart.Failure
import CallChart.Files
import CallChart.Fingerprint
import CallChart.Graph
import CallChart.Json.Reader
import CallChart.Json.Shape
import CallChart.Json.Value
import CallChart.Launch.Arguments
import CallChart.Launch.Settings
import CallChart.Launch.Environment
import CallChart.Launch.Run
import CallChart.Number.Binary64
import CallChart.Number.Machine
import CallChart.Number.Reading
import CallChart.Number.Shortest
import CallChart.Options
import CallChart.Options.Exchange
import CallChart.Options.Store
import CallChart.Packed.Block
import CallChart.Packed.Code
import CallChart.Packed.Piece
import CallChart.Packed.Reader
import CallChart.Rendering
import CallChart.Sample
import CallChart.Selection
import CallChart.Service
import CallChart.Service.MediaType
import CallChart.Service.Message
import CallChart.Service.Status
import CallChart.Shell.Arithmetic
import CallChart.Shell.Child
import CallChart.Shell.Builtin.Basic
import CallChart.Shell.Builtin.Meaning
import CallChart.Shell.Builtin.Place
import CallChart.Shell.Builtin.Signals
import CallChart.Shell.Builtin.Test
import CallChart.Shell.Builtin.Variables
import CallChart.Shell.Call
import CallChart.Shell.Condition
import CallChart.Shell.Disk
import CallChart.Shell.Expansion
import CallChart.Shell.Format
import CallChart.Shell.Grammar
import CallChart.Shell.Pattern
import CallChart.Shell.Program
import CallChart.Shell.Record.Grammar
import CallChart.Shell.Record.Memory
import CallChart.Shell.Record.Reading
import CallChart.Shell.Record.Run
import CallChart.Shell.Record.Syntax
import CallChart.Shell.Record.Table
import CallChart.Shell.Record.Term
import CallChart.Shell.Record.Token
import CallChart.Shell.Record.Value
import CallChart.Shell.Regex
import CallChart.Shell.Run
import CallChart.Shell.Engine
import CallChart.Shell.Source
import CallChart.Shell.State
import CallChart.Shell.Syntax
import CallChart.Shell.Tool.Amount
import CallChart.Shell.Tool.Answers
import CallChart.Shell.Tool.Basic
import CallChart.Shell.Tool.Batches
import CallChart.Shell.Tool.Calendar
import CallChart.Shell.Tool.ChangeReport
import CallChart.Shell.Tool.Checksum
import CallChart.Shell.Tool.Coding
import CallChart.Shell.Tool.Columns
import CallChart.Shell.Tool.Comparing
import CallChart.Shell.Tool.Copy
import CallChart.Shell.Tool.Count
import CallChart.Shell.Tool.Dump
import CallChart.Shell.Tool.Edit
import CallChart.Shell.Tool.EditScript
import CallChart.Shell.Tool.Environment
import CallChart.Shell.Tool.Expression
import CallChart.Shell.Tool.Finding
import CallChart.Shell.Tool.Listing
import CallChart.Shell.Tool.Making
import CallChart.Shell.Tool.Naming
import CallChart.Shell.Tool.Numbering
import CallChart.Shell.Tool.Packing
import CallChart.Shell.Tool.Paging
import CallChart.Shell.Tool.Paragraph
import CallChart.Shell.Tool.Pieces
import CallChart.Shell.Tool.Query
import CallChart.Shell.Tool.QueryWords
import CallChart.Shell.Tool.Records
import CallChart.Shell.Tool.Relation
import CallChart.Shell.Tool.Repeats
import CallChart.Shell.Tool.Report
import CallChart.Shell.Tool.Rescaling
import CallChart.Shell.Tool.Search
import CallChart.Shell.Tool.Sheet
import CallChart.Shell.Tool.Sorting
import CallChart.Shell.Tool.Transfer
import CallChart.Shell.Tool.Translation
import CallChart.Shell.Tool.Waiting
import CallChart.Shell.Word
import CallChart.System
import CallChart.Text.Letters
import CallChart.Text.Split
import CallChart.Text.Percent
import CallChart.Text.Quoted
import CallChart.Text.Utf8
import CallChart.Timestamp
import CallChart.Toml.Literal
import CallChart.Toml.Reader
import CallChart.Main
import CallChart.Proofs.Number.Digits
import CallChart.Proofs.Text.Split
import CallChart.Proofs.Text.Utf8
import CallChart.Proofs.Text.Percent
import CallChart.Proofs.Timestamp
import CallChart.Proofs.Json.RoundTrip
import CallChart.Proofs.Files.Place
import CallChart.Proofs.Files.Content
import CallChart.Proofs.Flight.Traffic
import CallChart.Proofs.Flight.Order
import CallChart.Proofs.Flight.SingleFlight
import CallChart.Proofs.Cache.Entry
import CallChart.Proofs.Cache.Store
import CallChart.Proofs.Flight.OnceForAll
import CallChart.Proofs.Number.Nearest
import CallChart.Proofs.Number.Shortest
import CallChart.Proofs.Number.Text
import CallChart.Proofs.Json.Separate
import CallChart.Proofs.Json.Clean
import CallChart.Proofs.Insertion
import CallChart.Proofs.Options.Normalized
import CallChart.Proofs.Options.Text
import CallChart.Proofs.Analysis
import CallChart.Proofs.Export
import CallChart.Proofs.Rendering.Outputs
import CallChart.Proofs.Rendering.Request
import CallChart.Proofs.Rendering.Coherence
import CallChart.Proofs.Cache.Overlap
import CallChart.Proofs.Flight.Refresh
import CallChart.Proofs.Graph.Built
import CallChart.Proofs.Graph.Registry
import CallChart.Proofs.Graph.ExportOrder
import CallChart.Proofs.Graph.Gathering
import CallChart.Proofs.Service.Generations
import CallChart.Proofs.Service.Snapshots
import CallChart.Proofs.Dot.Literal
import CallChart.Proofs.Dot.Document
import CallChart.Proofs.Dot.Parts
import CallChart.Proofs.Drawing.Lines
import CallChart.Proofs.Drawing.Clusters
import CallChart.Proofs.Drawing.Nodes
import CallChart.Proofs.Drawing.Complete
import CallChart.Proofs.Drawing.Identity
import CallChart.Proofs.Drawing.Links
import CallChart.Proofs.Selection
import CallChart.Proofs.Drawing.Partition
import CallChart.Proofs.Json.Broken
import CallChart.Proofs.Files.Ways
import CallChart.Proofs.Cache.Interrupted
import CallChart.Proofs.Cache.Catalog
import CallChart.Proofs.Json.Real
import CallChart.Proofs.Options.Exchange
import CallChart.Proofs.Options.Fields
import CallChart.Proofs.Options.Overrides
import CallChart.Proofs.Service.Sequence
import CallChart.Proofs.Options.Store
import CallChart.Proofs.Dot.Reading
import CallChart.Proofs.Drawing.Regrouped
import CallChart.Proofs.Drawing.NodeLinks
import CallChart.Proofs.Rendering.Publishing
import CallChart.Proofs.Rendering.Published
import CallChart.Proofs.Json.Record
import CallChart.Proofs.Json.Sorted
import CallChart.Proofs.Options.Members
import CallChart.Proofs.Options.Parsing
import CallChart.Proofs.Drawing.Canonical
import CallChart.Proofs.Drawing.Focus
import CallChart.Proofs.Drawing.Confined
import CallChart.Proofs.Rendering.Delivery
import CallChart.Proofs.Launch.Settings
