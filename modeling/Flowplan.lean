import Flowplan.Blueprint.Analysis
import Flowplan.Blueprint.Architecture
import Flowplan.Blueprint.Basic
import Flowplan.Blueprint.Config
import Flowplan.Blueprint.Cost
import Flowplan.Blueprint.Design
import Flowplan.Blueprint.Label
import Flowplan.Blueprint.Plan
import Flowplan.Blueprint.Report
import Flowplan.Blueprint.Return
import Flowplan.Blueprint.Risk
import Flowplan.Blueprint.Schedule
import Flowplan.Blueprint.Signal
import Flowplan.Blueprint.Skeleton
import Flowplan.Blueprint.Synthesis
import Flowplan.Calendar
import Flowplan.Cli.Arguments
import Flowplan.Cli.Command
import Flowplan.Cli.Console
import Flowplan.Cli.Execution
import Flowplan.Conversation.Basic
import Flowplan.Conversation.Completeness
import Flowplan.Conversation.Router
import Flowplan.Fault
import Flowplan.Figure
import Flowplan.FileTree
import Flowplan.Graph.Basic
import Flowplan.Graph.Canvas
import Flowplan.Graph.Document
import Flowplan.Graph.Drafts
import Flowplan.Graph.Lowering
import Flowplan.Graph.Options
import Flowplan.Graph.Search
import Flowplan.Graph.Slug
import Flowplan.Graph.Structure
import Flowplan.Ids
import Flowplan.Intent.Classification
import Flowplan.Intent.Rule
import Flowplan.Json.Basic
import Flowplan.Json.Display
import Flowplan.Json.Fault
import Flowplan.Json.Finite
import Flowplan.Json.Limits
import Flowplan.Json.Magnitude
import Flowplan.Json.Reader
import Flowplan.Json.Writer
import Flowplan.Main
import Flowplan.Messages
import Flowplan.Number.Binary64
import Flowplan.Number.Fixed
import Flowplan.Number.Rounding
import Flowplan.Number.Shortest
import Flowplan.Number.Total
import Flowplan.Numeral
import Flowplan.Path
import Flowplan.Pipeline
import Flowplan.Proofs.Entries
import Flowplan.Proofs.Graph.Acyclic
import Flowplan.Proofs.Graph.Reachability
import Flowplan.Record.Checked
import Flowplan.Record.Field
import Flowplan.Record.Label
import Flowplan.Record.Moment
import Flowplan.Record.Scalar
import Flowplan.Requirement.Basic
import Flowplan.Requirement.Extraction
import Flowplan.Requirement.Feed
import Flowplan.Settings
import Flowplan.Template.Basic
import Flowplan.Template.Catalog
import Flowplan.Template.Directory
import Flowplan.Template.Label
import Flowplan.Template.Search
import Flowplan.Template.Store
import Flowplan.Text.Blank
import Flowplan.Text.Capital
import Flowplan.Text.CapitalTable
import Flowplan.Text.CaseMap
import Flowplan.Text.Digit
import Flowplan.Text.Fold
import Flowplan.Text.FoldTable
import Flowplan.Text.Line
import Flowplan.Text.Occurrence
import Flowplan.Text.PrintableTable
import Flowplan.Text.Quoted
import Flowplan.Text.Raw
import Flowplan.Text.Utf8
import Flowplan.Text.WordTable
import Flowplan.Work
import Flowplan.Proofs.Graph.WellFormed
import Flowplan.Proofs.Graph.Chain
import Flowplan.Proofs.Graph.Naming
import Flowplan.Proofs.Graph.Compilation
import Flowplan.Proofs.Json.Integers
import Flowplan.Proofs.Json.Strings
import Flowplan.Proofs.Number.Doubles
import Flowplan.Proofs.Json.Decimals
import Flowplan.Proofs.Json.Values
import Flowplan.Proofs.Record.Reading
import Flowplan.Proofs.Graph.Reading
import Flowplan.Proofs.Graph.RoundTrip
import Flowplan.Proofs.Json.Parsing
import Flowplan.Proofs.Json.Lengths
import Flowplan.Proofs.Record.Scalars
import Flowplan.Proofs.Graph.Acceptance
import Flowplan.Proofs.Template.Index
import Flowplan.Proofs.Template.Lookup
import Flowplan.Proofs.Conversation.Runs
import Flowplan.Proofs.Number.Bounds
import Flowplan.Proofs.Blueprint.Generation
import Flowplan.Proofs.Conversation.Messages
import Flowplan.Proofs.Graph.Selection
import Flowplan.Proofs.Conversation.Pipeline
import Flowplan.Proofs.Template.Loading
import Flowplan.Proofs.Conversation.Completion
import Flowplan.Proofs.Graph.Options
import Flowplan.Proofs.Blueprint.Agreement
import Flowplan.Proofs.Graph.ErrorPath
import Flowplan.Proofs.Graph.Layout
import Flowplan.Proofs.Template.Faults
import Flowplan.Proofs.Graph.MainPath
import Flowplan.Proofs.Number.Sums
import Flowplan.Proofs.Ranking
import Flowplan.Proofs.Text.Folding
import Flowplan.Proofs.Text.Splitting
import Flowplan.Proofs.Template.Search
import Flowplan.Proofs.Template.Recommendation
import Flowplan.Proofs.Template.Tags
import Flowplan.Proofs.Text.Joining
import Flowplan.Proofs.Blueprint.Signals
import Flowplan.Proofs.Blueprint.Growth
import Flowplan.Proofs.Template.Merging
import Flowplan.Proofs.Template.Queries
import Flowplan.Proofs.Requirement.Acceptance
import Flowplan.Proofs.Text.Spelling
import Flowplan.Proofs.Requirement.Phrases
import Flowplan.Proofs.Requirement.Rereading
import Flowplan.Proofs.Work
import Flowplan.Proofs.Conversation.Atomicity
import Flowplan.Proofs.Graph.Entrances
import Flowplan.Proofs.Conversation.Questions
import Flowplan.Proofs.Conversation.Suggestions
import Flowplan.Proofs.Number.Nearest
import Flowplan.Proofs.Blueprint.Risks
import Flowplan.Proofs.Blueprint.Durations
import Flowplan.Proofs.Blueprint.Projection
import Flowplan.Proofs.Number.Halves
import Flowplan.Proofs.Blueprint.Percentage
import Flowplan.Proofs.Graph.CycleSearch
import Flowplan.Proofs.Text.Trimming
import Flowplan.Proofs.Graph.Slugs
import Flowplan.Proofs.Artifacts
import Flowplan.Proofs.Text.Lines
import Flowplan.Proofs.Messages
import Flowplan.Proofs.Record.Writing
import Flowplan.Proofs.Blueprint.Rereading
import Flowplan.Proofs.Number.Overflow
import Flowplan.Proofs.Blueprint.Range
import Flowplan.Proofs.Blueprint.Storage
import Flowplan.Proofs.Blueprint.Validity
import Flowplan.Proofs.Graph.Worklist
import Flowplan.Proofs.Graph.NameSearch
import Flowplan.Proofs.Graph.Operations
